import OrderDesk.Memory.Disturbance
import OrderDesk.Proofs.Memory.Deeds

/-!
# Calls that fail

A call of the service may fail without acting, because its kind is made to fail,
or because the store or the catalog refuses it.  In both cases nothing changes:
a call that is answered by an error leaves the whole state as it was.
-/

namespace OrderDesk
namespace Memory

/-- Answers a call, unless its kind is made to fail. -/
def answerUnder
    (fault : Option Fault)
    (o : Occasion)
    (c : Call)
    (m : Memory) :
    c.Answer × Memory :=
  ({ fault } : Disturbance).answer o c m

/-- The error that takes the place of a call. -/
def faultOn? (fault : Option Fault) (c : Call) : Option StoreError :=
  ({ fault } : Disturbance).faultOf? c

theorem answerUnder_of_fault
    {fault : Option Fault} {c : Call} {e : StoreError}
    (hits : faultOn? fault c = some e)
    (o : Occasion)
    (m : Memory) :
    m.answerUnder fault o c = (c.failed e, m) := by
  rw [faultOn?] at hits
  simp [answerUnder, Disturbance.answer, hits]

/-- Without interference the state after a call is that of its answer. -/
theorem interfere_alone
    (fault : Option Fault)
    (now : Instant)
    (c : Call)
    (r : c.Answer)
    (m : Memory) :
    ({ fault } : Disturbance).interfere now c r m = m := by
  cases c with
  | load id withLines =>
      cases r <;> rfl
  | product id =>
      rfl
  | create userId lines =>
      rfl
  | page userId query =>
      rfl
  | save order =>
      rfl

theorem answerUnder_of_no_fault
    {fault : Option Fault} {c : Call}
    (misses : faultOn? fault c = none)
    (o : Occasion)
    (m : Memory) :
    m.answerUnder fault o c = m.answer o c := by
  rw [faultOn?] at misses
  simp only [answerUnder, Disturbance.answer, misses, interfere_alone]

/-- A call fails without acting, or it is answered as ever. -/
theorem answerUnder_cases
    (fault : Option Fault)
    (o : Occasion)
    (c : Call)
    (m : Memory) :
    (∃ e, m.answerUnder fault o c = (c.failed e, m)) ∨
    m.answerUnder fault o c = m.answer o c := by
  cases hfault : faultOn? fault c with
  | some e =>
      exact Or.inl ⟨e, answerUnder_of_fault hfault o m⟩
  | none =>
      exact Or.inr (answerUnder_of_no_fault hfault o m)

@[simp] theorem answerUnder_none
    (o : Occasion)
    (c : Call)
    (m : Memory) :
    m.answerUnder none o c = m.answer o c :=
  answerUnder_of_no_fault rfl o m

/-- An order that is not created leaves the whole state as it was. -/
theorem answerUnder_create_of_error
    {fault : Option Fault} {o : Occasion} {m : Memory}
    {userId : Identifier} {lines : List PricedLine} {e : Interruption StoreError}
    (fails : (m.answerUnder fault o (.create userId lines)).1 = .error e) :
    m.answerUnder fault o (.create userId lines) = (.error e, m) := by
  rcases answerUnder_cases fault o (.create userId lines) m with ⟨injected, h⟩ | h
  · rw [h] at fails ⊢
    rw [← fails]
  · rw [h] at fails ⊢
    rcases create_cases m o userId lines with ⟨e', hcreate⟩ | ⟨totalPrice, _, hcreate⟩
    · rw [answer, hcreate] at fails ⊢
      rw [← fails]
    · rw [answer, hcreate] at fails
      cases fails

/-- An order that is created is stored behind all others. -/
theorem answerUnder_create_of_ok
    {fault : Option Fault} {o : Occasion} {m : Memory}
    {userId : Identifier} {lines : List PricedLine} {order : Order}
    (creates : (m.answerUnder fault o (.create userId lines)).1 = .ok order) :
    ∃ totalPrice,
      Order.totalOf lines = .ok totalPrice ∧
      order = newOrder o userId lines totalPrice ∧
      (m.answerUnder fault o (.create userId lines)).2 =
        { m with orders := m.orders ++ [order] } := by
  rcases answerUnder_cases fault o (.create userId lines) m with ⟨injected, h⟩ | h
  · rw [h] at creates
    cases creates
  · rw [h] at creates ⊢
    rcases create_cases m o userId lines with ⟨e, hcreate⟩ | ⟨totalPrice, htotal, hcreate⟩
    · rw [answer, hcreate] at creates
      cases creates
    · rw [answer, hcreate] at creates ⊢
      cases creates
      exact ⟨totalPrice, htotal, rfl, rfl⟩

/-- A product that is answered is that of the catalog. -/
theorem answerUnder_product_of_ok
    {fault : Option Fault} {o : Occasion} {m : Memory}
    {id : Identifier} {product : Product}
    (found : (m.answerUnder fault o (.product id)).1 = .ok product) :
    m.catalog.find? id = some product := by
  rcases answerUnder_cases fault o (.product id) m with ⟨injected, h⟩ | h
  · rw [h] at found
    cases found
  · rw [h, answer, Catalog.lookUp] at found
    split at found
    · rename_i product' hfind
      cases found
      exact hfind
    · cases found

/-- An order that is answered is a stored one, with or without its lines. -/
theorem answerUnder_load_of_ok
    {fault : Option Fault} {o : Occasion} {m : Memory}
    {id : Identifier} {withLines : Bool} {order : Order}
    (loads : (m.answerUnder fault o (.load id withLines)).1 = .ok order) :
    ∃ stored,
      m.find? id = some stored ∧
      order = if withLines then m.shown stored else stored.withoutLines := by
  rcases answerUnder_cases fault o (.load id withLines) m with ⟨injected, h⟩ | h
  · rw [h] at loads
    cases loads
  · rw [h, answer, load] at loads
    split at loads
    · cases loads
    · rename_i stored hfound
      cases loads
      exact ⟨stored, hfound, rfl⟩

/-- A status that is written is written by the store. -/
theorem answerUnder_save_of_ok
    {fault : Option Fault} {o : Occasion} {m : Memory} {copy : Order} {stamp : Stamp}
    (saves : (m.answerUnder fault o (.save copy)).1 = .ok stamp) :
    m.answerUnder fault o (.save copy) = m.save o.now copy := by
  rcases answerUnder_cases fault o (.save copy) m with ⟨injected, h⟩ | h
  · rw [h] at saves
    cases saves
  · exact h

/-- A status that is not written leaves the whole state as it was. -/
theorem answerUnder_save_of_error
    {fault : Option Fault} {o : Occasion} {m : Memory} {copy : Order} {e : StoreError}
    (fails : (m.answerUnder fault o (.save copy)).1 = .error e) :
    m.answerUnder fault o (.save copy) = (.error e, m) := by
  rcases answerUnder_cases fault o (.save copy) m with ⟨injected, h⟩ | h
  · rw [h] at fails ⊢
    rw [← fails]
  · rw [h] at fails ⊢
    cases hfound : m.find? copy.id with
    | none =>
        rw [answer, save_of_absent o.now hfound] at fails ⊢
        rw [← fails]
    | some stored =>
        by_cases hversion : stored.version = copy.version
        · rw [answer, save_of_current o.now hfound hversion] at fails
          cases fails
        · rw [answer, save_of_stale o.now hfound hversion] at fails ⊢
          rw [← fails]

/-- Reading changes nothing. -/
theorem answerUnder_of_reading
    {c : Call}
    (reads : c.kind = .product ∨ c.kind = .load ∨ c.kind = .page)
    (fault : Option Fault)
    (o : Occasion)
    (m : Memory) :
    (m.answerUnder fault o c).2 = m := by
  rcases answerUnder_cases fault o c m with ⟨e, h⟩ | h
  · rw [h]
  · rw [h]
    cases c with
    | product id =>
        rfl
    | load id withLines =>
        rfl
    | page userId query =>
        rfl
    | create userId lines =>
        simp [Call.kind] at reads
    | save copy =>
        simp [Call.kind] at reads

end Memory
end OrderDesk
