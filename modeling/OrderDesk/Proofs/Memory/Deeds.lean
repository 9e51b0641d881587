import OrderDesk.Memory.Store
import Mathlib.Data.List.Nodup
import Mathlib.Tactic.Common

/-!
# What an operation does to the stored orders

An operation on the store leaves the orders alone, appends a new one, or writes
a status into one of them.  This is its `Deed`, read off the answer that the
caller gets.

* `orders_answer`: the orders after a call are those before it, changed by the
  deed of the call and by nothing else.
* `deed_eq_creation`, `deed_eq_writing`: what is known when a call creates an
  order or writes a status.
* `find?_apply`: what a deed makes of the order with a given identifier.
-/

namespace OrderDesk

/-- An occasion whose identifiers and time are made of a number. -/
def Occasion.numbered (n : Nat) : Occasion where
  orderId := .ofNat n
  lineId i := .ofNat (1000 * n + i)
  draws _ := ⟨0, by decide⟩
  now := .ofSeconds n

/-- What an operation does to the stored orders. -/
inductive Deed where
  | nothing
  | creation (order : Order)
  | writing (id : Identifier) (status : OrderStatus) (now : Instant)
deriving DecidableEq

namespace Deed

/-- The stored orders after a deed. -/
def apply : Deed → List Order → List Order
  | nothing, orders => orders
  | creation order, orders => orders ++ [order]
  | writing id status now, orders =>
    orders.map fun o => if o.id = id then Memory.written o status now else o

/-- What a deed makes of the order that is found under an identifier. -/
def on? (id : Identifier) : Deed → Option Order → Option Order
  | nothing, found => found
  | creation order, found => found.or (if order.id = id then some order else none)
  | writing target status now, found =>
    if target = id then found.map fun o => Memory.written o status now else found

/-- The order that a deed creates. -/
def created? : Deed → Option Order
  | nothing => none
  | creation order => some order
  | writing _ _ _ => none

/-- The written status and time, if the deed writes into the order. -/
def writingOn? (id : Identifier) : Deed → Option (OrderStatus × Instant)
  | nothing => none
  | creation _ => none
  | writing target status now => if target = id then some (status, now) else none

theorem created?_eq_some_iff
    {deed : Deed} {order : Order} :
    deed.created? = some order ↔ deed = .creation order := by
  cases deed <;> simp [created?]

@[simp] theorem on?_nothing
    (id : Identifier)
    (found : Option Order) :
    nothing.on? id found = found := rfl

@[simp] theorem on?_creation_some
    (id : Identifier)
    (order stored : Order) :
    (creation order).on? id (some stored) = some stored := rfl

@[simp] theorem on?_creation_none
    (id : Identifier)
    (order : Order) :
    (creation order).on? id none = if order.id = id then some order else none := rfl

@[simp] theorem on?_writing_self
    (id : Identifier)
    (status : OrderStatus)
    (now : Instant)
    (found : Option Order) :
    (writing id status now).on? id found =
      found.map fun o => Memory.written o status now := by
  simp [on?]

theorem on?_writing_of_ne
    {id target : Identifier}
    (h : target ≠ id)
    (status : OrderStatus)
    (now : Instant)
    (found : Option Order) :
    (writing target status now).on? id found = found := by
  simp [on?, h]

/-- The order found under an identifier after a deed. -/
theorem find?_apply
    (deed : Deed)
    (orders : List Order)
    (id : Identifier) :
    (deed.apply orders).find? (·.id == id) =
      deed.on? id (orders.find? (·.id == id)) := by
  cases deed with
  | nothing =>
      rfl
  | creation order =>
      by_cases h : order.id = id
      · simp [apply, on?, h]
      · simp [apply, on?, h]
  | writing target status now =>
      -- A written order keeps its identifier, so the same one is found first.
      have keeps : ∀ o : Order,
          ((if o.id = target then Memory.written o status now else o).id == id) =
            (o.id == id) := by
        intro o
        by_cases ho : o.id = target
        · simp [ho, Memory.written]
        · simp [ho]
      rw [apply, on?, List.find?_map]
      simp only [Function.comp_def, keeps]
      cases hfound : orders.find? (·.id == id) with
      | none =>
          simp
      | some o =>
          have hid : o.id = id := by
            simpa using List.find?_some hfound
          by_cases h : target = id
          · simp [h, hid]
          · simp [h, hid, Ne.symm h]

end Deed

namespace Memory

/-- No two stored orders share an identifier. -/
def Distinct (m : Memory) : Prop :=
  (m.orders.map (·.id)).Nodup

/-- A write always changes an order, because it raises the version. -/
theorem written_ne
    (o : Order)
    (status : OrderStatus)
    (now : Instant) :
    written o status now ≠ o := by
  intro h
  have hversion := congrArg Order.version h
  simp only [written] at hversion
  omega

theorem map_id_modify_written
    (m : Memory)
    (id : Identifier)
    (status : OrderStatus)
    (now : Instant) :
    (m.modify id fun o => written o status now).orders.map (·.id) = m.orders.map (·.id) := by
  rw [modify, List.map_map]
  apply List.map_congr_left
  intro o _
  by_cases ho : o.id = id <;> simp [ho, written]

theorem id_of_find?
    {m : Memory} {id : Identifier} {o : Order}
    (found : m.find? id = some o) :
    o.id = id := by
  simpa using List.find?_some found

theorem mem_of_find?
    {m : Memory} {id : Identifier} {o : Order}
    (found : m.find? id = some o) :
    o ∈ m.orders :=
  List.mem_of_find?_eq_some found

/-- Where identifiers are distinct, every stored order is found under its own. -/
theorem find?_of_mem
    {m : Memory} {o : Order}
    (distinct : m.Distinct)
    (stored : o ∈ m.orders) :
    m.find? o.id = some o := by
  have hsome : (m.find? o.id).isSome := by
    rw [find?, List.find?_isSome]
    exact ⟨o, stored, by simp⟩
  obtain ⟨p, hp⟩ := Option.isSome_iff_exists.mp hsome
  rw [hp]
  exact congrArg some
    (List.inj_on_of_nodup_map distinct (mem_of_find? hp) stored (id_of_find? hp))

/-- What a call does to the stored orders, by its answer. -/
def deed (m : Memory) (o : Occasion) : Call → Deed
  | .create userId lines =>
    match (m.create o userId lines).1 with
    | .ok order => .creation order
    | .error _ => .nothing
  | .save copy =>
    match (m.save o.now copy).1 with
    | .ok _ => .writing copy.id copy.status o.now
    | .error _ => .nothing
  | _ => .nothing

/-- The order that a creation stores, if the total of its lines is known. -/
def newOrder
    (o : Occasion)
    (userId : Identifier)
    (lines : List PricedLine)
    (totalPrice : Decimal) :
    Order :=
  { id := o.orderId
    code := OrderCode.generate o.now o.draws
    userId
    lines := newLines o lines
    totalPrice
    status := .new
    version := 1
    createdAt := o.now
    updatedAt := o.now }

/-- A creation fails and changes nothing, or stores the new order at the end. -/
theorem create_cases
    (m : Memory)
    (o : Occasion)
    (userId : Identifier)
    (lines : List PricedLine) :
    (∃ e, m.create o userId lines = (.error e, m)) ∨
    (∃ totalPrice,
      Order.totalOf lines = .ok totalPrice ∧
      m.create o userId lines =
        (.ok (newOrder o userId lines totalPrice),
          { m with orders := m.orders ++ [newOrder o userId lines totalPrice] })) := by
  cases htotal : Order.totalOf lines with
  | error overflow =>
      exact Or.inl ⟨.overflow overflow, by simp [create, htotal]⟩
  | ok totalPrice =>
      cases hline : m.lineFailure? lines with
      | some e =>
          exact Or.inl ⟨.error e, by simp [create, htotal, hline]⟩
      | none =>
          exact Or.inr ⟨totalPrice, rfl, by simp [create, htotal, hline, newOrder]⟩

theorem save_of_absent
    {m : Memory} {copy : Order}
    (now : Instant)
    (absent : m.find? copy.id = none) :
    m.save now copy = (.error (.notFound .order copy.id), m) := by
  simp [save, absent]

theorem save_of_stale
    {m : Memory} {copy stored : Order}
    (now : Instant)
    (found : m.find? copy.id = some stored)
    (stale : stored.version ≠ copy.version) :
    m.save now copy = (.error (.versionConflict copy.id copy.version), m) := by
  simp [save, found, stale]

theorem save_of_current
    {m : Memory} {copy stored : Order}
    (now : Instant)
    (found : m.find? copy.id = some stored)
    (current : stored.version = copy.version) :
    m.save now copy =
      (.ok ⟨stored.version + 1, now⟩,
        m.modify copy.id fun o => written o copy.status now) := by
  simp [save, found, current]

/-- A write is answered by a stamp exactly if the copy has the stored version. -/
theorem save_eq_ok_iff
    {m : Memory} {now : Instant} {copy : Order} {stamp : Stamp} :
    (m.save now copy).1 = .ok stamp ↔
      ∃ stored, m.find? copy.id = some stored ∧
        stored.version = copy.version ∧
        stamp = ⟨stored.version + 1, now⟩ := by
  cases hfound : m.find? copy.id with
  | none =>
      simp [save_of_absent now hfound]
  | some stored =>
      by_cases h : stored.version = copy.version
      · simp [save_of_current now hfound h, h, eq_comm]
      · simp [save_of_stale now hfound h, h]

/-- The orders after a call are those before it, changed by its deed. -/
theorem orders_answer
    (m : Memory)
    (o : Occasion)
    (c : Call) :
    (m.answer o c).2.orders = (m.deed o c).apply m.orders := by
  cases c with
  | product id =>
      rfl
  | load id withLines =>
      rfl
  | page userId query =>
      rfl
  | create userId lines =>
      rcases create_cases m o userId lines with ⟨e, h⟩ | ⟨totalPrice, _, h⟩
      · simp [answer, deed, h, Deed.apply]
      · simp [answer, deed, h, Deed.apply]
  | save copy =>
      cases hfound : m.find? copy.id with
      | none =>
          simp [answer, deed, save_of_absent o.now hfound, Deed.apply]
      | some stored =>
          by_cases h : stored.version = copy.version
          · simp [answer, deed, save_of_current o.now hfound h, Deed.apply, modify]
          · simp [answer, deed, save_of_stale o.now hfound h, Deed.apply]

/-- A call that creates an order is a creation, and the order is a new one. -/
theorem deed_eq_creation
    {m : Memory} {o : Occasion} {c : Call} {order : Order}
    (h : m.deed o c = .creation order) :
    ∃ userId lines totalPrice,
      c = .create userId lines ∧
      Order.totalOf lines = .ok totalPrice ∧
      order = newOrder o userId lines totalPrice := by
  cases c with
  | product id =>
      cases h
  | load id withLines =>
      cases h
  | page userId query =>
      cases h
  | create userId lines =>
      rcases create_cases m o userId lines with ⟨e, hc⟩ | ⟨totalPrice, htotal, hc⟩
      · simp [deed, hc] at h
      · refine ⟨userId, lines, totalPrice, rfl, htotal, ?_⟩
        simpa [deed, hc] using h.symm
  | save copy =>
      simp only [deed] at h
      split at h
      · cases h
      · cases h

/-- A call that writes a status carries a copy with the stored version. -/
theorem deed_eq_writing
    {m : Memory} {o : Occasion} {c : Call}
    {id : Identifier} {status : OrderStatus} {now : Instant}
    (h : m.deed o c = .writing id status now) :
    ∃ copy stored,
      c = .save copy ∧ copy.id = id ∧ copy.status = status ∧ o.now = now ∧
      m.find? id = some stored ∧ stored.version = copy.version := by
  cases c with
  | product id =>
      cases h
  | load id withLines =>
      cases h
  | page userId query =>
      cases h
  | create userId lines =>
      simp only [deed] at h
      split at h
      · cases h
      · cases h
  | save copy =>
      simp only [deed] at h
      split at h
      · rename_i stamp hok
        obtain ⟨stored, hfound, hversion, _⟩ := save_eq_ok_iff.mp hok
        cases h
        exact ⟨copy, stored, rfl, rfl, rfl, rfl, hfound, hversion⟩
      · cases h

end Memory
end OrderDesk
