import OrderDesk.Proofs.Memory.Faults
import OrderDesk.Proofs.Service

/-!
# What a disturbance does to the orders of others

A status that is set from outside hits the order that has just been loaded, and no other
one.  Everything else that a call changes is what the call itself changes, and a write
changes only the orders under its identifier.

* `Leaves`: the orders of other users stand as they stood.
* `Spares`: they do, but for a status that was set from outside.
* `answer_load_cases`: what a load answers and leaves under a disturbance.
* `run_place`, `run_list`: what loads nothing is not hit by a status from outside.
-/

namespace OrderDesk
namespace Memory

/-- The orders of other users stand as they stood. -/
def Leaves (userId : Identifier) (m m' : Memory) : Prop :=
  ∀ (i : Nat) (stored : Order),
    m.orders[i]? = some stored → stored.userId ≠ userId → m'.orders[i]? = some stored

/-- The orders of other users stand as they stood, but for a status that was set from
outside. -/
def Spares
    (userId : Identifier)
    (outside : Option OrderStatus)
    (now : Instant)
    (m m' : Memory) :
    Prop :=
  ∀ (i : Nat) (stored : Order),
    m.orders[i]? = some stored → stored.userId ≠ userId →
      m'.orders[i]? = some stored ∨
      ∃ status, outside = some status ∧ m'.orders[i]? = some (written stored status now)

/-- Whatever is stored under an identifier belongs to a user. -/
def Owns (userId : Identifier) (m : Memory) (id : Identifier) : Prop :=
  ∀ o ∈ m.orders, o.id = id → o.userId = userId

variable {userId id : Identifier} {m m' m'' : Memory}

theorem Leaves.refl
    (userId : Identifier)
    (m : Memory) :
    Leaves userId m m :=
  fun _ _ stands _ => stands

theorem Leaves.trans
    (first : Leaves userId m m')
    (second : Leaves userId m' m'') :
    Leaves userId m m'' := by
  intro i stored stands other
  exact second i stored (first i stored stands other) other

theorem Leaves.spares
    (leaves : Leaves userId m m')
    (outside : Option OrderStatus)
    (now : Instant) :
    Spares userId outside now m m' :=
  fun i stored stands other => Or.inl (leaves i stored stands other)

theorem leaves_append
    (userId : Identifier)
    (m : Memory)
    (order : Order) :
    Leaves userId m { m with orders := m.orders ++ [order] } := by
  intro i stored stands _
  obtain ⟨hi, _⟩ := List.getElem?_eq_some_iff.mp stands
  rw [List.getElem?_append_left hi]
  exact stands

theorem getElem?_modify
    (m : Memory)
    (id : Identifier)
    (f : Order → Order)
    (i : Nat) :
    (m.modify id f).orders[i]? = m.orders[i]?.map fun o => if o.id = id then f o else o := by
  rw [modify, List.getElem?_map]

theorem leaves_modify
    (owns : Owns userId m id)
    (f : Order → Order) :
    Leaves userId m (m.modify id f) := by
  intro i stored stands other
  have hne : stored.id ≠ id :=
    fun h => other (owns stored (List.mem_of_getElem? stands) h)
  rw [getElem?_modify, stands, Option.map_some, if_neg hne]

theorem owns_of_find?
    (distinct : m.Distinct)
    {stored : Order}
    (found : m.find? id = some stored)
    (own : stored.userId = userId) :
    Owns userId m id := by
  intro o ho hid
  have h := find?_of_mem distinct ho
  rw [hid, found] at h
  cases h
  exact own

theorem owns_written
    (owns : Owns userId m id)
    (target : Identifier)
    (status : OrderStatus)
    (now : Instant) :
    Owns userId (m.modify target fun o => written o status now) id := by
  have keeps : ∀ p : Order,
      (if p.id = target then written p status now else p).id = p.id ∧
        (if p.id = target then written p status now else p).userId = p.userId := by
    intro p
    split <;> exact ⟨rfl, rfl⟩
  intro o ho hid
  obtain ⟨p, hp, rfl⟩ := List.mem_map.mp ho
  rw [(keeps p).1] at hid
  rw [(keeps p).2]
  exact owns p hp hid

theorem leaves_save
    (now : Instant)
    (copy : Order)
    (owns : Owns userId m copy.id) :
    Leaves userId m (m.save now copy).2 := by
  cases hfound : m.find? copy.id with
  | none =>
      rw [save_of_absent now hfound]
      exact .refl userId m
  | some stored =>
      by_cases h : stored.version = copy.version
      · rw [save_of_current now hfound h]
        exact leaves_modify owns _
      · rw [save_of_stale now hfound h]
        exact .refl userId m

theorem leaves_answerUnder_save
    (fault : Option Fault)
    (o : Occasion)
    (copy : Order)
    (owns : Owns userId m copy.id) :
    Leaves userId m (m.answerUnder fault o (.save copy)).2 := by
  rcases answerUnder_cases fault o (.save copy) m with ⟨e, h⟩ | h
  · rw [h]
    exact .refl userId m
  · rw [h]
    exact leaves_save o.now copy owns

end Memory

namespace Disturbance

open Memory

variable (d : Disturbance) (o : Occasion) (m : Memory)

/-- Only a load is followed by a status from outside. -/
theorem answer_of_not_load
    {c : Call}
    (other : c.kind ≠ .load) :
    d.answer o c m = m.answerUnder d.fault o c := by
  have hfault : d.faultOf? c = faultOn? d.fault c := rfl
  cases hhit : faultOn? d.fault c with
  | some e =>
      rw [answer, hfault, hhit, answerUnder_of_fault hhit]
  | none =>
      rw [answer, hfault, hhit, answerUnder_of_no_fault hhit]
      cases c with
      | load id withLines =>
          exact absurd rfl other
      | product id =>
          rfl
      | create userId lines =>
          rfl
      | page userId query =>
          rfl
      | save order =>
          rfl

theorem run_place
    (policy : OrderPolicy)
    (userId : Identifier)
    (request : List LineRequest) :
    (Service.place policy userId request).run (d.answer o) m =
      (Service.place policy userId request).run (answerUnder d.fault o) m := by
  refine (Service.place_asks policy userId request).run_eq ?_ m
  rintro c s (hc | hc)
  · exact d.answer_of_not_load o s (by simp [hc])
  · exact d.answer_of_not_load o s (by simp [hc])

theorem run_list
    (userId : Identifier)
    (query : OrderQuery) :
    (Service.list userId query).run (d.answer o) m =
      (Service.list userId query).run (answerUnder d.fault o) m := by
  refine (Service.list_asks userId query).run_eq ?_ m
  intro c s hc
  exact d.answer_of_not_load o s (by simp [hc])

/-- The state in which a status from outside has hit an order. -/
def interfered (now : Instant) (id : Identifier) : Memory :=
  match d.interference with
  | none => m
  | some status => m.modify id fun s => written s status now

/-- A load fails and changes nothing, or it answers a stored order, which a status from
outside may hit then. -/
theorem answer_load_cases
    (id : Identifier)
    (withLines : Bool) :
    (∃ e, d.answer o (.load id withLines) m = (.error e, m)) ∨
    (∃ stored,
      m.find? id = some stored ∧
      d.answer o (.load id withLines) m =
        (.ok (if withLines then m.shown stored else stored.withoutLines),
          d.interfered m o.now id)) := by
  cases hhit : d.faultOf? (.load id withLines) with
  | some e =>
      left
      rw [answer, hhit]
      exact ⟨e, rfl⟩
  | none =>
      rw [answer, hhit]
      cases hfound : m.find? id with
      | none =>
          left
          refine ⟨.notFound .order id, ?_⟩
          simp only [Memory.answer, load, hfound, interfere]
      | some stored =>
          right
          refine ⟨stored, rfl, ?_⟩
          have hid : (if withLines then m.shown stored else stored.withoutLines).id = id := by
            rw [← id_of_find? hfound]
            cases withLines
            · rfl
            · rw [if_pos rfl, shown]
              split <;> rfl
          simp only [Memory.answer, load, hfound, interfere, interfered]
          cases hinter : d.interference with
          | none =>
              rfl
          | some status =>
              simp only [hid, setStatus?, hfound, Option.map_some, Option.getD_some]

variable {o m} {userId id : Identifier}

theorem spares_interfered
    (userId : Identifier)
    (now : Instant)
    (id : Identifier) :
    Spares userId d.interference now m (d.interfered m now id) := by
  intro i stored stands _
  rw [interfered]
  cases d.interference with
  | none =>
      exact Or.inl stands
  | some status =>
      simp only [getElem?_modify, stands, Option.map_some]
      split
      · exact Or.inr ⟨status, rfl, rfl⟩
      · exact Or.inl rfl

theorem leaves_interfered
    (owns : Owns userId m id)
    (now : Instant) :
    Leaves userId m (d.interfered m now id) := by
  rw [interfered]
  split
  · exact .refl userId m
  · exact leaves_modify owns _

theorem owns_interfered
    (owns : Owns userId m id)
    (now : Instant) :
    Owns userId (d.interfered m now id) id := by
  rw [interfered]
  split
  · exact owns
  · exact owns_written owns id _ now

end Disturbance
end OrderDesk
