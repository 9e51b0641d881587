import Mathlib.Logic.Relation
import OrderDesk.Proofs.Desk.Steps

/-!
# Orders only get later

Every change of a stored order is a write, and every write raises the version by
one.  So what is found under an identifier at one time is `Later` than what was
found there at any time before, and an equal version means an unchanged order
(`Later.eq_of_version_eq`).  This is what a writer relies on who holds only a
copy.
-/

namespace OrderDesk

/-- One order is another after any number of writes. -/
def Order.Later : Order → Order → Prop :=
  Relation.ReflTransGen fun o p => ∃ status now, p = Memory.written o status now

namespace Order.Later

theorem refl (o : Order) : Order.Later o o :=
  Relation.ReflTransGen.refl

theorem trans
    {o p q : Order}
    (first : Order.Later o p)
    (second : Order.Later p q) :
    Order.Later o q :=
  Relation.ReflTransGen.trans first second

theorem written
    (o : Order)
    (status : OrderStatus)
    (now : Instant) :
    Order.Later o (Memory.written o status now) :=
  Relation.ReflTransGen.single ⟨status, now, rfl⟩

/-- A later order is the same one, or it has a greater version. -/
theorem eq_or_version_lt
    {o p : Order}
    (later : Order.Later o p) :
    p = o ∨ o.version < p.version := by
  induction later with
  | refl =>
      exact Or.inl rfl
  | tail _ step ih =>
      obtain ⟨status, now, rfl⟩ := step
      right
      rcases ih with rfl | ih
      · simp only [Memory.written]
        omega
      · simp only [Memory.written]
        omega

theorem version_le
    {o p : Order}
    (later : Order.Later o p) :
    o.version ≤ p.version := by
  rcases later.eq_or_version_lt with rfl | h
  · exact Int.le_refl _
  · exact Int.le_of_lt h

/-- An equal version means an unchanged order. -/
theorem eq_of_version_eq
    {o p : Order}
    (later : Order.Later o p)
    (same : p.version = o.version) :
    p = o := by
  rcases later.eq_or_version_lt with h | h
  · exact h
  · omega

/-- Writes change the status, the version and the time, and nothing else. -/
theorem eq_with
    {o p : Order}
    (later : Order.Later o p) :
    p = { o with
      status := p.status, version := p.version, updatedAt := p.updatedAt } := by
  induction later with
  | refl =>
      rfl
  | @tail q r _ step ih =>
      obtain ⟨status, now, rfl⟩ := step
      rw [ih]
      rfl

theorem userId_eq
    {o p : Order}
    (later : Order.Later o p) :
    p.userId = o.userId := by
  rw [later.eq_with]

end Order.Later

namespace Desk

/-- What is found after an event is later than what was found before it. -/
theorem later_step
    {d : Desk} {id : Identifier} {o : Order}
    (found : d.memory.find? id = some o)
    (e : Event) :
    ∃ p, (d.step e).memory.find? id = some p ∧ Order.Later o p := by
  rcases find?_step_cases found e with same | ⟨status, now, _, written⟩
  · exact ⟨o, same, .refl o⟩
  · exact ⟨_, written, .written o status now⟩

theorem later_after
    {d : Desk} {id : Identifier} {o : Order}
    (found : d.memory.find? id = some o)
    (es : List Event) :
    ∃ p, (d.after es).memory.find? id = some p ∧ Order.Later o p := by
  induction es generalizing d o with
  | nil =>
      exact ⟨o, found, .refl o⟩
  | cons e es ih =>
      obtain ⟨p, hp, hop⟩ := later_step found e
      obtain ⟨q, hq, hpq⟩ := ih hp
      exact ⟨q, hq, hop.trans hpq⟩

/-- What is found at a position of a run is later than what was found before it. -/
theorem later_between
    {d : Desk} {es : List Event} {j k : Nat} {id : Identifier} {o : Order}
    (found : (d.after (es.take j)).memory.find? id = some o)
    (hjk : j ≤ k) :
    ∃ p, (d.after (es.take k)).memory.find? id = some p ∧ Order.Later o p := by
  have hsplit : es.take k = es.take j ++ (es.take k).drop j := by
    have h := List.take_append_drop j (es.take k)
    rw [List.take_take, Nat.min_eq_left hjk] at h
    exact h.symm
  rw [hsplit, after_append]
  exact later_after found _

/-- What is found at the end of a run is later than what was found on the way. -/
theorem later_at_end
    {d : Desk} {es : List Event} {j : Nat} {id : Identifier} {o : Order}
    (found : (d.after (es.take j)).memory.find? id = some o) :
    ∃ p, (d.after es).memory.find? id = some p ∧ Order.Later o p := by
  rw [← after_take_drop d es j]
  exact later_after found _

/-- A stored order that still has an earlier version is the same as then. -/
theorem stored_of_version_eq
    {d : Desk} {es : List Event} {j : Nat} {id : Identifier} {loaded stored : Order}
    (before : (d.after (es.take j)).memory.find? id = some loaded)
    (now : (d.after es).memory.find? id = some stored)
    (same : stored.version = loaded.version) :
    stored = loaded := by
  obtain ⟨p, hp, later⟩ := later_at_end before
  rw [now] at hp
  cases hp
  exact later.eq_of_version_eq same

end Desk
end OrderDesk
