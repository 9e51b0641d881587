import Mathlib.Data.List.Induction
import OrderDesk.Proofs.Desk.Later

/-!
# Versions count writes

Any number of clients may hold copies of orders, change them at will and write
them back, while errands go on and statuses are set from outside.  No write is
lost:

* the version of a stored order is one more than the number of writes into it,
  and its status and time are those of the last one (`order_of_writes`);
* a write succeeds exactly if its copy has the stored version, and otherwise
  changes neither the store nor the copy (`update_ok`, `update_error`);
* two successful writes never carry the same version (`version_lt_of_savedAt`).
-/

namespace OrderDesk
namespace Desk

/-- The statuses that a run writes into an order, with their times, in order. -/
def writes (d : Desk) (id : Identifier) : List Event → List (OrderStatus × Instant)
  | [] => []
  | e :: es => ((d.deed e).writingOn? id).toList ++ (d.step e).writes id es

/-- At a position of a run, a copy is written with success. -/
def SavedAt (d : Desk) (es : List Event) (j : Nat) (copy : Order) : Prop :=
  ∃ e o stamp,
    es[j]? = some e ∧
    (d.after (es.take j)).call? e = some (o, .save copy) ∧
    ((d.after (es.take j)).memory.save o.now copy).1 = .ok stamp

theorem writes_concat
    (d : Desk)
    (id : Identifier)
    (es : List Event)
    (e : Event) :
    d.writes id (es ++ [e]) =
      d.writes id es ++ (((d.after es).deed e).writingOn? id).toList := by
  induction es generalizing d with
  | nil =>
      simp [writes]
  | cons f es ih =>
      simp [writes, ih]

/-- What the writes so far have made of the order under an identifier: none is
written before it exists, and then its version counts them. -/
def Tallied (writes : List (OrderStatus × Instant)) : Option Order → Prop
  | none => writes = []
  | some o =>
    o.version = 1 + writes.length ∧
    (o.status, o.updatedAt) = writes.getLastD (.new, o.createdAt)

theorem tallied_step
    {d : Desk} {id : Identifier} {writes : List (OrderStatus × Instant)}
    (tallied : Tallied writes (d.memory.find? id))
    (e : Event) :
    Tallied (writes ++ ((d.deed e).writingOn? id).toList)
      ((d.step e).memory.find? id) := by
  rw [find?_step]
  cases hdeed : d.deed e with
  | nothing =>
      simpa [Deed.writingOn?] using tallied
  | creation order =>
      obtain ⟨o, userId, lines, totalPrice, _, _, rfl⟩ := deed_eq_creation hdeed
      cases hfound : d.memory.find? id with
      | some stored =>
          rw [hfound] at tallied
          simpa [Deed.writingOn?] using tallied
      | none =>
          rw [hfound] at tallied
          have hempty : writes = [] := tallied
          rw [Deed.on?_creation_none]
          split
          · simp [Deed.writingOn?, hempty, Tallied, Memory.newOrder]
          · simp [Deed.writingOn?, hempty, Tallied]
  | writing target status now =>
      by_cases h : target = id
      · subst h
        obtain ⟨stored, hstored⟩ := stored_of_deed_eq_writing hdeed
        rw [hstored] at tallied ⊢
        obtain ⟨hversion, _⟩ := tallied
        simp only [Deed.on?_writing_self, Option.map_some, Tallied, Deed.writingOn?,
          if_true, Option.toList_some, Memory.written]
        refine ⟨?_, ?_⟩
        · rw [hversion, List.length_append, List.length_singleton]
          omega
        · simp
      · rw [Deed.on?_writing_of_ne h]
        simpa [Deed.writingOn?, h] using tallied

theorem order_of_writes
    {d : Desk}
    (opened : d.Opened)
    (es : List Event)
    (id : Identifier) :
    Tallied (d.writes id es) ((d.after es).memory.find? id) := by
  induction es using List.reverseRecOn with
  | nil =>
      simp [Memory.find?, opened.no_orders, Tallied, writes]
  | append_singleton es e ih =>
      rw [writes_concat, after_concat]
      exact tallied_step ih e

/-! ## A client's write -/

section Update

variable {d : Desk} {k : Nat} {copy : Order}

theorem step_update
    (held : d.copies[k]? = some copy)
    (o : Occasion) :
    d.step (.update k o) =
      { d with
        memory := (d.memory.save o.now copy).2
        copies := d.copies.set k (answered copy (d.memory.save o.now copy).1) } := by
  simp only [step, held]

theorem update_ok
    (held : d.copies[k]? = some copy)
    {o : Occasion} {stamp : Stamp}
    (ok : (d.memory.save o.now copy).1 = .ok stamp) :
    ∃ stored,
      (d.step (.update k o)).memory.find? copy.id = some stored ∧
      stored.status = copy.status ∧
      (d.step (.update k o)).copies[k]? =
        some { copy with version := stored.version, updatedAt := stored.updatedAt } := by
  obtain ⟨before, hfound, hversion, rfl⟩ := Memory.save_eq_ok_iff.mp ok
  have hdeed : d.deed (.update k o) = .writing copy.id copy.status o.now := by
    simp [deed, call?, held, Memory.deed, ok]
  refine ⟨Memory.written before copy.status o.now, ?_, rfl, ?_⟩
  · rw [find?_step, hdeed, hfound]
    simp
  · obtain ⟨hk, _⟩ := List.getElem?_eq_some_iff.mp held
    rw [step_update held, ok]
    exact List.getElem?_set_self hk

theorem update_error
    (held : d.copies[k]? = some copy)
    {o : Occasion} {e : StoreError}
    (error : (d.memory.save o.now copy).1 = .error e) :
    d.step (.update k o) = d ∧
    ((d.memory.find? copy.id = none ∧ e = .notFound .order copy.id) ∨
      ((d.memory.find? copy.id).isSome ∧
        e = .versionConflict copy.id copy.version)) := by
  obtain ⟨hk, hget⟩ := List.getElem?_eq_some_iff.mp held
  have hcopies : d.copies.set k copy = d.copies := by
    rw [← hget, List.set_getElem_self]
  cases hfound : d.memory.find? copy.id with
  | none =>
      have hsave := Memory.save_of_absent o.now hfound
      rw [hsave] at error
      cases error
      refine ⟨?_, Or.inl ⟨rfl, rfl⟩⟩
      simp [step_update held, hsave, answered, hcopies]
  | some stored =>
      have hstale : stored.version ≠ copy.version := by
        intro h
        rw [Memory.save_of_current o.now hfound h] at error
        cases error
      have hsave := Memory.save_of_stale o.now hfound hstale
      rw [hsave] at error
      cases error
      refine ⟨?_, Or.inr ⟨rfl, rfl⟩⟩
      simp [step_update held, hsave, answered, hcopies]

end Update

/-! ## Two successful writes -/

/-- A successful write finds the version of its copy and leaves the next one. -/
theorem SavedAt.stored
    {d : Desk} {es : List Event} {j : Nat} {copy : Order}
    (saved : d.SavedAt es j copy) :
    ∃ before after,
      (d.after (es.take j)).memory.find? copy.id = some before ∧
      before.version = copy.version ∧
      (d.after (es.take (j + 1))).memory.find? copy.id = some after ∧
      after.version = copy.version + 1 := by
  obtain ⟨e, o, stamp, hevent, hcall, hok⟩ := saved
  obtain ⟨before, hfound, hversion, _⟩ := Memory.save_eq_ok_iff.mp hok
  have hdeed : (d.after (es.take j)).deed e = .writing copy.id copy.status o.now := by
    simp [deed, hcall, Memory.deed, hok]
  refine ⟨before, Memory.written before copy.status o.now, hfound, hversion, ?_, ?_⟩
  · rw [after_take_succ d hevent, find?_step, hdeed, hfound]
    simp
  · simp [Memory.written, hversion]

theorem version_lt_of_savedAt
    {d : Desk} {es : List Event} {j k : Nat} {first second : Order}
    (hfirst : d.SavedAt es j first)
    (hsecond : d.SavedAt es k second)
    (hjk : j < k)
    (same : first.id = second.id) :
    first.version < second.version := by
  obtain ⟨_, after, _, _, hafter, hversion⟩ := hfirst.stored
  obtain ⟨before, _, hbefore, hcurrent, _⟩ := hsecond.stored
  obtain ⟨found, hfound, hlater⟩ := later_between hafter hjk
  have heq : found = before := by
    rw [same, hbefore] at hfound
    exact (Option.some.inj hfound).symm
  have hle := hlater.version_le
  rw [heq, hversion, hcurrent] at hle
  omega

/-- **No update is lost.**  Whatever overlaps in a run with fresh identifiers:

* the version of a stored order is one more than the number of writes into it (so
  it has 64 bits while there are fewer than `2 ^ 63 - 1` of them), and its status
  and time are those of the last one, or of its creation;
* a client's write succeeds exactly if an order with the identifier and the
  version of its copy is stored; then the copy has the stored version and time;
  if not, neither the desk nor the copy changes, and the error says whether there
  is such an order at all;
* two successful writes of one order never carry the same version. -/
theorem no_update_is_lost
    {d : Desk} {es : List Event}
    (opened : d.Opened)
    (fresh : d.Along Fresh es) :
    (∀ o ∈ (d.after es).memory.orders,
      o.version = 1 + (d.writes o.id es).length ∧
      (o.status, o.updatedAt) = (d.writes o.id es).getLastD (.new, o.createdAt)) ∧
    (∀ k copy o,
      (d.after es).copies[k]? = some copy →
      let answer := ((d.after es).memory.save o.now copy).1
      let next := (d.after es).step (.update k o)
      ((∃ stamp, answer = .ok stamp) ↔
        ∃ stored ∈ (d.after es).memory.orders,
          stored.id = copy.id ∧ stored.version = copy.version) ∧
      (∀ stamp, answer = .ok stamp →
        ∃ stored ∈ next.memory.orders,
          stored.id = copy.id ∧ stored.status = copy.status ∧
          next.copies[k]? =
            some { copy with version := stored.version, updatedAt := stored.updatedAt }) ∧
      (∀ e, answer = .error e →
        next = d.after es ∧
        (((∀ stored ∈ (d.after es).memory.orders, stored.id ≠ copy.id) ∧
            e = .notFound .order copy.id) ∨
          ((∃ stored ∈ (d.after es).memory.orders, stored.id = copy.id) ∧
            e = .versionConflict copy.id copy.version)))) ∧
    (∀ j k first second,
      j < k → d.SavedAt es j first → d.SavedAt es k second →
      first.id = second.id → first.version ≠ second.version) := by
  have distinct := distinct_after opened.distinct fresh
  refine ⟨?_, ?_, ?_⟩
  · intro o stored
    have h := order_of_writes opened es o.id
    rw [Memory.find?_of_mem distinct stored] at h
    exact h
  · intro k copy o held answer next
    refine ⟨?_, ?_, ?_⟩
    · constructor
      · rintro ⟨stamp, ok⟩
        obtain ⟨stored, hfound, hversion, _⟩ := Memory.save_eq_ok_iff.mp ok
        exact ⟨stored, Memory.mem_of_find? hfound, Memory.id_of_find? hfound, hversion⟩
      · rintro ⟨stored, hmem, hid, hversion⟩
        have hfound := Memory.find?_of_mem distinct hmem
        rw [hid] at hfound
        exact ⟨_, Memory.save_eq_ok_iff.mpr ⟨stored, hfound, hversion, rfl⟩⟩
    · intro stamp ok
      obtain ⟨stored, hfound, hstatus, hcopy⟩ := update_ok held ok
      exact ⟨stored, Memory.mem_of_find? hfound, Memory.id_of_find? hfound, hstatus, hcopy⟩
    · intro e error
      obtain ⟨hsame, hcause⟩ := update_error held error
      refine ⟨hsame, ?_⟩
      rcases hcause with ⟨hnone, he⟩ | ⟨hsome, he⟩
      · left
        rw [Memory.find?, List.find?_eq_none] at hnone
        exact ⟨fun stored hmem => by simpa using hnone stored hmem, he⟩
      · right
        obtain ⟨stored, hfound⟩ := Option.isSome_iff_exists.mp hsome
        exact ⟨⟨stored, Memory.mem_of_find? hfound, Memory.id_of_find? hfound⟩, he⟩
  · intro j k first second hjk hfirst hsecond same
    have hlt := version_lt_of_savedAt hfirst hsecond hjk same
    omega

/-- Of two copies of one order that are written back, the second changes nothing. -/
theorem no_update_is_lost_of_two_copies :
    let d : Desk := { memory := {} }
    let es : List Event :=
      [.create (.numbered 1) .nil [], .read (.ofNat 1) false, .read (.ofNat 1) false,
        .update 1 (.numbered 2)]
    d.Opened ∧ d.Along Fresh es ∧
      (∀ o ∈ (d.after es).memory.orders, o.version = 1 + (d.writes o.id es).length) ∧
      (d.after es).step (.update 2 (.numbered 3)) = d.after es := by
  intro d es
  have opened : d.Opened := ⟨rfl, rfl, rfl⟩
  have fresh : d.Along Fresh es := by decide
  obtain ⟨counts, updates, _⟩ := no_update_is_lost opened fresh
  refine ⟨opened, fresh, fun o stored => (counts o stored).1, ?_⟩
  obtain ⟨_, _, unchanged⟩ := updates 2 _ (.numbered 3) rfl
  exact (unchanged (.versionConflict (.ofNat 1) 1) rfl).1

end Desk
end OrderDesk
