import OrderDesk.Proofs.Service.Failures

/-!
# Cancellations that nothing comes between

A cancellation makes two calls.  If nothing else happens in between, the copy that it
writes is still current, so that only a fault can keep the write from succeeding.  How a
cancellation ends is then settled by the stored order, the user and the fault.

* `run_cancel_of_found`: how the cancellation of a stored order ends, and what it leaves.
* `cancel_eq_ok`: what a cancellation that succeeds has gone through.
-/

namespace OrderDesk
namespace Service

variable {fault : Option Fault} {o : Occasion} {m : Memory} {id userId : Identifier}

/-- What is written about a stored order is written under its current version. -/
theorem run_writing_of_found
    {stored : Order}
    (found : m.find? id = some stored) :
    (writing (cancelledCopy stored)).run (Memory.answerUnder fault o) m =
      match Memory.faultOn? fault (.save (cancelledCopy stored)) with
      | some e => (.error (passed e), m)
      | none =>
        (.ok ((cancelledCopy stored).stamped ⟨stored.version + 1, o.now⟩),
          m.modify id fun s => Memory.written s .cancelled o.now) := by
  have hid : stored.id = id := Memory.id_of_find? found
  have hfound : m.find? (cancelledCopy stored).id = some stored := by
    rw [cancelledCopy_id, hid, found]
  cases hfault : Memory.faultOn? fault (.save (cancelledCopy stored)) with
  | some e =>
      simp only [writing, Dialogue.run, Memory.answerUnder_of_fault hfault, Call.failed]
  | none =>
      simp only [writing, Dialogue.run, Memory.answerUnder_of_no_fault hfault, Memory.answer,
        Memory.save_of_current o.now hfound rfl, cancelledCopy_id, hid, cancelledCopy_status]

/-- How the cancellation of a stored order ends: with the fault of the load, a refusal, the
fault of the write, or the cancelled order. -/
theorem run_cancel_of_found
    {stored : Order}
    (found : m.find? id = some stored) :
    (cancel id userId).run (Memory.answerUnder fault o) m =
      match Memory.faultOn? fault (.load id false) with
      | some e => (.error (passed e), m)
      | none =>
        match decideCancel id userId stored.withoutLines with
        | .error failure => (.error failure, m)
        | .ok copy =>
          match Memory.faultOn? fault (.save copy) with
          | some e => (.error (passed e), m)
          | none =>
            (.ok (copy.stamped ⟨stored.version + 1, o.now⟩),
              m.modify id fun s => Memory.written s .cancelled o.now) := by
  rw [run_cancel]
  cases hfault : Memory.faultOn? fault (.load id false) with
  | some e =>
      rw [Memory.answerUnder_of_fault hfault]
      rfl
  | none =>
      have hload : (m.answerUnder fault o (.load id false)).1 = .ok stored.withoutLines := by
        simp only [Memory.answerUnder_of_no_fault hfault, Memory.answer, Memory.load, found]
        rfl
      rw [hload]
      cases hdecide : decideCancel id userId stored.withoutLines with
      | error failure =>
          simp only [hdecide]
      | ok copy =>
          obtain ⟨_, _, rfl⟩ := decideCancel_eq_ok_iff.mp hdecide
          simp only [hdecide, run_writing_of_found found]

/-- What a cancellation that succeeds has gone through: the order is the user's own, its
status allows it, and a new version with the new status is written. -/
theorem cancel_eq_ok
    {m' : Memory} {order : Order}
    (cancels : (cancel id userId).run (Memory.answerUnder fault o) m = (.ok order, m')) :
    ∃ stored,
      m.find? id = some stored ∧
      stored.userId = userId ∧
      stored.status.canCancel = true ∧
      order = (cancelledCopy stored).stamped ⟨stored.version + 1, o.now⟩ ∧
      m' = m.modify id fun s => Memory.written s .cancelled o.now := by
  cases hload : (m.answerUnder fault o (.load id false)).1 with
  | error e =>
      rw [run_cancel, hload] at cancels
      cases cancels
  | ok loaded =>
      obtain ⟨stored, found, _⟩ := Memory.answerUnder_load_of_ok hload
      rw [run_cancel_of_found found] at cancels
      split at cancels
      · cases cancels
      · split at cancels
        · cases cancels
        · rename_i copy hdecide
          obtain ⟨own, allowed, rfl⟩ := decideCancel_eq_ok_iff.mp hdecide
          split at cancels
          · cases cancels
          · cases cancels
            exact ⟨stored, found, own, allowed, rfl, rfl⟩

end Service
end OrderDesk
