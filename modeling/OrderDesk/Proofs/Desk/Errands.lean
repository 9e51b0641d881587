import Mathlib.Data.List.Induction
import OrderDesk.Proofs.Desk.Later
import OrderDesk.Proofs.Service

/-!
# What an errand has been through

An errand is where it is because of the answers that it got, in the order in
which it got them.  `Reached` says this for every errand of a run, and
`CancelStage` reads it for a cancellation, which makes at most two calls: it
loads the order, and it saves what was decided on the loaded copy.

Placing and reading an order never save anything, so an errand that saves is a
cancellation that has decided (`saving_errand`).
-/

namespace OrderDesk

namespace Desk

/-! ## The answers behind an errand -/

/-- Before a position of a run, an errand has gone from a task to what is left of it,
by answers that it got one after the other. -/
inductive Reached
    (d : Desk)
    (es : List Event)
    (i : Nat)
    (task : Task Service.Failure Order) :
    Nat → Task Service.Failure Order → Prop where
  | start : Reached d es i task 0 task
  | answer
      {n j : Nat} {c : Call} {next : c.Answer → Task Service.Failure Order} {r : c.Answer}
      (before : Reached d es i task n (.ask c next))
      (later : n ≤ j)
      (answered : d.AnsweredAt es j i c r) :
      Reached d es i task (j + 1) (next r)

theorem Reached.append
    {d : Desk} {es : List Event} {i n : Nat} {task rest : Task Service.Failure Order}
    (reached : d.Reached es i task n rest)
    (fs : List Event) :
    d.Reached (es ++ fs) i task n rest := by
  induction reached with
  | start =>
      exact .start
  | answer _ later answered ih =>
      exact .answer ih later (answered.append fs)

/-- Every errand of a run has reached what is left of it. -/
theorem reached_of_errand
    {d : Desk}
    (idle : d.errands = [])
    {es : List Event} {i : Nat} {errand : Errand}
    (found : (d.after es).errands[i]? = some errand) :
    ∃ n, n ≤ es.length ∧ d.Reached es i errand.request.task n errand.rest := by
  induction es using List.reverseRecOn generalizing errand with
  | nil =>
      simp [idle] at found
  | append_singleton es e ih =>
      rw [after_concat] at found
      rw [List.length_append, List.length_singleton]
      rcases errand_of_step found with
        before | ⟨request, _, rfl⟩ | ⟨o, fault, c, next, rfl, before, hrest⟩
      · obtain ⟨n, hn, reached⟩ := ih before
        exact ⟨n, by omega, reached.append _⟩
      · exact ⟨0, by omega, .start⟩
      · obtain ⟨n, hn, reached⟩ := ih before
        have answered := answeredAt_concat before rfl o fault
        refine ⟨es.length + 1, by omega, ?_⟩
        rw [hrest]
        exact .answer (reached.append _) hn answered

theorem Reached.all
    {d : Desk} {es : List Event} {i n : Nat} {task rest : Task Service.Failure Order}
    {P : Call → Prop}
    (reached : d.Reached es i task n rest)
    (all : task.All P) :
    rest.All P := by
  induction reached with
  | start =>
      exact all
  | answer _ _ _ ih =>
      exact ih.2 _

/-! ## Cancellations -/

/-- How far a cancellation has come before a position of a run, and by which answers. -/
inductive CancelStage
    (d : Desk)
    (es : List Event)
    (i : Nat)
    (id userId : Identifier) :
    Nat → Task Service.Failure Order → Prop where
  /-- Nothing has been loaded yet. -/
  | waiting : CancelStage d es i id userId 0 (Service.cancel id userId)
  /-- The order could not be loaded. -/
  | unread
      {j : Nat} {e : StoreError}
      (loads : d.AnsweredAt es j i (.load id false) (.error e)) :
      CancelStage d es i id userId (j + 1) (.fail (Service.passed e))
  /-- The loaded order may not be cancelled. -/
  | refused
      {j : Nat} {order : Order} {failure : Service.Failure}
      (loads : d.AnsweredAt es j i (.load id false) (.ok order))
      (refuses : Service.decideCancel id userId order = .error failure) :
      CancelStage d es i id userId (j + 1) (.fail failure)
  /-- The copy to be written is decided. -/
  | decided
      {j : Nat} {order copy : Order}
      (loads : d.AnsweredAt es j i (.load id false) (.ok order))
      (decides : Service.decideCancel id userId order = .ok copy) :
      CancelStage d es i id userId (j + 1) (Service.writing copy)
  /-- The write failed. -/
  | lost
      {j k : Nat} {order copy : Order} {e : StoreError}
      (loads : d.AnsweredAt es j i (.load id false) (.ok order))
      (decides : Service.decideCancel id userId order = .ok copy)
      (between : j < k)
      (saves : d.AnsweredAt es k i (.save copy) (.error e)) :
      CancelStage d es i id userId (k + 1) (.fail (Service.passed e))
  /-- The write succeeded. -/
  | won
      {j k : Nat} {order copy : Order} {stamp : Stamp}
      (loads : d.AnsweredAt es j i (.load id false) (.ok order))
      (decides : Service.decideCancel id userId order = .ok copy)
      (between : j < k)
      (saves : d.AnsweredAt es k i (.save copy) (.ok stamp)) :
      CancelStage d es i id userId (k + 1) (.done (copy.stamped stamp))

/-- The answer to its next call moves a cancellation to its next stage. -/
theorem CancelStage.next
    {d : Desk} {es : List Event} {i n j : Nat} {id userId : Identifier}
    {c : Call} {next : c.Answer → Task Service.Failure Order} {r : c.Answer}
    (stage : d.CancelStage es i id userId n (.ask c next))
    (later : n ≤ j)
    (answered : d.AnsweredAt es j i c r) :
    d.CancelStage es i id userId (j + 1) (next r) := by
  cases stage with
  | waiting =>
      cases r with
      | error e =>
          exact .unread answered
      | ok order =>
          dsimp only
          cases hdecide : Service.decideCancel id userId order with
          | error failure =>
              exact .refused answered hdecide
          | ok copy =>
              exact .decided answered hdecide
  | decided loads decides =>
      cases r with
      | error e =>
          exact .lost loads decides later answered
      | ok stamp =>
          exact .won loads decides later answered

theorem cancelStage_of_reached
    {d : Desk} {es : List Event} {i n : Nat} {id userId : Identifier}
    {rest : Task Service.Failure Order}
    (reached : d.Reached es i (Service.cancel id userId) n rest) :
    d.CancelStage es i id userId n rest := by
  induction reached with
  | start =>
      exact .waiting
  | answer _ later answered ih =>
      exact ih.next later answered

theorem cancelStage_of_errand
    {d : Desk}
    (idle : d.errands = [])
    {es : List Event} {i : Nat} {id userId : Identifier}
    {rest : Task Service.Failure Order}
    (found : (d.after es).errands[i]? = some ⟨.cancel id userId, rest⟩) :
    ∃ n, d.CancelStage es i id userId n rest := by
  obtain ⟨n, _, reached⟩ := reached_of_errand idle found
  exact ⟨n, cancelStage_of_reached reached⟩

/-- An errand that saves a copy is a cancellation that has decided to write it. -/
theorem saving_errand
    {d : Desk}
    (idle : d.errands = [])
    {es : List Event} {i : Nat} {errand : Errand} {copy : Order}
    (found : (d.after es).errands[i]? = some errand)
    (asked : errand.rest.asked? = some (.save copy)) :
    ∃ id userId j order,
      errand = ⟨.cancel id userId, Service.writing copy⟩ ∧
      d.AnsweredAt es j i (.load id false) (.ok order) ∧
      Service.decideCancel id userId order = .ok copy := by
  obtain ⟨n, _, reached⟩ := reached_of_errand idle found
  obtain ⟨request, rest⟩ := errand
  cases request with
  | place policy userId lines =>
      have all := reached.all (Service.place_saves_nothing policy userId lines)
      exact absurd rfl (all.asked asked)
  | get id =>
      have all := reached.all (Service.get_saves_nothing id)
      exact absurd rfl (all.asked asked)
  | cancel id userId =>
      cases cancelStage_of_reached reached with
      | waiting =>
          cases asked
      | unread _ =>
          cases asked
      | refused _ _ =>
          cases asked
      | decided loads decides =>
          cases asked
          exact ⟨id, userId, _, _, rfl, loads, decides⟩
      | lost _ _ _ _ =>
          cases asked
      | won _ _ _ _ =>
          cases asked

/-! ## What an answer tells about the store -/

/-- A loaded copy is the order that is stored at that moment, without its lines. -/
theorem AnsweredAt.loaded
    {d : Desk} {es : List Event} {j i : Nat} {id : Identifier} {order : Order}
    (loads : d.AnsweredAt es j i (.load id false) (.ok order)) :
    ∃ stored,
      (d.after (es.take j)).memory.find? id = some stored ∧
      order = stored.withoutLines := by
  obtain ⟨o, fault, errand, _, _, _, hanswer⟩ := loads
  cases hfault : Memory.faultOn? fault (.load id false) with
  | some e =>
      rw [Memory.answerUnder_of_fault hfault] at hanswer
      cases hanswer
  | none =>
      rw [Memory.answerUnder_of_no_fault hfault] at hanswer
      cases hfound : (d.after (es.take j)).memory.find? id with
      | none =>
          simp [Memory.answer, Memory.load, hfound] at hanswer
      | some stored =>
          simp only [Memory.answer, Memory.load, hfound] at hanswer
          cases hanswer
          exact ⟨stored, rfl, rfl⟩

/-- A save that is answered by a stamp has written the copy's status into the order
whose version it carries. -/
theorem AnsweredAt.saved
    {d : Desk} {es : List Event} {k i : Nat} {copy : Order} {stamp : Stamp}
    (saves : d.AnsweredAt es k i (.save copy) (.ok stamp)) :
    ∃ stored now,
      (d.after (es.take k)).memory.find? copy.id = some stored ∧
      stored.version = copy.version ∧
      stamp = ⟨stored.version + 1, now⟩ ∧
      (d.after (es.take (k + 1))).memory.find? copy.id =
        some (Memory.written stored copy.status now) := by
  obtain ⟨o, fault, errand, hevent, hfound, hasked, hanswer⟩ := saves
  cases hfault : Memory.faultOn? fault (.save copy) with
  | some e =>
      rw [Memory.answerUnder_of_fault hfault] at hanswer
      cases hanswer
  | none =>
      rw [Memory.answerUnder_of_no_fault hfault] at hanswer
      obtain ⟨stored, hstored, hversion, hstamp⟩ := Memory.save_eq_ok_iff.mp hanswer
      refine ⟨stored, o.now, hstored, hversion, hstamp, ?_⟩
      have hdeed : (d.after (es.take k)).deed (.proceed i o fault) =
          .writing copy.id copy.status o.now := by
        have hok : ((d.after (es.take k)).memory.save o.now copy).1 = .ok stamp := hanswer
        simp [deed, call?, hfound, Errand.call?, hasked, hfault, Memory.deed, hok]
      rw [after_take_succ d hevent, find?_step, hdeed, hstored]
      simp

/-- What a cancellation decides to write is the loaded order with status `cancelled`,
and the order was the user's own and not yet terminal. -/
theorem AnsweredAt.decided
    {d : Desk} {es : List Event} {j i : Nat} {id userId : Identifier} {order copy : Order}
    (loads : d.AnsweredAt es j i (.load id false) (.ok order))
    (decides : Service.decideCancel id userId order = .ok copy) :
    ∃ stored,
      (d.after (es.take j)).memory.find? id = some stored ∧
      order = stored.withoutLines ∧
      stored.userId = userId ∧
      stored.status.canCancel = true ∧
      copy = Service.cancelledCopy stored := by
  obtain ⟨stored, hfound, rfl⟩ := loads.loaded
  obtain ⟨hown, hcan, rfl⟩ := Service.decideCancel_eq_ok_iff.mp decides
  exact ⟨stored, hfound, rfl, hown, hcan, rfl⟩

/-- A cancellation that has written has found the order as it had loaded it. -/
theorem AnsweredAt.cancelled
    {d : Desk} {es : List Event} {j k i : Nat} {id userId : Identifier}
    {order copy : Order} {stamp : Stamp}
    (loads : d.AnsweredAt es j i (.load id false) (.ok order))
    (decides : Service.decideCancel id userId order = .ok copy)
    (between : j < k)
    (saves : d.AnsweredAt es k i (.save copy) (.ok stamp)) :
    ∃ stored now,
      order = stored.withoutLines ∧
      stored.userId = userId ∧
      stored.status.canCancel = true ∧
      copy = Service.cancelledCopy stored ∧
      stamp = ⟨stored.version + 1, now⟩ ∧
      (d.after (es.take k)).memory.find? id = some stored ∧
      (d.after (es.take (k + 1))).memory.find? id =
        some (Memory.written stored .cancelled now) := by
  obtain ⟨loaded, hloaded, rfl, hown, hcan, rfl⟩ := loads.decided decides
  obtain ⟨stored, now, hstored, hversion, rfl, hwritten⟩ := saves.saved
  rw [Service.cancelledCopy_id, Memory.id_of_find? hloaded] at hstored hwritten
  have hbefore : (d.after ((es.take k).take j)).memory.find? id = some loaded := by
    rw [List.take_take, Nat.min_eq_left (Nat.le_of_lt between)]
    exact hloaded
  have hsame : stored = loaded := stored_of_version_eq hbefore hstored hversion
  subst hsame
  exact ⟨stored, now, rfl, hown, hcan, rfl, rfl, hstored, hwritten⟩

/-- An errand that saves a copy with the stored version is a cancellation by the owner,
who has loaded the order as it is stored now. -/
theorem current_errand
    {d : Desk}
    (idle : d.errands = [])
    {es : List Event} {i : Nat} {errand : Errand} {copy stored : Order}
    (found : (d.after es).errands[i]? = some errand)
    (asked : errand.rest.asked? = some (.save copy))
    (now : (d.after es).memory.find? copy.id = some stored)
    (current : stored.version = copy.version) :
    errand = ⟨.cancel copy.id stored.userId, Service.writing copy⟩ ∧
      stored.status.canCancel = true ∧
      copy = Service.cancelledCopy stored := by
  obtain ⟨id, userId, j, order, rfl, loads, decides⟩ := saving_errand idle found asked
  obtain ⟨loaded, hloaded, _, hown, hcan, rfl⟩ := loads.decided decides
  have hid : loaded.id = id := Memory.id_of_find? hloaded
  rw [← hid] at hloaded
  have hsame : stored = loaded := stored_of_version_eq hloaded now current
  subst hsame
  refine ⟨?_, hcan, rfl⟩
  rw [← hid, ← hown]
  rfl

end Desk
end OrderDesk
