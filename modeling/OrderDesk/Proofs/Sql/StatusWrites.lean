import OrderDesk.Proofs.Database.Operations
import OrderDesk.Proofs.Sql.Placement

/-!
# Writing a status

A status is written by one statement, which applies only to the row with the version that
the writer has read.  Where it finds no such row, one more statement tells an order that
was overtaken from one that is not there.

* `Reply.Fails`: a reply without rows, and the error that it becomes.
* `StatusWrite`: what is sent, what the caller is told, and his copy afterwards, with one
  constructor for each way in which a write can go.
* `Tables.forall₂_writeStatus`: the rows that the statement changes.
* `status_writes_are_guarded_and_report_the_cause`: every call is one of these ways, whoever
  answers.
-/

namespace OrderDesk
namespace Sql

open Dialogue

/-- A reply without rows becomes an error of the store. -/
inductive Reply.Fails (budget : Duration) {ρ : Type} : Reply ρ → StoreError → Prop where
  | refused (message : String) :
      Fails budget (.refused message) (.database (.server message))
  | silent : Fails budget .silent (.timeout budget)

/-- The statement that writes the status of a copy. -/
abbrev statusWrite (copy : Order) : Statement :=
  .writeStatus copy.id copy.status copy.version

/-- A write of the status of a copy: the statements with their replies, the result, and the
copy of the caller afterwards. -/
inductive StatusWrite (budget : Duration) (copy : Order) :
    List Sent → Except StoreError Unit → Order → Prop where
  | written (stamp : Stamp) (more : List Stamp) :
      StatusWrite budget copy [⟨statusWrite copy, .rows (stamp :: more)⟩] (.ok ())
        { copy with version := stamp.version, updatedAt := stamp.updatedAt }
  | overtaken (more : List Bool) :
      StatusWrite budget copy
        [⟨statusWrite copy, .rows []⟩, ⟨.orderExists copy.id, .rows (true :: more)⟩]
        (.error (.versionConflict copy.id copy.version)) copy
  | absent (more : List Bool) :
      StatusWrite budget copy
        [⟨statusWrite copy, .rows []⟩, ⟨.orderExists copy.id, .rows (false :: more)⟩]
        (.error (.notFound .order copy.id)) copy
  | unanswered :
      StatusWrite budget copy
        [⟨statusWrite copy, .rows []⟩, ⟨.orderExists copy.id, .rows []⟩]
        (.error (.database .rowMissing)) copy
  | writeFails {reply : Reply Stamp} {e : StoreError} :
      reply.Fails budget e →
      StatusWrite budget copy [⟨statusWrite copy, reply⟩] (.error e) copy
  | checkFails {reply : Reply Bool} {e : StoreError} :
      reply.Fails budget e →
      StatusWrite budget copy
        [⟨statusWrite copy, .rows []⟩, ⟨.orderExists copy.id, reply⟩] (.error e) copy

namespace StatusWrite

variable {budget : Duration} {copy after : Order} {log : List Sent}
  {result : Except StoreError Unit}

/-- A write that fails leaves the copy as it was. -/
theorem copy_of_error
    {e : StoreError}
    (write : StatusWrite budget copy log (.error e) after) :
    after = copy := by
  cases write <;> rfl

/-- An error of the server is what the caller gets. -/
theorem result_of_refused
    {e : Sent} {message : String}
    (write : StatusWrite budget copy log result after)
    (sent : e ∈ log)
    (refused : e.2 = .refused message) :
    result = .error (.database (.server message)) := by
  revert e
  cases write with
  | written | overtaken | absent | unanswered => simp
  | writeFails fails => cases fails <;> simp
  | checkFails fails => cases fails <;> simp

end StatusWrite

/-! ## The exchange -/

/-- The rest of a write that has found no row. -/
def statusCheck (copy : Order) : Exchange StoreError Stamp := do
  if ← stored (firstRow (.orderExists copy.id)) then
    .fail (.error (.versionConflict copy.id copy.version))
  else
    .fail (.error (.notFound .order copy.id))

theorem writeStatus_eq (copy : Order) :
    writeStatus copy =
      (stored (firstRow? (statusWrite copy))).bind fun
        | some stamp => .done stamp
        | none => statusCheck copy :=
  rfl

section Exchange

variable {σ : Type} (server : (s : Statement) → σ → Reply s.Row × σ) (state : σ)

theorem record_statusCheck
    (budget : Duration)
    (copy : Order) :
    ∃ stop log,
      (statusCheck copy).record server state = (.error stop, log) ∧
      StatusWrite budget copy (⟨statusWrite copy, .rows []⟩ :: log)
        (.error (stop.report budget)) copy := by
  cases checked : (server (.orderExists copy.id) state).1 with
  | refused message =>
      exact ⟨.error (.database (.server message)), _, record_ask server state checked,
        .checkFails (.refused message)⟩
  | silent => exact ⟨.silence, _, record_ask server state checked, .checkFails .silent⟩
  | rows found =>
      cases found with
      | nil =>
          exact ⟨.error (.database .rowMissing), _, record_ask server state checked,
            .unanswered⟩
      | cons present more =>
          cases present with
          | true =>
              exact ⟨.error (.versionConflict copy.id copy.version), _,
                record_firstRow_bind checked, .overtaken more⟩
          | false =>
              exact ⟨.error (.notFound .order copy.id), _,
                record_firstRow_bind checked, .absent more⟩

theorem record_writeStatus
    (budget : Duration)
    (copy : Order) :
    ∃ stamped log,
      (writeStatus copy).record server state = (stamped, log) ∧
      ∃ result after,
        (Operation.update copy).outcome (stamped.mapError (Stop.report budget)) =
          .updated result after ∧
        StatusWrite budget copy log result after := by
  rw [writeStatus_eq]
  cases written : (server (statusWrite copy) state).1 with
  | refused message =>
      exact ⟨.error (.error (.database (.server message))), _, record_ask server state written,
        _, _, rfl, .writeFails (.refused message)⟩
  | silent =>
      exact ⟨.error .silence, _, record_ask server state written, _, _, rfl, .writeFails .silent⟩
  | rows stamps =>
      cases stamps with
      | cons stamp more =>
          exact ⟨.ok stamp, _, record_firstRow?_bind written, _, _, rfl, .written stamp more⟩
      | nil =>
          obtain ⟨stop, log, check, write⟩ :=
            record_statusCheck server (server (statusWrite copy) state).2 budget copy
          have whole := record_firstRow?_bind (s := statusWrite copy) written
            (f := fun
              | some stamp => .done stamp
              | none => statusCheck copy)
          rw [List.head?_nil, check] at whole
          exact ⟨.error stop, _, whole, _, _, rfl, write⟩

/-- Every save is a write of the status of the copy. -/
theorem record_save
    (budget : Duration)
    (o : Occasion)
    (copy : Order) :
    ∃ answered result after,
      ((answer budget o (.save copy)).record server state).1 = .ok answered ∧
      (Operation.update copy).outcome answered = .updated result after ∧
      StatusWrite budget copy ((answer budget o (.save copy)).record server state).2
        result after := by
  obtain ⟨stamped, log, hrecord, result, after, houtcome, write⟩ :=
    record_writeStatus server state budget copy
  rw [answer, record_attempt, record_bounded, hrecord]
  exact ⟨stamped.mapError (Stop.report budget), result, after, rfl, houtcome, write⟩

end Exchange

/-! ## The row that is written -/

/-- The statement changes the rows with the identifier and the version of the copy that are
not deleted, and no others. -/
theorem Tables.forall₂_writeStatus
    (now : Instant)
    (t : Tables)
    (copy : Order) :
    List.Forall₂ (fun before after : OrderRecord =>
        after = before ∧
          ¬ (before.id = copy.id ∧ before.version = copy.version ∧ before.deletedAt = none) ∨
        after = { before with
            status := copy.status.text, version := copy.version + 1, updatedAt := now } ∧
          before.id = copy.id ∧ before.version = copy.version ∧ before.deletedAt = none)
      t.orders (t.writeStatus now copy.id copy.status copy.version).2.orders := by
  rw [Tables.writeStatus, List.forall₂_map_right_iff, List.forall₂_same]
  intro r _
  have guarded : Tables.writable copy.id copy.version r = true ↔
      r.id = copy.id ∧ r.version = copy.version ∧ r.deletedAt = none := by
    simp [Tables.writable, and_assoc]
  dsimp only
  split
  · next h =>
      obtain ⟨hid, hversion, hpresent⟩ := guarded.mp h
      exact Or.inr ⟨by rw [hversion], hid, hversion, hpresent⟩
  · next h => exact Or.inl ⟨rfl, fun hguard => h (guarded.mpr hguard)⟩

/-- **Status writes are guarded and report the cause.**  Whatever the database answers to
the statements of a save, one after the other:

* what is sent, what the caller is told and what becomes of his copy is one of the ways of
  `StatusWrite`: a single write, and behind it a check only if it gave no row;
* an error of the server is reported as such, and a save that fails leaves the copy as it
  was;
* both statements are sent with the values of the copy, and the write finds only the row
  with its identifier and its version that is not deleted. -/
theorem status_writes_are_guarded_and_report_the_cause
    {σ : Type}
    (server : (s : Statement) → σ → Reply s.Row × σ)
    (state : σ)
    (budget : Duration)
    (o : Occasion)
    (copy : Order) :
    let call := (answer budget o (.save copy)).record server state
    (∃ answered result after,
      call.1 = .ok answered ∧
      (Operation.update copy).outcome answered = .updated result after ∧
      StatusWrite budget copy call.2 result after ∧
      (∀ e ∈ call.2, ∀ message, e.2 = .refused message →
        result = .error (.database (.server message))) ∧
      (result ≠ .ok () → after = copy)) ∧
    ((statusWrite copy).text =
        "UPDATE orders SET status = $2, version = version + 1, updated_at = NOW() " ++
          "WHERE id = $1 AND version = $3 AND deleted_at IS NULL RETURNING version, updated_at" ∧
      (statusWrite copy).params =
        [.identifier copy.id, .text copy.status.text, .integer copy.version]) ∧
    ((Statement.orderExists copy.id).text =
        "SELECT EXISTS (SELECT 1 FROM orders WHERE id = $1 AND deleted_at IS NULL)" ∧
      (Statement.orderExists copy.id).params = [.identifier copy.id]) ∧
    ∀ (now : Instant) (t : Tables),
      List.Forall₂ (fun before after : OrderRecord =>
          after = before ∧
            ¬ (before.id = copy.id ∧ before.version = copy.version ∧ before.deletedAt = none) ∨
          after = { before with
              status := copy.status.text, version := copy.version + 1, updatedAt := now } ∧
            before.id = copy.id ∧ before.version = copy.version ∧ before.deletedAt = none)
        t.orders (t.writeStatus now copy.id copy.status copy.version).2.orders := by
  intro call
  refine ⟨?_, ⟨rfl, rfl⟩, ⟨rfl, rfl⟩, fun now t => t.forall₂_writeStatus now copy⟩
  obtain ⟨answered, result, after, hcall, houtcome, write⟩ :=
    record_save server state budget o copy
  refine ⟨answered, result, after, hcall, houtcome, write,
    fun e sent message refused => write.result_of_refused sent refused, ?_⟩
  intro failed
  cases result with
  | ok done => exact absurd rfl failed
  | error e => exact write.copy_of_error

end Sql
end OrderDesk
