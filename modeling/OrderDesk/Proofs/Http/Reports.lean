import OrderDesk.Http.Response

/-!
# What clients are told of errors

An error is reported with a status and a code, which are one of eleven pairs, and never
with the status of a success.  Some errors have the same report, so that a client cannot
tell them apart: what the database says, and how long a call took, is for the logs.

* `documentedErrors`, `ServiceError.report_documented`: the eleven pairs.
* `StoreError.Alike`, `StoreError.Alike.report_eq`: errors that are reported alike.
-/

namespace OrderDesk

/-- The statuses of errors with their codes. -/
def documentedErrors : List (HttpStatus × String) :=
  [(.badRequest, "invalid_input"),
    (.badRequest, "product_not_found"),
    (.badRequest, "invalid_user_id"),
    (.unauthorized, "unauthenticated"),
    (.forbidden, "permission_denied"),
    (.notFound, "order_not_found"),
    (.notFound, "not_found"),
    (.conflict, "invalid_state_transition"),
    (.conflict, "version_conflict"),
    (.unavailable, "store_timeout"),
    (.internalError, "database_error")]

theorem StoreError.report_documented
    (e : StoreError) :
    (e.report.status, e.report.code) ∈ documentedErrors := by
  cases e with
  | notFound entity id =>
      by_cases horder : entity = .order <;> simp [report, documentedErrors, horder]
  | versionConflict id expected =>
      simp [report, documentedErrors]
  | timeout budget =>
      simp [report, documentedErrors]
  | database error =>
      simp [report, documentedErrors]
  | invalidRow text =>
      simp [report, documentedErrors]

theorem RuleError.report_documented
    (e : RuleError) :
    (e.report.status, e.report.code) ∈ documentedErrors := by
  cases e <;> simp [report, documentedErrors]

theorem ServiceError.report_documented
    (e : ServiceError) :
    (e.report.status, e.report.code) ∈ documentedErrors := by
  cases e with
  | missingHeader name =>
      simp [report, documentedErrors]
  | invalidUserId =>
      simp [report, documentedErrors]
  | rule e =>
      exact e.report_documented
  | store e =>
      exact e.report_documented

theorem ServiceError.report_status_ne_ok
    (e : ServiceError) :
    e.report.status ≠ .ok := by
  have failures : ∀ pair ∈ documentedErrors, pair.1 ≠ .ok := by decide
  exact failures _ e.report_documented

theorem StoreError.report_status_ne_forbidden
    (e : StoreError) :
    e.report.status ≠ .forbidden := by
  cases e with
  | notFound entity id =>
      nofun
  | versionConflict id expected =>
      nofun
  | timeout budget =>
      nofun
  | database error =>
      nofun
  | invalidRow text =>
      nofun

/-! ## Errors that are reported alike -/

/-- The errors of the database and of what is stored in it. -/
inductive StoreError.OfPersistence : StoreError → Prop where
  | database (error : DatabaseError) : OfPersistence (.database error)
  | invalidRow (text : String) : OfPersistence (.invalidRow text)

/-- The errors that a client is not to tell apart. -/
inductive StoreError.Alike : StoreError → StoreError → Prop where
  | persistence
      {e e' : StoreError}
      (first : e.OfPersistence)
      (second : e'.OfPersistence) :
      Alike e e'
  | timeout
      (budget budget' : Duration) :
      Alike (.timeout budget) (.timeout budget')

namespace StoreError

variable {e e' : StoreError}

theorem OfPersistence.report_eq
    (persistence : e.OfPersistence) :
    e.report = ⟨.internalError, "database_error", "Internal server error", none⟩ := by
  cases persistence <;> rfl

theorem OfPersistence.isNotFound
    (persistence : e.OfPersistence) :
    e.isNotFound = false := by
  cases persistence <;> rfl

theorem Alike.report_eq
    (alike : e.Alike e') :
    e.report = e'.report := by
  cases alike with
  | persistence first second =>
      rw [first.report_eq, second.report_eq]
  | timeout budget budget' =>
      rfl

theorem Alike.isNotFound
    (alike : e.Alike e') :
    e.isNotFound = false ∧ e'.isNotFound = false := by
  cases alike with
  | persistence first second =>
      exact ⟨first.isNotFound, second.isNotFound⟩
  | timeout budget budget' =>
      exact ⟨rfl, rfl⟩

end StoreError

end OrderDesk
