import OrderDesk.Proofs.Dialogue.Steps
import OrderDesk.Service

/-!
# What the service asks

Placing and reading an order never save anything.  A cancellation loads the order,
decides on the loaded copy, and is then left with the one question whether it may
write what it has decided (`writing`).

Reading fails only as the store does, and so does a cancellation where it does not refuse:
neither computes an amount.
-/

namespace OrderDesk

namespace Service

/-- What is left of a cancellation once the copy to be written is decided. -/
def writing (copy : Order) : Task Failure Order :=
  .ask (.save copy) fun
    | .ok stamp => .done (copy.stamped stamp)
    | .error e => .fail (passed e)

/-- The copy that a cancellation makes of a stored order and writes. -/
def cancelledCopy (o : Order) : Order :=
  { o.withoutLines with status := .cancelled }

@[simp] theorem cancelledCopy_id (o : Order) : (cancelledCopy o).id = o.id := rfl

@[simp] theorem cancelledCopy_status (o : Order) :
    (cancelledCopy o).status = .cancelled := rfl

@[simp] theorem cancelledCopy_version (o : Order) :
    (cancelledCopy o).version = o.version := rfl

/-- A cancellation decides to write exactly the user's own order, cancelled, if its
status still allows that. -/
theorem decideCancel_eq_ok_iff
    {id userId : Identifier} {o copy : Order} :
    decideCancel id userId o.withoutLines = .ok copy ↔
      o.userId = userId ∧ o.status.canCancel = true ∧ copy = cancelledCopy o := by
  by_cases hown : o.userId = userId
  · by_cases hcan : o.status.canCancel = true
    · simp [decideCancel, Order.isOwnedBy, Order.cancel?, Order.withoutLines,
        cancelledCopy, hown, hcan, eq_comm]
    · simp [decideCancel, Order.isOwnedBy, Order.cancel?, Order.withoutLines, hown, hcan]
  · simp [decideCancel, Order.isOwnedBy, Order.withoutLines, hown]

/-- To the owner, a cancellation is refused exactly because of the status. -/
theorem decideCancel_eq_error
    {id userId : Identifier} {o : Order} {failure : Failure}
    (own : o.userId = userId)
    (refuses : decideCancel id userId o.withoutLines = .error failure) :
    o.status.canCancel = false ∧
      failure = refused (.invalidTransition o.status .cancelled) := by
  cases hcan : o.status.canCancel with
  | true =>
      rw [decideCancel_eq_ok_iff.mpr ⟨own, hcan, rfl⟩] at refuses
      cases refuses
  | false =>
      simp only [decideCancel, Order.isOwnedBy, Order.cancel?, Order.withoutLines, own, hcan,
        beq_self_eq_true] at refuses
      cases refuses
      exact ⟨rfl, rfl⟩

/-! ## What placing and reading ask -/

theorem productFor_asks
    (known : Known)
    (id : Identifier) :
    (productFor known id).All fun c => c.kind = .product := by
  rw [productFor]
  split
  · trivial
  · refine ⟨rfl, ?_⟩
    intro r
    cases r with
    | ok product =>
        trivial
    | error e =>
        cases e <;> trivial

theorem priceLines_asks
    (lines : List ValidLine)
    (known : Known) :
    (priceLines lines known).All fun c => c.kind = .product := by
  induction lines generalizing known with
  | nil =>
      trivial
  | cons line lines ih =>
      refine Dialogue.all_bind (productFor_asks known line.productId) ?_
      rintro ⟨product, known'⟩
      refine Dialogue.all_bind (Dialogue.all_ofExcept _ _) ?_
      intro priced
      refine Dialogue.all_bind (ih known') ?_
      intro rest
      trivial

theorem place_asks
    (policy : OrderPolicy)
    (userId : Identifier)
    (request : List LineRequest) :
    (place policy userId request).All fun c => c.kind = .product ∨ c.kind = .create := by
  refine Dialogue.all_bind (Dialogue.all_ofExcept _ _) ?_
  intro valid
  refine Dialogue.all_bind ((priceLines_asks valid []).mono fun _ => Or.inl) ?_
  rintro ⟨lines, known⟩
  refine Dialogue.all_bind ?_ fun _ => trivial
  refine ⟨Or.inr rfl, ?_⟩
  intro r
  cases r with
  | ok order =>
      trivial
  | error e =>
      cases e <;> trivial

theorem place_saves_nothing
    (policy : OrderPolicy)
    (userId : Identifier)
    (request : List LineRequest) :
    (place policy userId request).All fun c => c.kind ≠ .save := by
  refine (place_asks policy userId request).mono ?_
  rintro c (hc | hc)
  · rw [hc]
    decide
  · rw [hc]
    decide

theorem list_asks
    (userId : Identifier)
    (query : OrderQuery) :
    (list userId query).All fun c => c.kind = .page := by
  refine ⟨rfl, ?_⟩
  intro r
  cases r <;> trivial

theorem get_saves_nothing
    (id : Identifier) :
    (get id).All fun c => c.kind ≠ .save := by
  refine ⟨nofun, ?_⟩
  intro r
  cases r <;> trivial

/-! ## What reading and cancelling report -/

theorem get_fails
    (id : Identifier) :
    (get id).FailsBy fun failure => ∃ e, failure = passed e := by
  intro r
  cases r with
  | ok order =>
      trivial
  | error e =>
      exact ⟨e, rfl⟩

theorem list_fails
    (userId : Identifier)
    (query : OrderQuery) :
    (list userId query).FailsBy fun failure => ∃ e, failure = passed e := by
  intro r
  cases r with
  | ok listing =>
      trivial
  | error e =>
      exact ⟨e, rfl⟩

theorem decideCancel_fails
    {id userId : Identifier} {order : Order} {failure : Failure}
    (refuses : decideCancel id userId order = .error failure) :
    ∃ e, failure = refused e := by
  rw [decideCancel] at refuses
  split at refuses
  · split at refuses
    · cases refuses
    · cases refuses
      exact ⟨_, rfl⟩
  · cases refuses
    exact ⟨_, rfl⟩

theorem cancel_fails
    (id userId : Identifier) :
    (cancel id userId).FailsBy fun failure => ∃ e, failure = .error e := by
  intro loaded
  cases loaded with
  | error e =>
      exact ⟨.store e, rfl⟩
  | ok order =>
      cases hdecide : decideCancel id userId order with
      | error failure =>
          obtain ⟨e, rfl⟩ := decideCancel_fails hdecide
          simp only [hdecide]
          exact ⟨.rule e, rfl⟩
      | ok copy =>
          simp only [hdecide]
          intro saved
          cases saved with
          | ok stamp =>
              trivial
          | error e =>
              exact ⟨.store e, rfl⟩

end Service

end OrderDesk
