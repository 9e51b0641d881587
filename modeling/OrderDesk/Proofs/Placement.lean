import Mathlib.Data.List.Forall2
import OrderDesk.Placement

/-!
# What a request is read as

A request passes validation exactly if every line of it does by itself, and a line that
passes is read as the identifier that it spells and the quantity that it names
(`validateFrom_eq_ok_iff`).
-/

namespace OrderDesk
namespace LineRequest

/-- A line that spells an identifier and names a positive quantity, and what it is read
as. -/
structure ReadsAs (line : LineRequest) (valid : ValidLine) : Prop where
  productId : Identifier.parse? (Text.trim line.productId.toList) = some valid.productId
  quantity : valid.quantity = line.quantity
  positive : 0 < line.quantity

theorem validate_eq_ok_iff
    (index : Nat)
    {line : LineRequest} {valid : ValidLine} :
    line.validate index = .ok valid ↔ line.ReadsAs valid := by
  have hblank : Identifier.parse? [] = none := by decide
  have hparts : line.ReadsAs valid ↔
      Identifier.parse? (Text.trim line.productId.toList) = some valid.productId ∧
        valid.quantity = line.quantity ∧ 0 < line.quantity :=
    ⟨fun h => ⟨h.productId, h.quantity, h.positive⟩, fun h => ⟨h.1, h.2.1, h.2.2⟩⟩
  rw [hparts, validate]
  cases htext : Text.trim line.productId.toList with
  | nil =>
      simp [hblank]
  | cons c cs =>
      cases hparse : Identifier.parse? (c :: cs) with
      | none =>
          simp
      | some id =>
          by_cases hquantity : line.quantity ≤ 0
          · simp [hquantity, Int32.not_lt.mpr hquantity]
          · obtain ⟨productId, quantity⟩ := valid
            simp [hquantity, Int32.not_le.mp hquantity, eq_comm]

theorem validateFrom_eq_ok_iff
    (index : Nat)
    {lines : List LineRequest} {valid : List ValidLine} :
    validateFrom index lines = .ok valid ↔ List.Forall₂ ReadsAs lines valid := by
  induction lines generalizing index valid with
  | nil =>
      simp [validateFrom, eq_comm]
  | cons line lines ih =>
      rw [validateFrom, List.forall₂_cons_left_iff]
      simp only [← validate_eq_ok_iff index, ← ih (index + 1)]
      cases hline : line.validate index with
      | error e =>
          simp [bind, Except.bind]
      | ok first =>
          cases hrest : validateFrom (index + 1) lines with
          | error e =>
              simp [bind, Except.bind]
          | ok rest =>
              simp [bind, Except.bind, pure, Except.pure, eq_comm]

end LineRequest

/-- What passes validation is a request each of whose lines does. -/
theorem OrderPolicy.readsAs_of_validate
    {policy : OrderPolicy} {request : List LineRequest} {valid : List ValidLine}
    (passes : policy.validate request = .ok valid) :
    List.Forall₂ LineRequest.ReadsAs request valid := by
  rw [validate] at passes
  split at passes
  · cases passes
  · split at passes
    · cases passes
    · exact (LineRequest.validateFrom_eq_ok_iff 0).mp passes

end OrderDesk
