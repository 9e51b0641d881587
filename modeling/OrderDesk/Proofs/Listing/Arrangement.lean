import Mathlib.Data.List.Nodup
import Mathlib.Data.Prod.Lex
import Mathlib.Data.String.Basic
import OrderDesk.Listing.Query
import OrderDesk.Proofs.Decimal
import OrderDesk.Proofs.Sorting

/-!
# The order of a listing

Every column of an order has a `key` in some linear order: times by their seconds and
then their nanoseconds, texts by their characters, amounts by their value.  A listing
is sorted by the key of one column, upwards or downwards, and orders with equal keys
keep the places that they have in the store, in both directions
(`pairwise_arrange`).
-/

namespace OrderDesk

/-! ## Keys -/

/-- What the values of a column are compared as. -/
def SortColumn.Key : SortColumn → Type
  | .createdAt | .updatedAt => ℤ ×ₗ ℕ
  | .code | .status => String
  | .totalPrice => ℚ

instance : (column : SortColumn) → LinearOrder column.Key
  | .createdAt | .updatedAt => inferInstanceAs (LinearOrder (ℤ ×ₗ ℕ))
  | .code | .status => inferInstanceAs (LinearOrder String)
  | .totalPrice => inferInstanceAs (LinearOrder ℚ)

/-- The place of an instant in time. -/
def Instant.key (t : Instant) : ℤ ×ₗ ℕ :=
  toLex (t.seconds, t.nanos)

/-- The value of an order in a column. -/
def Order.key (o : Order) : (column : SortColumn) → column.Key
  | .createdAt => o.createdAt.key
  | .updatedAt => o.updatedAt.key
  | .code => o.code
  | .status => o.status.text
  | .totalPrice => o.totalPrice.value

theorem Instant.cmp_eq_compare_key
    (a b : Instant) :
    a.cmp b = compare a.key b.key := by
  rw [Prod.Lex.compare_def]
  rfl

namespace OrderQuery

theorem compareText_eq_compare
    (a b : String) :
    compareText a b = Ord.compare a b := by
  rw [LinearOrder.compare_eq_compareOfLessAndEq]
  rfl

theorem compareBy_eq_compare_key
    (column : SortColumn)
    (a b : Order) :
    compareBy column a b = Ord.compare (a.key column) (b.key column) := by
  cases column with
  | createdAt => exact Instant.cmp_eq_compare_key _ _
  | updatedAt => exact Instant.cmp_eq_compare_key _ _
  | code => exact compareText_eq_compare _ _
  | status => exact compareText_eq_compare _ _
  | totalPrice => exact Decimal.cmp_eq_compare_value _ _

/-- One order has a lesser key than another, or a greater one where the query sorts
downwards. -/
def Before (q : OrderQuery) (a b : Order) : Prop :=
  if q.descending then b.key q.orderBy < a.key q.orderBy
  else a.key q.orderBy < b.key q.orderBy

/-- Two orders have the same key. -/
def Ties (q : OrderQuery) (a b : Order) : Prop :=
  a.key q.orderBy = b.key q.orderBy

/-- An order of the user that has the code and the status of the query, where it names
them. -/
structure Admits (q : OrderQuery) (userId : Identifier) (o : Order) : Prop where
  user : o.userId = userId
  code : ∀ code ∈ q.code, o.code = code
  status : ∀ status ∈ q.status, o.status = status

theorem selects_iff
    (q : OrderQuery)
    (userId : Identifier)
    (o : Order) :
    q.selects userId o = true ↔ q.Admits userId o := by
  have hparts : q.Admits userId o ↔
      (o.userId = userId ∧ ∀ code ∈ q.code, o.code = code) ∧
        ∀ status ∈ q.status, o.status = status :=
    ⟨fun h => ⟨⟨h.user, h.code⟩, h.status⟩, fun h => ⟨h.1.1, h.1.2, h.2⟩⟩
  rw [hparts, selects]
  cases q.code <;> cases q.status <;> simp

section Order

variable (q : OrderQuery) (a b c : Order)

theorem isLE_compare_iff :
    (q.compare a b).isLE = true ↔ ¬ q.Before b a := by
  rw [compare, Before, compareBy_eq_compare_key]
  by_cases h : q.descending = true
  · rw [if_pos h, if_pos h, Ordering.isLE_swap, Ordering.isGE_iff_ne_lt, compare_lt_iff_lt]
  · rw [if_neg h, if_neg h, Ordering.isLE_iff_ne_gt, compare_gt_iff_gt]

theorem before_trichotomy :
    q.Before a b ∨ q.Ties a b ∨ q.Before b a := by
  rw [Before, Before, Ties]
  by_cases h : q.descending = true
  · rw [if_pos h, if_pos h]
    rcases lt_trichotomy (a.key q.orderBy) (b.key q.orderBy) with h | h | h
    · exact Or.inr (Or.inr h)
    · exact Or.inr (Or.inl h)
    · exact Or.inl h
  · rw [if_neg h, if_neg h]
    exact lt_trichotomy _ _

theorem not_before_trans
    (hab : ¬ q.Before b a)
    (hbc : ¬ q.Before c b) :
    ¬ q.Before c a := by
  rw [Before] at hab hbc ⊢
  by_cases h : q.descending = true
  · rw [if_pos h, not_lt] at hab hbc ⊢
    exact le_trans hbc hab
  · rw [if_neg h, not_lt] at hab hbc ⊢
    exact le_trans hab hbc

theorem not_before_swap
    (before : q.Before a b) :
    ¬ q.Before b a := by
  rw [Before] at before ⊢
  by_cases h : q.descending = true
  · rw [if_pos h] at before ⊢
    exact before.not_gt
  · rw [if_neg h] at before ⊢
    exact before.not_gt

end Order

section Arrange

variable (q : OrderQuery) (userId : Identifier) {orders : List Order}

theorem mem_arrange
    {o : Order} :
    o ∈ q.arrange userId orders ↔ o ∈ orders ∧ q.Admits userId o := by
  rw [arrange, List.mem_mergeSort, List.mem_filter, selects_iff]

theorem nodup_arrange
    (nodup : orders.Nodup) :
    (q.arrange userId orders).Nodup :=
  (List.mergeSort_perm _ _).nodup_iff.mpr (nodup.filter _)

/-- In a listing the order with the lesser key comes first, and of two with equal keys
the one that comes first in the store. -/
theorem pairwise_arrange
    (nodup : orders.Nodup) :
    (q.arrange userId orders).Pairwise fun a b =>
      q.Before a b ∨ (q.Ties a b ∧ [a, b].Sublist orders) := by
  have htrans : ∀ a b c, (q.compare a b).isLE = true → (q.compare b c).isLE = true →
      (q.compare a c).isLE = true := by
    intro a b c hab hbc
    rw [isLE_compare_iff] at *
    exact q.not_before_trans a b c hab hbc
  have htotal : ∀ a b, ((q.compare a b).isLE || (q.compare b a).isLE) = true := by
    intro a b
    rw [Bool.or_eq_true, isLE_compare_iff, isLE_compare_iff, ← not_and_or]
    rintro ⟨hba, hab⟩
    exact q.not_before_swap a b hab hba
  have stable := pairwise_mergeSort_stable htrans htotal (nodup.filter (q.selects userId))
  refine stable.imp ?_
  intro a b ⟨hab, places⟩
  rw [isLE_compare_iff] at hab places
  rcases q.before_trichotomy a b with h | h | h
  · exact Or.inl h
  · by_cases hba : q.Before a b
    · exact Or.inl hba
    · exact Or.inr ⟨h, (places hba).trans (List.filter_sublist ..)⟩
  · exact absurd h hab

end Arrange

end OrderQuery
end OrderDesk
