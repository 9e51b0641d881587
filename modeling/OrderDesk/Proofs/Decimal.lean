import Mathlib.Algebra.Order.Field.Basic
import Mathlib.Algebra.Order.Ring.Rat
import Mathlib.Data.Rat.Cast.Order
import Mathlib.Order.Compare
import OrderDesk.Decimal

/-!
# The value of a decimal

A decimal stands for a fraction, and decimals with different scales may stand for
the same one.  `Decimal.cmp` compares the fractions (`cmp_eq_compare_value`).
-/

namespace OrderDesk

/-- Comparisons agree where both strict orders do. -/
theorem compare_congr
    {α β : Type} [LinearOrder α] [LinearOrder β]
    {a b : α} {c d : β}
    (less : a < b ↔ c < d)
    (greater : b < a ↔ d < c) :
    compare a b = compare c d := by
  rcases lt_trichotomy a b with h | h | h
  · rw [compare_lt_iff_lt.mpr h, compare_lt_iff_lt.mpr (less.mp h)]
  · have hsame : c = d :=
      le_antisymm (not_lt.mp (mt greater.mpr h.not_gt)) (not_lt.mp (mt less.mpr h.not_lt))
    rw [compare_eq_iff_eq.mpr h, compare_eq_iff_eq.mpr hsame]
  · rw [compare_gt_iff_gt.mpr h, compare_gt_iff_gt.mpr (greater.mp h)]

namespace Decimal

/-- The fraction that a decimal stands for. -/
def value (d : Decimal) : ℚ :=
  d.coefficient / 10 ^ d.scale

theorem value_lt_iff
    (a b : Decimal) :
    a.coefficient * (Text.powerOfTen b.scale : Int) <
        b.coefficient * (Text.powerOfTen a.scale : Int) ↔
      a.value < b.value := by
  have hten : ∀ n : Nat, ((Text.powerOfTen n : Int) : ℚ) = 10 ^ n := by
    intro n
    rw [Text.powerOfTen, Nat.pow_eq]
    norm_cast
  have hpos : ∀ n : Nat, (0 : ℚ) < 10 ^ n := fun n => pow_pos (by norm_num) n
  rw [value, value, div_lt_div_iff₀ (hpos _) (hpos _), ← hten, ← hten]
  norm_cast

/-- Decimals are compared by their values. -/
theorem cmp_eq_compare_value
    (a b : Decimal) :
    a.cmp b = compare a.value b.value :=
  compare_congr (value_lt_iff a b) (value_lt_iff b a)

end Decimal
end OrderDesk
