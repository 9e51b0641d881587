import Mathlib.Tactic.NormNum
import Mathlib.Tactic.Ring
import OrderDesk.Instant.Text
import OrderDesk.Order.Code
import OrderDesk.Proofs.Decimal
import OrderDesk.Proofs.Decimal.Size
import OrderDesk.Proofs.Instant.Text
import OrderDesk.Sql.Statement

/-!
# The values that columns keep

A column may change the value that it is given, or refuse it.

* `money?`: an amount in a column of type `NUMERIC(20, 4)`.  It is rounded to four
  places, a half away from zero, and refused if more than sixteen digits stand before
  them.  An amount that needs no rounding keeps its value (`IsMoney.money?_eq`).
* `OrderCode.Fits`: a text in a column of type `VARCHAR(32)`.  Every generated code fits
  (`fits_generate`), because the years of instants are bounded.
-/

namespace OrderDesk

namespace Decimal

/-- Division of naturals, rounded to the nearest whole number, a half upwards. -/
def roundHalfUp (n d : Nat) : Nat := (2 * n + d) / (2 * d)

/-- The ten thousandths of an amount, without its sign. -/
def tenThousandths (d : Decimal) : Nat :=
  roundHalfUp (d.mantissa * 10000) (Text.powerOfTen d.scale)

/-- An amount as a column of twenty digits keeps it, four of them decimal places. -/
def money? (d : Decimal) : Option Decimal :=
  if d.tenThousandths < Text.powerOfTen 20 then
    ofSigned? (d.negative && d.tenThousandths != 0) d.tenThousandths 4
  else none

/-- An amount as it is kept, zero if it is refused. -/
def asMoney (d : Decimal) : Decimal := d.money?.getD zero

/-- An amount of at most four decimal places and at most sixteen digits before them. -/
def IsMoney (d : Decimal) : Prop :=
  (∃ units : ℤ, d.value = units / 10 ^ 4) ∧ |d.value| < 10 ^ 16

theorem roundHalfUp_of_dvd
    {n d q : Nat}
    (pos : 0 < d)
    (exact : n = q * d) :
    roundHalfUp n d = q := by
  have hn : 2 * n = 2 * d * q := by
    rw [exact]
    ring
  rw [roundHalfUp, hn, Nat.mul_add_div (by omega), Nat.div_eq_of_lt (by omega), Nat.add_zero]

@[simp] theorem value_withoutZeroPlaces (d : Decimal) :
    d.withoutZeroPlaces.value = d.value := by
  by_cases h : d.mantissa = 0
  · simp [withoutZeroPlaces, isZero, value, coefficient, zero, h]
  · simp [withoutZeroPlaces, isZero, h]

@[simp] theorem isMoney_withoutZeroPlaces
    {d : Decimal} :
    d.withoutZeroPlaces.IsMoney ↔ d.IsMoney := by
  rw [IsMoney, IsMoney, value_withoutZeroPlaces]

theorem coefficient_mul_eq
    {d : Decimal} {units : ℤ}
    (whole : d.value = units / 10 ^ 4) :
    d.coefficient * 10 ^ 4 = units * Text.powerOfTen d.scale := by
  have hscale : (Text.powerOfTen d.scale : ℤ) = 10 ^ d.scale := by
    rw [Text.powerOfTen, Nat.pow_eq]
    norm_cast
  have hpos : (0 : ℚ) < 10 ^ d.scale := pow_pos (by norm_num) _
  rw [value, div_eq_div_iff hpos.ne' (by norm_num)] at whole
  rw [hscale]
  exact_mod_cast whole

/-- The whole number of ten thousandths of an amount that needs no rounding. -/
theorem IsMoney.exists_units
    {d : Decimal}
    (money : d.IsMoney) :
    ∃ units : ℤ,
      d.value = units / 10 ^ 4 ∧
      units.natAbs = d.tenThousandths ∧
      units.natAbs < Text.powerOfTen 20 ∧
      (d.negative → units ≤ 0) ∧
      (¬ d.negative → 0 ≤ units) := by
  obtain ⟨⟨units, hunits⟩, hsize⟩ := money
  have hwhole := coefficient_mul_eq hunits
  have hten : (0 : ℤ) < Text.powerOfTen d.scale := by exact_mod_cast powerOfTen_pos d.scale
  refine ⟨units, hunits, ?_, ?_, ?_, ?_⟩
  · have h := congrArg Int.natAbs hwhole
    rw [Int.natAbs_mul, Int.natAbs_mul, natAbs_coefficient, Int.natAbs_natCast] at h
    exact (roundHalfUp_of_dvd (powerOfTen_pos _) h).symm
  · have hlt : |units| < 10 ^ 20 := by
      rw [hunits, abs_div, div_lt_iff₀ (by norm_num)] at hsize
      norm_num at hsize
      exact_mod_cast hsize
    have hpower : Text.powerOfTen 20 = 10 ^ 20 := by decide
    have habs : (units.natAbs : ℤ) = |units| := Int.natCast_natAbs units
    rw [hpower]
    omega
  · intro negative
    refine nonpos_of_mul_nonpos_left ?_ hten
    rw [← hwhole, coefficient, if_pos negative]
    omega
  · intro nonnegative
    refine nonneg_of_mul_nonneg_left ?_ hten
    rw [← hwhole, coefficient, if_neg nonnegative]
    omega

/-- An amount that needs no rounding is accepted, and keeps its value. -/
theorem IsMoney.money?_eq
    {d : Decimal}
    (money : d.IsMoney) :
    d.money? = some d.asMoney ∧ d.asMoney.value = d.value := by
  obtain ⟨units, hvalue, habs, hlt, hneg, hpos⟩ := money.exists_units
  have hbound : units.natAbs < mantissaBound ∧ 4 ≤ maxScale := by
    have hpower : Text.powerOfTen 20 < mantissaBound := by decide
    exact ⟨hlt.trans hpower, by decide⟩
  have hkept : d.money? =
      some ⟨d.negative && units.natAbs != 0, units.natAbs, 4, hbound.1, hbound.2⟩ := by
    rw [money?, ← habs, if_pos hlt, ofSigned?, dif_pos hbound]
  have has : d.asMoney =
      ⟨d.negative && units.natAbs != 0, units.natAbs, 4, hbound.1, hbound.2⟩ := by
    rw [asMoney, hkept, Option.getD_some]
  refine ⟨by rw [hkept, has], ?_⟩
  have hcoefficient : d.asMoney.coefficient = units := by
    rw [has, coefficient]
    cases hd : d.negative with
    | true =>
        have hle := hneg hd
        by_cases h : units = 0
        · simp [h]
        · simp [h, abs_of_nonpos hle]
    | false =>
        have hge := hpos (by simp [hd])
        simp [abs_of_nonneg hge]
  rw [value, hcoefficient, has, hvalue]

/-- Sent without zero places, such an amount still keeps its value. -/
theorem IsMoney.value_kept
    {d : Decimal}
    (money : d.IsMoney) :
    d.withoutZeroPlaces.asMoney.value = d.value := by
  rw [(isMoney_withoutZeroPlaces.mpr money).money?_eq.2, value_withoutZeroPlaces]

end Decimal

namespace Date

theorem length_compactChars_le
    {n : ℤ}
    (covered : Instant.coversDay n) :
    (ofDayNumber n).compactChars.length ≤ 11 := by
  have hcovered := Instant.coversDay_iff.mp covered
  obtain ⟨hmonth, hday⟩ := parts_le_of_isValid (isValid_ofDayNumber n)
  have hyear : (ofDayNumber n).year.natAbs < Text.powerOfTen (5 + 1) := by
    have hbounds := year_bounds n
    simp only [cycleDays, epochOffset] at hbounds
    show (ofDayNumber n).year.natAbs < 1000000
    omega
  have hyearChars : (yearChars (ofDayNumber n).year).length ≤ 7 := by
    have hdigits := Text.length_paddedDigits_le (show 4 ≤ 5 + 1 by decide) hyear
    rw [yearChars]
    split_ifs
    · rw [List.length_cons]
      omega
    · omega
    · rw [List.length_cons]
      omega
  have hmonthChars : (Text.paddedDigits 2 (ofDayNumber n).month).length ≤ 2 :=
    Text.length_paddedDigits_le (Nat.le_refl 2) (Nat.lt_of_le_of_lt hmonth (by decide))
  have hdayChars : (Text.paddedDigits 2 (ofDayNumber n).day).length ≤ 2 :=
    Text.length_paddedDigits_le (Nat.le_refl 2) (Nat.lt_of_le_of_lt hday (by decide))
  rw [compactChars, List.length_append, List.length_append]
  omega

end Date

namespace OrderCode

/-- A text as a column of thirty-two characters keeps it. -/
def Fits (code : String) : Prop := code.length ≤ 32

instance (code : String) : Decidable (Fits code) :=
  inferInstanceAs (Decidable (code.length ≤ 32))

theorem fits_generate
    {now : Instant}
    (covered : Instant.coversDay now.dayNumber)
    (draws : Draws) :
    Fits (generate now draws) := by
  have hdate := Date.length_compactChars_le covered
  rw [Fits, generate, String.length_ofList, List.length_append, head, List.length_append,
    tail, List.length_ofFn, Instant.date]
  have hmark : mark.length = 2 := rfl
  have htail : tailLength = 6 := rfl
  omega

end OrderCode
end OrderDesk
