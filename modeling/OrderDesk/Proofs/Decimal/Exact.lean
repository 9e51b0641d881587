import Mathlib.Algebra.Order.BigOperators.Group.List
import Mathlib.Tactic.FieldSimp
import Mathlib.Tactic.Linarith
import Mathlib.Tactic.NormNum
import OrderDesk.Proofs.Decimal
import OrderDesk.Proofs.Decimal.Size

/-!
# Amounts that need no rounding

A product or a sum that fits into a decimal is kept to the last place.  Amounts of at most
four places below `10 ^ 16` fit, and so do their sums as long as they stay below it.

* `IsAmount`: at most four places, not below zero, and a zero has no places.
* `fit?_of_fits`: what fits is not rounded.
* `mul_exact`, `add_exact`, and for whole lists `sum_exact`.
* `sum_perm`: an exact sum does not depend on the order of the amounts, not even in its
  scale.
-/

namespace OrderDesk
namespace Decimal

/-- An amount of at most four places that is not below zero.  A zero has no places. -/
structure IsAmount (d : Decimal) : Prop where
  nonneg : d.negative = false
  scale_le : d.scale ≤ 4
  scale_of_zero : d.mantissa = 0 → d.scale = 0

theorem isAmount_zero : zero.IsAmount := ⟨rfl, by decide, fun _ => rfl⟩

/-! ## Values -/

section Value

variable {d : Decimal}

theorem ten_pow_pos (n : ℕ) : (0 : ℚ) < 10 ^ n := pow_pos (by norm_num) n

theorem cast_powerOfTen (n : ℕ) : ((Text.powerOfTen n : ℕ) : ℚ) = 10 ^ n := by
  rw [Text.powerOfTen, Nat.pow_eq]
  norm_cast

theorem value_of_nonneg
    (nonneg : d.negative = false) :
    d.value = d.mantissa / 10 ^ d.scale := by
  simp [value, coefficient, nonneg]

theorem value_of_isZero
    (h : d.isZero = true) :
    d.value = 0 := by
  have hzero : d.mantissa = 0 := by simpa [isZero] using h
  simp [value, coefficient, hzero]

/-- A decimal whose value is not below zero is not negative, or it is a zero. -/
theorem negative_of_value_nonneg
    (nonneg : 0 ≤ d.value)
    (h : d.isZero = false) :
    d.negative = false := by
  have hpos : 0 < d.mantissa := by
    simp only [isZero, beq_eq_false_iff_ne] at h
    omega
  by_contra hnegative
  rw [Bool.not_eq_false] at hnegative
  have hbelow : d.value < 0 := by
    rw [value, coefficient, hnegative]
    apply div_neg_of_neg_of_pos _ (ten_pow_pos _)
    simpa using hpos
  exact absurd nonneg (not_le.mpr hbelow)

/-- A bound on the value is one on the mantissa. -/
theorem atMost_of_value_lt
    {bound : ℕ}
    (nonneg : 0 ≤ d.value)
    (small : d.value < bound) :
    d.AtMost bound := by
  cases hzero : d.isZero with
  | true =>
      exact atMost_of_isZero bound hzero
  | false =>
      rw [value_of_nonneg (negative_of_value_nonneg nonneg hzero),
        div_lt_iff₀ (ten_pow_pos _), ← cast_powerOfTen] at small
      exact Nat.le_of_lt (by exact_mod_cast small)

theorem IsAmount.value_nonneg
    (amount : d.IsAmount) :
    0 ≤ d.value := by
  rw [value_of_nonneg amount.nonneg]
  positivity

/-- Amounts of one value and one scale are the same. -/
theorem IsAmount.eq_of_value_eq
    {d' : Decimal}
    (amount : d.IsAmount)
    (amount' : d'.IsAmount)
    (value : d.value = d'.value)
    (scale : d.scale = d'.scale) :
    d = d' := by
  rw [value_of_nonneg amount.nonneg, value_of_nonneg amount'.nonneg, scale,
    div_left_inj' (ten_pow_pos _).ne'] at value
  have mantissa : d.mantissa = d'.mantissa := by exact_mod_cast value
  have negative : d.negative = d'.negative := amount.nonneg.trans amount'.nonneg.symm
  cases d
  cases d'
  simp only at negative mantissa scale
  subst negative mantissa scale
  rfl

end Value

/-! ## Results that fit -/

@[simp] theorem roundHalfEven_one (n : ℕ) : roundHalfEven n 1 = n := by
  simp [roundHalfEven, Nat.mod_one]

theorem withSign_natAbs (n : ℤ) : withSign n n.natAbs = n := by
  rw [withSign]
  split <;> omega

/-- What fits is not rounded. -/
theorem fit?_of_fits
    {exact : ℤ} {scale : ℕ}
    (fits : exact.natAbs < mantissaBound)
    (few : scale ≤ maxScale) :
    fit? exact scale = some ⟨decide (exact < 0), exact.natAbs, scale, fits, few⟩ := by
  have hone : Text.powerOfTen 0 = 1 := rfl
  rw [fit?, List.range_succ_eq_map, List.findSome?_cons, hone, roundHalfEven_one,
    withSign_natAbs, ofParts?, ofSigned?, Nat.sub_zero, dif_pos ⟨fits, few⟩]

/-- A result that is not below zero and fits is an amount. -/
theorem fit?_amount
    {n scale : ℕ}
    (pos : 0 < n)
    (few : scale ≤ 4)
    (small : (n : ℚ) / 10 ^ scale < 10 ^ 16) :
    ∃ d, fit? n scale = some d ∧ d.IsAmount ∧ d.value = n / 10 ^ scale ∧ d.scale = scale := by
  have hfits : (n : ℤ).natAbs < mantissaBound := by
    rw [div_lt_iff₀ (ten_pow_pos _)] at small
    have hsmall : n < 10 ^ 16 * 10 ^ scale := by exact_mod_cast small
    have hscale : 10 ^ scale ≤ 10 ^ 4 := Nat.pow_le_pow_right (by decide) few
    have hbound : mantissaBound = 79228162514264337593543950336 := rfl
    rw [Int.natAbs_natCast, hbound]
    omega
  have hsign : decide ((n : ℤ) < 0) = false := by simp
  refine ⟨_, fit?_of_fits hfits (few.trans (by decide)), ⟨hsign, few, ?_⟩, ?_, rfl⟩
  · intro h
    have hzero : (n : ℤ).natAbs = 0 := h
    omega
  · refine (value_of_nonneg hsign).trans ?_
    show (((n : ℤ).natAbs : ℕ) : ℚ) / 10 ^ scale = n / 10 ^ scale
    rw [Int.natAbs_natCast]

/-! ## Operations -/

theorem coefficient_of_nonneg
    {d : Decimal}
    (nonneg : d.negative = false) :
    d.coefficient = d.mantissa := by
  rw [coefficient, nonneg]
  rfl

/-- A product of few places that is not too large is exact. -/
theorem mul_exact
    {a b : Decimal}
    (ha : 0 ≤ a.value)
    (hb : 0 ≤ b.value)
    (few : a.scale + b.scale ≤ 4)
    (small : a.value * b.value < 10 ^ 16) :
    ∃ d, a.mul b = .ok d ∧ d.IsAmount ∧ d.value = a.value * b.value := by
  rw [mul]
  split
  · rename_i h
    refine ⟨zero, rfl, isAmount_zero, ?_⟩
    have hzero : a.value = 0 ∨ b.value = 0 :=
      (Bool.or_eq_true _ _ ▸ h).imp value_of_isZero value_of_isZero
    rw [value_of_isZero (show zero.isZero = true from rfl), eq_comm, mul_eq_zero]
    exact hzero
  · rename_i h
    rw [Bool.not_eq_true, Bool.or_eq_false_iff] at h
    have ha' := negative_of_value_nonneg ha h.1
    have hb' := negative_of_value_nonneg hb h.2
    have hvalue : a.value * b.value =
        ((a.mantissa * b.mantissa : ℕ) : ℚ) / 10 ^ (a.scale + b.scale) := by
      rw [value_of_nonneg ha', value_of_nonneg hb', div_mul_div_comm, pow_add, Nat.cast_mul]
    have hpos : 0 < a.mantissa * b.mantissa := by
      simp only [isZero, beq_eq_false_iff_ne] at h
      exact Nat.mul_pos (Nat.pos_of_ne_zero h.1) (Nat.pos_of_ne_zero h.2)
    rw [hvalue] at small ⊢
    obtain ⟨d, hfit, hd, hsame, _⟩ := fit?_amount hpos few small
    rw [coefficient_of_nonneg ha', coefficient_of_nonneg hb', ← Nat.cast_mul, hfit]
    exact ⟨d, rfl, hd, hsame⟩

theorem IsAmount.scale_of_isZero
    {d : Decimal}
    (amount : d.IsAmount)
    (h : d.isZero = true) :
    d.scale = 0 :=
  amount.scale_of_zero (by simpa [isZero] using h)

/-- A sum of amounts that is not too large is exact. -/
theorem add_exact
    {a b : Decimal}
    (ha : a.IsAmount)
    (hb : b.IsAmount)
    (small : a.value + b.value < 10 ^ 16) :
    ∃ s, a.add b = .ok s ∧ s.IsAmount ∧ s.value = a.value + b.value ∧
      s.scale = max a.scale b.scale := by
  rw [add]
  split
  · rename_i h
    refine ⟨b, rfl, hb, ?_, ?_⟩
    · rw [value_of_isZero h, zero_add]
    · rw [ha.scale_of_isZero h, Nat.zero_max]
  · split
    · rename_i h
      refine ⟨a, rfl, ha, ?_, ?_⟩
      · rw [value_of_isZero h, add_zero]
      · rw [hb.scale_of_isZero h, Nat.max_zero]
    · rename_i ha' hb'
      dsimp only
      generalize hscale : max a.scale b.scale = scale
      have hat : ∀ d : Decimal, d.IsAmount → d.scale ≤ scale →
          d.coefficientAt scale = (d.mantissa * Text.powerOfTen (scale - d.scale) : ℕ) ∧
          d.value = ((d.mantissa * Text.powerOfTen (scale - d.scale) : ℕ) : ℚ) / 10 ^ scale := by
        intro d hd hle
        constructor
        · rw [coefficientAt, coefficient_of_nonneg hd.nonneg, Nat.cast_mul]
        · rw [value_of_nonneg hd.nonneg, Nat.cast_mul, cast_powerOfTen,
            div_eq_div_iff (ten_pow_pos _).ne' (ten_pow_pos _).ne', mul_assoc, ← pow_add,
            Nat.sub_add_cancel hle]
      obtain ⟨hacoefficient, havalue⟩ := hat a ha (by omega)
      obtain ⟨hbcoefficient, hbvalue⟩ := hat b hb (by omega)
      rw [hacoefficient, hbcoefficient, ← Nat.cast_add]
      rw [havalue, hbvalue, ← add_div, ← Nat.cast_add] at small ⊢
      have hpos : 0 < a.mantissa * Text.powerOfTen (scale - a.scale) := by
        simp only [isZero, beq_iff_eq] at ha'
        exact Nat.mul_pos (Nat.pos_of_ne_zero ha') (powerOfTen_pos _)
      have hfew : scale ≤ 4 := by
        rw [← hscale]
        exact Nat.max_le.mpr ⟨ha.scale_le, hb.scale_le⟩
      obtain ⟨s, hfit, hs, hsame, hplaces⟩ :=
        fit?_amount (Nat.add_pos_left hpos _) hfew small
      rw [hfit]
      exact ⟨s, rfl, hs, hsame, hplaces⟩

/-- A running sum of amounts is exact as long as the whole sum is not too large.  Its scale
is the least that no amount exceeds. -/
theorem foldlM_add_exact
    {ds : List Decimal} {first : Decimal}
    (hfirst : first.IsAmount)
    (each : ∀ d ∈ ds, d.IsAmount)
    (small : first.value + (ds.map value).sum < 10 ^ 16) :
    ∃ total, ds.foldlM add first = Except.ok total ∧ total.IsAmount ∧
      total.value = first.value + (ds.map value).sum ∧
      ∀ n, total.scale ≤ n ↔ first.scale ≤ n ∧ ∀ d ∈ ds, d.scale ≤ n := by
  induction ds generalizing first with
  | nil =>
      exact ⟨first, rfl, hfirst, by simp, by simp⟩
  | cons d ds ih =>
      rw [List.map_cons, List.sum_cons, ← add_assoc] at small ⊢
      have hd := each d (List.mem_cons_self ..)
      have hrest : 0 ≤ (ds.map value).sum := by
        apply List.sum_nonneg
        intro v hv
        obtain ⟨d', hd', rfl⟩ := List.mem_map.mp hv
        exact (each d' (List.mem_cons_of_mem _ hd')).value_nonneg
      obtain ⟨next, hadd, hnext, hvalue, hscale⟩ := add_exact hfirst hd (by linarith)
      rw [← hvalue] at small
      obtain ⟨total, hfold, htotal, hsame, hplaces⟩ :=
        ih hnext (fun d' hd' => each d' (List.mem_cons_of_mem _ hd')) small
      rw [List.foldlM_cons, hadd]
      refine ⟨total, hfold, htotal, by rw [hsame, hvalue], ?_⟩
      intro n
      rw [hplaces, hscale, Nat.max_le, List.forall_mem_cons, and_assoc]

theorem sum_exact
    {ds : List Decimal}
    (each : ∀ d ∈ ds, d.IsAmount)
    (small : (ds.map value).sum < 10 ^ 16) :
    ∃ total, sum ds = .ok total ∧ total.IsAmount ∧
      total.value = (ds.map value).sum ∧
      ∀ n, total.scale ≤ n ↔ ∀ d ∈ ds, d.scale ≤ n := by
  have hzero : zero.value = 0 := value_of_isZero rfl
  obtain ⟨total, hsum, htotal, hvalue, hscale⟩ :=
    foldlM_add_exact isAmount_zero each (by rwa [hzero, zero_add])
  refine ⟨total, hsum, htotal, by rw [hvalue, hzero, zero_add], ?_⟩
  intro n
  rw [hscale]
  exact and_iff_right (Nat.zero_le n)

/-- An exact sum does not depend on the order of the amounts. -/
theorem sum_perm
    {ds ds' : List Decimal} {total : Decimal}
    (each : ∀ d ∈ ds, d.IsAmount)
    (small : (ds.map value).sum < 10 ^ 16)
    (perm : ds'.Perm ds)
    (hsum : sum ds = .ok total) :
    sum ds' = .ok total := by
  have hvalues : (ds'.map value).sum = (ds.map value).sum := (perm.map value).sum_eq
  obtain ⟨sum₁, hsum₁, amount₁, value₁, scale₁⟩ := sum_exact each small
  obtain ⟨sum₂, hsum₂, amount₂, value₂, scale₂⟩ :=
    sum_exact (fun d hd => each d (perm.mem_iff.mp hd)) (hvalues ▸ small)
  rw [hsum] at hsum₁
  cases hsum₁
  have hscale : ∀ n, sum₂.scale ≤ n ↔ total.scale ≤ n := by
    intro n
    rw [scale₁, scale₂]
    exact ⟨fun h d hd => h d (perm.mem_iff.mpr hd), fun h d hd => h d (perm.mem_iff.mp hd)⟩
  have hsame : sum₂.scale = total.scale :=
    Nat.le_antisymm ((hscale _).mpr le_rfl) ((hscale _).mp le_rfl)
  rw [hsum₂, amount₂.eq_of_value_eq amount₁ (by rw [value₁, value₂, hvalues]) hsame]

end Decimal
end OrderDesk
