import Mathlib.Algebra.Order.Group.Unbundled.Int
import Mathlib.Tactic.Ring
import OrderDesk.Decimal

/-!
# Amounts that are not too large

A product or a sum is too large only if its whole part is: digits behind the point are
dropped as far as needed.  So bounds on the whole parts of the operands are enough to tell
that an operation succeeds, and they give a bound for its result.

* `AtMost bound d`: the decimal lies between `-bound` and `bound`.
* `fit?_of_small`: what lies between such bounds is fitted in.
* `mul_of_small`, `add_of_small`, and for whole lists `sum_of_small`.
-/

namespace OrderDesk

open Text (powerOfTen)

namespace Decimal

/-- The decimal lies between two whole numbers of the same size. -/
def AtMost (bound : Nat) (d : Decimal) : Prop :=
  d.mantissa ≤ bound * powerOfTen d.scale

instance (bound : Nat) (d : Decimal) : Decidable (d.AtMost bound) :=
  inferInstanceAs (Decidable (d.mantissa ≤ bound * powerOfTen d.scale))

theorem powerOfTen_pos (n : Nat) : 0 < powerOfTen n :=
  Nat.pow_pos (by decide)

theorem powerOfTen_add (m n : Nat) : powerOfTen (m + n) = powerOfTen m * powerOfTen n :=
  Nat.pow_add 10 m n

@[simp] theorem natAbs_coefficient (d : Decimal) : d.coefficient.natAbs = d.mantissa := by
  rw [coefficient]
  split <;> simp

@[simp] theorem natAbs_withSign (sign : Int) (size : Nat) :
    (withSign sign size).natAbs = size := by
  rw [withSign]
  split <;> simp

theorem AtMost.mono
    {bound bound' : Nat} {d : Decimal}
    (small : d.AtMost bound)
    (le : bound ≤ bound') :
    d.AtMost bound' :=
  Nat.le_trans small (Nat.mul_le_mul_right _ le)

theorem atMost_of_isZero
    (bound : Nat)
    {d : Decimal}
    (h : d.isZero = true) :
    d.AtMost bound := by
  have hzero : d.mantissa = 0 := by simpa [isZero] using h
  rw [AtMost, hzero]
  exact Nat.zero_le _

theorem atMost_ofInt32
    {n : Int32}
    (pos : 0 < n) :
    (ofInt32 n).AtMost (2 ^ 31) := by
  have low : 0 < n.toInt := Int32.lt_iff_toInt_lt.mp pos
  have high := n.toInt_lt
  have hscale : powerOfTen (ofInt32 n).scale = 1 := rfl
  rw [AtMost, hscale]
  change n.toInt.natAbs ≤ _
  omega

/-! ## Fitting -/

/-- Rounding does not lead beyond a whole number. -/
theorem roundHalfEven_le
    {n d bound : Nat}
    (pos : 0 < d)
    (small : n ≤ bound * d) :
    roundHalfEven n d ≤ bound := by
  have hdivision := Nat.div_add_mod n d
  have hquotient : n / d ≤ bound := Nat.div_le_of_le_mul (by rwa [Nat.mul_comm])
  -- a quotient that is rounded up has a rest, and is below the bound
  have hup : 0 < n % d → n / d < bound := by
    intro rest
    refine Nat.lt_of_mul_lt_mul_left (a := d) ?_
    rw [Nat.mul_comm d bound]
    omega
  rw [roundHalfEven]
  split
  · exact hquotient
  · split
    · have := hup (by omega)
      omega
    · have := hup (by omega)
      omega

theorem mantissa_of_ofParts?
    {coefficient : Int} {scale : Nat} {d : Decimal}
    (made : ofParts? coefficient scale = some d) :
    d.mantissa = coefficient.natAbs ∧ d.scale = scale := by
  rw [ofParts?, ofSigned?] at made
  split at made
  · cases made
    exact ⟨rfl, rfl⟩
  · cases made

/-- An exact result between two whole numbers that are not too large is fitted in, and stays
between them. -/
theorem fit?_of_small
    {exact : Int} {scale bound : Nat}
    (small : exact.natAbs ≤ bound * powerOfTen scale)
    (fits : bound < mantissaBound) :
    ∃ d, fit? exact scale = some d ∧ d.AtMost bound := by
  have hrounded : ∀ dropped, dropped ≤ scale →
      roundHalfEven exact.natAbs (powerOfTen dropped) ≤
        bound * powerOfTen (scale - dropped) := by
    intro dropped hdropped
    apply roundHalfEven_le (powerOfTen_pos dropped)
    rw [Nat.mul_assoc, ← powerOfTen_add, Nat.sub_add_cancel hdropped]
    exact small
  -- without any places left there is room
  have hwhole : (fit? exact scale).isSome = true := by
    rw [fit?, List.findSome?_isSome_iff]
    refine ⟨scale, List.mem_range.mpr (Nat.lt_succ_self scale), ?_⟩
    have hsize := hrounded scale (Nat.le_refl scale)
    rw [Nat.sub_self] at hsize ⊢
    have hone : powerOfTen 0 = 1 := rfl
    rw [hone, Nat.mul_one] at hsize
    rw [ofParts?, ofSigned?, natAbs_withSign,
      dif_pos ⟨Nat.lt_of_le_of_lt hsize fits, Nat.zero_le _⟩]
    rfl
  obtain ⟨d, hfit⟩ := Option.isSome_iff_exists.mp hwhole
  refine ⟨d, hfit, ?_⟩
  obtain ⟨dropped, hmem, hmade⟩ := List.exists_of_findSome?_eq_some hfit
  obtain ⟨hmantissa, hscale⟩ := mantissa_of_ofParts? hmade
  rw [natAbs_withSign] at hmantissa
  rw [AtMost, hmantissa, hscale]
  exact hrounded dropped (Nat.le_of_lt_succ (List.mem_range.mp hmem))

/-! ## Operations -/

theorem mul_of_small
    {a b : Decimal} {bound bound' : Nat}
    (ha : a.AtMost bound)
    (hb : b.AtMost bound')
    (fits : bound * bound' < mantissaBound) :
    ∃ product, a.mul b = .ok product ∧ product.AtMost (bound * bound') := by
  rw [mul]
  split
  · exact ⟨zero, rfl, atMost_of_isZero _ rfl⟩
  · have hsize : (a.coefficient * b.coefficient).natAbs ≤
        bound * bound' * powerOfTen (a.scale + b.scale) := by
      rw [Int.natAbs_mul, natAbs_coefficient, natAbs_coefficient, powerOfTen_add]
      calc a.mantissa * b.mantissa
          ≤ (bound * powerOfTen a.scale) * (bound' * powerOfTen b.scale) :=
            Nat.mul_le_mul ha hb
        _ = bound * bound' * (powerOfTen a.scale * powerOfTen b.scale) := by ring
    obtain ⟨d, hfit, hd⟩ := fit?_of_small hsize fits
    rw [hfit]
    exact ⟨d, rfl, hd⟩

theorem natAbs_coefficientAt_le
    {d : Decimal} {bound scale : Nat}
    (small : d.AtMost bound)
    (le : d.scale ≤ scale) :
    (d.coefficientAt scale).natAbs ≤ bound * powerOfTen scale := by
  rw [coefficientAt, Int.natAbs_mul, natAbs_coefficient, Int.natAbs_natCast]
  calc d.mantissa * powerOfTen (scale - d.scale)
      ≤ bound * powerOfTen d.scale * powerOfTen (scale - d.scale) :=
        Nat.mul_le_mul_right _ small
    _ = bound * powerOfTen scale := by
        rw [Nat.mul_assoc, ← powerOfTen_add, Nat.add_sub_cancel' le]

theorem add_of_small
    {a b : Decimal} {bound bound' : Nat}
    (ha : a.AtMost bound)
    (hb : b.AtMost bound')
    (fits : bound + bound' < mantissaBound) :
    ∃ sum, a.add b = .ok sum ∧ sum.AtMost (bound + bound') := by
  rw [add]
  split
  · exact ⟨b, rfl, hb.mono (Nat.le_add_left ..)⟩
  · split
    · exact ⟨a, rfl, ha.mono (Nat.le_add_right ..)⟩
    · have hsize :
          (a.coefficientAt (max a.scale b.scale) +
            b.coefficientAt (max a.scale b.scale)).natAbs ≤
          (bound + bound') * powerOfTen (max a.scale b.scale) := by
        rw [Nat.add_mul]
        exact (Int.natAbs_add_le _ _).trans <| Nat.add_le_add
          (natAbs_coefficientAt_le ha (Nat.le_max_left ..))
          (natAbs_coefficientAt_le hb (Nat.le_max_right ..))
      obtain ⟨d, hfit, hd⟩ := fit?_of_small hsize fits
      dsimp only
      rw [hfit]
      exact ⟨d, rfl, hd⟩

/-- A running sum grows by at most one bound for each decimal. -/
theorem foldlM_add_of_small
    {bound start : Nat} {ds : List Decimal} {first : Decimal}
    (hfirst : first.AtMost start)
    (each : ∀ d ∈ ds, d.AtMost bound)
    (fits : start + ds.length * bound < mantissaBound) :
    ∃ total, ds.foldlM add first = Except.ok total ∧
      total.AtMost (start + ds.length * bound) := by
  induction ds generalizing start first with
  | nil =>
      exact ⟨first, rfl, by simpa using hfirst⟩
  | cons d ds ih =>
      rw [List.length_cons, Nat.succ_mul, Nat.add_comm (ds.length * bound),
        ← Nat.add_assoc] at fits ⊢
      have hd := each d (List.mem_cons_self ..)
      obtain ⟨next, hadd, hnext⟩ :=
        add_of_small hfirst hd (Nat.lt_of_le_of_lt (Nat.le_add_right ..) fits)
      rw [List.foldlM_cons, hadd]
      exact ih hnext (fun d' hd' => each d' (List.mem_cons_of_mem _ hd')) fits

theorem sum_of_small
    {bound : Nat} {ds : List Decimal}
    (each : ∀ d ∈ ds, d.AtMost bound)
    (fits : ds.length * bound < mantissaBound) :
    ∃ total, sum ds = .ok total ∧ total.AtMost (ds.length * bound) := by
  have hzero : zero.AtMost 0 := atMost_of_isZero 0 rfl
  have h := foldlM_add_of_small hzero each (by rwa [Nat.zero_add])
  rwa [Nat.zero_add] at h

end Decimal
end OrderDesk
