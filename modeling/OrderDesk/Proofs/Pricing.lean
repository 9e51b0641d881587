import OrderDesk.Proofs.Database.Values
import OrderDesk.Proofs.Decimal.Exact
import OrderDesk.Proofs.Service.Prices

/-!
# Prices are exact

The columns of the catalog admit unit prices of four decimal places below `10 ^ 16`.  At
such prices no amount of an order of up to 3000 lines is too large.  If the order as a whole
stays below `10 ^ 16`, which is what the column of its total admits, then nothing is rounded
either.

* `Purchase`: what a line of an order is priced from, and `Purchase.Admitted` for one whose
  unit price the catalog may have.
* `Decimal.IsKept`: an amount that its column keeps as it is.
* `prices_are_exact`: the prices of the lines, their total, and what is stored of them.
-/

namespace OrderDesk

namespace Decimal

/-- A column of twenty digits, four of them decimal places, keeps the value of an amount. -/
def IsKept (d : Decimal) : Prop :=
  ∃ kept, d.money? = some kept ∧ kept.value = d.value

theorem IsAmount.isKept
    {d : Decimal}
    (amount : d.IsAmount)
    (small : d.value < 10 ^ 16) :
    d.IsKept := by
  have money : d.IsMoney := by
    constructor
    · refine ⟨(d.mantissa * 10 ^ (4 - d.scale) : ℕ), ?_⟩
      rw [value_of_nonneg amount.nonneg, Int.cast_natCast, Nat.cast_mul, Nat.cast_pow,
        Nat.cast_ofNat, div_eq_div_iff (ten_pow_pos _).ne' (ten_pow_pos _).ne', mul_assoc,
        ← pow_add, Nat.sub_add_cancel amount.scale_le]
    · rwa [abs_of_nonneg amount.value_nonneg]
  exact ⟨d.asMoney, money.money?_eq⟩

theorem value_ofInt32
    {n : Int32}
    (positive : 0 < n) :
    (ofInt32 n).value = n.toInt ∧ 0 ≤ (ofInt32 n).value := by
  have hpos : 0 < n.toInt := Int32.lt_iff_toInt_lt.mp positive
  have hsign : (ofInt32 n).negative = false := decide_eq_false (by omega)
  have hmantissa : (((ofInt32 n).mantissa : ℤ) : ℚ) = n.toInt := by
    congr 1
    exact Int.natAbs_of_nonneg hpos.le
  have hvalue : (ofInt32 n).value = n.toInt := by
    rw [value_of_nonneg hsign, ← hmantissa, Int.cast_natCast]
    exact div_one _
  refine ⟨hvalue, ?_⟩
  rw [hvalue]
  exact_mod_cast hpos.le

end Decimal

/-- What a line of an order is priced from. -/
structure Purchase where
  productId : Identifier
  quantity : Int32
  unitPrice : Decimal
deriving DecidableEq

namespace Purchase

/-- The line with its price. -/
def priced (p : Purchase) : Except Overflow PricedLine :=
  PricedLine.of p.productId p.quantity p.unitPrice

/-- The exact price of the line. -/
def amount (p : Purchase) : ℚ :=
  p.unitPrice.value * p.quantity.toInt

/-- The quantity is positive, and the unit price is one that the catalog may have. -/
structure Admitted (p : Purchase) : Prop where
  positive : 0 < p.quantity
  places : p.unitPrice.scale ≤ 4
  nonneg : 0 ≤ p.unitPrice.value
  small : p.unitPrice.value < 10 ^ 16

/-- A line is priced as a purchase says, exactly. -/
structure PricedExactly (p : Purchase) (line : PricedLine) : Prop where
  productId : line.productId = p.productId
  quantity : line.quantity = p.quantity
  price : line.price.value = p.amount
  places : line.price.scale ≤ 4
  kept : line.price.IsKept

variable {p : Purchase} (admitted : p.Admitted)

include admitted

theorem Admitted.amount_nonneg : 0 ≤ p.amount := by
  obtain ⟨hvalue, hnonneg⟩ := Decimal.value_ofInt32 admitted.positive
  rw [amount, ← hvalue]
  exact mul_nonneg admitted.nonneg hnonneg

/-- No price of a line is too large. -/
theorem Admitted.exists_priced :
    ∃ line, p.priced = .ok line ∧ line.price.AtMost (10 ^ 16 * 2 ^ 31) := by
  have hunit : p.unitPrice.AtMost (10 ^ 16) :=
    Decimal.atMost_of_value_lt admitted.nonneg (by exact_mod_cast admitted.small)
  obtain ⟨price, hprice, hsmall⟩ :=
    Decimal.mul_of_small hunit (Decimal.atMost_ofInt32 admitted.positive) (by decide)
  refine ⟨⟨p.productId, p.quantity, price⟩, ?_, hsmall⟩
  rw [priced, PricedLine.of, hprice]
  rfl

/-- The price of a line that stays below the bound is exact. -/
theorem Admitted.priced_exactly
    {line : PricedLine}
    (priced : p.priced = .ok line)
    (small : p.amount < 10 ^ 16) :
    p.PricedExactly line ∧ line.price.IsAmount := by
  obtain ⟨hvalue, hnonneg⟩ := Decimal.value_ofInt32 admitted.positive
  rw [amount, ← hvalue] at small
  obtain ⟨price, hprice, hamount, hexact⟩ :=
    Decimal.mul_exact admitted.nonneg hnonneg (Nat.add_le_add_right admitted.places 0) small
  rw [Purchase.priced, PricedLine.of, hprice] at priced
  cases priced
  refine ⟨⟨rfl, rfl, ?_, hamount.scale_le, hamount.isKept (hexact ▸ small)⟩, hamount⟩
  rw [hexact, hvalue, amount]

end Purchase

section Order

variable {purchases : List Purchase} (admitted : ∀ p ∈ purchases, p.Admitted)

include admitted

/-- No price of a line is too large, and each of them lies below a common bound. -/
theorem exists_priced :
    ∃ lines,
      List.Forall₂ (fun p line => p.priced = .ok line) purchases lines ∧
      ∀ price ∈ lines.map (·.price), Decimal.AtMost (10 ^ 16 * 2 ^ 31) price := by
  induction purchases with
  | nil =>
      exact ⟨[], .nil, by simp⟩
  | cons p purchases ih =>
      obtain ⟨line, hline, hsmall⟩ := (admitted p (List.mem_cons_self ..)).exists_priced
      obtain ⟨lines, hlines, hrest⟩ := ih fun p' hp' => admitted p' (List.mem_cons_of_mem _ hp')
      exact ⟨line :: lines, .cons hline hlines, List.forall_mem_cons.mpr ⟨hsmall, hrest⟩⟩

/-- The price of each line is at most the price of the whole order. -/
theorem amount_le_sum
    {p : Purchase}
    (mem : p ∈ purchases) :
    p.amount ≤ (purchases.map Purchase.amount).sum := by
  apply List.single_le_sum
  · intro v hv
    obtain ⟨p', hp', rfl⟩ := List.mem_map.mp hv
    exact (admitted p' hp').amount_nonneg
  · exact List.mem_map_of_mem mem

/-- If the order as a whole stays below the bound, all its lines are priced exactly. -/
theorem priced_exactly
    {lines : List PricedLine}
    (priced : List.Forall₂ (fun p line => p.priced = .ok line) purchases lines)
    (small : (purchases.map Purchase.amount).sum < 10 ^ 16) :
    List.Forall₂ (fun p line => p.PricedExactly line ∧ line.price.IsAmount) purchases lines := by
  have each : ∀ p ∈ purchases, p.amount < 10 ^ 16 :=
    fun p hp => (amount_le_sum admitted hp).trans_lt small
  clear small
  induction priced with
  | nil =>
      exact .nil
  | cons hline _ ih =>
      obtain ⟨hfirst, hrest⟩ := List.forall_mem_cons.mp admitted
      obtain ⟨hfirst', hrest'⟩ := List.forall_mem_cons.mp each
      exact .cons (hfirst.priced_exactly hline hfirst') (ih hrest hrest')

end Order

/-- **Prices are exact.**  At unit prices that the catalog admits, no amount of an order of
up to 3000 lines is too large.  If the exact price of the whole order stays below `10 ^ 16`,
then the price of each line and the total are the exact ones and have at most four places;
so the total is the same in whatever order the lines stand, and columns of four decimal
places keep all of them. -/
theorem prices_are_exact
    {purchases : List Purchase}
    (admitted : ∀ p ∈ purchases, p.Admitted)
    (few : purchases.length ≤ 3000) :
    ∃ lines total,
      List.Forall₂ (fun p line => p.priced = .ok line) purchases lines ∧
      Order.totalOf lines = .ok total ∧
      ((purchases.map Purchase.amount).sum < 10 ^ 16 →
        List.Forall₂ Purchase.PricedExactly purchases lines ∧
        total.value = (purchases.map Purchase.amount).sum ∧
        total.scale ≤ 4 ∧
        total.IsKept ∧
        ∀ lines' : List PricedLine, lines'.Perm lines → Order.totalOf lines' = .ok total) := by
  obtain ⟨lines, priced, bounded⟩ := exists_priced admitted
  have fits : (lines.map (·.price)).length * (10 ^ 16 * 2 ^ 31) < Decimal.mantissaBound := by
    have hbound : Decimal.mantissaBound = 79228162514264337593543950336 := rfl
    rw [List.length_map, ← priced.length_eq, hbound]
    omega
  obtain ⟨total, htotal, _⟩ := Decimal.sum_of_small bounded fits
  refine ⟨lines, total, priced, htotal, ?_⟩
  intro small
  have exact := priced_exactly admitted priced small
  have each : ∀ d ∈ lines.map (·.price), d.IsAmount := by
    intro d hd
    obtain ⟨line, hline, rfl⟩ := List.mem_map.mp hd
    obtain ⟨p, _, _, hamount⟩ := exists_mem_of_forall₂ exact hline
    exact hamount
  have values : (lines.map (·.price)).map Decimal.value = purchases.map Purchase.amount := by
    have same : List.Forall₂ (· = ·) ((lines.map (·.price)).map Decimal.value)
        (purchases.map Purchase.amount) := by
      rw [List.map_map, List.forall₂_map_left_iff, List.forall₂_map_right_iff]
      exact exact.flip.imp fun _ _ h => h.1.price
    rwa [List.forall₂_eq_eq_eq] at same
  have small' : ((lines.map (·.price)).map Decimal.value).sum < 10 ^ 16 := by rwa [values]
  obtain ⟨total', htotal', hamount, hvalue, _⟩ := Decimal.sum_exact each small'
  rw [htotal'] at htotal
  cases htotal
  rw [values] at hvalue
  refine ⟨exact.imp fun _ _ h => h.1, hvalue, hamount.scale_le, ?_, ?_⟩
  · exact hamount.isKept (hvalue ▸ small)
  · intro lines' perm
    exact Decimal.sum_perm each small' (perm.map _) htotal'

/-- An order of three lines with prices of different scales, one of them free of charge, in
the largest quantity that there is. -/
theorem prices_are_exact_of_three_scales :
    let purchases : List Purchase :=
      [⟨.ofNat 7, 3, ⟨false, 1999, 2, by decide, by decide⟩⟩,
        ⟨.ofNat 8, 2147483647, ⟨false, 0, 3, by decide, by decide⟩⟩,
        ⟨.ofNat 7, 2147483647, ⟨false, 1, 4, by decide, by decide⟩⟩]
    let exact : ℚ := 2148083347 / 10000
    (∀ p ∈ purchases, p.Admitted) ∧ purchases.length ≤ 3000 ∧
      (purchases.map Purchase.amount).sum = exact ∧
      ∃ lines total,
        List.Forall₂ (fun p line => p.priced = .ok line) purchases lines ∧
        Order.totalOf lines = .ok total ∧
        total.value = exact ∧
        total.IsKept ∧
        Order.totalOf lines.reverse = .ok total := by
  intro purchases exact
  have admitted : ∀ p ∈ purchases, p.Admitted := by
    intro p hp
    simp only [purchases, List.mem_cons, List.not_mem_nil, or_false] at hp
    rcases hp with rfl | rfl | rfl <;>
      exact ⟨by decide, by decide, by decide +kernel, by decide +kernel⟩
  have few : purchases.length ≤ 3000 := by decide
  have hsum : (purchases.map Purchase.amount).sum = exact := by decide +kernel
  obtain ⟨lines, total, priced, htotal, hexact⟩ := prices_are_exact admitted few
  have small : (purchases.map Purchase.amount).sum < 10 ^ 16 := by
    rw [hsum]
    decide +kernel
  obtain ⟨_, hvalue, _, kept, hperm⟩ := hexact small
  rw [hsum] at hvalue
  exact ⟨admitted, few, hsum, lines, total, priced, htotal, hvalue, kept,
    hperm _ lines.reverse_perm⟩

end OrderDesk
