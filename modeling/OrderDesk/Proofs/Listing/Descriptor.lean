import Mathlib.Data.Nat.Cast.Order.Ring
import Mathlib.Order.Bounds.Defs
import OrderDesk.Proofs.Listing.Page

/-!
# Page descriptors in whole numbers

A descriptor is computed in 64 bits, and no step of the computation leaves them.  So what
it says can be read in whole numbers, without any wrapping around.

* `held?`, `checkedAdd?`, `checkedSub?`, `checkedDiv?`, `checkedMod?`: arithmetic that is
  refused where its result does not have 64 bits, or where the divisor is zero.
* `ofRequestChecked?`: the computation of a descriptor in this arithmetic.
* `Describes`: what a descriptor says, in whole numbers.
* `ofRequest_is_exact`: the computation is never refused, its result describes the page
  that was asked for, and a descriptor that is asked for again is the same one.
-/

namespace OrderDesk
namespace Page

/-! ## Checked arithmetic -/

/-- A whole number in 64 bits, if it has as many. -/
def held? (n : Int) : Option Int64 :=
  if Int64.minValue.toInt ≤ n ∧ n ≤ Int64.maxValue.toInt then some (Int64.ofInt n) else none

/-- A sum, if it has 64 bits. -/
def checkedAdd? (a b : Int64) : Option Int64 := held? (a.toInt + b.toInt)

/-- A difference, if it has 64 bits. -/
def checkedSub? (a b : Int64) : Option Int64 := held? (a.toInt - b.toInt)

/-- A quotient without its fraction, if there is one and it has 64 bits. -/
def checkedDiv? (a b : Int64) : Option Int64 :=
  if b = 0 then none else held? (a.toInt.tdiv b.toInt)

/-- The rest of a division whose quotient has 64 bits. -/
def checkedMod? (a b : Int64) : Option Int64 :=
  (checkedDiv? a b).bind fun _ => held? (a.toInt.tmod b.toInt)

/-- The page that answers a request, computed in checked arithmetic. -/
def ofRequestChecked? (page limit total : Int64) : Option Page := do
  let limit := effectiveLimit limit
  let total := if total < 0 then 0 else total
  let quotient ← checkedDiv? total limit
  let rest ← checkedMod? total limit
  let totalPage ← checkedAdd? quotient (if rest = 0 then 0 else 1)
  let currentPage := if page < 1 ∨ totalPage = 0 then 1 else page
  let before ← checkedSub? currentPage 1
  return { currentPage, total, totalPage, limit, skip := saturatingMul before limit }

@[simp] theorem held?_toInt
    (a : Int64) :
    held? a.toInt = some a := by
  have hlow : Int64.minValue.toInt ≤ a.toInt := Int64.minValue_le_toInt a
  have hhigh : a.toInt ≤ Int64.maxValue.toInt := Int64.toInt_le a
  rw [held?, if_pos ⟨hlow, hhigh⟩, Int64.ofInt_toInt]

theorem checkedAdd?_eq
    {a b : Int64}
    (exact : (a + b).toInt = a.toInt + b.toInt) :
    checkedAdd? a b = some (a + b) := by
  rw [checkedAdd?, ← exact, held?_toInt]

theorem checkedSub?_eq
    {a b : Int64}
    (exact : (a - b).toInt = a.toInt - b.toInt) :
    checkedSub? a b = some (a - b) := by
  rw [checkedSub?, ← exact, held?_toInt]

section Divisor

variable {a b : Int64} (positive : 0 < b.toInt)

include positive

theorem ne_zero_of_positive : b ≠ 0 := by
  rintro rfl
  rw [Int64.toInt_zero] at positive
  omega

theorem checkedDiv?_eq : checkedDiv? a b = some (a / b) := by
  have hne : b ≠ -1 := by
    rintro rfl
    have hone : (-1 : Int64).toInt = -1 := by decide
    omega
  rw [checkedDiv?, if_neg (ne_zero_of_positive positive),
    ← Int64.toInt_div_of_ne_right _ _ hne, held?_toInt]

theorem checkedMod?_eq : checkedMod? a b = some (a % b) := by
  rw [checkedMod?, checkedDiv?_eq positive, Option.bind_some, ← Int64.toInt_mod, held?_toInt]

end Divisor

/-! ## What a descriptor says -/

/-- A descriptor of the page with a number, for a size that was asked for and a number of
entries.  All of it is read in whole numbers. -/
structure Describes (p : Page) (page limit total : ℤ) : Prop where
  /-- A size from 1 to 20 is kept, and every other one becomes 20. -/
  limit : p.limit.toInt = if 1 ≤ limit ∧ limit ≤ 20 then limit else 20
  limit_range : 1 ≤ p.limit.toInt ∧ p.limit.toInt ≤ 20
  total : p.total.toInt = max total 0
  /-- There are just enough pages for all entries. -/
  totalPage : IsLeast {n : ℤ | 0 ≤ n ∧ p.total.toInt ≤ n * p.limit.toInt} p.totalPage.toInt
  one_le_currentPage : 1 ≤ p.currentPage.toInt
  /-- A number from 1 on is kept where there are pages. -/
  currentPage : p.currentPage.toInt = if p.totalPage.toInt = 0 then 1 else max page 1
  /-- The entries on the pages before this one are skipped, as far as 64 bits reach. -/
  skip : p.skip.toInt = min ((p.currentPage.toInt - 1) * p.limit.toInt) (2 ^ 63 - 1)
  /-- Entries are left for the page exactly if it is one of the pages. -/
  skip_lt_total : p.skip < p.total ↔ p.currentPage ≤ p.totalPage

section Request

variable (page limit total : Int64)

theorem toInt_effectiveLimit_eq :
    (effectiveLimit limit).toInt =
      if 1 ≤ limit.toInt ∧ limit.toInt ≤ 20 then limit.toInt else 20 := by
  have hdefault : defaultLimit.toInt = 20 := by decide
  by_cases h : limit ≤ 0 ∨ defaultLimit < limit
  · rw [effectiveLimit, if_pos h, hdefault]
    rw [Int64.le_iff_toInt_le, Int64.lt_iff_toInt_lt, hdefault, Int64.toInt_zero] at h
    rw [if_neg (by omega)]
  · rw [effectiveLimit, if_neg h]
    rw [Int64.le_iff_toInt_le, Int64.lt_iff_toInt_lt, hdefault, Int64.toInt_zero] at h
    rw [if_pos (by omega)]

theorem toInt_totalPage_isLeast :
    let p := ofRequest page limit total
    IsLeast {n : ℤ | 0 ≤ n ∧ p.total.toInt ≤ n * p.limit.toInt} p.totalPage.toInt := by
  intro p
  have hlimit : p.limit.toInt = size limit := toInt_effectiveLimit limit
  have htotal : p.total.toInt = total.toInt.toNat := toInt_total page limit total
  have hpages : p.totalPage.toInt = _ := toInt_totalPage page limit total
  have hpos := size_pos limit
  rw [hlimit, htotal, hpages]
  have hiff : ∀ n : ℕ, (total.toInt.toNat + size limit - 1) / size limit ≤ n ↔
      total.toInt.toNat ≤ n * size limit := by
    intro n
    rw [← Nat.lt_succ_iff, Nat.div_lt_iff_lt_mul hpos, Nat.succ_mul]
    omega
  constructor
  · refine ⟨Int.natCast_nonneg _, ?_⟩
    exact_mod_cast (hiff _).mp (Nat.le_refl _)
  · rintro n ⟨hn, henough⟩
    obtain ⟨m, rfl⟩ := Int.eq_ofNat_of_zero_le hn
    exact_mod_cast (hiff m).mpr (by exact_mod_cast henough)

theorem toInt_currentPage :
    let p := ofRequest page limit total
    p.currentPage.toInt = if p.totalPage.toInt = 0 then 1 else max page.toInt 1 := by
  intro p
  have hone : (1 : Int64).toInt = 1 := by decide
  have hzero : p.totalPage = 0 ↔ p.totalPage.toInt = 0 := by
    rw [← Int64.toInt_inj, Int64.toInt_zero]
  show (if page < 1 ∨ p.totalPage = 0 then 1 else page).toInt = _
  by_cases h : page < 1 ∨ p.totalPage = 0
  · rw [if_pos h, hone]
    rw [hzero, Int64.lt_iff_toInt_lt, hone] at h
    split <;> omega
  · rw [if_neg h]
    rw [hzero, Int64.lt_iff_toInt_lt, hone] at h
    rw [if_neg (by omega)]
    omega

theorem toInt_skip_eq :
    let p := ofRequest page limit total
    p.skip.toInt = min ((p.currentPage.toInt - 1) * p.limit.toInt) (2 ^ 63 - 1) := by
  intro p
  have hpage : 1 ≤ p.currentPage.toInt := one_le_currentPage page limit total
  have hbefore : (p.currentPage - 1).toInt = (p.currentPage.toInt - 1).toNat :=
    toInt_currentPage_sub_one page limit total
  have hlimit : p.limit.toInt = size limit := toInt_effectiveLimit limit
  have hskip : p.skip.toInt = _ := toInt_saturatingMul hbefore hlimit
  rw [hskip, hlimit, Nat.cast_min, Nat.cast_mul, Int.toNat_of_nonneg (by omega)]
  rfl

/-- Entries are left for a page exactly if it is one of the pages, also where the number of
skipped entries saturates. -/
theorem skip_lt_total_iff :
    let p := ofRequest page limit total
    p.skip < p.total ↔ p.currentPage ≤ p.totalPage := by
  intro p
  have hpage : 1 ≤ p.currentPage.toInt := one_le_currentPage page limit total
  have hlimit : p.limit.toInt = size limit := toInt_effectiveLimit limit
  have htotal : p.total.toInt = total.toInt.toNat := toInt_total page limit total
  have hbound := Int64.toInt_lt p.total
  have hpages := lt_totalPage_iff page limit total (p.currentPage.toInt - 1).toNat
  have hstart : (p.currentPage.toInt - 1) * p.limit.toInt =
      ((p.currentPage.toInt - 1).toNat * size limit : ℕ) := by
    rw [hlimit, Nat.cast_mul, Int.toNat_of_nonneg (by omega)]
  rw [Int64.lt_iff_toInt_lt, Int64.le_iff_toInt_le, toInt_skip_eq, hstart]
  change _ < p.totalPage.toInt.toNat ↔ _ at hpages
  omega

theorem describes_ofRequest :
    (ofRequest page limit total).Describes page.toInt limit.toInt total.toInt where
  limit := toInt_effectiveLimit_eq limit
  limit_range := effectiveLimit_range limit
  total := by
    rw [toInt_total]
    omega
  totalPage := toInt_totalPage_isLeast page limit total
  one_le_currentPage := one_le_currentPage page limit total
  currentPage := toInt_currentPage page limit total
  skip := toInt_skip_eq page limit total
  skip_lt_total := skip_lt_total_iff page limit total

/-- No step of the computation leaves 64 bits, and the divisor is not zero. -/
theorem ofRequestChecked?_eq :
    ofRequestChecked? page limit total = some (ofRequest page limit total) := by
  have hsize := toInt_effectiveLimit limit
  have hpositive : 0 < (effectiveLimit limit).toInt := by
    have := effectiveLimit_range limit
    omega
  have htotal : (if total < 0 then 0 else total).toInt = total.toInt.toNat :=
    toInt_total page limit total
  have hpages : checkedAdd? ((if total < 0 then 0 else total) / effectiveLimit limit)
      (if (if total < 0 then 0 else total) % effectiveLimit limit = 0 then 0 else 1) =
        some (ofRequest page limit total).totalPage := by
    apply checkedAdd?_eq
    rw [toInt_div_add_rest htotal hsize (size_pos limit), ← div_add_rest (size_pos limit),
      toInt_div htotal hsize (size_pos limit), toInt_rest htotal hsize, Int.natCast_add]
  have hbefore : checkedSub? (ofRequest page limit total).currentPage 1 =
      some ((ofRequest page limit total).currentPage - 1) := by
    have hone : (1 : Int64).toInt = 1 := by decide
    have hpage := one_le_currentPage page limit total
    apply checkedSub?_eq
    rw [toInt_currentPage_sub_one, hone]
    omega
  simp only [ofRequestChecked?, checkedDiv?_eq hpositive, checkedMod?_eq hpositive, hpages,
    Option.bind_eq_bind, Option.bind_some]
  change (checkedSub? (ofRequest page limit total).currentPage 1).bind _ = _
  rw [hbefore]
  rfl

theorem effectiveLimit_idem :
    effectiveLimit (effectiveLimit limit) = effectiveLimit limit := by
  have h := effectiveLimit_range limit
  rw [← Int64.toInt_inj, toInt_effectiveLimit_eq, if_pos h]

/-- A descriptor that is asked for again is the same one. -/
theorem ofRequest_idem :
    let p := ofRequest page limit total
    ofRequest p.currentPage p.limit p.total = p := by
  intro p
  have hlimit : effectiveLimit p.limit = p.limit := effectiveLimit_idem limit
  have htotal : (if p.total < 0 then 0 else p.total) = p.total := by
    have h : p.total.toInt = total.toInt.toNat := toInt_total page limit total
    rw [if_neg]
    rw [Int64.lt_iff_toInt_lt, Int64.toInt_zero]
    omega
  have hpages : p.totalPage = p.total / p.limit + (if p.total % p.limit = 0 then 0 else 1) := rfl
  have hcurrent : (if p.currentPage < 1 ∨ p.totalPage = 0 then 1 else p.currentPage) =
      p.currentPage := by
    have hone : (1 : Int64).toInt = 1 := by decide
    have hpage : p.currentPage.toInt = if p.totalPage.toInt = 0 then 1 else max page.toInt 1 :=
      toInt_currentPage page limit total
    have hzero : p.totalPage = 0 ↔ p.totalPage.toInt = 0 := by
      rw [← Int64.toInt_inj, Int64.toInt_zero]
    split
    · rename_i h
      rw [hzero, Int64.lt_iff_toInt_lt, hone] at h
      rw [← Int64.toInt_inj, hone]
      split at hpage <;> omega
    · rfl
  have hskip : p.skip = saturatingMul (p.currentPage - 1) p.limit := rfl
  simp only [ofRequest, hlimit, htotal, ← hpages, hcurrent, ← hskip]

end Request

/-- **The descriptor of a page is exact.**  Whatever page, page size and number of entries
are asked for, no step of its computation leaves 64 bits or divides by zero.  It says what
the rules of pages say in whole numbers, and asked for again it is the same. -/
theorem ofRequest_is_exact
    (page limit total : Int64) :
    let p := ofRequest page limit total
    ofRequestChecked? page limit total = some p ∧
      p.Describes page.toInt limit.toInt total.toInt ∧
      ofRequest p.currentPage p.limit p.total = p :=
  ⟨ofRequestChecked?_eq page limit total, describes_ofRequest page limit total,
    ofRequest_idem page limit total⟩

end Page
end OrderDesk
