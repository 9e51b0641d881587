import Mathlib.Algebra.Order.Ring.Int
import Mathlib.Data.Int.Order.Basic
import Mathlib.Tactic.Common
import OrderDesk.Listing.Page

/-!
# The arithmetic of pages

Page numbers, page sizes and totals have 64 bits, and what is skipped saturates.
In whole numbers the pages of a listing are what one expects:

* `toInt_totalPage`: the number of pages is the number of entries divided by the page
  size, rounded up.
* `cut_ofRequest`: a page holds the entries from its place on, as many as the page
  size says.  This covers a page number below 1, which is the first page, and every
  page past the end, also where the number of skipped entries saturates.
* `flatMap_entriesOn`: all pages one after the other are the listing.
-/

namespace OrderDesk
namespace Page

/-- The page size in effect, as a number of entries. -/
def size (limit : Int64) : Nat :=
  (effectiveLimit limit).toInt.toNat

/-- The numbers of the pages up to the last one. -/
def numbers (last : Int64) : List Int64 :=
  (List.range last.toInt.toNat).map fun k => Int64.ofNat (k + 1)

/-- Dividing and counting a rest as one more is dividing and rounding up. -/
theorem div_add_rest
    {n d : Nat}
    (positive : 0 < d) :
    n / d + (if n % d = 0 then 0 else 1) = (n + d - 1) / d := by
  have hsplit := Nat.div_add_mod n d
  have hrest := Nat.mod_lt n positive
  have hround : (n + d - 1) / d = n / d + (n % d + d - 1) / d := by
    rw [← Nat.mul_add_div positive (n / d)]
    congr 1
    omega
  rw [hround]
  by_cases h : n % d = 0
  · have hzero : (n % d + d - 1) / d = 0 := Nat.div_eq_of_lt (by omega)
    rw [if_pos h, hzero]
  · have hone : (n % d + d - 1) / d = 1 := by
      rw [Nat.div_eq_iff positive]
      omega
    rw [if_neg h, hone]

theorem div_add_rest_le
    (n d : Nat) :
    n / d + (if n % d = 0 then 0 else 1) ≤ n := by
  have hsplit := Nat.div_add_mod n d
  by_cases h : n % d = 0
  · rw [if_pos h]
    exact Nat.div_le_self n d
  · rw [if_neg h]
    rcases Nat.lt_or_ge 1 d with hd | hd
    · have hpos : 0 < n := Nat.pos_of_ne_zero (by rintro rfl; simp at h)
      exact Nat.div_lt_self hpos hd
    · obtain rfl | rfl : d = 0 ∨ d = 1 := by omega
      · simp only [Nat.mod_zero, Nat.div_zero] at h ⊢
        omega
      · omega

section Quotient

variable {a b : Int64} {n d : Nat} (ha : a.toInt = n) (hb : b.toInt = d)

include ha hb

theorem toInt_div
    (positive : 0 < d) :
    (a / b).toInt = (n / d : Nat) := by
  have hne : b ≠ -1 := by
    rintro rfl
    have hone : (-1 : Int64).toInt = -1 := by decide
    omega
  rw [Int64.toInt_div_of_ne_right _ _ hne, ha, hb, Int.tdiv_eq_ediv_of_nonneg (by omega)]
  rfl

theorem toInt_rest :
    (if a % b = 0 then (0 : Int64) else 1).toInt = (if n % d = 0 then 0 else 1 : Nat) := by
  have hmod : a % b = 0 ↔ n % d = 0 := by
    rw [← Int64.toInt_inj, Int64.toInt_mod, ha, hb, Int64.toInt_zero,
      Int.tmod_eq_emod_of_nonneg (by omega)]
    omega
  by_cases h : n % d = 0
  · rw [if_pos (hmod.mpr h), if_pos h]
    rfl
  · rw [if_neg (mt hmod.mp h), if_neg h]
    rfl

theorem toInt_div_add_rest
    (positive : 0 < d) :
    (a / b + (if a % b = 0 then 0 else 1)).toInt = ((n + d - 1) / d : Nat) := by
  have hlt := Int64.toInt_lt a
  have hle := div_add_rest_le n d
  have hsum : (a / b).toInt + (if a % b = 0 then (0 : Int64) else 1).toInt =
      (n / d + (if n % d = 0 then 0 else 1) : Nat) := by
    rw [toInt_div ha hb positive, toInt_rest ha hb, Int.natCast_add]
  rw [← div_add_rest positive, Int64.toInt_add, hsum]
  generalize n / d + (if n % d = 0 then 0 else 1) = pages at hle
  exact Int.bmod_eq_of_le (by omega) (by omega)

end Quotient

section Request

variable (page limit total : Int64)

theorem effectiveLimit_range :
    1 ≤ (effectiveLimit limit).toInt ∧ (effectiveLimit limit).toInt ≤ 20 := by
  have hdefault : defaultLimit.toInt = 20 := by decide
  by_cases h : limit ≤ 0 ∨ defaultLimit < limit
  · rw [effectiveLimit, if_pos h, hdefault]
    omega
  · rw [effectiveLimit, if_neg h]
    rw [Int64.le_iff_toInt_le, Int64.lt_iff_toInt_lt, hdefault, Int64.toInt_zero] at h
    omega

theorem toInt_effectiveLimit :
    (effectiveLimit limit).toInt = size limit := by
  have h := effectiveLimit_range limit
  rw [size]
  omega

theorem size_pos : 0 < size limit := by
  have h := effectiveLimit_range limit
  rw [size]
  omega

theorem toInt_total :
    (ofRequest page limit total).total.toInt = total.toInt.toNat := by
  show (if total < 0 then 0 else total).toInt = total.toInt.toNat
  by_cases h : total < 0
  · rw [if_pos h]
    rw [Int64.lt_iff_toInt_lt, Int64.toInt_zero] at h
    rw [Int64.toInt_zero]
    omega
  · rw [if_neg h]
    rw [Int64.lt_iff_toInt_lt, Int64.toInt_zero] at h
    omega

theorem toInt_totalPage :
    (ofRequest page limit total).totalPage.toInt =
      ((total.toInt.toNat + size limit - 1) / size limit : Nat) :=
  toInt_div_add_rest (toInt_total page limit total) (toInt_effectiveLimit limit)
    (size_pos limit)

/-- A page number is that of a page exactly if an entry is left for the page. -/
theorem lt_totalPage_iff
    (k : Nat) :
    k < (ofRequest page limit total).totalPage.toInt.toNat ↔
      k * size limit < total.toInt.toNat := by
  have hpos := size_pos limit
  rw [toInt_totalPage, Int.toNat_natCast, ← Nat.succ_le_iff, Nat.le_div_iff_mul_le hpos,
    Nat.succ_mul]
  omega

theorem toInt_saturatingMul
    {a b : Int64} {m n : Nat}
    (ha : a.toInt = m)
    (hb : b.toInt = n) :
    (saturatingMul a b).toInt = (min (m * n) (2 ^ 63 - 1) : Nat) := by
  have hmax : Int64.maxValue.toInt = 9223372036854775807 := by decide
  have hmin : Int64.minValue.toInt = -9223372036854775808 := by decide
  rw [saturatingMul, ha, hb, ← Int.natCast_mul, hmax, hmin]
  split
  · rw [hmax]
    omega
  · rw [if_neg (by omega), Int64.toInt_ofInt_of_le (by omega) (by omega)]
    omega

/-- The place of the first entry on a page, were it not held inside 64 bits. -/
def start (page limit : Int64) : Nat :=
  (page.toInt - 1).toNat * size limit

theorem toInt_skip
    (positive : 0 < total.toInt) :
    (ofRequest page limit total).skip.toInt = (min (start page limit) (2 ^ 63 - 1) : Nat) := by
  have hpages : (ofRequest page limit total).totalPage ≠ 0 := by
    have h := (lt_totalPage_iff page limit total 0).mpr (by omega)
    intro hzero
    rw [hzero, Int64.toInt_zero] at h
    omega
  have hcurrent : ((ofRequest page limit total).currentPage - 1).toInt =
      (page.toInt - 1).toNat := by
    show ((if page < 1 ∨ (ofRequest page limit total).totalPage = 0 then 1 else page) - 1).toInt
      = (page.toInt - 1).toNat
    have hone : (1 : Int64).toInt = 1 := by decide
    by_cases h : page < 1
    · rw [if_pos (Or.inl h)]
      rw [Int64.lt_iff_toInt_lt, hone] at h
      rw [Int64.sub_self, Int64.toInt_zero]
      omega
    · rw [if_neg (by simp [h, hpages])]
      rw [Int64.lt_iff_toInt_lt, hone] at h
      have hlt := Int64.toInt_lt page
      rw [Int64.toInt_sub, hone, Int.bmod_eq_of_le (by omega) (by omega)]
      omega
  exact toInt_saturatingMul hcurrent (toInt_effectiveLimit limit)

theorem one_le_currentPage :
    1 ≤ (ofRequest page limit total).currentPage.toInt := by
  have hone : (1 : Int64).toInt = 1 := by decide
  show 1 ≤ (if page < 1 ∨ (ofRequest page limit total).totalPage = 0 then 1 else page).toInt
  split
  · rw [hone]
  · rename_i h
    rw [not_or, Int64.lt_iff_toInt_lt, hone] at h
    omega

/-- The number of pages before the current one is computed without wrapping around. -/
theorem toInt_currentPage_sub_one :
    ((ofRequest page limit total).currentPage - 1).toInt =
      ((ofRequest page limit total).currentPage.toInt - 1).toNat := by
  have hone : (1 : Int64).toInt = 1 := by decide
  have hpage := one_le_currentPage page limit total
  have hlt := Int64.toInt_lt (ofRequest page limit total).currentPage
  rw [Int64.toInt_sub, hone, Int.bmod_eq_of_le (by omega) (by omega)]
  omega

theorem skip_nonneg :
    0 ≤ (ofRequest page limit total).skip := by
  have hskip : (ofRequest page limit total).skip.toInt = _ :=
    toInt_saturatingMul (toInt_currentPage_sub_one page limit total) (toInt_effectiveLimit limit)
  rw [Int64.le_iff_toInt_le, hskip, Int64.toInt_zero]
  omega

end Request

/-! ## The entries on a page -/

section Entries

variable {α : Type} (entries : List α)

/-- The entries on a page are those from its place on. -/
theorem cut_ofRequest
    (page limit : Int64)
    (fits : entries.length < 2 ^ 63) :
    (ofRequest page limit (Int64.ofNat entries.length)).cut entries =
      (entries.drop (start page limit)).take (size limit) := by
  by_cases hempty : entries = []
  · simp [cut, hempty]
  · have hpos := List.length_pos_iff.mpr hempty
    have htotal := Int64.toInt_ofNat_of_lt fits
    have hskip := toInt_skip page limit (Int64.ofNat entries.length) (by omega)
    have hlimit : (ofRequest page limit (Int64.ofNat entries.length)).limit.toInt =
        size limit :=
      toInt_effectiveLimit limit
    rw [cut, hskip, hlimit, Int.toNat_natCast, Int.toNat_natCast]
    by_cases hstart : start page limit ≤ 2 ^ 63 - 1
    · rw [Nat.min_eq_left hstart]
    · rw [List.drop_eq_nil_of_le (by omega), List.drop_eq_nil_of_le (by omega)]

theorem flatMap_take_drop
    (n size : Nat) :
    (List.range n).flatMap (fun k => (entries.drop (k * size)).take size) =
      entries.take (n * size) := by
  induction n with
  | zero =>
      simp
  | succ n ih =>
      rw [List.range_succ, List.flatMap_append, ih, List.flatMap_singleton, Nat.succ_mul,
        List.take_add]

variable (limit : Int64) (fits : entries.length < 2 ^ 63)

/-- The last page number of a listing. -/
def last (limit : Int64) : Int64 :=
  (ofRequest 1 limit (Int64.ofNat entries.length)).totalPage

/-- The entries on the page with a number. -/
def entriesOn (limit page : Int64) : List α :=
  (ofRequest page limit (Int64.ofNat entries.length)).cut entries

include fits

theorem lt_last_iff
    (k : Nat) :
    k < (last entries limit).toInt.toNat ↔ k * size limit < entries.length := by
  have htotal := Int64.toInt_ofNat_of_lt fits
  have h := lt_totalPage_iff 1 limit (Int64.ofNat entries.length) k
  rw [htotal, Int.toNat_natCast] at h
  exact h

theorem flatMap_entriesOn :
    (numbers (last entries limit)).flatMap (entriesOn entries limit) = entries := by
  have hlast := Int64.toInt_lt (last entries limit)
  have hstart : ∀ k ∈ List.range (last entries limit).toInt.toNat,
      entriesOn entries limit (Int64.ofNat (k + 1)) =
        (entries.drop (k * size limit)).take (size limit) := by
    intro k hk
    rw [List.mem_range] at hk
    have hnumber : (Int64.ofNat (k + 1)).toInt = (k + 1 : Nat) :=
      Int64.toInt_ofNat_of_lt (by omega)
    rw [entriesOn, cut_ofRequest entries _ _ fits, start, hnumber]
    congr 3
    omega
  rw [numbers, List.flatMap_map, List.flatMap_def, List.map_congr_left hstart,
    ← List.flatMap_def, flatMap_take_drop]
  refine List.take_of_length_le ?_
  have hend := lt_last_iff entries limit fits (last entries limit).toInt.toNat
  omega

theorem length_entriesOn
    (page : Int64) :
    (entriesOn entries limit page).length =
      min (size limit) (entries.length - start page limit) := by
  rw [entriesOn, cut_ofRequest entries page limit fits, List.length_take, List.length_drop]

theorem length_entriesOn_of_lt_last
    {page : Int64}
    (first : 1 ≤ page)
    (before : page < last entries limit) :
    (entriesOn entries limit page).length = size limit := by
  have hone : (1 : Int64).toInt = 1 := by decide
  rw [Int64.le_iff_toInt_le, hone] at first
  rw [Int64.lt_iff_toInt_lt] at before
  -- The page after this one still has an entry.
  have hnext := (lt_last_iff entries limit fits ((page.toInt - 1).toNat + 1)).mp (by omega)
  rw [Nat.succ_mul] at hnext
  rw [length_entriesOn entries limit fits, start]
  omega

theorem entriesOn_last_ne_nil
    (some : 1 ≤ last entries limit) :
    entriesOn entries limit (last entries limit) ≠ [] := by
  have hone : (1 : Int64).toInt = 1 := by decide
  rw [Int64.le_iff_toInt_le, hone] at some
  have hown :=
    (lt_last_iff entries limit fits ((last entries limit).toInt - 1).toNat).mp (by omega)
  have hpos := size_pos limit
  rw [← List.length_pos_iff, length_entriesOn entries limit fits, start]
  omega

theorem entriesOn_of_last_lt
    {page : Int64}
    (past : last entries limit < page) :
    entriesOn entries limit page = [] := by
  have hlast : 0 ≤ (last entries limit).toInt := by
    rw [last, toInt_totalPage]
    exact Int.natCast_nonneg _
  rw [Int64.lt_iff_toInt_lt] at past
  have hnone := mt (lt_last_iff entries limit fits (page.toInt - 1).toNat).mpr (by omega)
  rw [← List.length_eq_zero_iff, length_entriesOn entries limit fits, start]
  omega

end Entries

/-- A page number below 1 asks for the first page. -/
theorem ofRequest_of_lt_one
    {page : Int64}
    (below : page < 1)
    (limit total : Int64) :
    ofRequest page limit total = ofRequest 1 limit total := by
  have hself : ¬ (1 : Int64) < 1 := by decide
  simp only [ofRequest, below, hself, true_or, false_or, if_true, ite_self]

end Page
end OrderDesk
