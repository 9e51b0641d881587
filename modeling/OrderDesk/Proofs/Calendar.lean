import Mathlib.Tactic.Common
import Mathlib.Tactic.IntervalCases
import OrderDesk.Calendar

/-!
# Day numbers and dates

Every day number has a date of the calendar (`isValid_ofDayNumber`), and the date has that
day number (`dayNumber_ofDayNumber`).  Its year is known from the cycle (`year_bounds`).

A cycle of 400 years splits into centuries, these into spans of four years, these into years
and these into days; only the last of each may be a day longer or shorter.  `Place` says
where a day of a cycle stands, `Place.year_eq` and `Place.day_eq` that the conversion finds
this place, and `ofMarch` is the date there.
-/

namespace OrderDesk
namespace Date

/-! ## Cycles -/

/-- Where a day of a cycle stands.  A year has a day 365 if a leap day ends it, and this is
the last year of a span, but not the last of a century except the last century. -/
structure Place (dayOfCycle century span year day : Nat) : Prop where
  century_le : century ≤ 3
  span_le : span ≤ 24
  year_le : year ≤ 3
  day_le : day ≤ 365
  leap : day = 365 → year = 3 ∧ (span = 24 → century = 3)
  eq : dayOfCycle = 36524 * century + 1461 * span + 365 * year + day

theorem exists_place
    {n : Nat}
    (bound : n < 146097) :
    ∃ century span year day, Place n century span year day := by
  -- The last day of the cycle and of a span belongs to the last part although it is too long.
  obtain ⟨c, r, hn, hc, hr⟩ :
      ∃ c r, n = 36524 * c + r ∧ c ≤ 3 ∧ (r < 36524 ∨ c = 3 ∧ r = 36524) := by
    rcases Nat.lt_or_ge n 146096 with h | h
    · exact ⟨n / 36524, n % 36524, by omega, by omega, by omega⟩
    · exact ⟨3, 36524, by omega, by omega, by omega⟩
  obtain ⟨a, t, hs, ha, ht⟩ :
      ∃ a t, r % 1461 = 365 * a + t ∧ a ≤ 3 ∧ (t < 365 ∨ a = 3 ∧ t = 365) := by
    rcases Nat.lt_or_ge (r % 1461) 1460 with h | h
    · exact ⟨r % 1461 / 365, r % 1461 % 365, by omega, by omega, by omega⟩
    · exact ⟨3, 365, by omega, by omega, by omega⟩
  exact ⟨c, r / 1461, a, t, hc, by omega, ha, by omega, by omega, by omega⟩

section Place

variable {n century span year day : Nat} (place : Place n century span year day)

include place

theorem Place.year_eq :
    (n - n / 1460 + n / 36524 - n / 146096) / 365 = 100 * century + 4 * span + year := by
  obtain ⟨hcentury, hspan, hyear, hday, hleap, hn⟩ := place
  by_cases hlast : span = 24 ∧ day = 365
  · obtain ⟨rfl, rfl⟩ := hlast
    obtain ⟨rfl, hcentury⟩ := hleap rfl
    obtain rfl := hcentury rfl
    omega
  · have hcenturies : n / 36524 = century := by omega
    have hcycles : n / 146096 = 0 := by omega
    by_cases hlate : 1460 ≤ 24 * century + span + 365 * year + day
    · have hleapDays : n / 1460 = 25 * century + span + 1 := by omega
      omega
    · have hleapDays : n / 1460 = 25 * century + span := by omega
      omega

theorem Place.day_eq :
    n - (365 * (100 * century + 4 * span + year) + (100 * century + 4 * span + year) / 4 -
      (100 * century + 4 * span + year) / 100) = day := by
  obtain ⟨hcentury, hspan, hyear, hday, hleap, hn⟩ := place
  have hspans : (100 * century + 4 * span + year) / 4 = 25 * century + span := by omega
  have hcenturies : (100 * century + 4 * span + year) / 100 = century := by omega
  omega

end Place

/-! ## Years that begin in March -/

/-- The date of a day of a year that begins in March. -/
def ofMarch (year : Int) (day : Nat) : Date :=
  let monthFromMarch := (5 * day + 2) / 153
  let month := if monthFromMarch < 10 then monthFromMarch + 3 else monthFromMarch - 9
  { year := year + (if month ≤ 2 then 1 else 0)
    month
    day := day - (153 * monthFromMarch + 2) / 5 + 1 }

/-- The place of a day number, and the date there. -/
theorem exists_ofDayNumber
    (n : Int) :
    ∃ cycle dayOfCycle century span year day,
      n + epochOffset = cycle * 146097 + (dayOfCycle : Nat) ∧
        Place dayOfCycle century span year day ∧
          ofDayNumber n =
            ofMarch ((100 * century + 4 * span + year : Nat) + cycle * 400) day := by
  have hbound : ((n + epochOffset) % 146097).toNat < 146097 := by omega
  obtain ⟨century, span, year, day, hplace⟩ := exists_place hbound
  refine ⟨(n + epochOffset) / 146097, _, century, span, year, day, by omega, hplace, ?_⟩
  have hyear := hplace.year_eq
  have hday := hplace.day_eq
  simp only [ofDayNumber, cycleDays, ofMarch, hyear, hday]

section March

variable (year : Int) {day : Nat} (day_le : day ≤ 365)

include day_le

theorem monthFromMarch_le :
    (5 * day + 2) / 153 ≤ 11 ∧ (153 * ((5 * day + 2) / 153) + 2) / 5 ≤ day := by
  omega

theorem dayNumber_ofMarch :
    (ofMarch year day).dayNumber =
      year / 400 * cycleDays +
        ((year % 400).toNat * 365 + (year % 400).toNat / 4 - (year % 400).toNat / 100 + day : Nat) -
        epochOffset := by
  obtain ⟨hmonth, hfirst⟩ := monthFromMarch_le day_le
  simp only [ofMarch]
  generalize (5 * day + 2) / 153 = m at *
  have hday : (153 * m + 2) / 5 + (day - (153 * m + 2) / 5 + 1) - 1 = day := by omega
  rcases Nat.lt_or_ge m 10 with h | h
  · have hyear : ¬ m + 3 ≤ 2 := by omega
    have hback : (m + 3 + 9) % 12 = m := by omega
    simp only [if_pos h, if_neg hyear, dayNumber, hback, Int.add_zero]
    omega
  · have hyear : m - 9 ≤ 2 := by omega
    have hback : (m - 9 + 9) % 12 = m := by omega
    simp only [if_neg (Nat.not_lt.mpr h), if_pos hyear, dayNumber, hback, Int.add_sub_cancel]
    omega

theorem isValid_ofMarch
    (leap : day = 365 → isLeapYear (year + 1) = true) :
    (ofMarch year day).isValid = true := by
  obtain ⟨hmonth, hfirst⟩ := monthFromMarch_le day_le
  have hnext : 5 * day + 2 < 153 * ((5 * day + 2) / 153 + 1) := by omega
  simp only [ofMarch]
  generalize (5 * day + 2) / 153 = m at *
  rcases Nat.lt_or_eq_of_le hmonth with hmonth | rfl
  · interval_cases m <;> simp [isValid, daysInMonth] <;> omega
  · -- The year ends with February, which has a day more if the year has one.
    by_cases hleap : isLeapYear (year + 1) = true
    · simp [isValid, daysInMonth, hleap]
      omega
    · have hday : day ≠ 365 := mt leap hleap
      simp [isValid, daysInMonth, hleap]
      omega

end March

/-! ## There and back -/

theorem daysInMonth_le
    (year : Int)
    (month : Nat) :
    daysInMonth year month ≤ 31 := by
  simp only [daysInMonth]
  split
  · split <;> decide
  · decide
  · decide
  · decide
  · decide
  · decide

theorem isValid_ofDayNumber
    (n : Int) :
    (ofDayNumber n).isValid = true := by
  obtain ⟨cycle, _, century, span, year, day, -, hplace, hdate⟩ := exists_ofDayNumber n
  rw [hdate]
  refine isValid_ofMarch _ hplace.day_le ?_
  intro hlast
  obtain ⟨hyear, hspan⟩ := hplace.leap hlast
  have hcentury := hplace.century_le
  have hspans := hplace.span_le
  simp only [isLeapYear, Bool.and_eq_true, Bool.or_eq_true, beq_iff_eq, bne_iff_ne]
  omega

theorem dayNumber_ofDayNumber
    (n : Int) :
    (ofDayNumber n).dayNumber = n := by
  obtain ⟨cycle, d, century, span, year, day, hn, hplace, hdate⟩ := exists_ofDayNumber n
  obtain ⟨hcentury, hspan, hyear, hday, -, hd⟩ := hplace
  rw [hdate, dayNumber_ofMarch _ hday]
  have hcycle : ((100 * century + 4 * span + year : Nat) + cycle * 400) / 400 = cycle := by omega
  have hrest :
      (((100 * century + 4 * span + year : Nat) + cycle * 400) % 400).toNat =
        100 * century + 4 * span + year := by omega
  rw [hcycle, hrest]
  simp only [cycleDays]
  omega

/-- A year belongs to the cycle of its days, or it begins within the cycle's last year. -/
theorem year_bounds
    (n : Int) :
    400 * ((n + epochOffset) / cycleDays) ≤ (ofDayNumber n).year ∧
      (ofDayNumber n).year ≤ 400 * ((n + epochOffset) / cycleDays) + 400 := by
  obtain ⟨cycle, d, century, span, year, day, hn, hplace, hdate⟩ := exists_ofDayNumber n
  obtain ⟨hcentury, hspan, hyear, hday, -, hd⟩ := hplace
  have hcycle : (n + epochOffset) / cycleDays = cycle := by
    rw [hn, cycleDays]
    omega
  rw [hdate, hcycle, ofMarch]
  dsimp only
  split_ifs <;> omega

theorem parts_le_of_isValid
    {d : Date}
    (valid : d.isValid = true) :
    d.month ≤ 12 ∧ d.day ≤ 31 := by
  simp only [isValid, Bool.and_eq_true, decide_eq_true_eq] at valid
  exact ⟨valid.1.2, Nat.le_trans valid.2.2 (daysInMonth_le d.year d.month)⟩

end Date
end OrderDesk
