import Mathlib.Order.Monotone.Basic
import OrderDesk.Proofs.Calendar

/-!
# One day after the other

The calendar is given by its first day and by what follows a day: the next one of the month,
the first of the next month, or 1 January of the next year.  Counting from 1 January 1970 in
both directions, this gives every day number its date.

* `next`, `FallsOn`: the day after a date, and the dates counted in this way.
* `dayNumber_next`, `ofDayNumber_dayNumber`: the day number of the next day is the next one,
  and it has no other valid date.
* `ofDayNumber_succ`, `fallsOn_iff`: the date that is computed for a day number is the one
  that is counted.
* `rank_ofDayNumber_lt`: a later day has the greater year, month and day.
-/

namespace OrderDesk
namespace Date

/-- The day after a date. -/
def next (d : Date) : Date :=
  if d.day < daysInMonth d.year d.month then { d with day := d.day + 1 }
  else if d.month < 12 then { d with month := d.month + 1, day := 1 }
  else { year := d.year + 1, month := 1, day := 1 }

/-- A date falls on a day, counted from 1 January 1970 on or back. -/
inductive FallsOn : Date → Int → Prop where
  | epoch : FallsOn ⟨1970, 1, 1⟩ 0
  | later {d : Date} {n : Int} : FallsOn d n → FallsOn d.next (n + 1)
  | earlier {d : Date} {n : Int} : d.isValid = true → FallsOn d.next (n + 1) → FallsOn d n

/-- Year, month and day as one number, most significant first. -/
def rank (d : Date) : Int :=
  d.year * 10000 + d.month * 100 + d.day

theorem isValid_iff
    {d : Date} :
    d.isValid = true ↔
      (1 ≤ d.month ∧ d.month ≤ 12) ∧ 1 ≤ d.day ∧ d.day ≤ daysInMonth d.year d.month := by
  simp only [isValid, Bool.and_eq_true, decide_eq_true_eq]

theorem one_le_daysInMonth
    (year : Int)
    (month : Nat) :
    1 ≤ daysInMonth year month := by
  simp only [daysInMonth]
  split
  · split <;> decide
  · decide
  · decide
  · decide
  · decide
  · decide

/-! ## Day numbers by years that begin in March -/

/-- The year of a date if years begin in March. -/
def marchYear (d : Date) : Int :=
  if d.month ≤ 2 then d.year - 1 else d.year

/-- The months from March to the month of a date. -/
def marchMonth (d : Date) : Nat :=
  (d.month + 9) % 12

/-- The days from 1 March to the first of a month that is some months later. -/
def monthStart (months : Nat) : Nat :=
  (153 * months + 2) / 5

/-- The days from 1 March of the year 0 to 1 March of a year. -/
def yearStart (year : Int) : Int :=
  365 * year + year / 4 - year / 100 + year / 400

theorem yearStart_succ
    (year : Int) :
    yearStart (year + 1) =
      yearStart year + 365 + if isLeapYear (year + 1) = true then 1 else 0 := by
  simp only [yearStart, isLeapYear, Bool.and_eq_true, Bool.or_eq_true, beq_iff_eq, bne_iff_ne]
  split_ifs <;> omega

theorem yearStart_le
    {year year' : Int}
    (le : year ≤ year') :
    yearStart year ≤ yearStart year' := by
  simp only [yearStart]
  omega

theorem dayNumber_eq
    {d : Date}
    (day : 1 ≤ d.day) :
    d.dayNumber =
      yearStart d.marchYear + monthStart d.marchMonth + (d.day - 1) - epochOffset := by
  rw [dayNumber, marchYear, marchMonth, monthStart, yearStart]
  generalize (if d.month ≤ 2 then d.year - 1 else d.year) = year
  simp only [cycleDays]
  omega

/-- Another month than February ends where the next one starts. -/
theorem monthStart_succ
    (year : Int)
    {month : Nat}
    (low : 1 ≤ month)
    (high : month ≤ 12)
    (february : month ≠ 2) :
    monthStart ((month + 9) % 12 + 1) =
      monthStart ((month + 9) % 12) + daysInMonth year month := by
  interval_cases month <;> first | rfl | exact absurd rfl february

/-- February ends where the next year starts. -/
theorem yearStart_eq
    (year : Int) :
    yearStart year = yearStart (year - 1) + monthStart 11 + daysInMonth year 2 := by
  have hsucc := yearStart_succ (year - 1)
  rw [Int.sub_add_cancel] at hsucc
  simp only [daysInMonth, monthStart]
  split_ifs at * <;> omega

/-- A month ends before the next one starts, and the last one with its year. -/
theorem day_le_of_isValid
    {d : Date}
    (valid : d.isValid = true) :
    d.marchMonth ≤ 11 ∧
      (d.marchMonth < 11 → monthStart d.marchMonth + d.day ≤ monthStart (d.marchMonth + 1)) ∧
      (d.marchMonth = 11 →
        yearStart d.marchYear + monthStart 11 + d.day ≤ yearStart (d.marchYear + 1)) := by
  obtain ⟨⟨hlow, hhigh⟩, hday, hlast⟩ := isValid_iff.mp valid
  obtain ⟨year, month, day⟩ := d
  simp only [marchMonth, marchYear] at *
  refine ⟨by omega, ?_, ?_⟩
  · intro h
    rw [monthStart_succ year hlow hhigh (by omega)]
    omega
  · intro h
    obtain rfl : month = 2 := by omega
    rw [if_pos (Nat.le_refl 2), Int.sub_add_cancel, yearStart_eq year]
    omega

/-- The day number of a date lies within its year. -/
theorem dayNumber_bounds
    {d : Date}
    (valid : d.isValid = true) :
    yearStart d.marchYear ≤ d.dayNumber + epochOffset ∧
      d.dayNumber + epochOffset < yearStart (d.marchYear + 1) := by
  have hday := (isValid_iff.mp valid).2.1
  obtain ⟨hmonth, hwithin, hlast⟩ := day_le_of_isValid valid
  have hyear := yearStart_succ d.marchYear
  rw [dayNumber_eq hday]
  simp only [monthStart] at *
  refine ⟨by omega, ?_⟩
  split_ifs at hyear <;> omega

theorem marchYear_eq_of_dayNumber_eq
    {d e : Date}
    (hd : d.isValid = true)
    (he : e.isValid = true)
    (same : d.dayNumber = e.dayNumber) :
    d.marchYear = e.marchYear := by
  have hdBounds := dayNumber_bounds hd
  have heBounds := dayNumber_bounds he
  rcases Int.lt_trichotomy d.marchYear e.marchYear with h | h | h
  · have := yearStart_le (Int.add_one_le_of_lt h)
    omega
  · exact h
  · have := yearStart_le (Int.add_one_le_of_lt h)
    omega

/-- No two dates of the calendar have the same day number. -/
theorem eq_of_dayNumber_eq
    {d e : Date}
    (hd : d.isValid = true)
    (he : e.isValid = true)
    (same : d.dayNumber = e.dayNumber) :
    d = e := by
  have hyear := marchYear_eq_of_dayNumber_eq hd he same
  obtain ⟨⟨hdLow, hdHigh⟩, hdDay, -⟩ := isValid_iff.mp hd
  obtain ⟨⟨heLow, heHigh⟩, heDay, -⟩ := isValid_iff.mp he
  obtain ⟨-, hdWithin, -⟩ := day_le_of_isValid hd
  obtain ⟨-, heWithin, -⟩ := day_le_of_isValid he
  rw [dayNumber_eq hdDay, dayNumber_eq heDay, hyear] at same
  obtain ⟨year, month, day⟩ := d
  obtain ⟨year', month', day'⟩ := e
  simp only [marchYear, marchMonth, monthStart] at *
  obtain rfl : month = month' := by omega
  obtain rfl : day = day' := by omega
  obtain rfl : year = year' := by split_ifs at hyear <;> omega
  rfl

theorem ofDayNumber_dayNumber
    {d : Date}
    (valid : d.isValid = true) :
    ofDayNumber d.dayNumber = d :=
  eq_of_dayNumber_eq (isValid_ofDayNumber _) valid (dayNumber_ofDayNumber _)

/-! ## The next day -/

section Next

variable {d : Date} (valid : d.isValid = true)

include valid

theorem isValid_next :
    d.next.isValid = true := by
  obtain ⟨⟨hlow, hhigh⟩, hday, hlast⟩ := isValid_iff.mp valid
  rw [next]
  split_ifs with hmid hmonth
  · exact isValid_iff.mpr ⟨⟨hlow, hhigh⟩, Nat.le_add_left 1 _, hmid⟩
  · exact isValid_iff.mpr
      ⟨⟨Nat.le_add_left 1 _, hmonth⟩, Nat.le_refl 1, one_le_daysInMonth _ _⟩
  · exact isValid_iff.mpr
      ⟨⟨Nat.le_refl 1, Nat.le_add_left 1 11⟩, Nat.le_refl 1, one_le_daysInMonth _ _⟩

theorem dayNumber_next :
    d.next.dayNumber = d.dayNumber + 1 := by
  obtain ⟨⟨hlow, hhigh⟩, hday, hlast⟩ := isValid_iff.mp valid
  have hnextDay := (isValid_iff.mp (isValid_next valid)).2.1
  rw [dayNumber_eq hday, dayNumber_eq hnextDay]
  obtain ⟨year, month, day⟩ := d
  dsimp only at hlow hhigh hday hlast
  simp only [next]
  split_ifs with hmid hmonth
  · simp only [marchYear, marchMonth]
    omega
  · obtain rfl : day = daysInMonth year month := by omega
    simp only [marchYear, marchMonth]
    by_cases hfebruary : month = 2
    · subst hfebruary
      rw [if_pos (Nat.le_refl 2), if_neg (by decide), yearStart_eq year]
      simp only [monthStart]
      omega
    · have hstart := monthStart_succ year hlow hhigh hfebruary
      rw [show (month + 1 + 9) % 12 = (month + 9) % 12 + 1 by omega, hstart]
      split_ifs <;> omega
  · obtain rfl : month = 12 := by omega
    have hstart : monthStart ((1 + 9) % 12) = monthStart ((12 + 9) % 12) + daysInMonth year 12 :=
      monthStart_succ year hlow hhigh (by decide)
    simp only [marchYear, marchMonth]
    rw [if_pos (by decide), if_neg (by decide), Int.add_sub_cancel, hstart]
    omega

/-- The next day has the greater year, month and day. -/
theorem rank_lt_next :
    d.rank < d.next.rank := by
  obtain ⟨hmonth, hday⟩ := parts_le_of_isValid valid
  rw [next, rank]
  split_ifs <;> simp only [rank] <;> omega

end Next

theorem ofDayNumber_succ
    (n : Int) :
    ofDayNumber (n + 1) = (ofDayNumber n).next := by
  have hvalid := isValid_ofDayNumber n
  have hnumber : (ofDayNumber n).next.dayNumber = n + 1 := by
    rw [dayNumber_next hvalid, dayNumber_ofDayNumber]
  rw [← hnumber, ofDayNumber_dayNumber (isValid_next hvalid)]

/-! ## The date of a day -/

theorem fallsOn_ofDayNumber
    (n : Int) :
    (ofDayNumber n).FallsOn n := by
  induction n using Int.induction_on with
  | zero =>
      exact .epoch
  | succ n ih =>
      rw [ofDayNumber_succ]
      exact .later ih
  | pred n ih =>
      refine .earlier (isValid_ofDayNumber _) ?_
      rwa [← ofDayNumber_succ, Int.sub_add_cancel]

/-- The date that is computed for a day is the one that is counted. -/
theorem fallsOn_iff
    {d : Date} {n : Int} :
    d.FallsOn n ↔ d = ofDayNumber n := by
  constructor
  · intro falls
    induction falls with
    | epoch =>
        decide
    | later _ ih =>
        rw [ih, ofDayNumber_succ]
    | @earlier d n valid _ ih =>
        have hnumber : d.dayNumber = n := by
          have := dayNumber_next valid
          rw [ih, dayNumber_ofDayNumber] at this
          omega
        rw [← hnumber, ofDayNumber_dayNumber valid]
  · rintro rfl
    exact fallsOn_ofDayNumber n

/-- A later day has the greater year, month and day. -/
theorem rank_ofDayNumber_lt
    {m n : Int}
    (less : m < n) :
    (ofDayNumber m).rank < (ofDayNumber n).rank := by
  have mono : StrictMono fun n => (ofDayNumber n).rank := by
    refine strictMono_int_of_lt_succ fun n => ?_
    rw [ofDayNumber_succ]
    exact rank_lt_next (isValid_ofDayNumber n)
  exact mono less

end Date
end OrderDesk
