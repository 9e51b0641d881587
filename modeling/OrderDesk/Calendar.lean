import OrderDesk.Text.Numeral

/-!
# Calendar dates

Dates of the Gregorian calendar, extended to all years, and their day numbers,
counted from 1 January 1970.  Inside both conversions years begin in March, so
that the leap day is the last day of its year, and come in cycles of 400 years,
which all have 146097 days.
-/

namespace OrderDesk

/-- A calendar date. -/
structure Date where
  year : Int
  month : Nat
  day : Nat
deriving DecidableEq, Repr

namespace Date

/-- The number of days in a cycle of 400 years. -/
def cycleDays : Int := 146097

/-- The days from 1 March of the year 0 to 1 January 1970. -/
def epochOffset : Int := 719468

/-- The date with the given day number. -/
def ofDayNumber (n : Int) : Date :=
  let shifted := n + epochOffset
  let cycle := shifted / cycleDays
  let dayOfCycle := (shifted % cycleDays).toNat
  let yearOfCycle :=
    (dayOfCycle - dayOfCycle / 1460 + dayOfCycle / 36524 - dayOfCycle / 146096) / 365
  let dayOfYear := dayOfCycle - (365 * yearOfCycle + yearOfCycle / 4 - yearOfCycle / 100)
  let monthFromMarch := (5 * dayOfYear + 2) / 153
  let day := dayOfYear - (153 * monthFromMarch + 2) / 5 + 1
  let month := if monthFromMarch < 10 then monthFromMarch + 3 else monthFromMarch - 9
  { year := (yearOfCycle : Int) + cycle * 400 + (if month ≤ 2 then 1 else 0), month, day }

/-- The day number of a date. -/
def dayNumber (d : Date) : Int :=
  let year := if d.month ≤ 2 then d.year - 1 else d.year
  let cycle := year / 400
  let yearOfCycle := (year % 400).toNat
  let monthFromMarch := (d.month + 9) % 12
  let dayOfYear := (153 * monthFromMarch + 2) / 5 + d.day - 1
  let dayOfCycle := yearOfCycle * 365 + yearOfCycle / 4 - yearOfCycle / 100 + dayOfYear
  cycle * cycleDays + dayOfCycle - epochOffset

/-- Whether a year has a leap day. -/
def isLeapYear (year : Int) : Bool :=
  year % 4 == 0 && (year % 100 != 0 || year % 400 == 0)

/-- The number of days of a month. -/
def daysInMonth (year : Int) (month : Nat) : Nat :=
  match month with
  | 2 => if isLeapYear year then 29 else 28
  | 4 | 6 | 9 | 11 => 30
  | _ => 31

/-- Whether the parts name a day of the calendar. -/
def isValid (d : Date) : Bool :=
  (1 ≤ d.month && d.month ≤ 12) && (1 ≤ d.day && d.day ≤ daysInMonth d.year d.month)

/-- A year in at least four digits; one outside 0 to 9999 has a sign. -/
def yearChars (year : Int) : List Char :=
  if year < 0 then '-' :: Text.paddedDigits 4 year.natAbs
  else if year ≤ 9999 then Text.paddedDigits 4 year.natAbs
  else '+' :: Text.paddedDigits 4 year.natAbs

/-- The date as year, month and day without separators. -/
def compactChars (d : Date) : List Char :=
  yearChars d.year ++ Text.paddedDigits 2 d.month ++ Text.paddedDigits 2 d.day

/-- The date as year, month and day with hyphens. -/
def hyphenChars (d : Date) : List Char :=
  yearChars d.year ++ '-' :: Text.paddedDigits 2 d.month ++ '-' :: Text.paddedDigits 2 d.day

end Date
end OrderDesk
