import OrderDesk.Instant
import OrderDesk.Text.Blank

/-!
# The text of instants

Instants are written in the profile of ISO 8601 that RFC 3339 defines, in
universal time with the suffix `Z`, and with a fraction of 0, 3, 6 or 9 digits,
the fewest that are exact.

**Reading** is more liberal.  Blanks may stand around the parts of the date and
the time, a year may have a sign, the separator is `T`, `t` or a blank, a
fraction may have any number of digits of which nine count, and the zone is
`Z`, `UTC` or an offset of hours and minutes.
-/

namespace OrderDesk
namespace Instant

open Text

/-- The fraction of a second, in the fewest of 0, 3, 6 or 9 digits. -/
def fractionChars (nanos : Nat) : List Char :=
  if nanos = 0 then []
  else if nanos % 1000000 = 0 then '.' :: paddedDigits 3 (nanos / 1000000)
  else if nanos % 1000 = 0 then '.' :: paddedDigits 6 (nanos / 1000)
  else '.' :: paddedDigits 9 nanos

/-- The instant as date and time in universal time. -/
def toChars (t : Instant) : List Char :=
  let second := t.secondOfDay % 60 + t.nanos / 1000000000
  t.date.hyphenChars ++ 'T' :: paddedDigits 2 (t.secondOfDay / 3600) ++
    ':' :: paddedDigits 2 (t.secondOfDay / 60 % 60) ++
    ':' :: paddedDigits 2 second ++ fractionChars (t.nanos % 1000000000) ++ ['Z']

/-- The instant as date and time, as a string. -/
def text (t : Instant) : String :=
  String.ofList t.toChars

instance : ToString Instant := ⟨text⟩

/-- The number that the leading digits spell, up to a number of them, and the rest. -/
def number? (most : Nat) (cs : List Char) : Option (Nat × List Char) :=
  let ds := (cs.take most).takeWhile fun c => (digit? c).isSome
  if ds.isEmpty then none
  else some (ofDigitValues (ds.filterMap digit?), cs.drop ds.length)

/-- A number of at most two digits after blanks. -/
def part? (cs : List Char) : Option (Nat × List Char) :=
  number? 2 (trimStart cs)

/-- The text after blanks and one given character. -/
def after? (c : Char) (cs : List Char) : Option (List Char) :=
  match trimStart cs with
  | [] => none
  | d :: rest => if d = c then some rest else none

/-- A year: up to four digits, or a sign and any number of digits. -/
def year? (cs : List Char) : Option (Int × List Char) :=
  match trimStart cs with
  | '-' :: rest => (number? rest.length rest).map fun (n, rest) => (-(n : Int), rest)
  | '+' :: rest => (number? rest.length rest).map fun (n, rest) => ((n : Int), rest)
  | rest => (number? 4 rest).map fun (n, rest) => ((n : Int), rest)

/-- A date in the order year, month, day. -/
def date? (cs : List Char) : Option (Date × List Char) := do
  let (year, cs) ← year? cs
  let (month, cs) ← part? (← after? '-' cs)
  let (day, cs) ← part? (← after? '-' cs)
  let date : Date := { year, month, day }
  if date.isValid then some (date, cs) else none

/-- The nanoseconds that the digits of a fraction count. -/
def fractionNanos (ds : List Nat) : Nat :=
  ofDigitValues (ds.take 9) * powerOfTen (9 - ds.length)

/-- An optional fraction of a second. -/
def fraction? : List Char → Option (Nat × List Char)
  | '.' :: cs =>
    let ds := (cs.takeWhile fun c => (digit? c).isSome).filterMap digit?
    if ds.isEmpty then none else some (fractionNanos ds, cs.drop ds.length)
  | cs => some (0, cs)

/-- A time of day as seconds and nanoseconds; second 60 is a leap second. -/
def time? (cs : List Char) : Option ((Nat × Nat) × List Char) := do
  let (hour, cs) ← part? cs
  let (minute, cs) ← part? (← after? ':' cs)
  let (second, cs) ← part? (← after? ':' cs)
  let (nanos, cs) ← fraction? cs
  if hour < 24 ∧ minute < 60 ∧ second ≤ 60 then
    let leap := second / 60
    some ((hour * 3600 + minute * 60 + (second - leap), nanos + leap * 1000000000), cs)
  else none

/-- Exactly two digits. -/
def twoDigits? : List Char → Option (Nat × List Char)
  | a :: b :: cs => do some ((← digit? a) * 10 + (← digit? b), cs)
  | _ => none

/-- An offset of hours and minutes behind its sign, in seconds. -/
def offset? (cs : List Char) : Option (Int × List Char) := do
  let (hours, cs) ← twoDigits? cs
  let (minutes, cs) ← twoDigits? (cs.dropWhile fun c => c == ':' || isBlank c)
  if hours < 24 ∧ minutes < 60 then some ((hours * 3600 + minutes * 60 : Nat), cs) else none

/-- A zone as its offset from universal time, in seconds. -/
def zone? (cs : List Char) : Option (Int × List Char) :=
  match cs with
  | 'Z' :: cs | 'z' :: cs => some (0, cs)
  | '+' :: cs => offset? cs
  | '-' :: cs | '−' :: cs => (offset? cs).map fun (n, cs) => (-n, cs)
  | cs => if (cs.take 3).map Char.toUpper = ['U', 'T', 'C'] then some (0, cs.drop 3) else none

/-- The first day of the years that instants cover. -/
def firstDay : Int := Date.dayNumber ⟨-262143, 1, 1⟩

/-- The last day of the years that instants cover. -/
def lastDay : Int := Date.dayNumber ⟨262142, 12, 31⟩

/-- Whether a day is covered. -/
def coversDay (n : Int) : Bool :=
  firstDay ≤ n && n ≤ lastDay

/-- Reads an instant. -/
def parse? (cs : List Char) : Option Instant := do
  let (date, cs) ← date? cs
  let cs ← match cs with
    | 'T' :: cs | 't' :: cs | ' ' :: cs => some cs
    | _ => none
  let ((second, nanos), cs) ← time? cs
  let (offset, cs) ← zone? (trimStart cs)
  let seconds := date.dayNumber * 86400 + second - offset
  if (trimStart cs).isEmpty && coversDay date.dayNumber && coversDay (seconds / 86400) then
    ofParts? seconds nanos
  else none

end Instant
end OrderDesk
