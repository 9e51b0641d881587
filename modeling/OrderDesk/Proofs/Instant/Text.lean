import OrderDesk.Instant.Text
import OrderDesk.Proofs.Calendar
import OrderDesk.Proofs.Text.Digits

/-!
# Reading instants back

An instant without a leap second whose year has four digits is read from its text as it is,
to the nanosecond (`parse?_toChars`).

Every part of the text has a fixed width, so reading it needs no look at what follows, apart
from the fraction: it ends where no digit follows, before the `Z`.
-/

namespace OrderDesk
namespace Instant

open Text

/-- An instant outside leap seconds in the years 0 to 9999. -/
structure IsPlain (t : Instant) : Prop where
  nanos_lt : t.nanos < 1000000000
  least : 0 ≤ t.date.year
  most : t.date.year ≤ 9999

instance (t : Instant) : Decidable t.IsPlain :=
  decidable_of_iff (t.nanos < 1000000000 ∧ 0 ≤ t.date.year ∧ t.date.year ≤ 9999)
    ⟨fun ⟨nanos_lt, least, most⟩ => ⟨nanos_lt, least, most⟩,
      fun ⟨nanos_lt, least, most⟩ => ⟨nanos_lt, least, most⟩⟩

/-! ## Numbers of a fixed width -/

theorem isBlank_digitChar
    {d : Nat}
    (small : d < 10) :
    isBlank (digitChar d) = false := by
  revert d
  decide

section Width

variable {k n : Nat} (small : n < powerOfTen (k + 1)) (rest : List Char)

include small

theorem exists_paddedDigits :
    ∃ d, d < 10 ∧ ∃ cs, paddedDigits (k + 1) n ++ rest = digitChar d :: cs := by
  have hlength := length_paddedValues small
  have hsmall := paddedValues_lt (k + 1) n
  rw [paddedDigits_eq_map]
  cases hvalues : paddedValues (k + 1) n with
  | nil =>
      rw [hvalues, List.length_nil] at hlength
      omega
  | cons d ds =>
      rw [hvalues] at hsmall
      exact ⟨d, hsmall d List.mem_cons_self, _, rfl⟩

theorem trimStart_paddedDigits :
    trimStart (paddedDigits (k + 1) n ++ rest) = paddedDigits (k + 1) n ++ rest := by
  obtain ⟨d, hd, cs, hcs⟩ := exists_paddedDigits small rest
  rw [hcs, trimStart_cons_of_not_blank cs (isBlank_digitChar hd)]

theorem number?_paddedDigits :
    number? (k + 1) (paddedDigits (k + 1) n ++ rest) = some (n, rest) := by
  have hlength : ((paddedValues (k + 1) n).map digitChar).length = k + 1 := by
    rw [List.length_map, length_paddedValues small]
  have hsmall := paddedValues_lt (k + 1) n
  have hdigits := takeWhile_digits hsmall []
  rw [List.append_nil, List.takeWhile_nil, List.append_nil] at hdigits
  have hempty : ((paddedValues (k + 1) n).map digitChar).isEmpty = false := by
    rw [List.isEmpty_eq_false_iff, ← List.length_pos_iff]
    omega
  rw [paddedDigits_eq_map, number?, List.take_left' hlength, hdigits]
  rw [hempty, List.drop_left, filterMap_digit? hsmall, ofDigitValues_paddedValues]
  rfl

end Width

theorem part?_paddedDigits
    {n : Nat}
    (small : n < 100)
    (rest : List Char) :
    part? (paddedDigits 2 n ++ rest) = some (n, rest) := by
  rw [part?, trimStart_paddedDigits (k := 1) small, number?_paddedDigits (k := 1) small]

theorem after?_cons
    {c : Char}
    (visible : isBlank c = false)
    (rest : List Char) :
    after? c (c :: rest) = some rest := by
  rw [after?, trimStart_cons_of_not_blank rest visible]
  simp

/-! ## Dates -/

theorem year?_yearChars
    {year : Int}
    (least : 0 ≤ year)
    (most : year ≤ 9999)
    (rest : List Char) :
    year? (Date.yearChars year ++ rest) = some (year, rest) := by
  have hsmall : year.natAbs < powerOfTen (3 + 1) := by
    show year.natAbs < 10000
    omega
  have hyear : (year.natAbs : Int) = year := by omega
  obtain ⟨d, hd, cs, hcs⟩ := exists_paddedDigits hsmall rest
  have hsign := digitChar_ne_sign hd
  have hnumber := number?_paddedDigits hsmall rest
  rw [Date.yearChars, if_neg (by omega), if_pos most, year?, trimStart_paddedDigits hsmall]
  rw [hcs] at hnumber ⊢
  split
  · rename_i h
    exact absurd (List.cons.inj h).1 hsign.1
  · rename_i h
    exact absurd (List.cons.inj h).1 hsign.2
  · rw [hnumber, Option.map_some]
    dsimp only
    rw [hyear]

theorem date?_hyphenChars
    {d : Date}
    (valid : d.isValid = true)
    (least : 0 ≤ d.year)
    (most : d.year ≤ 9999)
    (rest : List Char) :
    date? (d.hyphenChars ++ rest) = some (d, rest) := by
  obtain ⟨hmonth, hday⟩ := Date.parts_le_of_isValid valid
  have hhyphen : isBlank '-' = false := by decide
  simp only [date?, Date.hyphenChars, List.append_assoc, List.cons_append,
    year?_yearChars least most, after?_cons hhyphen,
    part?_paddedDigits (show d.month < 100 by omega),
    part?_paddedDigits (show d.day < 100 by omega), Option.bind_eq_bind, Option.bind_some]
  rw [if_pos valid]

/-! ## Times of day -/

theorem fraction?_digits
    {ds : List Nat}
    (small : ∀ d ∈ ds, d < 10)
    (some_digit : ds ≠ [])
    {rest : List Char}
    (behind : rest.takeWhile (fun c => (digit? c).isSome) = []) :
    fraction? ('.' :: (ds.map digitChar ++ rest)) = some (fractionNanos ds, rest) := by
  have hempty : ds.isEmpty = false := by simpa using some_digit
  have hlength : ds.length = (ds.map digitChar).length := (List.length_map ..).symm
  rw [fraction?, takeWhile_digits small, behind, List.append_nil, filterMap_digit? small]
  rw [hempty, if_neg Bool.false_ne_true, hlength, List.drop_left]

/-- A fraction of at most nine digits counts as many nanoseconds as it is written for. -/
theorem fraction?_paddedDigits
    {k n : Nat}
    (few : k < 9)
    (small : n < powerOfTen (k + 1))
    {rest : List Char}
    (behind : rest.takeWhile (fun c => (digit? c).isSome) = []) :
    fraction? ('.' :: (paddedDigits (k + 1) n ++ rest)) =
      some (n * powerOfTen (9 - (k + 1)), rest) := by
  have hlength := length_paddedValues small
  have hne : paddedValues (k + 1) n ≠ [] := by
    rw [← List.length_pos_iff]
    omega
  rw [paddedDigits_eq_map, fraction?_digits (paddedValues_lt _ _) hne behind, fractionNanos,
    hlength, List.take_of_length_le (by omega), ofDigitValues_paddedValues]

theorem fraction?_fractionChars
    {nanos : Nat}
    (bound : nanos < 1000000000)
    (rest : List Char) :
    fraction? (fractionChars nanos ++ 'Z' :: rest) = some (nanos, 'Z' :: rest) := by
  have hbehind : ('Z' :: rest).takeWhile (fun c => (digit? c).isSome) = [] := by
    rw [List.takeWhile_cons, show (digit? 'Z').isSome = false by decide]
    rfl
  rw [fractionChars]
  split
  · rename_i hzero
    rw [hzero]
    rfl
  · split
    · have hsmall : nanos / 1000000 < 1000 := by omega
      have hnanos : nanos / 1000000 * powerOfTen (9 - (2 + 1)) = nanos := by
        show nanos / 1000000 * 1000000 = nanos
        omega
      rw [List.cons_append, fraction?_paddedDigits (k := 2) (by decide) hsmall hbehind, hnanos]
    · split
      · have hsmall : nanos / 1000 < 1000000 := by omega
        have hnanos : nanos / 1000 * powerOfTen (9 - (5 + 1)) = nanos := by
          show nanos / 1000 * 1000 = nanos
          omega
        rw [List.cons_append, fraction?_paddedDigits (k := 5) (by decide) hsmall hbehind, hnanos]
      · have hnanos : nanos * powerOfTen (9 - (8 + 1)) = nanos := Nat.mul_one nanos
        rw [List.cons_append, fraction?_paddedDigits (k := 8) (by decide) bound hbehind, hnanos]

theorem time?_chars
    (hour minute second nanos : Nat)
    (hour_lt : hour < 24)
    (minute_lt : minute < 60)
    (second_lt : second < 60)
    (nanos_lt : nanos < 1000000000)
    (rest : List Char) :
    time?
        (paddedDigits 2 hour ++ ':' :: (paddedDigits 2 minute ++
          ':' :: (paddedDigits 2 second ++ (fractionChars nanos ++ 'Z' :: rest)))) =
      some ((hour * 3600 + minute * 60 + second, nanos), 'Z' :: rest) := by
  have hcolon : isBlank ':' = false := by decide
  have hleap : second / 60 = 0 := Nat.div_eq_of_lt second_lt
  simp only [time?, after?_cons hcolon,
    part?_paddedDigits (show hour < 100 by omega),
    part?_paddedDigits (show minute < 100 by omega),
    part?_paddedDigits (show second < 100 by omega),
    fraction?_fractionChars nanos_lt, Option.bind_eq_bind, Option.bind_some, hleap]
  rw [if_pos ⟨hour_lt, minute_lt, Nat.le_of_lt second_lt⟩, Nat.zero_mul]
  rfl

/-! ## Instants -/

theorem coversDay_iff
    {n : Int} :
    coversDay n = true ↔ -96465292 ≤ n ∧ n ≤ 95026236 := by
  have hfirst : firstDay = -96465292 := by decide
  have hlast : lastDay = 95026236 := by decide
  rw [coversDay, Bool.and_eq_true, decide_eq_true_eq, decide_eq_true_eq, hfirst, hlast]

theorem coversDay_of_year
    {n : Int}
    (least : 0 ≤ (Date.ofDayNumber n).year)
    (most : (Date.ofDayNumber n).year ≤ 9999) :
    coversDay n = true := by
  have hyear := Date.year_bounds n
  simp only [Date.cycleDays, Date.epochOffset] at hyear
  rw [coversDay_iff]
  omega

theorem parse?_toChars
    {t : Instant}
    (plain : t.IsPlain) :
    parse? t.toChars = some t := by
  obtain ⟨hnanos, hleast, hmost⟩ := plain
  have hseconds : t.secondOfDay < 86400 := by
    rw [secondOfDay]
    omega
  have hday : t.date.dayNumber = t.dayNumber := Date.dayNumber_ofDayNumber _
  have hcovers : coversDay t.dayNumber = true := coversDay_of_year hleast hmost
  have hvalid : t.date.isValid = true := Date.isValid_ofDayNumber _
  have htime := time?_chars (t.secondOfDay / 3600) (t.secondOfDay / 60 % 60)
    (t.secondOfDay % 60 + t.nanos / 1000000000) (t.nanos % 1000000000)
    (by omega) (by omega) (by omega) (by omega) []
  have hsecond :
      t.secondOfDay / 3600 * 3600 + t.secondOfDay / 60 % 60 * 60 +
        (t.secondOfDay % 60 + t.nanos / 1000000000) = t.secondOfDay := by omega
  have hrest : t.nanos % 1000000000 = t.nanos := Nat.mod_eq_of_lt hnanos
  have hwhole : t.dayNumber * 86400 + (t.secondOfDay : Int) - 0 = t.seconds := by
    rw [dayNumber, secondOfDay]
    omega
  have hcheck :
      ((trimStart []).isEmpty && coversDay t.dayNumber && coversDay (t.seconds / 86400)) =
        true := by
    rw [hcovers]
    exact hcovers
  have hzone : zone? (trimStart ['Z']) = some (0, []) := by decide
  rw [toChars, parse?]
  simp only [List.append_assoc, List.cons_append]
  rw [date?_hyphenChars hvalid hleast hmost]
  simp only [Option.bind_eq_bind, Option.bind_some, htime, hzone]
  rw [hday, hsecond, hwhole, hrest]
  rw [if_pos hcheck, ofParts?, dif_pos t.nanos_lt]

end Instant
end OrderDesk
