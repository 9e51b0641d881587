import Mathlib.Data.String.Basic
import OrderDesk.Order.Code
import OrderDesk.Proofs.Calendar.Succession
import OrderDesk.Proofs.Text.Numeral

/-!
# What order codes show

A code shows the day on which it is made, and six capital letters or digits.

* `Date.SpelledBy`, `OrderCode.Shows`: the digits of a date, and the codes that show it.
* `Instant.LiesOn`: an instant on a date of the years 0 to 9999.
* `Date.SpelledBy.append_lt`: digits of a later date come later, whatever follows.
* `codes_are_well_formed_and_sort_by_day`: a code shows the date of its instant and no other,
  and codes of later days come later.
-/

namespace OrderDesk

namespace Date

/-- Four digits for the year, two for the month and two for the day, with the date that they
denote. -/
inductive SpelledBy : Date → List Char → Prop where
  | digits {ys ms ds : List Char} {year month day : Nat} :
      Text.SpellsNumber ys year → ys.length = 4 →
      Text.SpellsNumber ms month → ms.length = 2 →
      Text.SpellsNumber ds day → ds.length = 2 →
      SpelledBy ⟨year, month, day⟩ (ys ++ ms ++ ds)

theorem spelledBy_compactChars
    {d : Date}
    (valid : d.isValid = true)
    (least : 0 ≤ d.year)
    (most : d.year ≤ 9999) :
    d.SpelledBy d.compactChars := by
  obtain ⟨hmonth, hday⟩ := parts_le_of_isValid valid
  obtain ⟨year, month, day⟩ := d
  obtain ⟨year, rfl⟩ := Int.eq_ofNat_of_zero_le least
  have hyear : year < Text.powerOfTen (3 + 1) := by
    show year < 10000
    exact Nat.lt_succ_of_le (Int.ofNat_le.mp most)
  have hmonth : month < Text.powerOfTen (1 + 1) := Nat.lt_of_le_of_lt hmonth (by decide)
  have hday : day < Text.powerOfTen (1 + 1) := Nat.lt_of_le_of_lt hday (by decide)
  rw [compactChars, yearChars, if_neg (Int.not_lt.mpr least), if_pos most]
  exact .digits (Text.spellsNumber_paddedDigits 4 year) (Text.length_paddedDigits hyear)
    (Text.spellsNumber_paddedDigits 2 month) (Text.length_paddedDigits hmonth)
    (Text.spellsNumber_paddedDigits 2 day) (Text.length_paddedDigits hday)

section Spelled

variable {d e : Date} {cs es : List Char}

/-- The digits of a date are those of its year, month and day as one number. -/
theorem SpelledBy.exists_values
    (spelled : d.SpelledBy cs) :
    ∃ values : List Nat, cs = values.map Text.digitChar ∧ values.length = 8 ∧
      (∀ v ∈ values, v < 10) ∧ d.rank = Text.ofDigitValues values := by
  cases spelled with
  | @digits ys ms ds year month day hys hysLength hms hmsLength hds hdsLength =>
      obtain @⟨ys, -, hys⟩ := hys
      obtain @⟨ms, -, hms⟩ := hms
      obtain @⟨ds, -, hds⟩ := hds
      rw [List.length_map] at hysLength hmsLength hdsLength
      refine ⟨ys ++ ms ++ ds, by simp, by simp [hysLength, hmsLength, hdsLength], ?_, ?_⟩
      · rw [List.forall_mem_append, List.forall_mem_append]
        exact ⟨⟨hys, hms⟩, hds⟩
      · have hhundred : Text.powerOfTen 2 = 100 := rfl
        simp only [rank, Text.ofDigitValues_append, hmsLength, hdsLength, hhundred]
        omega

theorem SpelledBy.length
    (spelled : d.SpelledBy cs) :
    cs.length = 8 := by
  obtain ⟨values, rfl, hlength, -, -⟩ := spelled.exists_values
  rw [List.length_map, hlength]

theorem SpelledBy.unique
    (hd : d.SpelledBy cs)
    (he : e.SpelledBy cs) :
    d = e := by
  cases hd with
  | @digits ys ms ds year month day hys hysLength hms hmsLength hds hdsLength =>
      generalize hcs : ys ++ ms ++ ds = cs at he
      cases he with
      | @digits ys' ms' ds' year' month' day' hys' hysLength' hms' hmsLength' hds' hdsLength' =>
          obtain ⟨hfront, rfl⟩ := List.append_inj' hcs (hdsLength.trans hdsLength'.symm)
          obtain ⟨rfl, rfl⟩ := List.append_inj' hfront (hmsLength.trans hmsLength'.symm)
          rw [hys.unique hys', hms.unique hms', hds.unique hds']

/-- Digits of a later date come later, whatever follows. -/
theorem SpelledBy.append_lt
    (hd : d.SpelledBy cs)
    (he : e.SpelledBy es)
    (later : d.rank < e.rank)
    (xs ys : List Char) :
    cs ++ xs < es ++ ys := by
  obtain ⟨values, rfl, hlength, hsmall, hrank⟩ := hd.exists_values
  obtain ⟨values', rfl, hlength', hsmall', hrank'⟩ := he.exists_values
  rw [hrank, hrank', Int.ofNat_lt] at later
  exact Text.map_digitChar_append_lt (hlength.trans hlength'.symm) hsmall hsmall' later xs ys

end Spelled

end Date

/-- An instant lies on a date of the years 0 to 9999. -/
structure Instant.LiesOn (t : Instant) (d : Date) : Prop where
  fallsOn : d.FallsOn (t.seconds / 86400)
  year_nonneg : 0 ≤ d.year
  year_le : d.year ≤ 9999

namespace Instant

variable {t t' : Instant} {d d' : Date}

/-- Every instant of these years lies on its date, and on no other. -/
theorem liesOn_iff :
    t.LiesOn d ↔ d = t.date ∧ 0 ≤ d.year ∧ d.year ≤ 9999 := by
  constructor
  · rintro ⟨falls, least, most⟩
    exact ⟨Date.fallsOn_iff.mp falls, least, most⟩
  · rintro ⟨date, least, most⟩
    exact ⟨Date.fallsOn_iff.mpr date, least, most⟩

theorem LiesOn.eq_date
    (on : t.LiesOn d) :
    d = t.date :=
  (liesOn_iff.mp on).1

theorem LiesOn.isValid
    (on : t.LiesOn d) :
    d.isValid = true :=
  on.eq_date ▸ Date.isValid_ofDayNumber _

theorem LiesOn.spelledBy
    (on : t.LiesOn d) :
    d.SpelledBy t.date.compactChars :=
  on.eq_date ▸ Date.spelledBy_compactChars on.isValid on.year_nonneg on.year_le

theorem seconds_le_of_cmp
    (le : (t.cmp t').isLE = true) :
    t.seconds ≤ t'.seconds := by
  rw [cmp, Ordering.isLE_then_iff_or, compare_lt_iff_lt, compare_eq_iff_eq] at le
  omega

end Instant

namespace OrderCode

/-- A capital letter from `A` to `Z`, or a digit. -/
def IsCapitalOrDigit (c : Char) : Prop :=
  ('A' ≤ c ∧ c ≤ 'Z') ∨ ('0' ≤ c ∧ c ≤ '9')

instance : DecidablePred IsCapitalOrDigit :=
  fun c => inferInstanceAs (Decidable (('A' ≤ c ∧ c ≤ 'Z') ∨ ('0' ≤ c ∧ c ≤ '9')))

/-- A code that shows a date: the mark, the digits of the date and six capital letters or
digits. -/
inductive Shows : List Char → Date → Prop where
  | parts {cs suffix : List Char} {d : Date} :
      d.SpelledBy cs → suffix.length = 6 → (∀ c ∈ suffix, IsCapitalOrDigit c) →
      Shows ('S' :: 'O' :: (cs ++ suffix)) d

theorem Shows.unique
    {code : List Char} {d e : Date}
    (hd : Shows code d)
    (he : Shows code e) :
    d = e := by
  cases hd with
  | @parts cs suffix d hcs hsuffix _ =>
      generalize hrest : cs ++ suffix = rest at he
      cases he with
      | @parts cs' suffix' e hcs' hsuffix' _ =>
          obtain ⟨rfl, -⟩ := List.append_inj' hrest (hsuffix.trans hsuffix'.symm)
          exact hcs.unique hcs'

/-- Every draw gives a capital letter or a digit. -/
theorem isCapitalOrDigit_of_mem_tail
    (draws : Draws) :
    ∀ c ∈ tail draws, IsCapitalOrDigit c := by
  have hdraw : ∀ draw : Fin 62, IsCapitalOrDigit (alphabet.getD draw.val 'A').toUpper := by
    decide +kernel
  intro c hc
  obtain ⟨i, rfl⟩ := List.mem_ofFn.mp hc
  exact hdraw (draws i)

section Generate

variable {t t' : Instant} {d d' : Date}

theorem toList_generate
    (t : Instant)
    (draws : Draws) :
    (generate t draws).toList = 'S' :: 'O' :: (t.date.compactChars ++ tail draws) :=
  String.toList_ofList

theorem shows_generate
    (on : t.LiesOn d)
    (draws : Draws) :
    Shows (generate t draws).toList d := by
  rw [toList_generate]
  exact .parts on.spelledBy List.length_ofFn (isCapitalOrDigit_of_mem_tail draws)

/-- The first ten characters of a code are the mark and the date. -/
theorem take_generate
    (on : t.LiesOn d)
    (draws : Draws) :
    (generate t draws).toList.take 10 = head t := by
  have hlength := on.spelledBy.length
  rw [toList_generate, List.take_succ_cons, List.take_succ_cons, ← hlength, List.take_left]
  rfl

theorem head_append_lt
    (on : t.LiesOn d)
    (on' : t'.LiesOn d')
    (later : t.seconds / 86400 < t'.seconds / 86400)
    (xs ys : List Char) :
    head t ++ xs < head t' ++ ys := by
  have hrank : d.rank < d'.rank := by
    rw [on.eq_date, on'.eq_date]
    exact Date.rank_ofDayNumber_lt later
  rw [head, head, List.append_assoc, List.append_assoc]
  exact List.append_left_lt (on.spelledBy.append_lt on'.spelledBy hrank xs ys)

theorem head_eq_of_same_day
    (same : t.seconds / 86400 = t'.seconds / 86400) :
    head t = head t' := by
  rw [head, head, Instant.date, Instant.date, Instant.dayNumber, Instant.dayNumber, same]

end Generate

/-- A code has sixteen characters.  It shows the date on which its instant lies and no other
date, and the day number of this date is that of the instant.  The first ten characters of
the codes of two instants are ordered as these are, and are equal on the same day only, so
that a code of a later day comes later. -/
theorem codes_are_well_formed_and_sort_by_day
    {t : Instant} {d : Date}
    (on : t.LiesOn d)
    (draws : Draws) :
    (generate t draws).length = 16 ∧
      (∀ e : Date, Shows (generate t draws).toList e ↔ e = d) ∧
      d.isValid = true ∧ d.dayNumber = t.seconds / 86400 ∧
      ∀ {t' : Instant} {d' : Date}, t'.LiesOn d' → (t.cmp t').isLE = true →
        ∀ draws' : Draws,
          (generate t draws).toList.take 10 ≤ (generate t' draws').toList.take 10 ∧
          ((generate t draws).toList.take 10 = (generate t' draws').toList.take 10 ↔
            t.seconds / 86400 = t'.seconds / 86400) ∧
          (t.seconds / 86400 ≠ t'.seconds / 86400 →
            generate t draws < generate t' draws') := by
  refine ⟨?_, ?_, on.isValid, ?_, ?_⟩
  · rw [← String.length_toList, toList_generate, List.length_cons, List.length_cons,
      List.length_append, on.spelledBy.length]
    rfl
  · intro e
    constructor
    · intro he
      exact he.unique (shows_generate on draws)
    · rintro rfl
      exact shows_generate on draws
  · rw [on.eq_date]
    exact Date.dayNumber_ofDayNumber _
  · intro t' d' on' le draws'
    have hdays : t.seconds / 86400 ≤ t'.seconds / 86400 :=
      Int.ediv_le_ediv (by decide) (Instant.seconds_le_of_cmp le)
    rw [take_generate on, take_generate on']
    rcases Int.lt_or_eq_of_le hdays with hlater | hsame
    · have hheads : head t < head t' := by
        have := head_append_lt on on' hlater [] []
        rwa [List.append_nil, List.append_nil] at this
      refine ⟨hheads.le, ⟨?_, ?_⟩, ?_⟩
      · intro heq
        exact absurd heq hheads.ne
      · intro heq
        exact absurd heq (Int.ne_of_lt hlater)
      · intro _
        rw [String.lt_iff, generate, generate, String.toList_ofList, String.toList_ofList]
        exact head_append_lt on on' hlater _ _
    · have hheads := head_eq_of_same_day hsame
      refine ⟨hheads.le, ⟨fun _ => hsame, fun _ => hheads⟩, ?_⟩
      intro hne
      exact absurd hsame hne

/-- The last nanosecond of a year before 1970, and the start of a leap day. -/
theorem codes_of_year_end_and_leap_day :
    let t : Instant := ⟨-1, 999999999, by decide⟩
    let t' : Instant := .ofSeconds 951782400
    t.LiesOn ⟨1969, 12, 31⟩ ∧ t'.LiesOn ⟨2000, 2, 29⟩ ∧
      Shows (generate t fun _ => 61).toList ⟨1969, 12, 31⟩ ∧
      generate t (fun _ => 61) < generate t' fun _ => 0 := by
  intro t t'
  have on : t.LiesOn ⟨1969, 12, 31⟩ := ⟨.earlier rfl .epoch, by decide, by decide⟩
  have on' : t'.LiesOn ⟨2000, 2, 29⟩ := Instant.liesOn_iff.mpr (by decide)
  obtain ⟨-, hshows, -, -, hlater⟩ := codes_are_well_formed_and_sort_by_day on fun _ => 61
  exact ⟨on, on', (hshows _).mpr rfl, (hlater on' (by decide) fun _ => 0).2.2 (by decide)⟩

end OrderCode
end OrderDesk
