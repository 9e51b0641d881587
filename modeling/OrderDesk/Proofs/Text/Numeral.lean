import OrderDesk.Json.Value
import OrderDesk.Proofs.Text.Digits

/-!
# Which texts are integer numerals

An integer numeral is one or more digits, behind a sign or without one.  Where there are no
negative numbers, only a plus is a sign.

* `SpellsNumber`, `SpellsNatural`, `SpellsInteger`: the numerals with the numbers that they
  spell.
* `DigitsFail`, `FailsAsInteger`: texts that are no numerals within a limit, each with its
  error, which is named by the first character that cannot go on the digits before it.
* `readInt_eq_ok_iff`, `readInt_eq_error_iff`: what reading an integer accepts and refuses.
* `readNat_eq_ok_iff`: what reading a number without negative ones accepts.
* `readInt64_eq_ok_iff`, `spellsInteger_integerChars`: the same for 64 bits, and the numeral
  that is written for an integer.
-/

namespace OrderDesk
namespace Text

/-- Digits, at least one, with the number that they spell. -/
inductive SpellsNumber : List Char → Nat → Prop where
  | digits {ds : List Nat} :
      ds ≠ [] → (∀ d ∈ ds, d < 10) → SpellsNumber (ds.map digitChar) (ofDigitValues ds)

/-- Digits behind a plus or without one, with the number that they spell. -/
inductive SpellsNatural : List Char → Nat → Prop where
  | plain {cs : List Char} {n : Nat} : SpellsNumber cs n → SpellsNatural cs n
  | plus {cs : List Char} {n : Nat} : SpellsNumber cs n → SpellsNatural ('+' :: cs) n

/-- Digits behind a sign or without one, with the integer that they spell. -/
inductive SpellsInteger : List Char → Int → Prop where
  | plain {cs : List Char} {n : Nat} : SpellsNumber cs n → SpellsInteger cs n
  | plus {cs : List Char} {n : Nat} : SpellsNumber cs n → SpellsInteger ('+' :: cs) n
  | minus {cs : List Char} {n : Nat} : SpellsNumber cs n → SpellsInteger ('-' :: cs) (-n)

/-- A text that is not made of digits up to its end, or whose number is beyond a limit,
with the error that the first such character calls for. -/
inductive DigitsFail (limit : Nat) (beyond : NumeralError) :
    List Char → NumeralError → Prop where
  | foreign {ds : List Nat} {c : Char} (rest : List Char) :
      (∀ d ∈ ds, d < 10) → ofDigitValues ds ≤ limit → (∀ d < 10, c ≠ digitChar d) →
      DigitsFail limit beyond (ds.map digitChar ++ c :: rest) .invalidDigit
  | beyond {ds : List Nat} {d : Nat} (rest : List Char) :
      (∀ d ∈ ds, d < 10) → ofDigitValues ds ≤ limit → d < 10 →
      limit < ofDigitValues ds * 10 + d →
      DigitsFail limit beyond (ds.map digitChar ++ digitChar d :: rest) beyond

/-- A text that is no integer from `-limit - 1` to `limit`, with its error. -/
inductive FailsAsInteger (limit : Nat) : List Char → NumeralError → Prop where
  | empty : FailsAsInteger limit [] .empty
  | bareSign {c : Char} : c = '+' ∨ c = '-' → FailsAsInteger limit [c] .invalidDigit
  | plain {cs : List Char} {e : NumeralError} :
      (∀ c ∈ cs.head?, c ≠ '+' ∧ c ≠ '-') →
      DigitsFail limit .tooLarge cs e → FailsAsInteger limit cs e
  | plus {cs : List Char} {e : NumeralError} :
      cs ≠ [] → DigitsFail limit .tooLarge cs e → FailsAsInteger limit ('+' :: cs) e
  | minus {cs : List Char} {e : NumeralError} :
      cs ≠ [] → DigitsFail (limit + 1) .tooSmall cs e → FailsAsInteger limit ('-' :: cs) e

/-! ## One digit -/

theorem digit?_eq_some_iff
    {c : Char} {d : Nat} :
    digit? c = some d ↔ d < 10 ∧ c = digitChar d := by
  constructor
  · intro h
    rw [digit?] at h
    split at h
    · next hrange =>
      obtain ⟨hlow, hhigh⟩ := hrange
      have hlow : 48 ≤ c.toNat := hlow
      have hhigh : c.toNat ≤ 57 := hhigh
      obtain rfl : c.toNat - 48 = d := Option.some.inj h
      refine ⟨by omega, ?_⟩
      rw [digitChar, show '0'.toNat + (c.toNat - 48) = c.toNat by
        rw [show '0'.toNat = 48 from rfl]; omega, Char.ofNat_toNat]
    · cases h
  · rintro ⟨small, rfl⟩
    exact digit?_digitChar small

theorem digit?_eq_none_iff
    {c : Char} :
    digit? c = none ↔ ∀ d < 10, c ≠ digitChar d := by
  rw [Option.eq_none_iff_forall_not_mem]
  simp only [Option.mem_def, digit?_eq_some_iff, not_and, ne_eq]

/-! ## Digits within a limit -/

section Digits

variable {limit : Nat} {beyond : NumeralError} {value : Nat}

/-- Digits are read to their end as long as the number stays within the limit. -/
theorem readDigits_eq_ok_iff
    {cs : List Char} {n : Nat}
    (fits : value ≤ limit) :
    readDigits limit beyond value cs = .ok n ↔
      ∃ ds : List Nat, (∀ d ∈ ds, d < 10) ∧ cs = ds.map digitChar ∧
        n = ds.foldl (fun value d => value * 10 + d) value ∧ n ≤ limit := by
  induction cs generalizing value with
  | nil =>
      constructor
      · intro h
        cases h
        exact ⟨[], by simp, rfl, rfl, fits⟩
      · rintro ⟨ds, -, hds, rfl, -⟩
        rw [List.map_eq_nil_iff.mp hds.symm]
        rfl
  | cons c cs ih =>
      rw [readDigits]
      constructor
      · intro h
        split at h
        · cases h
        · next d hd =>
          split at h
          · cases h
          · next within =>
            obtain ⟨ds, small, rfl, hn, hle⟩ := (ih (Nat.le_of_not_lt within)).mp h
            obtain ⟨hten, rfl⟩ := digit?_eq_some_iff.mp hd
            exact ⟨d :: ds, List.forall_mem_cons.mpr ⟨hten, small⟩, rfl, hn, hle⟩
      · rintro ⟨ds, small, hds, hn, hle⟩
        cases ds with
        | nil => cases hds
        | cons d ds =>
            obtain ⟨rfl, rfl⟩ := List.cons.inj hds
            obtain ⟨hd, small⟩ := List.forall_mem_cons.mp small
            have within : value * 10 + d ≤ limit := by
              have := le_foldl_digits ds (value * 10 + d)
              rw [List.foldl_cons] at hn
              omega
            rw [digit?_digitChar hd]
            dsimp only
            rw [if_neg (Nat.not_lt_of_le within), ih within]
            exact ⟨ds, small, rfl, hn, hle⟩

/-- Reading stops at the first character that is no digit, or that takes the number beyond
the limit. -/
theorem readDigits_eq_error_iff
    {cs : List Char} {e : NumeralError}
    (fits : value ≤ limit) :
    readDigits limit beyond value cs = .error e ↔
      ∃ (ds : List Nat) (c : Char) (rest : List Char),
        (∀ d ∈ ds, d < 10) ∧ cs = ds.map digitChar ++ c :: rest ∧
        ds.foldl (fun value d => value * 10 + d) value ≤ limit ∧
        ((digit? c = none ∧ e = .invalidDigit) ∨
          ∃ d, digit? c = some d ∧
            limit < ds.foldl (fun value d => value * 10 + d) value * 10 + d ∧ e = beyond) := by
  induction cs generalizing value with
  | nil =>
      constructor
      · intro h
        cases h
      · rintro ⟨ds, c, rest, -, hcs, -⟩
        simp at hcs
  | cons c cs ih =>
      rw [readDigits]
      constructor
      · intro h
        split at h
        · next hc =>
          cases h
          exact ⟨[], c, cs, by simp, rfl, fits, Or.inl ⟨hc, rfl⟩⟩
        · next d hd =>
          split at h
          · next above =>
            cases h
            exact ⟨[], c, cs, by simp, rfl, fits, Or.inr ⟨d, hd, above, rfl⟩⟩
          · next within =>
            obtain ⟨ds, c', rest, small, rfl, hle, why⟩ := (ih (Nat.le_of_not_lt within)).mp h
            obtain ⟨hten, rfl⟩ := digit?_eq_some_iff.mp hd
            exact ⟨d :: ds, c', rest, List.forall_mem_cons.mpr ⟨hten, small⟩, rfl, hle, why⟩
      · rintro ⟨ds, c', rest, small, hcs, hle, why⟩
        cases ds with
        | nil =>
            obtain ⟨rfl, rfl⟩ := List.cons.inj hcs
            rcases why with ⟨hc, rfl⟩ | ⟨d, hd, above, rfl⟩
            · rw [hc]
            · rw [hd]
              exact if_pos above
        | cons d ds =>
            obtain ⟨rfl, rfl⟩ := List.cons.inj hcs
            obtain ⟨hd, small⟩ := List.forall_mem_cons.mp small
            have within : value * 10 + d ≤ limit :=
              Nat.le_trans (le_foldl_digits ds (value * 10 + d)) hle
            rw [digit?_digitChar hd]
            dsimp only
            rw [if_neg (Nat.not_lt_of_le within), ih within]
            exact ⟨ds, c', rest, small, rfl, hle, why⟩

theorem readDigits_zero_eq_ok_iff
    {cs : List Char} {n : Nat}
    (some : cs ≠ []) :
    readDigits limit beyond 0 cs = .ok n ↔ SpellsNumber cs n ∧ n ≤ limit := by
  rw [readDigits_eq_ok_iff (Nat.zero_le limit)]
  constructor
  · rintro ⟨ds, small, rfl, rfl, hle⟩
    exact ⟨.digits (by simpa using some) small, hle⟩
  · rintro ⟨⟨-, small⟩, hle⟩
    exact ⟨_, small, rfl, rfl, hle⟩

theorem readDigits_zero_eq_error_iff
    {cs : List Char} {e : NumeralError} :
    readDigits limit beyond 0 cs = .error e ↔ DigitsFail limit beyond cs e := by
  rw [readDigits_eq_error_iff (Nat.zero_le limit)]
  constructor
  · rintro ⟨ds, c, rest, small, rfl, hle, ⟨hc, rfl⟩ | ⟨d, hd, above, rfl⟩⟩
    · exact .foreign rest small hle (digit?_eq_none_iff.mp hc)
    · obtain ⟨hten, rfl⟩ := digit?_eq_some_iff.mp hd
      exact .beyond rest small hle hten above
  · rintro (⟨rest, small, hle, hc⟩ | ⟨rest, small, hle, hd, above⟩)
    · exact ⟨_, _, rest, small, rfl, hle, Or.inl ⟨digit?_eq_none_iff.mpr hc, rfl⟩⟩
    · exact ⟨_, _, rest, small, rfl, hle, Or.inr ⟨_, digit?_digitChar hd, above, rfl⟩⟩

end Digits

/-! ## Signs -/

/-- How an integer is read, by its sign. -/
theorem readInt_of_plain
    {limit : Nat} {cs : List Char}
    (some : cs ≠ [])
    (plain : ∀ c ∈ cs.head?, c ≠ '+' ∧ c ≠ '-') :
    readInt limit cs = (readDigits limit .tooLarge 0 cs).map Int.ofNat := by
  cases cs with
  | nil => exact absurd rfl some
  | cons c cs =>
      obtain ⟨hplus, hminus⟩ := plain c rfl
      rw [readInt]
      all_goals simp_all

/-- An integer is read as it stands behind a sign. -/
theorem readInt_plus
    {limit : Nat} {cs : List Char}
    (some : cs ≠ []) :
    readInt limit ('+' :: cs) = (readDigits limit .tooLarge 0 cs).map Int.ofNat := by
  cases cs with
  | nil => exact absurd rfl some
  | cons c cs => rfl

theorem readInt_minus
    {limit : Nat} {cs : List Char}
    (some : cs ≠ []) :
    readInt limit ('-' :: cs) =
      (readDigits (limit + 1) .tooSmall 0 cs).map fun n : Nat => -(n : Int) := by
  cases cs with
  | nil => exact absurd rfl some
  | cons c cs =>
      rw [readInt]
      · cases readDigits (limit + 1) .tooSmall 0 (c :: cs) <;> rfl
      · simp

/-- A text is empty, a sign, or goes on behind a sign or without one. -/
theorem sign_cases
    (cs : List Char) :
    cs = [] ∨ (∃ c, cs = [c] ∧ (c = '+' ∨ c = '-')) ∨
      (cs ≠ [] ∧ ∀ c ∈ cs.head?, c ≠ '+' ∧ c ≠ '-') ∨
      (∃ rest, rest ≠ [] ∧ cs = '+' :: rest) ∨ (∃ rest, rest ≠ [] ∧ cs = '-' :: rest) := by
  cases cs with
  | nil => simp
  | cons c rest =>
      by_cases hplus : c = '+'
      · cases rest with
        | nil => exact Or.inr (Or.inl ⟨c, rfl, Or.inl hplus⟩)
        | cons d rest =>
            exact Or.inr (Or.inr (Or.inr (Or.inl ⟨d :: rest, by simp, by rw [hplus]⟩)))
      · by_cases hminus : c = '-'
        · cases rest with
          | nil => exact Or.inr (Or.inl ⟨c, rfl, Or.inr hminus⟩)
          | cons d rest =>
              exact Or.inr (Or.inr (Or.inr (Or.inr ⟨d :: rest, by simp, by rw [hminus]⟩)))
        · exact Or.inr (Or.inr (Or.inl ⟨by simp, by simpa using ⟨hplus, hminus⟩⟩))

theorem SpellsNumber.ne_nil
    {cs : List Char} {n : Nat}
    (spells : SpellsNumber cs n) :
    cs ≠ [] := by
  obtain ⟨some, _⟩ := spells
  simpa using some

theorem SpellsNumber.unique
    {cs : List Char} {m n : Nat}
    (hm : SpellsNumber cs m)
    (hn : SpellsNumber cs n) :
    m = n := by
  have hread : ∀ {n : Nat}, SpellsNumber cs n → n = ofDigitValues (cs.filterMap digit?) := by
    rintro _ ⟨-, small⟩
    rw [filterMap_digit? small]
  rw [hread hm, hread hn]

theorem spellsNumber_paddedDigits
    (width n : Nat) :
    SpellsNumber (paddedDigits width n) n := by
  have some : paddedValues width n ≠ [] :=
    List.append_ne_nil_of_right_ne_nil _ (digitValues_ne_nil n)
  have spells := SpellsNumber.digits some (paddedValues_lt width n)
  rwa [← paddedDigits_eq_map, ofDigitValues_paddedValues] at spells

/-- A numeral without a sign begins with no sign. -/
theorem SpellsNumber.plain
    {cs : List Char} {n : Nat}
    (spells : SpellsNumber cs n) :
    ∀ c ∈ cs.head?, c ≠ '+' ∧ c ≠ '-' := by
  obtain ⟨some, small⟩ := spells
  intro c hc
  obtain ⟨d, hd, rfl⟩ := List.mem_map.mp (List.mem_of_mem_head? hc)
  exact (digitChar_ne_sign (small d hd)).symm

theorem map_eq_ok_iff
    {ε α β : Type} {x : Except ε α} {f : α → β} {b : β} :
    x.map f = .ok b ↔ ∃ a, x = .ok a ∧ f a = b := by
  cases x with
  | error e => simp [Except.map]
  | ok a => simp [Except.map]

theorem map_eq_error_iff
    {ε α β : Type} {x : Except ε α} {f : α → β} {e : ε} :
    x.map f = .error e ↔ x = .error e := by
  cases x with
  | error e => simp [Except.map]
  | ok a => simp [Except.map]

theorem exists_map_eq_ok_iff
    {ε α β : Type} {x : Except ε α} {f : α → β} :
    (∃ b, x.map f = .ok b) ↔ ∃ a, x = .ok a := by
  simp only [map_eq_ok_iff]
  rw [exists_comm]
  simp only [exists_and_left, exists_eq', and_true]

/-- An integer is read exactly from its numerals, within the range. -/
theorem readInt_eq_ok_iff
    {limit : Nat} {cs : List Char} {n : Int} :
    readInt limit cs = .ok n ↔ SpellsInteger cs n ∧ -(limit + 1 : Int) ≤ n ∧ n ≤ limit := by
  constructor
  · intro h
    rcases sign_cases cs with rfl | ⟨c, rfl, rfl | rfl⟩ | ⟨some, plain⟩ | ⟨rest, some, rfl⟩ |
      ⟨rest, some, rfl⟩
    · cases h
    · cases h
    · cases h
    · rw [readInt_of_plain some plain, map_eq_ok_iff] at h
      obtain ⟨m, hm, rfl⟩ := h
      obtain ⟨spells, hle⟩ := (readDigits_zero_eq_ok_iff some).mp hm
      refine ⟨.plain spells, ?_⟩
      simp only [Int.ofNat_eq_natCast]
      omega
    · rw [readInt_plus some, map_eq_ok_iff] at h
      obtain ⟨m, hm, rfl⟩ := h
      obtain ⟨spells, hle⟩ := (readDigits_zero_eq_ok_iff some).mp hm
      refine ⟨.plus spells, ?_⟩
      simp only [Int.ofNat_eq_natCast]
      omega
    · rw [readInt_minus some, map_eq_ok_iff] at h
      obtain ⟨m, hm, rfl⟩ := h
      obtain ⟨spells, hle⟩ := (readDigits_zero_eq_ok_iff some).mp hm
      refine ⟨.minus spells, ?_⟩
      omega
  · rintro ⟨spells | spells | spells, low, high⟩
    · rw [readInt_of_plain spells.ne_nil spells.plain, map_eq_ok_iff]
      exact ⟨_, (readDigits_zero_eq_ok_iff spells.ne_nil).mpr ⟨spells, by omega⟩, rfl⟩
    · rw [readInt_plus spells.ne_nil, map_eq_ok_iff]
      exact ⟨_, (readDigits_zero_eq_ok_iff spells.ne_nil).mpr ⟨spells, by omega⟩, rfl⟩
    · rw [readInt_minus spells.ne_nil, map_eq_ok_iff]
      exact ⟨_, (readDigits_zero_eq_ok_iff spells.ne_nil).mpr ⟨spells, by omega⟩, rfl⟩

/-- Every other text is refused, with the error that it calls for. -/
theorem readInt_eq_error_iff
    {limit : Nat} {cs : List Char} {e : NumeralError} :
    readInt limit cs = .error e ↔ FailsAsInteger limit cs e := by
  constructor
  · intro h
    rcases sign_cases cs with rfl | ⟨c, rfl, hsign⟩ | ⟨some, plain⟩ | ⟨rest, some, rfl⟩ |
      ⟨rest, some, rfl⟩
    · cases h
      exact .empty
    · have he : e = .invalidDigit := by
        rcases hsign with rfl | rfl <;> cases h <;> rfl
      rw [he]
      exact .bareSign hsign
    · rw [readInt_of_plain some plain, map_eq_error_iff, readDigits_zero_eq_error_iff] at h
      exact .plain plain h
    · rw [readInt_plus some, map_eq_error_iff, readDigits_zero_eq_error_iff] at h
      exact .plus some h
    · rw [readInt_minus some, map_eq_error_iff, readDigits_zero_eq_error_iff] at h
      exact .minus some h
  · intro fails
    cases fails with
    | empty => rfl
    | bareSign hsign => rcases hsign with rfl | rfl <;> rfl
    | plain plain fails =>
        have some : cs ≠ [] := by cases fails <;> simp
        rw [readInt_of_plain some plain, map_eq_error_iff, readDigits_zero_eq_error_iff]
        exact fails
    | plus some fails =>
        rw [readInt_plus some, map_eq_error_iff, readDigits_zero_eq_error_iff]
        exact fails
    | minus some fails =>
        rw [readInt_minus some, map_eq_error_iff, readDigits_zero_eq_error_iff]
        exact fails

/-! ## Without negative numbers -/

/-- How a number is read, by its sign. -/
theorem readNat_of_plain
    {limit : Nat} {cs : List Char}
    (some : cs ≠ [])
    (plain : ∀ c ∈ cs.head?, c ≠ '+') :
    readNat limit cs = readDigits limit .tooLarge 0 cs := by
  cases cs with
  | nil => exact absurd rfl some
  | cons c cs =>
      have hplus := plain c rfl
      rw [readNat]
      all_goals simp_all

/-- A number is read as it stands behind a plus. -/
theorem readNat_plus
    {limit : Nat} {cs : List Char}
    (some : cs ≠ []) :
    readNat limit ('+' :: cs) = readDigits limit .tooLarge 0 cs := by
  cases cs with
  | nil => exact absurd rfl some
  | cons c cs => rfl

/-- A number is read exactly from its numerals, up to the limit. -/
theorem readNat_eq_ok_iff
    {limit : Nat} {cs : List Char} {n : Nat} :
    readNat limit cs = .ok n ↔ SpellsNatural cs n ∧ n ≤ limit := by
  constructor
  · intro h
    cases cs with
    | nil => cases h
    | cons c rest =>
        by_cases hplus : c = '+'
        · subst hplus
          cases rest with
          | nil => cases h
          | cons d rest =>
              rw [readNat_plus (by simp)] at h
              obtain ⟨spells, hle⟩ := (readDigits_zero_eq_ok_iff (by simp)).mp h
              exact ⟨.plus spells, hle⟩
        · rw [readNat_of_plain (by simp) (by simpa using hplus)] at h
          obtain ⟨spells, hle⟩ := (readDigits_zero_eq_ok_iff (by simp)).mp h
          exact ⟨.plain spells, hle⟩
  · rintro ⟨spells | spells, hle⟩
    · rw [readNat_of_plain spells.ne_nil fun c hc => (spells.plain c hc).1]
      exact (readDigits_zero_eq_ok_iff spells.ne_nil).mpr ⟨spells, hle⟩
    · rw [readNat_plus spells.ne_nil]
      exact (readDigits_zero_eq_ok_iff spells.ne_nil).mpr ⟨spells, hle⟩

/-! ## 64 bits -/

theorem toInt_ofInt_of_range
    {n : Int}
    (low : -(0x7FFFFFFFFFFFFFFF + 1 : Int) ≤ n)
    (high : n ≤ 0x7FFFFFFFFFFFFFFF) :
    (Int64.ofInt n).toInt = n :=
  Int64.toInt_ofInt_of_le (by omega) (by omega)

/-- A 64-bit integer is read exactly from its numerals. -/
theorem readInt64_eq_ok_iff
    {cs : List Char} {n : Int64} :
    readInt64 cs = .ok n ↔ SpellsInteger cs n.toInt := by
  rw [readInt64, map_eq_ok_iff]
  constructor
  · rintro ⟨m, hm, rfl⟩
    obtain ⟨spells, low, high⟩ := readInt_eq_ok_iff.mp hm
    rwa [toInt_ofInt_of_range low high]
  · intro spells
    have low := Int64.le_toInt n
    have high := Int64.toInt_lt n
    exact ⟨n.toInt, readInt_eq_ok_iff.mpr ⟨spells, by omega, by omega⟩, Int64.ofInt_toInt n⟩

theorem readInt64_eq_error_iff
    {cs : List Char} {e : NumeralError} :
    readInt64 cs = .error e ↔ FailsAsInteger 0x7FFFFFFFFFFFFFFF cs e := by
  rw [readInt64, map_eq_error_iff, readInt_eq_error_iff]

/-- The numeral that is written for an integer spells it. -/
theorem spellsInteger_integerChars
    (n : Int) :
    SpellsInteger (Json.Value.integerChars n) n := by
  have spells : SpellsNumber (digits n.natAbs) n.natAbs := by
    have h := SpellsNumber.digits (digitValues_ne_nil n.natAbs) (digitValues_lt n.natAbs)
    rwa [← digits_eq_map, ofDigitValues_digitValues] at h
  rw [Json.Value.integerChars]
  split
  · next negative =>
    have h := SpellsInteger.minus spells
    rwa [show -(n.natAbs : Int) = n by omega] at h
  · next positive =>
    have h := SpellsInteger.plain spells
    rwa [show (n.natAbs : Int) = n by omega] at h

end Text
end OrderDesk
