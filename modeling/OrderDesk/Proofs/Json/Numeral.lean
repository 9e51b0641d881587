import Mathlib.Tactic.Common
import OrderDesk.Json.Numeral.Reader
import OrderDesk.Json.Value
import OrderDesk.Proofs.Text.Digits
import OrderDesk.Text.Utf8

/-!
# Spellings of numerals

A numeral is written with an optional minus sign, whole digits without superfluous leading
zeros, optional places behind a point, and an optional exponent, in whose mark the letter
case is free and whose plus sign may be left out.

* `Numeral.Spells`: a text spells a numeral.
* `Stops`: what may stand behind a numeral without going on with it.
* `read?_of_spells`: the numeral is read up to there.
* `spells_integerChars`: an integer as it is written spells its numeral, which stands for the
  integer if it has 64 bits (`number?_ofInt`).
-/

namespace OrderDesk
namespace Json
namespace Numeral

open Text (octet digitChar digitValues ofDigitValues)
open Utf8 (encode)

/-- The numeral of an integer. -/
def ofInt (n : Int) : Numeral :=
  { negative := decide (n < 0), whole := digitValues n.natAbs, places := [], exponent := none }

/-! ## The grammar -/

/-- At least one digit, by value. -/
structure SpellsDigits (cs : List Char) (ds : List Nat) : Prop where
  some_digit : ds ≠ []
  small : ∀ d ∈ ds, d < 10
  chars : cs = ds.map digitChar

/-- A single zero, or digits that do not begin with one. -/
structure SpellsWhole (cs : List Char) (ds : List Nat) : Prop extends SpellsDigits cs ds where
  leading : ds.head? = some 0 → ds = [0]

/-- Places behind a point, or none without one. -/
inductive SpellsPlaces : List Char → List Nat → Prop where
  | none : SpellsPlaces [] []
  | point
      {cs : List Char} {ds : List Nat}
      (digits : SpellsDigits cs ds) :
      SpellsPlaces ('.' :: cs) ds

/-- An exponent behind its mark, or none without one. -/
inductive SpellsExponent : List Char → Option Int → Prop where
  | none : SpellsExponent [] none
  | positive
      {mark : Char} {sign cs : List Char} {ds : List Nat}
      (isMark : mark = 'e' ∨ mark = 'E')
      (isSign : sign = [] ∨ sign = ['+'])
      (digits : SpellsDigits cs ds) :
      SpellsExponent (mark :: (sign ++ cs)) (some (ofDigitValues ds))
  | negative
      {mark : Char} {cs : List Char} {ds : List Nat}
      (isMark : mark = 'e' ∨ mark = 'E')
      (digits : SpellsDigits cs ds) :
      SpellsExponent (mark :: '-' :: cs) (some (-ofDigitValues ds))

/-- A text spells a numeral. -/
inductive Spells : List Char → Numeral → Prop where
  | mk
      {negative : Bool} {minus whole places exponent : List Char}
      {ws ps : List Nat} {e : Option Int}
      (sign : minus = if negative then ['-'] else [])
      (ofWhole : SpellsWhole whole ws)
      (ofPlaces : SpellsPlaces places ps)
      (ofExponent : SpellsExponent exponent e) :
      Spells (minus ++ (whole ++ (places ++ exponent)))
        { negative, whole := ws, places := ps, exponent := e }

/-- What stands behind does not go on with a numeral. -/
def Stops (rest : List UInt8) : Prop :=
  ∀ b ∈ rest.head?, isDigit b = false ∧ b ≠ octet '.' ∧ b ≠ octet 'e' ∧ b ≠ octet 'E'

theorem stops_nil : Stops [] := nofun

theorem stops_comma (rest : List UInt8) : Stops (octet ',' :: rest) := by
  rintro b ⟨⟩
  decide

theorem stops_closeArray (rest : List UInt8) : Stops (octet ']' :: rest) := by
  rintro b ⟨⟩
  decide

theorem stops_closeObject (rest : List UInt8) : Stops (octet '}' :: rest) := by
  rintro b ⟨⟩
  decide

/-- An integer as it is written spells its numeral. -/
theorem spells_integerChars
    (n : Int) :
    Spells (Value.integerChars n) (ofInt n) := by
  have hwhole : SpellsWhole ((digitValues n.natAbs).map digitChar) (digitValues n.natAbs) :=
    { some_digit := Text.digitValues_ne_nil _
      small := Text.digitValues_lt _
      chars := rfl
      leading := by
        intro hhead
        obtain ⟨ds, hds⟩ := List.head?_eq_some_iff.mp hhead
        rw [hds, (Text.eq_zero_of_digitValues hds).2] }
  have hchars : Value.integerChars n =
      (if decide (n < 0) then ['-'] else []) ++
        ((digitValues n.natAbs).map digitChar ++ ([] ++ [])) := by
    rw [Value.integerChars, Text.digits_eq_map]
    by_cases hneg : n < 0 <;> simp [hneg]
  rw [hchars]
  exact .mk rfl hwhole .none .none

/-! ## Digits -/

theorem encode_digits
    {ds : List Nat}
    (small : ∀ d ∈ ds, d < 10) :
    encode (ds.map digitChar) = ds.map (octet ∘ digitChar) := by
  have hone : ∀ d < 10, Utf8.encodeChar (digitChar d) = [octet (digitChar d)] := by decide
  induction ds with
  | nil =>
      rfl
  | cons d ds ih =>
      rw [List.map_cons, Utf8.encode_cons, hone d (small d List.mem_cons_self),
        ih fun d hd => small d (List.mem_cons_of_mem _ hd)]
      rfl

theorem isDigit_digitChar :
    ∀ d < 10, isDigit (octet (digitChar d)) = true ∧ digitValue (octet (digitChar d)) = d := by
  decide

theorem spanDigits_digits
    {ds : List Nat}
    (small : ∀ d ∈ ds, d < 10)
    {rest : List UInt8}
    (stops : ∀ b ∈ rest.head?, isDigit b = false) :
    spanDigits (ds.map (octet ∘ digitChar) ++ rest) = (ds, rest) := by
  have hdigits : ∀ b ∈ ds.map (octet ∘ digitChar), isDigit b = true := by
    intro b hb
    obtain ⟨d, hd, rfl⟩ := List.mem_map.mp hb
    exact (isDigit_digitChar d (small d hd)).1
  have hvalues : (ds.map (octet ∘ digitChar)).map digitValue = ds := by
    rw [List.map_map]
    calc ds.map (digitValue ∘ octet ∘ digitChar)
        = ds.map id := List.map_congr_left fun d hd => (isDigit_digitChar d (small d hd)).2
      _ = ds := List.map_id ds
  have hrest : rest.takeWhile isDigit = [] ∧ rest.dropWhile isDigit = rest := by
    cases rest with
    | nil =>
        exact ⟨rfl, rfl⟩
    | cons b rest =>
        rw [List.takeWhile_cons, List.dropWhile_cons, stops b rfl]
        exact ⟨rfl, rfl⟩
  rw [spanDigits, List.takeWhile_append_of_pos hdigits, List.dropWhile_append_of_pos hdigits,
    hrest.1, hrest.2, List.append_nil, hvalues]

theorem digits?_digits
    {ds : List Nat}
    (some_digit : ds ≠ [])
    (small : ∀ d ∈ ds, d < 10)
    {rest : List UInt8}
    (stops : ∀ b ∈ rest.head?, isDigit b = false) :
    digits? (ds.map (octet ∘ digitChar) ++ rest) = some (ds, rest) := by
  simp [digits?, spanDigits_digits small stops, some_digit]

/-! ## Reading -/

theorem SpellsDigits.encode_eq
    {cs : List Char} {ds : List Nat}
    (digits : SpellsDigits cs ds) :
    encode cs = ds.map (octet ∘ digitChar) := by
  rw [digits.chars, encode_digits digits.small]

theorem SpellsDigits.digits?_eq
    {cs : List Char} {ds : List Nat}
    (digits : SpellsDigits cs ds)
    {rest : List UInt8}
    (stops : ∀ b ∈ rest.head?, isDigit b = false) :
    digits? (encode cs ++ rest) = some (ds, rest) := by
  rw [digits.encode_eq, digits?_digits digits.some_digit digits.small stops]

/-- Digits begin with no sign. -/
theorem SpellsDigits.exists_head
    {cs : List Char} {ds : List Nat}
    (digits : SpellsDigits cs ds) :
    ∃ d bs, d < 10 ∧ encode cs = octet (digitChar d) :: bs ∧
      octet (digitChar d) ≠ octet '-' ∧ octet (digitChar d) ≠ octet '+' := by
  have hsign : ∀ d < 10, octet (digitChar d) ≠ octet '-' ∧ octet (digitChar d) ≠ octet '+' := by
    decide
  obtain ⟨d, ds', rfl⟩ := List.exists_cons_of_ne_nil digits.some_digit
  have hd := digits.small d List.mem_cons_self
  exact ⟨d, _, hd, digits.encode_eq, hsign d hd⟩

theorem SpellsWhole.whole?_eq
    {cs : List Char} {ds : List Nat}
    (spells : SpellsWhole cs ds)
    {rest : List UInt8}
    (stops : ∀ b ∈ rest.head?, isDigit b = false) :
    whole? (encode cs ++ rest) = some (ds, rest) := by
  rw [whole?, spells.digits?_eq stops]
  split
  · rename_i d ds' _ h
    obtain ⟨rfl, -⟩ := Prod.mk.inj (Option.some.inj h)
    cases spells.leading rfl
  · rfl

theorem exponent?_of_spells
    {cs : List Char} {e : Option Int}
    (spells : SpellsExponent cs e)
    {rest : List UInt8}
    (stops : Stops rest) :
    exponent? (encode cs ++ rest) = some (e, rest) := by
  have hdigit : ∀ b ∈ rest.head?, isDigit b = false := fun b hb => (stops b hb).1
  have hmark : ∀ {mark : Char}, mark = 'e' ∨ mark = 'E' →
      Utf8.encodeChar mark = [octet mark] ∧ (octet mark = octet 'e' ∨ octet mark = octet 'E') := by
    rintro mark (rfl | rfl) <;> decide
  cases spells with
  | none =>
      cases rest with
      | nil => rfl
      | cons b rest =>
          obtain ⟨_, _, he, hE⟩ := stops b rfl
          rw [encode, List.flatMap_nil, List.nil_append, exponent?, if_neg (not_or.mpr ⟨he, hE⟩)]
  | @positive mark sign cs ds isMark isSign digits =>
      obtain ⟨hone, hletter⟩ := hmark isMark
      have hsign : exponentSign (encode (sign ++ cs) ++ rest) = (1, encode cs ++ rest) := by
        rcases isSign with rfl | rfl
        · obtain ⟨d, bs, _, hhead, hminus, hplus⟩ := digits.exists_head
          rw [List.nil_append, hhead, List.cons_append, exponentSign, if_neg hminus, if_neg hplus]
        · rfl
      rw [Utf8.encode_cons, hone, List.singleton_append, List.cons_append, exponent?,
        if_pos hletter, hsign, digits.digits?_eq hdigit, Option.map_some]
      dsimp only
      rw [Int.one_mul]
  | @negative mark cs ds isMark digits =>
      obtain ⟨hone, hletter⟩ := hmark isMark
      have hsign : exponentSign (encode ('-' :: cs) ++ rest) = (-1, encode cs ++ rest) := rfl
      rw [Utf8.encode_cons, hone, List.singleton_append, List.cons_append, exponent?,
        if_pos hletter, hsign, digits.digits?_eq hdigit, Option.map_some]
      dsimp only
      rw [Int.neg_one_mul]

/-- Neither an exponent nor what stands behind it goes on with digits or a point. -/
theorem SpellsExponent.head
    {cs : List Char} {e : Option Int}
    (spells : SpellsExponent cs e)
    {rest : List UInt8}
    (stops : Stops rest) :
    ∀ b ∈ (encode cs ++ rest).head?, isDigit b = false ∧ b ≠ octet '.' := by
  have hmark : ∀ {mark : Char}, mark = 'e' ∨ mark = 'E' → ∀ bs : List UInt8,
      ∀ b ∈ (Utf8.encodeChar mark ++ bs).head?, isDigit b = false ∧ b ≠ octet '.' := by
    rintro mark (rfl | rfl) bs b hb <;> cases hb <;> decide
  cases spells with
  | none => exact fun b hb => ⟨(stops b hb).1, (stops b hb).2.1⟩
  | positive isMark _ _ =>
      rw [Utf8.encode_cons, List.append_assoc]
      exact hmark isMark _
  | negative isMark _ =>
      rw [Utf8.encode_cons, List.append_assoc]
      exact hmark isMark _

theorem SpellsPlaces.places?_eq
    {cs : List Char} {ds : List Nat}
    (spells : SpellsPlaces cs ds)
    {rest : List UInt8}
    (stops : ∀ b ∈ rest.head?, isDigit b = false ∧ b ≠ octet '.') :
    places? (encode cs ++ rest) = some (ds, rest) := by
  cases spells with
  | none =>
      cases rest with
      | nil => rfl
      | cons b rest =>
          rw [encode, List.flatMap_nil, List.nil_append, places?, if_neg (stops b rfl).2]
  | point digits => exact digits.digits?_eq fun b hb => (stops b hb).1

/-- Places begin with a point, and no digit. -/
theorem SpellsPlaces.head
    {cs : List Char} {ds : List Nat}
    (spells : SpellsPlaces cs ds)
    {rest : List UInt8}
    (stops : ∀ b ∈ rest.head?, isDigit b = false ∧ b ≠ octet '.') :
    ∀ b ∈ (encode cs ++ rest).head?, isDigit b = false := by
  cases spells with
  | none => exact fun b hb => (stops b hb).1
  | point _ =>
      intro b hb
      cases hb
      decide

theorem minus_of_spells
    {negative : Bool} {whole : List Char} {ds : List Nat}
    (spells : SpellsWhole whole ds)
    (rest : List UInt8) :
    minus (encode (if negative then ['-'] else []) ++ (encode whole ++ rest)) =
      (negative, encode whole ++ rest) := by
  cases negative with
  | true => rfl
  | false =>
      obtain ⟨d, bs, _, hhead, hminus, _⟩ := spells.exists_head
      rw [hhead, List.cons_append]
      simp [minus, hminus]

/-- A numeral is read up to what does not go on with it. -/
theorem read?_of_spells
    {cs : List Char} {n : Numeral}
    (spells : Spells cs n)
    {rest : List UInt8}
    (stops : Stops rest) :
    read? (encode cs ++ rest) = some (n, rest) := by
  obtain ⟨rfl, whole, places, exponent⟩ := spells
  have behindPlaces := exponent.head stops
  have behindWhole := places.head behindPlaces
  simp only [read?, Utf8.encode_append, List.append_assoc, minus_of_spells whole,
    whole.whole?_eq behindWhole, places.places?_eq behindPlaces, exponent?_of_spells exponent stops,
    Option.bind_eq_bind, Option.bind_some, Option.pure_def]

/-- A minus sign or a digit stands in front. -/
theorem Spells.exists_head
    {cs : List Char} {n : Numeral}
    (spells : Spells cs n) :
    ∃ b bs, encode cs = b :: bs ∧ (b = octet '-' ∨ ∃ d < 10, b = octet (digitChar d)) := by
  cases spells with
  | @mk negative _ _ _ _ _ _ _ sign ofWhole _ _ =>
      subst sign
      cases negative with
      | true => exact ⟨_, _, rfl, .inl rfl⟩
      | false =>
          obtain ⟨d, bs, hd, hhead, _⟩ := ofWhole.exists_head
          rw [Utf8.encode_append, Utf8.encode_append, hhead]
          exact ⟨_, _, rfl, .inr ⟨d, hd, rfl⟩⟩

/-! ## The number that is meant -/

theorem gatherWhole_of_fits
    {ds : List Nat} {value : Nat}
    (fits : ds.foldl (fun value d => value * 10 + d) value ≤ maxSignificand) :
    gatherWhole value ds = (ds.foldl (fun value d => value * 10 + d) value, 0) := by
  induction ds generalizing value with
  | nil =>
      rfl
  | cons d ds ih =>
      have hfirst := Nat.le_trans (Text.le_foldl_digits ds _) fits
      rw [gatherWhole, if_neg (Nat.not_lt.mpr hfirst), ih fits]
      rfl

theorem number?_ofInt
    {n : Int}
    (least : -0x8000000000000000 ≤ n)
    (most : n ≤ 0xFFFFFFFFFFFFFFFF) :
    (ofInt n).number? = some (.integer n) := by
  have hvalue : ofDigitValues (digitValues n.natAbs) = n.natAbs :=
    Text.ofDigitValues_digitValues _
  have hfits : ofDigitValues (digitValues n.natAbs) ≤ maxSignificand := by
    rw [hvalue, maxSignificand]
    omega
  have hgather : gatherWhole 0 (digitValues n.natAbs) = (n.natAbs, 0) := by
    rw [gatherWhole_of_fits hfits, ← ofDigitValues, hvalue]
  have hinteger : (ofInt n).integer? = some n := by
    rw [integer?, ofInt]
    simp only [List.isEmpty_nil, Option.isNone_none, Bool.and_self, if_true, hgather]
    rw [if_neg (by simp)]
    by_cases hneg : n < 0
    · have hsmall : ¬ (n.natAbs = 0 ∨ 0x8000000000000000 < n.natAbs) := by omega
      have hback : -(n.natAbs : Int) = n := by omega
      rw [decide_eq_true hneg, if_pos rfl, if_neg hsmall, hback]
    · have hback : (n.natAbs : Int) = n := by omega
      rw [decide_eq_false hneg, if_neg Bool.false_ne_true, hback]
  rw [number?, hinteger]

end Numeral
end Json
end OrderDesk
