import OrderDesk.Text.Hex

/-!
# Identifiers

Orders, lines, products, users and requests are named by 128-bit identifiers.
An identifier is its thirty-two hexadecimal digits, so two spellings of one
identifier read as equal values.

**Spellings.**  An identifier is read from thirty-two digits, from the
hyphenated form with groups of 8, 4, 4, 4 and 12 digits, from the hyphenated
form in braces, and from the hyphenated form after `urn:uuid:`.  Letter case is
free.  It is always written in the hyphenated form with small letters.
-/

namespace OrderDesk

/-- A 128-bit identifier, given by its hexadecimal digits from the left. -/
structure Identifier where
  digits : List (Fin 16)
  length_digits : digits.length = 32
deriving DecidableEq

namespace Identifier

open Text

/-- The identifier all of whose digits are zero. -/
def nil : Identifier :=
  ⟨List.replicate 32 (lastHexDigit 0), by decide⟩

instance : Inhabited Identifier := ⟨nil⟩

/-- The identifier with the given digits, if there are thirty-two. -/
def ofDigits? (ds : List (Fin 16)) : Option Identifier :=
  if h : ds.length = 32 then some ⟨ds, h⟩ else none

/-- The number that the digits spell; identifiers are ordered by it. -/
def toNat (i : Identifier) : Nat :=
  i.digits.foldl (fun n d => n * 16 + d.val) 0

/-- The low hexadecimal digits of a number, most significant first. -/
def natDigits : Nat → Nat → List (Fin 16)
  | 0, _ => []
  | width + 1, n => natDigits width (n / 16) ++ [lastHexDigit n]

theorem length_natDigits (width n : Nat) : (natDigits width n).length = width := by
  induction width generalizing n with
  | zero => rfl
  | succ width ih => simp [natDigits, ih]

/-- The identifier of a number, taken modulo `2 ^ 128`. -/
def ofNat (n : Nat) : Identifier :=
  ⟨natDigits 32 n, length_natDigits 32 n⟩

/-- A fresh identifier made from random digits: the version digit is 4 and the
variant digit has the leading bits 10. -/
def fresh (random : Identifier) : Identifier :=
  let variant := lastHexDigit (8 + (random.digits.getD 16 (lastHexDigit 0)).val % 4)
  ⟨(random.digits.set 12 (lastHexDigit 4)).set 16 variant, by simp [random.length_digits]⟩

/-- The version digit. -/
def version (i : Identifier) : Nat :=
  (i.digits.getD 12 (lastHexDigit 0)).val

/-- The lengths of the hyphenated groups. -/
def groups : List Nat := [8, 4, 4, 4, 12]

/-- Writes digits in groups of the given lengths with hyphens between them. -/
def hyphenate : List Nat → List Char → List Char
  | [], _ => []
  | [n], cs => cs.take n
  | n :: ns, cs => cs.take n ++ '-' :: hyphenate ns (cs.drop n)

/-- Joins hyphenated groups of exactly the given lengths. -/
def joinGroups? : List Nat → List Char → Option (List Char)
  | [], _ => none
  | [n], cs => if cs.length = n then some cs else none
  | n :: ns, cs =>
    match cs.drop n with
    | '-' :: rest => (joinGroups? ns rest).map (cs.take n ++ ·)
    | _ => none

/-- Reads thirty-two hexadecimal digits. -/
def ofHex? (cs : List Char) : Option Identifier :=
  (cs.mapM hexValue?).bind ofDigits?

/-- Reads the hyphenated form. -/
def ofHyphenated? (cs : List Char) : Option Identifier :=
  (joinGroups? groups cs).bind ofHex?

/-- The text between an opening and a closing brace. -/
def unbraced? : List Char → Option (List Char)
  | '{' :: cs => if cs.getLast? = some '}' then some cs.dropLast else none
  | _ => none

/-- The marker of an identifier written as a resource name. -/
def resourceMarker : List Char := "urn:uuid:".toList

/-- The text after the resource marker, whose letter case is free. -/
def afterMarker? (cs : List Char) : Option (List Char) :=
  if (cs.take 9).map Char.toLower = resourceMarker then some (cs.drop 9) else none

/-- Reads an identifier in any of its spellings. -/
def parse? (cs : List Char) : Option Identifier :=
  match ofHex? cs with
  | some i => some i
  | none =>
    match unbraced? cs with
    | some inner => ofHyphenated? inner
    | none =>
      match afterMarker? cs with
      | some inner => ofHyphenated? inner
      | none => ofHyphenated? cs

/-- The hyphenated form with small letters. -/
def toChars (i : Identifier) : List Char :=
  hyphenate groups (i.digits.map hexChar)

/-- The hyphenated form with small letters, as a string. -/
def text (i : Identifier) : String :=
  String.ofList i.toChars

instance : ToString Identifier := ⟨text⟩

end Identifier
end OrderDesk
