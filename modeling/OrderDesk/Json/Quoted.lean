import OrderDesk.Text.Hex
import OrderDesk.Text.Octet
import OrderDesk.Text.Utf8

/-!
# Quoted texts

The content of a text between its quotes is read in two steps.  First the closing
quote is found, which fails on a control character and on an unknown escape.
Then the pieces found are spelled out, which fails on ill-formed UTF-8 and on half
a surrogate pair; such a text has an end, only no content.
-/

namespace OrderDesk
namespace Json
namespace Quoted

/-- A piece of the content of a text: an octet that stands for itself, or the code
that an escape names. -/
inductive Piece where
  | octet (b : UInt8)
  | code (n : Nat)
deriving DecidableEq, Repr

/-- The character that a one-letter escape names. -/
def shortEscape? (c : Char) : Option Char :=
  match c with
  | '"' => some '"'
  | '\\' => some '\\'
  | '/' => some '/'
  | 'b' => some '\x08'
  | 'f' => some '\x0c'
  | 'n' => some '\n'
  | 'r' => some '\r'
  | 't' => some '\t'
  | _ => none

/-- The code of four hexadecimal digits. -/
def code? (a b c d : UInt8) : Option Nat := do
  let a ← Text.hexOctet? a
  let b ← Text.hexOctet? b
  let c ← Text.hexOctet? c
  let d ← Text.hexOctet? d
  return ((a.val * 16 + b.val) * 16 + c.val) * 16 + d.val

/-- The pieces of a text up to its closing quote, added to those found before, the
last one first, and the rest. -/
def pieces? (found : List Piece) : List UInt8 → Option (List Piece × List UInt8)
  | [] => none
  | b :: bs =>
    if b = Text.octet '"' then some (found.reverse, bs)
    else if b = Text.octet '\\' then
      match bs with
      | [] => none
      | e :: bs =>
        if e = Text.octet 'u' then
          match bs with
          | h₁ :: h₂ :: h₃ :: h₄ :: bs =>
            match code? h₁ h₂ h₃ h₄ with
            | some n => pieces? (.code n :: found) bs
            | none => none
          | _ => none
        else
          match shortEscape? (Text.asciiOf e) with
          | some c => pieces? (.octet (Text.octet c) :: found) bs
          | none => none
    else if b < Text.octet ' ' then none
    else pieces? (.octet b :: found) bs

/-- Whether a code is the first half of a surrogate pair. -/
def isHighSurrogate (n : Nat) : Bool := 0xD800 ≤ n && n ≤ 0xDBFF

/-- Whether a code is the second half of a surrogate pair. -/
def isLowSurrogate (n : Nat) : Bool := 0xDC00 ≤ n && n ≤ 0xDFFF

/-- The character of a surrogate pair. -/
def ofSurrogates (high low : Nat) : Char :=
  Char.ofNat (0x10000 + (high - 0xD800) * 0x400 + (low - 0xDC00))

/-- The octets that pieces spell, added to those found before, the last one first.
Half a surrogate pair spells nothing. -/
def spelled? (found : List UInt8) : List Piece → Option (List UInt8)
  | [] => some found.reverse
  | .octet b :: pieces => spelled? (b :: found) pieces
  | .code n :: pieces =>
    if isHighSurrogate n then
      match pieces with
      | .code m :: pieces =>
        if isLowSurrogate m then
          spelled? ((Utf8.encodeChar (ofSurrogates n m)).reverse ++ found) pieces
        else none
      | _ => none
    else if isLowSurrogate n then none
    else spelled? ((Utf8.encodeChar (Char.ofNat n)).reverse ++ found) pieces

/-- The content that pieces spell. -/
def content? (pieces : List Piece) : Option (List Char) :=
  (spelled? [] pieces).bind Utf8.decode?

/-- A text behind its opening quote. -/
def read? (bs : List UInt8) : Option (Option (List Char) × List UInt8) :=
  (pieces? [] bs).map fun (pieces, rest) => (content? pieces, rest)

/-- The rest behind a text is no longer than the text with it. -/
theorem length_rest_of_pieces? (found : List Piece) (bs : List UInt8)
    {pieces : List Piece} {rest : List UInt8}
    (h : pieces? found bs = some (pieces, rest)) : rest.length ≤ bs.length := by
  fun_induction pieces? found bs <;> simp_all <;> omega

end Quoted
end Json
end OrderDesk
