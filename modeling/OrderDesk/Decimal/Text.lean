import OrderDesk.Decimal

/-!
# The text of decimals

A decimal is written in plain notation with exactly as many places as its
scale, and with a minus sign if it has one, also if it is zero.

**Plain notation.**  `ofPlain?` reads an optional sign and digits with at most one
point; underscores may follow digits.  It keeps as many places as fit.  The
first digit that does not fit decides the rounding, a half going up in size;
behind it only digits and underscores may stand.  An underscore behind the last
possible place of a short number counts as such a digit, a zero, so nothing is
rounded there.  A zero read so has no sign.

**Scientific notation.**  `parse?` also reads a number in plain notation with an
exponent behind it, a whole number that moves the point by at most 28 places.
Places that it moves beyond the last possible one are rounded away in the same
manner, and the number keeps its sign even if nothing is left of it.
-/

namespace OrderDesk
namespace Decimal

open Text

/-- The decimal in plain notation. -/
def toChars (d : Decimal) : List Char :=
  let ds := paddedDigits (d.scale + 1) d.mantissa
  let whole := ds.take (ds.length - d.scale)
  let places := ds.drop (ds.length - d.scale)
  (if d.negative then ['-'] else []) ++ whole ++ (if d.scale = 0 then [] else '.' :: places)

/-- The decimal in plain notation, as a string. -/
def text (d : Decimal) : String :=
  String.ofList d.toChars

instance : ToString Decimal := ⟨text⟩

/-- What has been read of a decimal: whether the point and a digit were seen,
and the parts so far. -/
structure Reading where
  pointSeen : Bool
  digitSeen : Bool
  mantissa : Nat
  scale : Nat

/-- Rounds by the first digit that does not fit. -/
def Reading.round? (r : Reading) (digit : Nat) : Option (Nat × Nat) :=
  if digit < 5 then some (r.mantissa, r.scale)
  else if r.mantissa + 1 < mantissaBound then some (r.mantissa + 1, r.scale)
  else if r.scale = 0 then none
  else some ((r.mantissa + 5) / 10, r.scale - 1)

/-- Ends the reading at the first digit that does not fit.  Only digits and
underscores may stand behind it. -/
def Reading.finish? (r : Reading) (digit : Nat) (rest : List Char) : Option (Nat × Nat) :=
  if rest.all fun c => c == '_' || (digit? c).isSome then r.round? digit else none

/-- The least mantissa that is not short.  A short one stays well within 64 bits with
another digit behind it. -/
def shortBound : Nat := 0xFFFFFFFFFFFFFFFF / 10 - 0xFF

/-- Whether an underscore counts as the digit that decides the rounding: behind the
last possible place, if the mantissa in front of that place is short. -/
def Reading.endsAtUnderscore (r : Reading) : Bool :=
  r.scale == maxScale && decide (r.mantissa / 10 < shortBound)

/-- Reads the mantissa and the scale of an unsigned decimal. -/
def Reading.run? : Reading → List Char → Option (Nat × Nat)
  | r, [] => if r.digitSeen then some (r.mantissa, r.scale) else none
  | r, c :: cs =>
    match digit? c with
    | some d =>
      if r.scale < maxScale ∧ r.mantissa * 10 + d < mantissaBound then
        run?
          { r with
            digitSeen := true
            mantissa := r.mantissa * 10 + d
            scale := if r.pointSeen then r.scale + 1 else 0 }
          cs
      else if r.pointSeen then r.finish? d cs
      else none
    | none =>
      if c == '.' && !r.pointSeen then run? { r with pointSeen := true } cs
      else if c == '_' && r.digitSeen then
        if r.endsAtUnderscore then r.finish? 0 cs else run? r cs
      else none

/-- A sign, and the text behind it. -/
def splitSign : List Char → Bool × List Char
  | '-' :: cs => (true, cs)
  | '+' :: cs => (false, cs)
  | cs => (false, cs)

/-- Reads plain notation. -/
def ofPlain? (cs : List Char) : Option Decimal :=
  let (negative, unsigned) := splitSign cs
  match Reading.run? ⟨false, false, 0, 0⟩ unsigned with
  | some (mantissa, scale) =>
    ofParts? (if negative then -(mantissa : Int) else mantissa) scale
  | none => none

/-- Whether a character marks an exponent. -/
def isExponentMark (c : Char) : Bool :=
  c == 'e' || c == 'E'

/-- Reads an unsigned 32-bit exponent. -/
def exponent? (cs : List Char) : Option Nat :=
  (readNat 0xFFFFFFFF cs).toOption

/-- A mantissa without its last digits, the first of which decides the rounding. -/
def cutDigits (mantissa : Nat) : Nat → Nat
  | 0 => mantissa
  | n + 1 =>
    let kept := mantissa / powerOfTen n
    if kept % 10 < 5 then kept / 10 else kept / 10 + 1

/-- Moves the point of a decimal to the left, by at most 28 places.  Places beyond
the last possible one are rounded away. -/
def movePointLeft? (d : Decimal) (n : Nat) : Option Decimal :=
  if maxScale < n then none
  else
    let excess := d.scale + n - maxScale
    ofSigned? d.negative (cutDigits d.mantissa excess) (d.scale + n - excess)

/-- Moves the point of a decimal to the right, by at most 28 places. -/
def movePointRight? (d : Decimal) (n : Nat) : Option Decimal :=
  if maxScale < n then none
  else if n ≤ d.scale then ofSigned? d.negative d.mantissa (d.scale - n)
  else ofSigned? d.negative (d.mantissa * powerOfTen (n - d.scale)) 0

/-- Reads scientific notation. -/
def ofScientific? (cs : List Char) : Option Decimal :=
  match cs.dropWhile (!isExponentMark ·) with
  | [] => none
  | _ :: exponent => do
    let base ← ofPlain? (cs.takeWhile (!isExponentMark ·))
    match exponent with
    | '-' :: places => base.movePointLeft? (← exponent? places)
    | places => base.movePointRight? (← exponent? places)

/-- Reads a decimal in plain or scientific notation. -/
def parse? (cs : List Char) : Option Decimal :=
  (ofPlain? cs).or (ofScientific? cs)

end Decimal
end OrderDesk
