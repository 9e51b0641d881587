import OrderDesk.Double

/-!
# The shortest digits of a double

The shortest digits of a double are the fewest significant digits that read back
as it.  For one digit, two digits and so on, the two neighbours of the number with
that many digits are tried; the first length with a neighbour that reads back
wins, and of two such neighbours the nearer one.  Which of them a number halfway
between both takes is left to the use of the digits.

`plainChars` writes the digits positionally, without an exponent.
-/

namespace OrderDesk
namespace Double

open Text

/-- The least power of ten above the positive ratio `n / d`, as its exponent. -/
def decimalExponent (n d : Nat) : Int :=
  let k : Int := (digits n).length - ((digits d).length : Int)
  let below := if 0 ≤ k then n < d * powerOfTen k.toNat else n * powerOfTen (-k).toNat < d
  if below then k else k + 1

/-- The numerator and denominator of `n / d / 10 ^ e`. -/
def inPower (n d : Nat) (e : Int) : Nat × Nat :=
  if 0 ≤ e then (n, d * powerOfTen e.toNat) else (n * powerOfTen (-e).toNat, d)

/-- The double nearest to `m * 10 ^ e`, without its sign. -/
def ofDecimal? (m : Nat) (e : Int) : Option Double :=
  if 0 ≤ e then nearest? false (m * powerOfTen e.toNat) 1
  else nearest? false m (powerOfTen (-e).toNat)

/-- The neighbour that a number halfway between two of them takes. -/
inductive Tie where
  | toEven
  | up
deriving DecidableEq, Repr

/-- Whether the lower of two neighbours wins a tie. -/
def Tie.takesLower (tie : Tie) (low : Nat) : Bool :=
  match tie with
  | .toEven => low % 2 == 0
  | .up => false

/-- Of the two neighbours of the given length, the one that reads back, the
nearer first.  The upper neighbour may be the next power of ten, which is
written as one digit. -/
def neighbour? (tie : Tie) (x : Double) (n d : Nat) (top : Int) (length : Nat) :
    Option (Nat × Int) :=
  let e := top - length
  let (a, b) := inPower n d e
  let low := a / b
  let rest := a % b
  let lowFirst := 2 * rest < b || (2 * rest == b && tie.takesLower low)
  let order := if lowFirst then [low, low + 1] else [low + 1, low]
  (order.find? fun m => ofDecimal? m e == some { x with negative := false }).map fun m =>
    if m = powerOfTen length then (1, top) else (m, e)

/-- The fewest digits that read back, with the power of ten of the last one. -/
def shortest (tie : Tie) (x : Double) : Nat × Int :=
  if x.isZero then (0, 0)
  else
    let (n, d) := x.ratio
    let top := decimalExponent n d
    ((List.range 17).findSome? fun i => neighbour? tie x n d top (i + 1)).getD (0, 0)

/-- Writes `m * 10 ^ e` positionally. -/
def positional (m : Nat) (e : Int) : List Char :=
  if 0 ≤ e then
    if m = 0 then ['0'] else digits m ++ List.replicate e.toNat '0'
  else
    let places := (-e).toNat
    let ds := paddedDigits (places + 1) m
    ds.take (ds.length - places) ++ '.' :: ds.drop (ds.length - places)

/-- The sign of a double, if it is negative. -/
def signChars (x : Double) : List Char :=
  if x.negative then ['-'] else []

/-- The shortest digits of a double without an exponent; a whole number has no
point, and a tie goes up in size. -/
def plainChars (x : Double) : List Char :=
  let (m, e) := x.shortest .up
  x.signChars ++ positional m e

end Double
end OrderDesk
