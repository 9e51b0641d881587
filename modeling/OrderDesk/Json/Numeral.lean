import OrderDesk.Double

/-!
# JSON numerals

A numeral as it is written, and the number it stands for.  A numeral of digits
alone stands for an integer if it has 64 bits, and every other numeral stands
for a double.

**Doubles.**  The digits are gathered into a significand below `2 ^ 64`.  From
the first whole digit that does not fit, whole digits only raise the exponent;
from the first place that does not fit, places are left out.
-/

namespace OrderDesk
namespace Json

/-- A numeral as it is written; a point has places behind it. -/
structure Numeral where
  negative : Bool
  whole : List Nat
  places : List Nat
  exponent : Option Int
deriving DecidableEq, Repr

/-- What a numeral stands for. -/
inductive Number where
  | integer (n : Int)
  | double (x : Double)
deriving DecidableEq, Repr

namespace Numeral

/-- The largest significand. -/
def maxSignificand : Nat := 0xFFFFFFFFFFFFFFFF

/-- Adds whole digits to a significand, and counts those that do not fit. -/
def gatherWhole : Nat → List Nat → Nat × Nat
  | value, [] => (value, 0)
  | value, d :: ds =>
    if maxSignificand < value * 10 + d then (value, ds.length + 1)
    else gatherWhole (value * 10 + d) ds

/-- Adds places to a significand, and counts those that fit. -/
def gatherPlaces : Nat → Nat → List Nat → Nat × Nat
  | value, taken, [] => (value, taken)
  | value, taken, d :: ds =>
    if maxSignificand < value * 10 + d then (value, taken)
    else gatherPlaces (value * 10 + d) (taken + 1) ds

/-- The double that a numeral stands for, if it is not too large. -/
def double? (n : Numeral) : Option Double :=
  let (whole, dropped) := gatherWhole 0 n.whole
  let (significand, taken) := gatherPlaces whole 0 n.places
  Double.ofScientific? n.negative significand ((dropped : Int) - taken + n.exponent.getD 0)

/-- The integer that a numeral stands for.  A minus sign before zero makes a double. -/
def integer? (n : Numeral) : Option Int :=
  if n.places.isEmpty && n.exponent.isNone then
    let (value, dropped) := gatherWhole 0 n.whole
    if dropped ≠ 0 then none
    else if n.negative then
      if value = 0 ∨ 0x8000000000000000 < value then none else some (-(value : Int))
    else some value
  else none

/-- What a numeral stands for, if it is not too large. -/
def number? (n : Numeral) : Option Number :=
  match n.integer? with
  | some i => some (.integer i)
  | none => n.double?.map .double

end Numeral
end Json
end OrderDesk
