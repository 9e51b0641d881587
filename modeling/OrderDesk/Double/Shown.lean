import OrderDesk.Double.Shortest

/-!
# Doubles in messages

A double is shown in a message by its shortest digits, a tie going to the even
one.

- If its first digit stands at most 15 places before and at most 5 places behind the
  point, it is written positionally, and a whole number ends in `.0`.
- Any other double is written with an exponent: a point behind the first of several
  digits, and the exponent with its sign, as in `1e-6` and `1.5e+16`.
-/

namespace OrderDesk
namespace Double

open Text

/-- The least power of ten that is shown without an exponent. -/
def minPlainPower : Int := -5

/-- The largest power of ten that is shown without an exponent. -/
def maxPlainPower : Int := 15

/-- A number with a point: a whole number ends in `.0`. -/
def pointed (m : Nat) (e : Int) : List Char :=
  let cs := positional m e
  if cs.contains '.' then cs else cs ++ ['.', '0']

/-- A whole number with its sign, a plus sign included. -/
def signedDigits (n : Int) : List Char :=
  (if n < 0 then '-' else '+') :: digits n.natAbs

/-- Digits with a point behind the first one, if there are others. -/
def pointedBehindFirst : List Char → List Char
  | first :: second :: more => first :: '.' :: second :: more
  | ds => ds

/-- A double as it is shown in messages. -/
def shownChars (x : Double) : List Char :=
  let (m, e) := x.shortest .toEven
  let ds := digits m
  let power := e + ds.length - 1
  x.signChars ++
    (if minPlainPower ≤ power ∧ power ≤ maxPlainPower then pointed m e
    else pointedBehindFirst ds ++ 'e' :: signedDigits power)

end Double
end OrderDesk
