import OrderDesk.Text.Numeral

/-!
# Decimal amounts

A decimal is a whole mantissa below `2 ^ 96` with a sign, divided by a power of
ten of at most 28.  The power, its *scale*, is kept: `10.0` and `10.00` are
different decimals of one value.

**Zeros.**  A zero has a scale and a sign too.  No operation makes a negative zero
of other decimals; reading a text may make one.

**Results that do not fit.**  The exact result of a product or a sum may need
more than 96 bits or more than 28 places.  Then the fewest digits that make it
fit are dropped from its end, and a half goes to the even neighbour.  If even
its whole part does not fit, the operation overflows.
-/

namespace OrderDesk

/-- The operation whose result is too large to be a decimal. -/
inductive Overflow where
  | multiplication
  | addition
deriving DecidableEq, Repr

/-- The report of an overflow. -/
def Overflow.message : Overflow → String
  | .multiplication => "Multiplication overflowed"
  | .addition => "Addition overflowed"

/-- The least number of 97 bits, which is too large for a mantissa. -/
def Decimal.mantissaBound : Nat := 0x1000000000000000000000000

/-- The largest scale. -/
def Decimal.maxScale : Nat := 28

/-- A mantissa of at most 96 bits over a power of ten of at most 28, with a sign. -/
structure Decimal where
  negative : Bool
  mantissa : Nat
  scale : Nat
  mantissa_lt : mantissa < Decimal.mantissaBound
  scale_le : scale ≤ Decimal.maxScale
deriving DecidableEq

namespace Decimal

/-- The decimal with the given sign, mantissa and scale, if they are in range. -/
def ofSigned? (negative : Bool) (mantissa scale : Nat) : Option Decimal :=
  if h : mantissa < mantissaBound ∧ scale ≤ maxScale then
    some ⟨negative, mantissa, scale, h.1, h.2⟩
  else none

/-- The decimal with the given coefficient, which is a mantissa with its sign, and
scale, if they are in range.  A zero made so is not negative. -/
def ofParts? (coefficient : Int) (scale : Nat) : Option Decimal :=
  ofSigned? (decide (coefficient < 0)) coefficient.natAbs scale

/-- The mantissa with the sign put on it. -/
def coefficient (d : Decimal) : Int :=
  if d.negative then -(d.mantissa : Int) else d.mantissa

/-- Zero without decimal places. -/
def zero : Decimal := ⟨false, 0, 0, by decide, by decide⟩

instance : Inhabited Decimal := ⟨zero⟩

/-- A decimal is zero at any scale. -/
def isZero (d : Decimal) : Bool := d.mantissa == 0

/-- A 32-bit integer as a decimal. -/
def ofInt32 (n : Int32) : Decimal where
  negative := decide (n.toInt < 0)
  mantissa := n.toInt.natAbs
  scale := 0
  mantissa_lt := by
    have low := n.le_toInt
    have high := n.toInt_lt
    unfold mantissaBound
    omega
  scale_le := by decide

/-- Division of naturals, rounded to the nearest whole number, a half to the even one. -/
def roundHalfEven (n d : Nat) : Nat :=
  let q := n / d
  let r := n % d
  if 2 * r < d then q
  else if d < 2 * r then q + 1
  else q + q % 2

/-- The sign of an exact result, put on its rounded size. -/
def withSign (sign : Int) (size : Nat) : Int :=
  if sign < 0 then -(size : Int) else size

/-- Fits an exact result into a decimal by dropping the fewest digits. -/
def fit? (exact : Int) (scale : Nat) : Option Decimal :=
  (List.range (scale + 1)).findSome? fun dropped =>
    ofParts? (withSign exact (roundHalfEven exact.natAbs (Text.powerOfTen dropped)))
      (scale - dropped)

/-- The product; a zero factor makes it zero without places. -/
def mul (a b : Decimal) : Except Overflow Decimal :=
  if a.isZero || b.isZero then .ok zero
  else
    match fit? (a.coefficient * b.coefficient) (a.scale + b.scale) with
    | some d => .ok d
    | none => .error .multiplication

/-- The coefficient at a scale that is at least the decimal's own. -/
def coefficientAt (d : Decimal) (scale : Nat) : Int :=
  d.coefficient * (Text.powerOfTen (scale - d.scale) : Int)

/-- The sum; a zero operand leaves the other as it is. -/
def add (a b : Decimal) : Except Overflow Decimal :=
  if a.isZero then .ok b
  else if b.isZero then .ok a
  else
    let scale := max a.scale b.scale
    match fit? (a.coefficientAt scale + b.coefficientAt scale) scale with
    | some d => .ok d
    | none => .error .addition

/-- The sum of a list from the left, starting from zero. -/
def sum (ds : List Decimal) : Except Overflow Decimal :=
  ds.foldlM add zero

/-- Order by value. -/
def cmp (a b : Decimal) : Ordering :=
  compare (a.coefficient * (Text.powerOfTen b.scale : Int))
    (b.coefficient * (Text.powerOfTen a.scale : Int))

/-- Zero keeps no decimal places and no sign; any other decimal is unchanged. -/
def withoutZeroPlaces (d : Decimal) : Decimal :=
  if d.isZero then zero else d

end Decimal
end OrderDesk
