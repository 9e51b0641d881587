import OrderDesk.Decimal

/-!
# Double-precision numbers

The finite binary numbers of double precision: a mantissa of at most 53 bits
times a power of two whose exponent lies between -1074 and 971, with a sign
that zero has too.  All arithmetic is exact arithmetic on naturals followed by
one rounding, `nearest?`, to the nearest double, where a half goes to the even
mantissa.
-/

namespace OrderDesk

/-- A finite double: `mantissa * 2 ^ exponent` with a sign. -/
structure Double where
  negative : Bool
  mantissa : Nat
  exponent : Int
deriving DecidableEq, Repr

namespace Double

/-- The least exponent of a double. -/
def minExponent : Int := -1074

/-- The largest exponent of a double. -/
def maxExponent : Int := 971

/-- Zero with a sign. -/
def zero (negative : Bool) : Double := ⟨negative, 0, minExponent⟩

/-- Whether a double is a zero. -/
def isZero (d : Double) : Bool := d.mantissa == 0

/-- The numerator and denominator of `n / d * 2 ^ e`. -/
def scaled (n d : Nat) (e : Int) : Nat × Nat :=
  if 0 ≤ e then (n <<< e.toNat, d) else (n, d <<< (-e).toNat)

/-- The exponent at which a positive ratio has a mantissa of 53 bits. -/
def fullExponent (n d : Nat) : Int :=
  let k : Int := (n.log2 : Int) - d.log2
  let (a, b) := scaled n d (-k)
  if b ≤ a then k - 52 else k - 53

/-- The double nearest to `n / d`, unless that is beyond the largest one. -/
def nearest? (negative : Bool) (n d : Nat) : Option Double :=
  if n = 0 then some (zero negative)
  else
    let e := max (fullExponent n d) minExponent
    let (a, b) := scaled n d (-e)
    let m := Decimal.roundHalfEven a b
    let (m, e) := if m = 0x20000000000000 then (0x10000000000000, e + 1) else (m, e)
    if maxExponent < e then none
    else if m = 0 then some (zero negative)
    else some ⟨negative, m, e⟩

/-- The size of a double as a numerator and a denominator. -/
def ratio (x : Double) : Nat × Nat :=
  scaled x.mantissa 1 x.exponent

/-- The double nearest to a natural number. -/
def ofNat? (n : Nat) : Option Double :=
  nearest? false n 1

/-- The rounded product of two sizes. -/
def mul? (x y : Double) : Option Double :=
  let (a, b) := x.ratio
  let (c, d) := y.ratio
  nearest? x.negative (a * c) (b * d)

/-- The rounded quotient of two sizes. -/
def div? (x y : Double) : Option Double :=
  let (a, b) := x.ratio
  let (c, d) := y.ratio
  nearest? x.negative (a * d) (b * c)

/-- The largest power of ten that is a double. -/
def maxPowerOfTen : Nat := 308

/-- Divides by a power of ten in steps of at most `10 ^ 308`, rounding after each.
Two such steps take any number of 64 bits to zero. -/
def divPowerOfTen? (x : Double) (n : Nat) : Option Double :=
  if n ≤ maxPowerOfTen then do x.div? (← ofNat? (Text.powerOfTen n))
  else do
    let y ← x.div? (← ofNat? (Text.powerOfTen maxPowerOfTen))
    let rest := n - maxPowerOfTen
    if rest ≤ maxPowerOfTen then y.div? (← ofNat? (Text.powerOfTen rest))
    else some (zero x.negative)

/-- The double of `significand * 10 ^ exponent`: the significand is rounded
first, then multiplied or divided by the power, which is rounded too. -/
def ofScientific? (negative : Bool) (significand : Nat) (exponent : Int) : Option Double := do
  let x ← nearest? negative significand 1
  if x.isZero then some x
  else if exponent < 0 then x.divPowerOfTen? (-exponent).toNat
  else if maxPowerOfTen < exponent.toNat then none
  else x.mul? (← ofNat? (Text.powerOfTen exponent.toNat))

end Double
end OrderDesk
