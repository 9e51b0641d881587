/-!
# Integer numerals

Decimal integers in configuration and query texts.  Only ASCII digits count, a
plus sign is optional, a minus sign is a sign only where negative numbers
exist, and nothing is trimmed.  Digits are read from the left, so the first
character that is no digit, or the first digit that takes the number out of
range, names the error; of the two on one character, the former.
-/

namespace OrderDesk

/-- Why a text is not an integer of the wanted width. -/
inductive NumeralError where
  /-- There is no text. -/
  | empty
  /-- A character is not a digit, or a sign stands alone. -/
  | invalidDigit
  /-- The number is above the range. -/
  | tooLarge
  /-- The number is below the range. -/
  | tooSmall
deriving DecidableEq, Repr

/-- The wording of each error. -/
def NumeralError.message : NumeralError → String
  | .empty => "cannot parse integer from empty string"
  | .invalidDigit => "invalid digit found in string"
  | .tooLarge => "number too large to fit in target type"
  | .tooSmall => "number too small to fit in target type"

namespace Text

/-- The value of an ASCII digit. -/
def digit? (c : Char) : Option Nat :=
  if '0' ≤ c ∧ c ≤ '9' then some (c.toNat - '0'.toNat) else none

/-- The ASCII digit of a value below ten. -/
def digitChar (n : Nat) : Char :=
  Char.ofNat ('0'.toNat + n)

/-- Reads digits after the number so far, with the error to report once the
number passes the limit. -/
def readDigits
    (limit : Nat) (beyond : NumeralError) :
    Nat → List Char → Except NumeralError Nat
  | value, [] => .ok value
  | value, c :: cs =>
    match digit? c with
    | none => .error .invalidDigit
    | some d =>
      if limit < value * 10 + d then .error beyond
      else readDigits limit beyond (value * 10 + d) cs

/-- Reads an unsigned integer of at most `limit`. -/
def readNat (limit : Nat) : List Char → Except NumeralError Nat
  | [] => .error .empty
  | ['+'] => .error .invalidDigit
  | '+' :: cs => readDigits limit .tooLarge 0 cs
  | cs => readDigits limit .tooLarge 0 cs

/-- Reads a signed integer from `-limit - 1` to `limit`. -/
def readInt (limit : Nat) : List Char → Except NumeralError Int
  | [] => .error .empty
  | ['+'] => .error .invalidDigit
  | ['-'] => .error .invalidDigit
  | '+' :: cs => (readDigits limit .tooLarge 0 cs).map Int.ofNat
  | '-' :: cs => (readDigits (limit + 1) .tooSmall 0 cs).map fun n => -(n : Int)
  | cs => (readDigits limit .tooLarge 0 cs).map Int.ofNat

/-- Reads a 64-bit signed integer. -/
def readInt64 (cs : List Char) : Except NumeralError Int64 :=
  (readInt 0x7FFFFFFFFFFFFFFF cs).map Int64.ofInt

/-- The decimal digits of a number, most significant first and without leading zeros. -/
def digits (n : Nat) : List Char :=
  if n < 10 then [digitChar n] else digits (n / 10) ++ [digitChar (n % 10)]

/-- The decimal digits of a number, filled up with zeros to a least width. -/
def paddedDigits (width n : Nat) : List Char :=
  let ds := digits n
  List.replicate (width - ds.length) '0' ++ ds

/-- The power of ten with a given number of zeros. -/
def powerOfTen (zeros : Nat) : Nat := Nat.pow 10 zeros

/-- The number that a list of digit values spells. -/
def ofDigitValues (ds : List Nat) : Nat :=
  ds.foldl (fun value d => value * 10 + d) 0

end Text
end OrderDesk
