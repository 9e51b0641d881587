/-!
# Hexadecimal digits

Values of hexadecimal digits in either letter case, and the lower-case digit of
a value.  The second is a right inverse of the first.
-/

namespace OrderDesk
namespace Text

/-- The last hexadecimal digit of a number, by value. -/
def lastHexDigit (n : Nat) : Fin 16 := ⟨n % 16, Nat.mod_lt n (by decide)⟩

/-- The value of a hexadecimal digit in either letter case. -/
def hexValue? (c : Char) : Option (Fin 16) :=
  if '0' ≤ c ∧ c ≤ '9' then some (lastHexDigit (c.toNat - '0'.toNat))
  else if 'a' ≤ c ∧ c ≤ 'f' then some (lastHexDigit (c.toNat - 'a'.toNat + 10))
  else if 'A' ≤ c ∧ c ≤ 'F' then some (lastHexDigit (c.toNat - 'A'.toNat + 10))
  else none

/-- The lower-case hexadecimal digit of a value. -/
def hexChar (d : Fin 16) : Char :=
  if d.val < 10 then Char.ofNat ('0'.toNat + d.val)
  else Char.ofNat ('a'.toNat + (d.val - 10))

/-- The value of a hexadecimal digit given as an octet. -/
def hexOctet? (b : UInt8) : Option (Fin 16) :=
  hexValue? (Char.ofNat b.toNat)

/-- A written digit reads back. -/
theorem hexValue?_hexChar (d : Fin 16) : hexValue? (hexChar d) = some d := by
  revert d
  decide

end Text
end OrderDesk
