import OrderDesk.Text.Hex
import OrderDesk.Text.Hidden

/-!
# Texts in messages

A text that is shown in a message stands between double quotes.  Quotes and
backslashes in it stand behind a backslash, four control characters have letters,
and every other hidden character is given by its number.
-/

namespace OrderDesk
namespace Text

/-- The hexadecimal digits of a number, without leading zeros. -/
def hexDigits (n : Nat) : List Char :=
  if n < 16 then [hexChar (lastHexDigit n)]
  else hexDigits (n / 16) ++ [hexChar (lastHexDigit n)]

/-- A character in a shown text. -/
def shownChar (c : Char) : List Char :=
  match c with
  | '"' => ['\\', '"']
  | '\\' => ['\\', '\\']
  | '\x00' => ['\\', '0']
  | '\t' => ['\\', 't']
  | '\n' => ['\\', 'n']
  | '\r' => ['\\', 'r']
  | c => if isHidden c then ['\\', 'u', '{'] ++ hexDigits c.toNat ++ ['}'] else [c]

/-- A text between double quotes. -/
def shown (cs : List Char) : List Char :=
  '"' :: cs.flatMap shownChar ++ ['"']

end Text
end OrderDesk
