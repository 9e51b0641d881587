import OrderDesk.Instant

/-!
# Order codes

An order shows a code to people: the mark `SO`, the date of its creation in
universal time, and six random letters or digits.  The draws come from
sixty-two characters, and small letters are written as capitals.
-/

namespace OrderDesk
namespace OrderCode

/-- The mark at the start of every code. -/
def mark : List Char := ['S', 'O']

/-- The characters to draw from. -/
def alphabet : List Char :=
  "ABCDEFGHIJKLMNOPQRSTUVWXYZabcdefghijklmnopqrstuvwxyz0123456789".toList

/-- The number of random characters. -/
def tailLength : Nat := 6

/-- One random draw for each random character. -/
abbrev Draws := Fin tailLength → Fin 62

/-- The mark and the date. -/
def head (now : Instant) : List Char :=
  mark ++ now.date.compactChars

/-- The random characters. -/
def tail (draws : Draws) : List Char :=
  List.ofFn fun i => (alphabet.getD (draws i).val 'A').toUpper

/-- The code of an order that is created now. -/
def generate (now : Instant) (draws : Draws) : String :=
  String.ofList (head now ++ tail draws)

end OrderCode
end OrderDesk
