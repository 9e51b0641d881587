import OrderDesk.Text.Hex
import OrderDesk.Text.Numeral

/-!
# JSON values and their text

The values that responses are made of, and their compact text: no spaces, members
in the given order, and in texts only what must be escaped is escaped.  A control
character without a short escape is written with four hexadecimal digits.
-/

namespace OrderDesk
namespace Json

/-- A JSON value with whole numbers. -/
inductive Value where
  | null
  | bool (b : Bool)
  | integer (n : Int)
  | text (s : String)
  | array (items : List Value)
  | object (members : List (String × Value))

namespace Value

instance : Inhabited Value := ⟨null⟩

/-- A character inside a text. -/
def charText (c : Char) : List Char :=
  match c with
  | '"' => ['\\', '"']
  | '\\' => ['\\', '\\']
  | '\x08' => ['\\', 'b']
  | '\x0c' => ['\\', 'f']
  | '\n' => ['\\', 'n']
  | '\r' => ['\\', 'r']
  | '\t' => ['\\', 't']
  | c =>
    if c.toNat < 0x20 then
      ['\\', 'u', '0', '0', Text.hexChar (Text.lastHexDigit (c.toNat / 16)),
        Text.hexChar (Text.lastHexDigit c.toNat)]
    else [c]

/-- A text in quotes. -/
def textChars (cs : List Char) : List Char :=
  '"' :: cs.flatMap charText ++ ['"']

/-- An integer in decimal digits. -/
def integerChars (n : Int) : List Char :=
  if n < 0 then '-' :: Text.digits n.natAbs else Text.digits n.natAbs

/-- Texts with commas between them. -/
def separated : List (List Char) → List Char
  | [] => []
  | [cs] => cs
  | cs :: rest => cs ++ ',' :: separated rest

mutual

/-- The compact text of a value. -/
def toChars : Value → List Char
  | null => ['n', 'u', 'l', 'l']
  | bool true => ['t', 'r', 'u', 'e']
  | bool false => ['f', 'a', 'l', 's', 'e']
  | integer n => integerChars n
  | text s => textChars s.toList
  | array items => '[' :: separated (itemTexts items) ++ [']']
  | object members => '{' :: separated (memberTexts members) ++ ['}']

/-- The texts of items. -/
def itemTexts : List Value → List (List Char)
  | [] => []
  | item :: items => toChars item :: itemTexts items

/-- The texts of members: the key, a colon and the value. -/
def memberTexts : List (String × Value) → List (List Char)
  | [] => []
  | (name, value) :: members =>
    (textChars name.toList ++ ':' :: toChars value) :: memberTexts members

end

/-- The compact text of a value, as a string. -/
def render (v : Value) : String :=
  String.ofList v.toChars

/-- A member that is left out if it has no value. -/
def optional (name : String) : Option Value → List (String × Value)
  | none => []
  | some v => [(name, v)]

end Value
end Json
end OrderDesk
