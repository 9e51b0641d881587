import OrderDesk.Identifier
import OrderDesk.Text.Blank

/-!
# Headers

A header has a name, in which letter case does not matter, and a value of octets.
A value is a text only if all its octets are printable ASCII characters or tabs.
Where a name occurs more than once, its first value counts.

`forLog` is how headers are written to a log: in the order of their names, and
without the values that give access.
-/

namespace OrderDesk

/-- A header of a request. -/
structure Header where
  name : String
  value : List UInt8
deriving DecidableEq, Repr

/-- The headers of a request. -/
abbrev Headers := List Header

namespace Header

/-- The name in small letters. -/
def key (h : Header) : String := h.name.toLower

/-- Whether an octet is printable in a header. -/
def isPrintable (b : UInt8) : Bool :=
  b == 0x09 || (0x20 ≤ b && b ≤ 0x7E)

/-- The text of a value. -/
def textOf? (value : List UInt8) : Option (List Char) :=
  if value.all isPrintable then some (value.map fun b => Char.ofNat b.toNat) else none

/-- The names of the headers that give access. -/
def sensitiveNames : List String := ["authorization", "cookie", "set-cookie", "x-api-key"]

/-- What is written in place of a value that gives access. -/
def redacted : String := "[REDACTED]"

/-- What is written in place of a value that is not a text. -/
def unprintable : String := "[invalid utf8]"

/-- The value as it is written to a log. -/
def logged (h : Header) : String :=
  if sensitiveNames.contains h.key then redacted
  else
    match textOf? h.value with
    | some cs => String.ofList cs
    | none => unprintable

end Header

namespace Headers

/-- The first value under a name, which is given in small letters. -/
def first? (hs : Headers) (key : String) : Option (List UInt8) :=
  (hs.find? (·.key == key)).map (·.value)

/-- The identifier that the first value under a name spells. -/
def identifier? (hs : Headers) (key : String) : Option Identifier := do
  let value ← hs.first? key
  let text ← Header.textOf? value
  Identifier.parse? (Text.trim text)

/-- The headers as they are written to a log: sorted by name, and equal names in
their order. -/
def forLog (hs : Headers) : List (String × String) :=
  (hs.map fun h => (h.key, h.logged)).mergeSort fun a b => a.1 ≤ b.1

end Headers
end OrderDesk
