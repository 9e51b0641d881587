import OrderDesk.Text.Octet
import OrderDesk.Text.Percent
import OrderDesk.Text.Utf8

/-!
# Query strings

A query string is a sequence of pairs of a name and a value, joined by ampersands.
A pair is cut at its first equals sign, and one without an equals sign has an
empty value.  In both parts a plus sign is a space, escapes are replaced, and
ill-formed UTF-8 is replaced as well.  Empty pairs do not count.
-/

namespace OrderDesk
namespace Form

open Text (octet)

/-- The text of a name or a value. -/
def text (bs : List UInt8) : String :=
  let spaced := bs.map fun b => if b = octet '+' then octet ' ' else b
  String.ofList (Utf8.decodeLossy (Text.percentDecode spaced))

/-- A pair as its name and value. -/
def pair (bs : List UInt8) : String × String :=
  (text (bs.takeWhile (· != octet '=')), text ((bs.dropWhile (· != octet '=')).drop 1))

/-- The pairs of a query string. -/
def pairs (query : List UInt8) : List (String × String) :=
  ((Text.cutAll (octet '&') query).filter (!·.isEmpty)).map pair

end Form
end OrderDesk
