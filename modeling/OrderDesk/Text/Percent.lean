import OrderDesk.Text.Hex
import OrderDesk.Text.Octet

/-!
# Percent encoding

In addresses an octet may be written as a percent sign and two hexadecimal
digits.  A percent sign without two digits behind it stands for itself.
-/

namespace OrderDesk
namespace Text

/-- Replaces every escape by the octet it names. -/
def percentDecode : List UInt8 → List UInt8
  | [] => []
  | [a] => [a]
  | [a, b] => [a, b]
  | a :: b :: c :: rest =>
    if a = octet '%' then
      match hexOctet? b, hexOctet? c with
      | some high, some low => UInt8.ofNat (high.val * 16 + low.val) :: percentDecode rest
      | _, _ => a :: percentDecode (b :: c :: rest)
    else a :: percentDecode (b :: c :: rest)

end Text
end OrderDesk
