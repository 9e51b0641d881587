/-!
# Octets of ASCII characters

Addresses and JSON texts are octets whose marks are ASCII characters.  `octet`
writes such a mark, and `asciiOf` looks at an octet as a character.
-/

namespace OrderDesk
namespace Text

/-- The octet of an ASCII character. -/
def octet (c : Char) : UInt8 := UInt8.ofNat c.toNat

/-- The ASCII character of an octet; other octets give characters beyond ASCII. -/
def asciiOf (b : UInt8) : Char := Char.ofNat b.toNat

/-- The octets behind a given start, if they begin with it. -/
def afterStart? : List UInt8 → List UInt8 → Option (List UInt8)
  | [], bs => some bs
  | _ :: _, [] => none
  | w :: ws, b :: bs => if w = b then afterStart? ws bs else none

/-- A start and the octets behind it are the whole. -/
theorem append_of_afterStart? {start bs rest : List UInt8}
    (h : afterStart? start bs = some rest) : start ++ rest = bs := by
  fun_induction afterStart? start bs with
  | case1 bs => simpa using h.symm
  | case2 => contradiction
  | case3 ws b bs ih => simp [ih h]
  | case4 => contradiction

/-- Cuts octets at every occurrence of a mark. -/
def cutAll (mark : UInt8) (bs : List UInt8) : List (List UInt8) :=
  bs.foldr
    (fun b parts =>
      if b = mark then [] :: parts
      else
        match parts with
        | part :: parts => (b :: part) :: parts
        | [] => [[b]])
    [[]]

end Text
end OrderDesk
