/-!
# Blank characters and trimming

The blank characters are those with the Unicode property White_Space, so a
no-break space is blank while a zero-width space is not.  Texts are lists of
characters here; `trimmed` is the same operation on `String`.
-/

namespace OrderDesk
namespace Text

/-- The blank characters, given by the ranges of the property White_Space. -/
def isBlank (c : Char) : Bool :=
  let n := c.toNat
  (0x09 ≤ n && n ≤ 0x0D) || n == 0x20 || n == 0x85 || n == 0xA0 || n == 0x1680 ||
    (0x2000 ≤ n && n ≤ 0x200A) || n == 0x2028 || n == 0x2029 || n == 0x202F ||
    n == 0x205F || n == 0x3000

/-- The text without its leading blanks. -/
def trimStart (cs : List Char) : List Char :=
  cs.dropWhile isBlank

/-- The text without its trailing blanks. -/
def trimEnd (cs : List Char) : List Char :=
  (cs.reverse.dropWhile isBlank).reverse

/-- The text without the blanks at its two ends. -/
def trim (cs : List Char) : List Char :=
  trimEnd (trimStart cs)

/-- Trimming of a string. -/
def trimmed (s : String) : String :=
  String.ofList (trim s.toList)

/-- A text that starts with a visible character keeps its start. -/
theorem trimStart_cons_of_not_blank
    {c : Char} (cs : List Char)
    (visible : isBlank c = false) :
    trimStart (c :: cs) = c :: cs := by
  simp [trimStart, visible]

end Text
end OrderDesk
