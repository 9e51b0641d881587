import OrderDesk.Json.Numeral.Reader
import OrderDesk.Json.Quoted

/-!
# JSON tokens

The tokens of a JSON text given as octets.  `Token.scan` reads as many tokens as
there are; if something other than a token follows them, the last token is
`damage`.
-/

namespace OrderDesk
namespace Json

/-- A token. -/
inductive Token where
  | openArray
  | closeArray
  | openObject
  | closeObject
  | comma
  | colon
  | null
  | bool (b : Bool)
  | number (n : Numeral)
  | text (content : Option (List Char))
  /-- Something that is not a token. -/
  | damage
deriving DecidableEq, Repr

namespace Token

/-- Space, tab and the two line ends stand freely between tokens. -/
def isSpace (b : UInt8) : Bool :=
  b == Text.octet ' ' || b == Text.octet '\t' || b == Text.octet '\n' || b == Text.octet '\r'

/-- A token that is a word. -/
def word? (word : String) (t : Token) (bs : List UInt8) : Option (Token × List UInt8) :=
  (Text.afterStart? (word.toList.map Text.octet) bs).map fun rest => (t, rest)

/-- The token at the start of a text that does not start with a space. -/
def lex? : List UInt8 → Option (Token × List UInt8)
  | [] => none
  | b :: bs =>
    match Text.asciiOf b with
    | '[' => some (.openArray, bs)
    | ']' => some (.closeArray, bs)
    | '{' => some (.openObject, bs)
    | '}' => some (.closeObject, bs)
    | ',' => some (.comma, bs)
    | ':' => some (.colon, bs)
    | '"' => (Quoted.read? bs).map fun (content, rest) => (.text content, rest)
    | 'n' => word? "ull" .null bs
    | 't' => word? "rue" (.bool true) bs
    | 'f' => word? "alse" (.bool false) bs
    | _ => (Numeral.read? (b :: bs)).map fun (n, rest) => (.number n, rest)

theorem length_rest_of_word? {word : String} {t u : Token} {bs rest : List UInt8}
    (h : word? word t bs = some (u, rest)) : rest.length ≤ bs.length := by
  obtain ⟨tail, found, eq⟩ := Option.map_eq_some_iff.1 h
  simp only [Prod.mk.injEq] at eq
  have whole := congrArg List.length (Text.append_of_afterStart? found)
  rw [List.length_append] at whole
  rw [← eq.2]
  omega

/-- A token takes at least one octet. -/
theorem length_rest_lt_of_lex? {bs rest : List UInt8} {t : Token}
    (h : lex? bs = some (t, rest)) : rest.length < bs.length := by
  cases bs with
  | nil => simp [lex?] at h
  | cons b bs =>
    simp only [lex?] at h
    split at h
    case h_7 =>
      obtain ⟨⟨c, tail⟩, found, eq⟩ := Option.map_eq_some_iff.1 h
      obtain ⟨⟨us, tail'⟩, found', eq'⟩ := Option.map_eq_some_iff.1 found
      simp only [Prod.mk.injEq] at eq eq'
      rw [← eq.2, ← eq'.2]
      exact Nat.lt_succ_of_le (Quoted.length_rest_of_pieces? _ _ found')
    case h_8 => exact Nat.lt_succ_of_le (length_rest_of_word? h)
    case h_9 => exact Nat.lt_succ_of_le (length_rest_of_word? h)
    case h_10 => exact Nat.lt_succ_of_le (length_rest_of_word? h)
    case h_11 =>
      obtain ⟨⟨n, tail⟩, found, eq⟩ := Option.map_eq_some_iff.1 h
      have := Numeral.length_rest_lt_of_read? found
      simp_all
    all_goals simp_all

/-- The text without its leading spaces. -/
def dropSpaces (bs : List UInt8) : List UInt8 := bs.dropWhile isSpace

/-- The tokens of a text behind those found before, the last one first. -/
def scanBehind (found : List Token) (bs : List UInt8) : List Token :=
  match _h : lex? (dropSpaces bs) with
  | some (t, rest) => scanBehind (t :: found) rest
  | none => (if (dropSpaces bs).isEmpty then found else damage :: found).reverse
termination_by bs.length
decreasing_by
  have shorter := length_rest_lt_of_lex? _h
  have suffix : (dropSpaces bs).length ≤ bs.length := (List.dropWhile_suffix isSpace).length_le
  omega

/-- The tokens of a text. -/
def scan (bs : List UInt8) : List Token :=
  scanBehind [] bs

/-- What was found before stands in front. -/
theorem scanBehind_eq (found : List Token) (bs : List UInt8) :
    scanBehind found bs = found.reverse ++ scan bs := by
  induction size : bs.length using Nat.strongRecOn generalizing found bs with
  | ind n ih =>
    unfold scan
    rw [scanBehind, scanBehind]
    split
    · rename_i t rest h
      have shorter := length_rest_lt_of_lex? h
      have suffix : (dropSpaces bs).length ≤ bs.length := (List.dropWhile_suffix isSpace).length_le
      rw [ih rest.length (by omega) (t :: found) rest rfl, ih rest.length (by omega) [t] rest rfl]
      simp
    · split <;> simp

/-- A text that starts with a token. -/
theorem scan_of_lex? {bs rest : List UInt8} {t : Token}
    (h : lex? (dropSpaces bs) = some (t, rest)) : scan bs = t :: scan rest := by
  unfold scan
  rw [scanBehind]
  split
  · rename_i t' rest' h'
    obtain ⟨rfl, rfl⟩ : t' = t ∧ rest' = rest := by
      simpa using h'.symm.trans h
    exact scanBehind_eq [t'] rest'
  · rename_i h'
    simp [h] at h'

/-- Spaces alone hold no token. -/
theorem scan_of_spaces {bs : List UInt8} (h : dropSpaces bs = []) : scan bs = [] := by
  unfold scan
  rw [scanBehind]
  split
  · rename_i h'
    simp [h, lex?] at h'
  · simp [h]

end Token
end Json
end OrderDesk
