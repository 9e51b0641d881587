import Mathlib.Tactic.IntervalCases
import OrderDesk.Json.Token
import OrderDesk.Proofs.Json.Numeral
import OrderDesk.Proofs.Json.Quoted

/-!
# Spellings of tokens

A text is a spelling of tokens if it consists of a spelling for each of them, with white space
freely between.

* `Token.Spells`: a text spells one token.
* `Lexes`: a text spells a list of tokens.
* `scan_of_lexes`: these are the tokens that are found in the text.
-/

namespace OrderDesk
namespace Json

open Text (octet digitChar)
open Utf8 (encode encodeChar)

namespace Token

/-! ## The grammar -/

/-- The text of a token that is always written alike. -/
def fixed? : Token → Option (List Char)
  | openArray => some ['[']
  | closeArray => some [']']
  | openObject => some ['{']
  | closeObject => some ['}']
  | comma => some [',']
  | colon => some [':']
  | null => some ['n', 'u', 'l', 'l']
  | bool true => some ['t', 'r', 'u', 'e']
  | bool false => some ['f', 'a', 'l', 's', 'e']
  | number _ => none
  | text _ => none
  | damage => none

/-- A text spells a token. -/
inductive Spells : List Char → Token → Prop where
  | fixed
      {cs : List Char} {t : Token}
      (written : t.fixed? = some cs) :
      Spells cs t
  | number
      {cs : List Char} {n : Numeral}
      (spelled : n.Spells cs) :
      Spells cs (.number n)
  | text
      {cs content : List Char}
      (spelled : Quoted.Spells cs content) :
      Spells ('"' :: (cs ++ ['"'])) (.text (some content))
  /-- Half a surrogate pair stands alone, and the text spells nothing. -/
  | broken
      {cs : List Char} {ps : List Quoted.Piece}
      (cut : Quoted.Cut cs ps)
      (spellsNothing : ∀ content, ¬ Quoted.Spells cs content) :
      Spells ('"' :: (cs ++ ['"'])) (.text none)

/-- White space between tokens. -/
def IsBlank (cs : List Char) : Prop :=
  ∀ c ∈ cs, c = ' ' ∨ c = '\t' ∨ c = '\n' ∨ c = '\r'

/-- A text spells tokens, with white space between them.  A numeral goes as far as it can. -/
inductive Lexes : List Char → List Token → Prop where
  | nil
      {blank : List Char}
      (isBlank : IsBlank blank) :
      Lexes blank []
  | cons
      {blank cs rest : List Char} {t : Token} {ts : List Token}
      (isBlank : IsBlank blank)
      (first : Spells cs t)
      (stops : ∀ n, t = .number n → Numeral.Stops (encode rest))
      (behind : Lexes rest ts) :
      Lexes (blank ++ (cs ++ rest)) (t :: ts)

namespace Lexes

section

variable {rest : List Char} {ts : List Token} (behind : Lexes rest ts)

include behind

theorem space
    {c : Char}
    (blank : c = ' ' ∨ c = '\t' ∨ c = '\n' ∨ c = '\r') :
    Lexes (c :: rest) ts := by
  cases behind with
  | nil isBlank => exact .nil (List.forall_mem_cons.mpr ⟨blank, isBlank⟩)
  | cons isBlank first stops later =>
      exact .cons (List.forall_mem_cons.mpr ⟨blank, isBlank⟩) first stops later

/-- A token with no white space in front. -/
theorem token
    {cs : List Char} {t : Token}
    (first : Spells cs t)
    (stops : ∀ n, t = .number n → Numeral.Stops (encode rest)) :
    Lexes (cs ++ rest) (t :: ts) :=
  .cons (List.forall_mem_nil _) first stops behind

theorem mark
    {c : Char} {t : Token}
    (written : t.fixed? = some [c]) :
    Lexes (c :: rest) (t :: ts) := by
  refine behind.token (.fixed written) ?_
  rintro n rfl
  cases written

theorem quoted
    {cs content : List Char}
    (spelled : Quoted.Spells cs content) :
    Lexes ('"' :: (cs ++ '"' :: rest)) (.text (some content) :: ts) := by
  have htoken := behind.token (.text spelled) nofun
  rwa [List.cons_append, List.append_assoc] at htoken

theorem numeral
    {cs : List Char} {n : Numeral}
    (spelled : n.Spells cs)
    (stops : Numeral.Stops (encode rest)) :
    Lexes (cs ++ rest) (.number n :: ts) :=
  behind.token (.number spelled) fun _ _ => stops

end

end Lexes

/-! ## Scanning -/

/-- A token that does not start with a space is read from the start. -/
theorem scan_cons
    {b : UInt8} {bs rest : List UInt8} {t : Token}
    (visible : isSpace b = false)
    (found : lex? (b :: bs) = some (t, rest)) :
    scan (b :: bs) = t :: scan rest := by
  refine scan_of_lex? ?_
  rw [dropSpaces, List.dropWhile_cons, visible]
  exact found

theorem scan_fixed
    {cs : List Char} {t : Token}
    (written : t.fixed? = some cs)
    (rest : List UInt8) :
    scan (encode cs ++ rest) = t :: scan rest := by
  cases t with
  | bool b => cases b <;> cases written <;> exact scan_cons (by decide) rfl
  | number _ | text _ | damage => cases written
  | _ =>
      cases written
      exact scan_cons (by decide) rfl

/-- What is read up to a closing quote is one token with the quotes. -/
theorem scan_quoted
    {cs : List Char} {content : Option (List Char)} {rest : List UInt8}
    (read : Quoted.read? (encode cs ++ octet '"' :: rest) = some (content, rest)) :
    scan (encode ('"' :: (cs ++ ['"'])) ++ rest) = .text content :: scan rest := by
  have hquote : Utf8.encodeChar '"' = [octet '"'] := rfl
  have hchars : encode ('"' :: (cs ++ ['"'])) ++ rest =
      octet '"' :: (encode cs ++ octet '"' :: rest) := by
    simp [hquote]
  have hlex : lex? (octet '"' :: (encode cs ++ octet '"' :: rest)) =
      (Quoted.read? (encode cs ++ octet '"' :: rest)).map
        fun found => (.text found.1, found.2) := rfl
  rw [hchars]
  refine scan_cons (by decide) ?_
  rw [hlex, read]
  rfl

/-- A minus sign or a digit begins a numeral. -/
theorem lex?_numeral
    {b : UInt8}
    (head : b = octet '-' ∨ ∃ d < 10, b = octet (digitChar d))
    (bs : List UInt8) :
    isSpace b = false ∧
      lex? (b :: bs) = (Numeral.read? (b :: bs)).map fun found => (.number found.1, found.2) := by
  rcases head with rfl | ⟨d, hd, rfl⟩
  · exact ⟨by decide, rfl⟩
  · interval_cases d <;> exact ⟨by decide, rfl⟩

/-- What is read as a numeral from its head on is one token. -/
theorem scan_numeral
    {text rest : List UInt8} {n : Numeral}
    (head : ∃ b bs, text = b :: bs ∧ (b = octet '-' ∨ ∃ d < 10, b = octet (digitChar d)))
    (read : Numeral.read? (text ++ rest) = some (n, rest)) :
    scan (text ++ rest) = .number n :: scan rest := by
  obtain ⟨b, bs, rfl, head⟩ := head
  obtain ⟨visible, hlex⟩ := lex?_numeral head (bs ++ rest)
  rw [List.cons_append] at read ⊢
  refine scan_cons visible ?_
  rw [hlex, read]
  rfl

/-- A spelling is found as its token, whatever stands behind, but for what would go on with
a numeral. -/
theorem Spells.scan_eq
    {cs : List Char} {t : Token} {rest : List UInt8}
    (spelled : Spells cs t)
    (stops : ∀ n, t = .number n → Numeral.Stops rest) :
    scan (encode cs ++ rest) = t :: scan rest := by
  cases spelled with
  | fixed written => exact scan_fixed written rest
  | number spelled =>
      exact scan_numeral spelled.exists_head (Numeral.read?_of_spells spelled (stops _ rfl))
  | text spelled => exact scan_quoted (Quoted.read?_of_spells spelled rest)
  | broken cut spellsNothing =>
      exact scan_quoted (Quoted.read?_of_no_content cut spellsNothing rest)

theorem dropSpaces_append
    {blank : List Char}
    (isBlank : IsBlank blank)
    (rest : List UInt8) :
    dropSpaces (encode blank ++ rest) = dropSpaces rest := by
  induction blank with
  | nil => rfl
  | cons c blank ih =>
      have hspace : encodeChar c = [octet c] ∧ isSpace (octet c) = true := by
        rcases isBlank c List.mem_cons_self with rfl | rfl | rfl | rfl <;> decide
      rw [Utf8.encode_cons, hspace.1, List.singleton_append, List.cons_append, dropSpaces,
        List.dropWhile_cons, hspace.2, if_pos rfl]
      exact ih fun c hc => isBlank c (List.mem_cons_of_mem _ hc)

theorem scan_of_no_token
    {bs : List UInt8}
    (found : lex? (dropSpaces bs) = none) :
    scan bs = if (dropSpaces bs).isEmpty then [] else [.damage] := by
  rw [scan, scanBehind]
  split
  · rename_i h
    rw [found] at h
    cases h
  · split <;> rfl

/-- White space in front holds no token. -/
theorem scan_blank
    {blank : List Char}
    (isBlank : IsBlank blank)
    (rest : List UInt8) :
    scan (encode blank ++ rest) = scan rest := by
  have hdrop := dropSpaces_append isBlank rest
  cases hlex : lex? (dropSpaces rest) with
  | some found =>
      obtain ⟨t, behind⟩ := found
      rw [scan_of_lex? hlex, scan_of_lex? (hdrop ▸ hlex)]
  | none =>
      rw [scan_of_no_token hlex, scan_of_no_token (hdrop ▸ hlex), hdrop]

theorem scan_of_lexes
    {text : List Char} {ts : List Token}
    (lexes : Lexes text ts) :
    scan (encode text) = ts := by
  induction lexes with
  | nil isBlank =>
      rw [← List.append_nil (encode _), scan_blank isBlank, scan_of_spaces rfl]
  | cons isBlank first stops _ ih =>
      rw [Utf8.encode_append, Utf8.encode_append, scan_blank isBlank, first.scan_eq stops, ih]

end Token
end Json
end OrderDesk
