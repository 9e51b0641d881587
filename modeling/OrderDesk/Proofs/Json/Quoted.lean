import Mathlib.Tactic.Common
import OrderDesk.Json.Quoted
import OrderDesk.Json.Value
import OrderDesk.Proofs.Text.Decoding

/-!
# Spellings of texts between quotes

Between quotes a character stands for itself, or it is escaped: by a letter, by the digits
of its code, or by those of a surrogate pair.  So one content has many spellings.

* `Cut`: a text may stand between quotes, and these are its pieces.
* `Spells`: the content that such a text spells.
* `spells_charTexts`: what is written for a text spells it.
* `Cut.spells_or_broken`: without a content, half a surrogate pair stands alone.
* `read?_of_spells`, `read?_of_no_content`: a text is read up to its closing quote, and as
  its content if it has one.
-/

namespace OrderDesk
namespace Json
namespace Quoted

open Text (octet)
open Utf8 (encode encodeChar)

/-! ## The grammar -/

/-- The escapes of one letter: the letter and what it stands for. -/
def letters : List (Char × Char) :=
  [('"', '"'), ('\\', '\\'), ('/', '/'), ('b', '\x08'), ('f', '\x0c'), ('n', '\n'), ('r', '\r'),
    ('t', '\t')]

/-- Four hexadecimal digits, in either letter case, of a code. -/
def CodeDigits (digits : List Char) (n : Nat) : Prop :=
  ∃ a b c d : Fin 16,
    digits.map Text.hexValue? = [some a, some b, some c, some d] ∧
      n = ((a.val * 16 + b.val) * 16 + c.val) * 16 + d.val

/-- A text may stand between quotes, and is cut into pieces. -/
inductive Cut : List Char → List Piece → Prop where
  | nil : Cut [] []
  | plain
      {c : Char} {text : List Char} {ps : List Piece}
      (quote : c ≠ '"')
      (escape : c ≠ '\\')
      (visible : 0x20 ≤ c.toNat)
      (behind : Cut text ps) :
      Cut (c :: text) ((encodeChar c).map .octet ++ ps)
  | letter
      {e c : Char} {text : List Char} {ps : List Piece}
      (known : (e, c) ∈ letters)
      (behind : Cut text ps) :
      Cut ('\\' :: e :: text) (.octet (octet c) :: ps)
  | code
      {digits text : List Char} {n : Nat} {ps : List Piece}
      (spelled : CodeDigits digits n)
      (behind : Cut text ps) :
      Cut ('\\' :: 'u' :: (digits ++ text)) (.code n :: ps)

/-- A text between quotes spells a content. -/
inductive Spells : List Char → List Char → Prop where
  | nil : Spells [] []
  | plain
      {c : Char} {text content : List Char}
      (quote : c ≠ '"')
      (escape : c ≠ '\\')
      (visible : 0x20 ≤ c.toNat)
      (behind : Spells text content) :
      Spells (c :: text) (c :: content)
  | letter
      {e c : Char} {text content : List Char}
      (known : (e, c) ∈ letters)
      (behind : Spells text content) :
      Spells ('\\' :: e :: text) (c :: content)
  | code
      {c : Char} {digits text content : List Char}
      (spelled : CodeDigits digits c.toNat)
      (behind : Spells text content) :
      Spells ('\\' :: 'u' :: (digits ++ text)) (c :: content)
  /-- A character beyond the first plane is escaped in two halves. -/
  | pair
      {c : Char} {high low text content : List Char}
      (wide : 0x10000 ≤ c.toNat)
      (first : CodeDigits high (0xD800 + (c.toNat - 0x10000) / 0x400))
      (second : CodeDigits low (0xDC00 + (c.toNat - 0x10000) % 0x400))
      (behind : Spells text content) :
      Spells ('\\' :: 'u' :: (high ++ '\\' :: 'u' :: (low ++ text))) (c :: content)

/-- Visible characters other than the marks spell themselves. -/
theorem spells_plain
    {cs : List Char}
    (plain : ∀ c ∈ cs, c ≠ '"' ∧ c ≠ '\\' ∧ 0x20 ≤ c.toNat) :
    Spells cs cs := by
  induction cs with
  | nil => exact .nil
  | cons c cs ih =>
      obtain ⟨quote, escape, visible⟩ := plain c List.mem_cons_self
      exact .plain quote escape visible (ih fun c hc => plain c (List.mem_cons_of_mem _ hc))

/-- A control character is escaped by its code. -/
theorem codeDigits_of_control
    {c : Char}
    (control : c.toNat < 0x20) :
    CodeDigits
      ['0', '0', Text.hexChar (Text.lastHexDigit (c.toNat / 16)),
        Text.hexChar (Text.lastHexDigit c.toNat)] c.toNat := by
  have hzero : Text.hexValue? '0' = some 0 := by decide
  refine ⟨0, 0, Text.lastHexDigit (c.toNat / 16), Text.lastHexDigit c.toNat, ?_, ?_⟩
  · simp only [List.map_cons, List.map_nil, hzero, Text.hexValue?_hexChar]
  · show c.toNat = ((0 * 16 + 0) * 16 + c.toNat / 16 % 16) * 16 + c.toNat % 16
    omega

/-- What is written for a text spells it. -/
theorem spells_charTexts
    (cs : List Char) :
    Spells (cs.flatMap Value.charText) cs := by
  induction cs with
  | nil => exact .nil
  | cons c cs ih =>
      rw [List.flatMap_cons, Value.charText.eq_def]
      split
      iterate 7 exact .letter (by decide) ih
      rename_i hquote hescape _ _ _ _ _
      split
      · rename_i hcontrol
        exact .code (codeDigits_of_control hcontrol) ih
      · rename_i hcontrol
        exact .plain hquote hescape (Nat.le_of_not_lt hcontrol) ih

/-! ## Octets -/

theorem encodeChar_of_ascii
    {c : Char}
    (ascii : c.toNat < 0x80) :
    encodeChar c = [octet c] := by
  simp [encodeChar, ascii, octet]

/-- The octets of a character beyond ASCII are beyond ASCII. -/
theorem le_of_mem_encodeChar
    {c : Char} {b : UInt8}
    (mem : b ∈ encodeChar c)
    (wide : 0x80 ≤ c.toNat) :
    0x80 ≤ b.toNat := by
  have hbound := Utf8.toNat_lt c
  simp only [encodeChar] at mem
  generalize c.toNat = n at *
  split_ifs at mem
  · omega
  all_goals
    simp only [List.mem_cons, List.not_mem_nil, or_false] at mem
    rcases mem with rfl | rfl | rfl | rfl <;> rw [UInt8.toNat_ofNat'] <;> omega

theorem toNat_octet
    {c : Char}
    (ascii : c.toNat < 0x80) :
    (octet c).toNat = c.toNat :=
  Utf8.toNat_ofNat (by omega)

/-- No octet of a visible character other than the marks is a mark or a control. -/
theorem plain_of_mem_encodeChar
    {c : Char} {b : UInt8}
    (mem : b ∈ encodeChar c)
    (quote : c ≠ '"')
    (escape : c ≠ '\\')
    (visible : 0x20 ≤ c.toNat) :
    b ≠ octet '"' ∧ b ≠ octet '\\' ∧ ¬ b < octet ' ' := by
  have hquote : (octet '"').toNat = 0x22 := by decide
  have hescape : (octet '\\').toNat = 0x5C := by decide
  have hspace : (octet ' ').toNat = 0x20 := by decide
  rw [ne_eq, ne_eq, ← UInt8.toNat_inj, ← UInt8.toNat_inj, UInt8.lt_iff_toNat_lt, hquote, hescape,
    hspace]
  by_cases hascii : c.toNat < 0x80
  · rw [encodeChar_of_ascii hascii, List.mem_singleton] at mem
    rw [mem, toNat_octet hascii]
    have hquote : c.toNat ≠ '"'.toNat := fun h => quote (Char.toNat_inj.mp h)
    have hescape : c.toNat ≠ '\\'.toNat := fun h => escape (Char.toNat_inj.mp h)
    exact ⟨hquote, hescape, Nat.not_lt.mpr visible⟩
  · have hwide := le_of_mem_encodeChar mem (Nat.le_of_not_lt hascii)
    omega

/-! ## Cutting -/

theorem toNat_of_hexValue?
    {c : Char} {d : Fin 16}
    (digit : Text.hexValue? c = some d) :
    c.toNat < 0x80 := by
  have hle : ∀ {last : Char}, c ≤ last → c.toNat ≤ last.toNat := fun h => h
  rw [Text.hexValue?] at digit
  split_ifs at digit with h₁ h₂ h₃
  · exact Nat.lt_of_le_of_lt (hle h₁.2) (by decide)
  · exact Nat.lt_of_le_of_lt (hle h₂.2) (by decide)
  · exact Nat.lt_of_le_of_lt (hle h₃.2) (by decide)

theorem hexOctet?_of_hexValue?
    {c : Char} {d : Fin 16}
    (digit : Text.hexValue? c = some d) :
    encodeChar c = [octet c] ∧ Text.hexOctet? (octet c) = some d := by
  have hascii := toNat_of_hexValue? digit
  refine ⟨encodeChar_of_ascii hascii, ?_⟩
  rw [Text.hexOctet?, toNat_octet hascii, Char.ofNat_toNat, digit]

theorem code?_of_digits
    {digits : List Char} {n : Nat}
    (spelled : CodeDigits digits n) :
    ∃ h₁ h₂ h₃ h₄, encode digits = [h₁, h₂, h₃, h₄] ∧ code? h₁ h₂ h₃ h₄ = some n := by
  obtain ⟨a, b, c, d, hdigits, rfl⟩ := spelled
  simp only [List.map_eq_cons_iff, List.map_eq_nil_iff] at hdigits
  obtain ⟨c₁, _, rfl, h₁, c₂, _, rfl, h₂, c₃, _, rfl, h₃, c₄, _, rfl, h₄, rfl⟩ := hdigits
  obtain ⟨e₁, h₁⟩ := hexOctet?_of_hexValue? h₁
  obtain ⟨e₂, h₂⟩ := hexOctet?_of_hexValue? h₂
  obtain ⟨e₃, h₃⟩ := hexOctet?_of_hexValue? h₃
  obtain ⟨e₄, h₄⟩ := hexOctet?_of_hexValue? h₄
  refine ⟨octet c₁, octet c₂, octet c₃, octet c₄, ?_, ?_⟩
  · simp [e₁, e₂, e₃, e₄]
  · simp [code?, h₁, h₂, h₃, h₄]

/-- A letter is one octet, and no mark of a code. -/
theorem shortEscape?_of_letters
    {e c : Char}
    (known : (e, c) ∈ letters) :
    encodeChar e = [octet e] ∧ octet e ≠ octet 'u' ∧
      shortEscape? (Text.asciiOf (octet e)) = some c ∧ encodeChar c = [octet c] := by
  revert known
  simp only [letters, List.mem_cons, List.not_mem_nil, or_false, Prod.mk.injEq]
  rintro (⟨rfl, rfl⟩ | ⟨rfl, rfl⟩ | ⟨rfl, rfl⟩ | ⟨rfl, rfl⟩ | ⟨rfl, rfl⟩ | ⟨rfl, rfl⟩ |
    ⟨rfl, rfl⟩ | ⟨rfl, rfl⟩) <;> decide

/-- Octets that are no marks stand for themselves. -/
theorem pieces?_octets
    {bs : List UInt8}
    (plain : ∀ b ∈ bs, b ≠ octet '"' ∧ b ≠ octet '\\' ∧ ¬ b < octet ' ')
    (found : List Piece)
    (rest : List UInt8) :
    pieces? found (bs ++ rest) = pieces? ((bs.map .octet).reverse ++ found) rest := by
  induction bs generalizing found with
  | nil => rfl
  | cons b bs ih =>
      obtain ⟨⟨quote, escape, visible⟩, plain⟩ := List.forall_mem_cons.mp plain
      rw [List.cons_append, pieces?.eq_def]
      simp only [if_neg quote, if_neg escape, if_neg visible]
      rw [ih plain, List.map_cons, List.reverse_cons, List.append_assoc]
      rfl

theorem Cut.pieces?_eq
    {text : List Char} {ps : List Piece}
    (cut : Cut text ps)
    (found : List Piece)
    (rest : List UInt8) :
    pieces? found (encode text ++ rest) = pieces? (ps.reverse ++ found) rest := by
  have hescape : encodeChar '\\' = [octet '\\'] := rfl
  have hmark : encodeChar 'u' = [octet 'u'] := rfl
  have hquote : octet '\\' ≠ octet '"' := by decide
  induction cut generalizing found with
  | nil => rfl
  | plain quote escape visible _ ih =>
      have hplain := fun b mem => plain_of_mem_encodeChar (b := b) mem quote escape visible
      rw [Utf8.encode_cons, List.append_assoc, pieces?_octets hplain, ih, List.reverse_append,
        List.append_assoc]
  | letter known _ ih =>
      obtain ⟨hone, hletter, hknown, _⟩ := shortEscape?_of_letters known
      rw [Utf8.encode_cons, Utf8.encode_cons, hescape, hone, pieces?.eq_def]
      simp only [List.cons_append, List.nil_append, if_neg hquote, if_pos, if_neg hletter, hknown,
        ih, List.reverse_cons, List.append_assoc]
  | code spelled _ ih =>
      obtain ⟨h₁, h₂, h₃, h₄, hdigits, hcode⟩ := code?_of_digits spelled
      rw [Utf8.encode_cons, Utf8.encode_cons, Utf8.encode_append, hescape, hmark, hdigits,
        pieces?.eq_def]
      simp only [List.cons_append, List.nil_append, if_neg hquote, if_pos, hcode, ih,
        List.reverse_cons, List.append_assoc]

/-! ## Contents -/

theorem spelled?_octets
    (found bs : List UInt8)
    (ps : List Piece) :
    spelled? found (bs.map .octet ++ ps) = spelled? (bs.reverse ++ found) ps := by
  induction bs generalizing found with
  | nil => rfl
  | cons b bs ih =>
      rw [List.map_cons, List.cons_append, spelled?, ih, List.reverse_cons, List.append_assoc]
      rfl

/-- The code of a character is no half of a surrogate pair. -/
theorem isSurrogate_toNat
    (c : Char) :
    isHighSurrogate c.toNat = false ∧ isLowSurrogate c.toNat = false := by
  have hvalid : c.toNat < 0xD800 ∨ 0xDFFF < c.toNat ∧ c.toNat < 0x110000 := c.valid
  simp only [isHighSurrogate, isLowSurrogate, Bool.and_eq_false_iff, decide_eq_false_iff_not]
  omega

theorem toNat_ofNat
    {n : Nat}
    (small : n < 0x110000)
    (high : isHighSurrogate n = false)
    (low : isLowSurrogate n = false) :
    (Char.ofNat n).toNat = n := by
  have hvalid : n.isValidChar := by
    simp only [isHighSurrogate, isLowSurrogate, Bool.and_eq_false_iff, decide_eq_false_iff_not]
      at high low
    simp only [Nat.isValidChar]
    omega
  rw [Char.ofNat, dif_pos hvalid]
  rfl

/-- Two halves are those of a character beyond the first plane. -/
theorem ofSurrogates_halves
    {c : Char}
    (wide : 0x10000 ≤ c.toNat) :
    let high := 0xD800 + (c.toNat - 0x10000) / 0x400
    let low := 0xDC00 + (c.toNat - 0x10000) % 0x400
    isHighSurrogate high = true ∧ isLowSurrogate low = true ∧ ofSurrogates high low = c := by
  have hbound := Utf8.toNat_lt c
  have hsum : 0x10000 + (0xD800 + (c.toNat - 0x10000) / 0x400 - 0xD800) * 0x400 +
      (0xDC00 + (c.toNat - 0x10000) % 0x400 - 0xDC00) = c.toNat := by
    omega
  refine ⟨?_, ?_, ?_⟩
  · simp only [isHighSurrogate, Bool.and_eq_true, decide_eq_true_eq]
    omega
  · simp only [isLowSurrogate, Bool.and_eq_true, decide_eq_true_eq]
    omega
  · rw [ofSurrogates, hsum, Char.ofNat_toNat]

theorem halves_of_surrogates
    {high low : Nat}
    (first : isHighSurrogate high = true)
    (second : isLowSurrogate low = true) :
    let c := ofSurrogates high low
    0x10000 ≤ c.toNat ∧ high = 0xD800 + (c.toNat - 0x10000) / 0x400 ∧
      low = 0xDC00 + (c.toNat - 0x10000) % 0x400 := by
  simp only [isHighSurrogate, isLowSurrogate, Bool.and_eq_true, decide_eq_true_eq] at first second
  have hcode : (ofSurrogates high low).toNat =
      0x10000 + (high - 0xD800) * 0x400 + (low - 0xDC00) := by
    refine toNat_ofNat (by omega) ?_ ?_
    · simp only [isHighSurrogate, Bool.and_eq_false_iff, decide_eq_false_iff_not]
      omega
    · simp only [isLowSurrogate, Bool.and_eq_false_iff, decide_eq_false_iff_not]
      omega
  intro c
  rw [hcode]
  omega

/-- A text with a content is cut into pieces that spell it. -/
theorem Spells.exists_cut
    {text content : List Char}
    (spells : Spells text content) :
    ∃ ps, Cut text ps ∧
      ∀ found, spelled? found ps = some (found.reverse ++ encode content) := by
  induction spells with
  | nil => exact ⟨[], .nil, fun found => by simp [spelled?]⟩
  | plain quote escape visible _ ih =>
      obtain ⟨ps, cut, hspelled⟩ := ih
      refine ⟨_, .plain quote escape visible cut, fun found => ?_⟩
      rw [spelled?_octets, hspelled]
      simp
  | letter known _ ih =>
      obtain ⟨ps, cut, hspelled⟩ := ih
      refine ⟨_, .letter known cut, fun found => ?_⟩
      rw [spelled?, hspelled, Utf8.encode_cons, (shortEscape?_of_letters known).2.2.2]
      simp
  | @code c _ _ _ spelled _ ih =>
      obtain ⟨ps, cut, hspelled⟩ := ih
      obtain ⟨hhigh, hlow⟩ := isSurrogate_toNat c
      refine ⟨_, .code spelled cut, fun found => ?_⟩
      rw [spelled?.eq_def]
      simp [hhigh, hlow, hspelled]
  | @pair c _ _ _ _ wide first second _ ih =>
      obtain ⟨ps, cut, hspelled⟩ := ih
      obtain ⟨hhigh, hlow, hpair⟩ := ofSurrogates_halves wide
      refine ⟨_, .code first (.code second cut), fun found => ?_⟩
      rw [spelled?.eq_def]
      simp [hhigh, hlow, hpair, hspelled]

theorem codeDigits_lt
    {digits : List Char} {n : Nat}
    (spelled : CodeDigits digits n) :
    n < 0x10000 := by
  obtain ⟨a, b, c, d, _, rfl⟩ := spelled
  omega

/-- Behind a first half the second one must stand. -/
theorem spelled?_of_alone
    {n : Nat} {ps : List Piece}
    (high : isHighSurrogate n = true)
    (alone : ∀ m ps', ps = .code m :: ps' → isLowSurrogate m = false)
    (found : List UInt8) :
    spelled? found (.code n :: ps) = none := by
  rw [spelled?.eq_def]
  simp only [high, if_true]
  split
  · rename_i m _
    rw [if_neg (by simp [alone m _ rfl])]
  · rfl

theorem Cut.second_half
    {text : List Char} {ps : List Piece}
    (cut : Cut text ps) :
    (∀ m ps', ps = .code m :: ps' → isLowSurrogate m = false) ∨
    (∃ digits text' m ps',
      text = '\\' :: 'u' :: (digits ++ text') ∧ ps = .code m :: ps' ∧ CodeDigits digits m ∧
        isLowSurrogate m = true ∧ Cut text' ps') := by
  cases cut with
  | nil => exact Or.inl nofun
  | @plain c _ _ _ _ _ _ =>
      refine Or.inl fun m ps' h => ?_
      obtain ⟨b, bs, hoctets⟩ := List.exists_cons_of_ne_nil (Utf8.encodeChar_ne_nil c)
      rw [hoctets] at h
      cases h
  | letter _ _ => exact Or.inl nofun
  | @code _ _ m _ spelled behind =>
      cases low : isLowSurrogate m with
      | false =>
          refine Or.inl fun m' ps' h => ?_
          cases h
          exact low
      | true => exact Or.inr ⟨_, _, m, _, rfl, rfl, spelled, low, behind⟩

/-- A text that is cut spells a content, or half a surrogate pair stands alone in it. -/
theorem Cut.spells_or_broken
    {text : List Char} {ps : List Piece}
    (cut : Cut text ps) :
    (∃ content, Spells text content) ∨ ∀ found, spelled? found ps = none := by
  -- a pair is two pieces, so the induction is on the length
  induction hsize : text.length using Nat.strongRecOn generalizing text ps with
  | ind size ih =>
      cases cut with
      | nil => exact Or.inl ⟨[], .nil⟩
      | plain quote escape visible behind =>
          rcases ih _ (by simp only [← hsize, List.length_cons]; omega) behind rfl with
            ⟨content, spells⟩ | broken
          · exact Or.inl ⟨_, .plain quote escape visible spells⟩
          · exact Or.inr fun found => by rw [spelled?_octets, broken]
      | letter known behind =>
          rcases ih _ (by simp only [← hsize, List.length_cons]; omega) behind rfl with
            ⟨content, spells⟩ | broken
          · exact Or.inl ⟨_, .letter known spells⟩
          · exact Or.inr fun found => by rw [spelled?, broken]
      | @code digits text n ps spelled behind =>
          cases high : isHighSurrogate n with
          | true =>
              rcases behind.second_half with
                alone | ⟨digits', text, m, ps, rfl, rfl, spelled', low, behind⟩
              · exact Or.inr (spelled?_of_alone high alone)
              obtain ⟨wide, hfirst, hsecond⟩ := halves_of_surrogates high low
              have shorter : text.length < size := by
                simp only [← hsize, List.length_cons, List.length_append]
                omega
              rcases ih _ shorter behind rfl with ⟨content, spells⟩ | broken
              · rw [hfirst] at spelled
                rw [hsecond] at spelled'
                exact Or.inl ⟨_, .pair wide spelled spelled' spells⟩
              · refine Or.inr fun found => ?_
                rw [spelled?.eq_def]
                simp [high, low, broken]
          | false =>
              cases low : isLowSurrogate n with
              | true =>
                  refine Or.inr fun found => ?_
                  rw [spelled?.eq_def]
                  simp [high, low]
              | false =>
                  have hcode : (Char.ofNat n).toNat = n :=
                    toNat_ofNat (Nat.lt_trans (codeDigits_lt spelled) (by decide)) high low
                  have shorter : text.length < size := by
                    simp only [← hsize, List.length_cons, List.length_append]
                    omega
                  rcases ih _ shorter behind rfl with ⟨content, spells⟩ | broken
                  · rw [← hcode] at spelled
                    exact Or.inl ⟨_, .code spelled spells⟩
                  · refine Or.inr fun found => ?_
                    rw [spelled?.eq_def]
                    simp [high, low, broken]

/-! ## Reading -/

theorem Cut.read?_eq
    {text : List Char} {ps : List Piece}
    (cut : Cut text ps)
    (rest : List UInt8) :
    read? (encode text ++ octet '"' :: rest) = some (content? ps, rest) := by
  rw [read?, cut.pieces?_eq, pieces?.eq_def]
  simp

/-- A text is read up to its closing quote, as its content. -/
theorem read?_of_spells
    {text content : List Char}
    (spells : Spells text content)
    (rest : List UInt8) :
    read? (encode text ++ octet '"' :: rest) = some (some content, rest) := by
  obtain ⟨ps, cut, hspelled⟩ := spells.exists_cut
  have hcontent : content? ps = some content := by
    rw [content?, hspelled, Option.bind_some, List.reverse_nil, List.nil_append,
      Utf8.decode?_encode]
  rw [cut.read?_eq, hcontent]

/-- A text that spells nothing has an end all the same. -/
theorem read?_of_no_content
    {text : List Char} {ps : List Piece}
    (cut : Cut text ps)
    (broken : ∀ content, ¬ Spells text content)
    (rest : List UInt8) :
    read? (encode text ++ octet '"' :: rest) = some (none, rest) := by
  rcases cut.spells_or_broken with ⟨content, spells⟩ | hnone
  · exact absurd spells (broken content)
  · rw [cut.read?_eq, content?, hnone]
    rfl

end Quoted
end Json
end OrderDesk
