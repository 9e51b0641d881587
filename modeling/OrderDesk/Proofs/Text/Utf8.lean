import Mathlib.Data.String.Basic
import OrderDesk.Listing.Query
import OrderDesk.Text.Utf8

/-!
# Texts in order of their octets

Two texts stand in the order of their characters exactly if their octets do
(`ofString_lt_iff`), because a lesser character has lesser octets, whatever follows.
-/

namespace OrderDesk
namespace Utf8

/-- Order of two texts by their octets. -/
def compareOctets (a b : String) : Ordering :=
  if ofString a < ofString b then .lt else if ofString a = ofString b then .eq else .gt

theorem toNat_lt (c : Char) : c.toNat < 0x110000 := by
  have valid := c.valid
  simp only [UInt32.isValidChar, Nat.isValidChar] at valid
  show c.val.toNat < 0x110000
  omega

theorem encodeChar_append_lt
    {c d : Char}
    (less : c < d)
    (xs ys : List UInt8) :
    encodeChar c ++ xs < encodeChar d ++ ys := by
  have hless : c.toNat < d.toNat := less
  have hbound : d.toNat < 0x110000 := toNat_lt d
  simp only [encodeChar]
  generalize c.toNat = m at *
  generalize d.toNat = n at *
  split_ifs
  all_goals
    simp only [List.cons_append, List.nil_append, List.cons_lt_cons_iff, UInt8.lt_iff_toNat_lt,
      ← UInt8.toNat_inj, UInt8.toNat_ofNat']
  all_goals try omega
  -- What is left are two characters of four octets, which are compared one by one.
  rcases Nat.lt_or_ge (m / 0x40000) (n / 0x40000) with h | h
  · omega
  · refine Or.inr ⟨by omega, ?_⟩
    rcases Nat.lt_or_ge (m / 0x1000 % 0x40) (n / 0x1000 % 0x40) with h | h
    · omega
    · refine Or.inr ⟨by omega, ?_⟩
      omega

theorem encodeChar_ne_nil (c : Char) : encodeChar c ≠ [] := by
  simp only [encodeChar]
  split_ifs <;> simp

theorem encode_lt
    {cs ds : List Char}
    (less : cs < ds) :
    encode cs < encode ds := by
  induction less with
  | nil =>
      rename_i d ds
      obtain ⟨b, bs, hd⟩ := List.exists_cons_of_ne_nil (encodeChar_ne_nil d)
      rw [encode_nil, encode_cons, hd]
      exact List.nil_lt_cons _ _
  | rel h =>
      rw [encode_cons, encode_cons]
      exact encodeChar_append_lt h _ _
  | cons h ih =>
      rw [encode_cons, encode_cons]
      exact List.append_left_lt ih

theorem ofString_lt
    {a b : String}
    (less : a < b) :
    ofString a < ofString b :=
  encode_lt (String.lt_iff_toList_lt.mp less)

theorem ofString_lt_iff
    (a b : String) :
    ofString a < ofString b ↔ a < b := by
  constructor
  · intro h
    rcases lt_trichotomy a b with less | same | greater
    · exact less
    · exact absurd (same ▸ h) (List.lt_irrefl _)
    · exact absurd h (List.lt_asymm (ofString_lt greater))
  · exact ofString_lt

theorem ofString_inj
    {a b : String} :
    ofString a = ofString b ↔ a = b := by
  constructor
  · intro h
    rcases lt_trichotomy a b with less | same | greater
    · exact absurd (h ▸ ofString_lt less) (List.lt_irrefl _)
    · exact same
    · exact absurd (h ▸ ofString_lt greater) (List.lt_irrefl _)
  · rintro rfl
    rfl

theorem compareOctets_eq_compareText
    (a b : String) :
    compareOctets a b = OrderQuery.compareText a b := by
  simp only [compareOctets, OrderQuery.compareText, ofString_lt_iff, ofString_inj]

end Utf8
end OrderDesk
