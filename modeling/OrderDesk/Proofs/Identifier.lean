import Mathlib.Algebra.Ring.Nat
import Mathlib.Data.List.Basic
import OrderDesk.Identifier

/-!
# The spellings of identifiers

What is read as an identifier is exactly what spells one, and no text spells two.

* `Hex`: thirty-two hexadecimal digits in either letter case.
* `Grouped`: a text in groups of given lengths with hyphens between them.
* `Spelling`: the four spellings of an identifier.
* `parse?_eq_some_iff`: reading accepts the spellings and nothing else.
* `WrittenAs`, `parse?_toChars`: the spelling that is written, and that it reads back.
-/

namespace OrderDesk
namespace Identifier

open Text

/-- A text is the digits of an identifier, in either letter case. -/
def Hex (cs : List Char) (id : Identifier) : Prop :=
  cs.map hexValue? = id.digits.map some

/-- A text consists of groups of the given lengths with hyphens between them.  The last
argument is the text without the hyphens. -/
inductive Grouped : List Nat → List Char → List Char → Prop where
  | last
      (cs : List Char) :
      Grouped [cs.length] cs cs
  | more
      (cs : List Char)
      {ns : List Nat} {rest joined : List Char}
      (behind : Grouped ns rest joined) :
      Grouped (cs.length :: ns) (cs ++ '-' :: rest) (cs ++ joined)

/-- A text is the digits of an identifier in five groups. -/
def Hyphenated (cs : List Char) (id : Identifier) : Prop :=
  ∃ joined, Grouped groups cs joined ∧ Hex joined id

/-- The spellings of an identifier. -/
inductive Spelling (id : Identifier) : List Char → Prop where
  | plain
      {cs : List Char}
      (hex : Hex cs id) :
      Spelling id cs
  | hyphenated
      {cs : List Char}
      (groups : Hyphenated cs id) :
      Spelling id cs
  | braced
      {cs : List Char}
      (groups : Hyphenated cs id) :
      Spelling id ('{' :: (cs ++ ['}']))
  /-- The letter case of the marker is free too. -/
  | resource
      {marker cs : List Char}
      (marks : marker.map Char.toLower = resourceMarker)
      (groups : Hyphenated cs id) :
      Spelling id (marker ++ cs)

/-! ## Digits -/

theorem ext_digits
    {id id' : Identifier}
    (same : id.digits = id'.digits) :
    id = id' := by
  cases id
  cases id'
  cases same
  rfl

theorem mapM_hexValue?
    (cs : List Char)
    (ds : List (Fin 16)) :
    cs.mapM hexValue? = some ds ↔ cs.map hexValue? = ds.map some := by
  induction cs generalizing ds with
  | nil =>
      cases ds <;> simp
  | cons c cs ih =>
      cases hc : hexValue? c with
      | none =>
          cases ds <;> simp [hc]
      | some d =>
          cases ds with
          | nil =>
              simp [hc, Option.bind_eq_some_iff]
          | cons d' ds =>
              simp [hc, Option.bind_eq_some_iff, ih, and_comm]

theorem ofHex?_eq_some_iff
    {cs : List Char} {id : Identifier} :
    ofHex? cs = some id ↔ Hex cs id := by
  rw [ofHex?, Option.bind_eq_some_iff, Hex]
  constructor
  · rintro ⟨ds, hds, hid⟩
    rw [ofDigits?] at hid
    split at hid
    · cases hid
      exact (mapM_hexValue? cs ds).mp hds
    · cases hid
  · intro h
    refine ⟨id.digits, (mapM_hexValue? cs id.digits).mpr h, ?_⟩
    rw [ofDigits?, dif_pos id.length_digits]

section Hex

variable {cs : List Char} {id : Identifier} (hex : Hex cs id)

include hex

theorem Hex.length : cs.length = 32 := by
  have h := congrArg List.length hex
  rwa [List.length_map, List.length_map, id.length_digits] at h

theorem Hex.hexValue?_ne_none
    {c : Char}
    (mem : c ∈ cs) :
    hexValue? c ≠ none := by
  intro h
  have hmem : none ∈ id.digits.map some := by
    rw [← hex, ← h]
    exact List.mem_map_of_mem mem
  simp at hmem

theorem Hex.unique
    {id' : Identifier}
    (hex' : Hex cs id') :
    id = id' := by
  have h : id.digits.map some = id'.digits.map some := hex.symm.trans hex'
  exact ext_digits (List.map_injective_iff.mpr (fun _ _ => Option.some.inj) h)

end Hex

theorem ofHex?_of_not_hex
    {cs : List Char} {c : Char}
    (mem : c ∈ cs)
    (digit : hexValue? c = none) :
    ofHex? cs = none := by
  cases h : ofHex? cs with
  | none =>
      rfl
  | some id =>
      exact absurd digit ((ofHex?_eq_some_iff.mp h).hexValue?_ne_none mem)

/-! ## Groups -/

theorem joinGroups?_eq_some_iff
    {ns : List Nat} {cs joined : List Char} :
    joinGroups? ns cs = some joined ↔ Grouped ns cs joined := by
  constructor
  · intro h
    induction ns generalizing cs joined with
    | nil =>
        cases h
    | cons n ns ih =>
        cases ns with
        | nil =>
            rw [joinGroups?] at h
            split at h
            · rename_i hlength
              cases h
              subst hlength
              exact .last _
            · cases h
        | cons m ns =>
            rw [joinGroups?] at h
            · split at h
              · rename_i rest hrest
                obtain ⟨found, hfound, rfl⟩ := Option.map_eq_some_iff.mp h
                have hlength : (cs.take n).length = n := by
                  have := congrArg List.length hrest
                  simp only [List.length_drop, List.length_cons] at this
                  rw [List.length_take]
                  omega
                have hsplit : cs = cs.take n ++ '-' :: rest := by
                  rw [← hrest, List.take_append_drop]
                have hgrouped := Grouped.more (cs.take n) (ih hfound)
                rwa [hlength, ← hsplit] at hgrouped
              · cases h
            · nofun
  · intro grouped
    induction grouped with
    | last cs =>
        simp [joinGroups?]
    | @more cs ns rest joined behind ih =>
        cases behind <;> simp_all [joinGroups?]

theorem Grouped.length
    {ns : List Nat} {cs joined : List Char}
    (grouped : Grouped ns cs joined) :
    joined.length = ns.sum ∧ cs.length + 1 = joined.length + ns.length := by
  induction grouped with
  | last cs =>
      simp
  | more cs _ ih =>
      simp only [List.length_append, List.length_cons, List.sum_cons]
      omega

theorem grouped_hyphenate
    {ns : List Nat} {cs : List Char}
    (some : ns ≠ [])
    (length : cs.length = ns.sum) :
    Grouped ns (hyphenate ns cs) cs := by
  induction ns generalizing cs with
  | nil =>
      exact absurd rfl some
  | cons n ns ih =>
      cases ns with
      | nil =>
          obtain rfl : cs.length = n := by simpa using length
          rw [hyphenate, List.take_length]
          exact .last cs
      | cons m ns =>
          rw [List.sum_cons] at length
          have hfirst : (cs.take n).length = n := by
            rw [List.length_take]
            omega
          have hlength : (cs.drop n).length = (m :: ns).sum := by
            rw [List.length_drop]
            omega
          have hrest := ih (List.cons_ne_nil m ns) hlength
          have hgrouped := Grouped.more (cs.take n) hrest
          rw [hfirst, List.take_append_drop] at hgrouped
          exact hgrouped

theorem ofHyphenated?_eq_some_iff
    {cs : List Char} {id : Identifier} :
    ofHyphenated? cs = some id ↔ Hyphenated cs id := by
  rw [ofHyphenated?, Option.bind_eq_some_iff, Hyphenated]
  simp only [joinGroups?_eq_some_iff, ofHex?_eq_some_iff]

section Hyphenated

variable {cs : List Char} {id : Identifier} (hyphenated : Hyphenated cs id)

include hyphenated

theorem Hyphenated.length : cs.length = 36 := by
  obtain ⟨joined, hgrouped, hex⟩ := hyphenated
  have h := hgrouped.length
  have hgroups : groups.length = 5 := rfl
  have hlength := hex.length
  omega

/-- The first group has eight digits, and a hyphen stands behind it. -/
theorem Hyphenated.exists_first_group :
    ∃ c first rest,
      cs = c :: first ++ '-' :: rest ∧ first.length = 7 ∧ hexValue? c ≠ none := by
  obtain ⟨joined, hgrouped, hex⟩ := hyphenated
  have hgroups : groups = [8, 4, 4, 4, 12] := rfl
  generalize hns : groups = ns at hgrouped
  rw [hgroups] at hns
  cases hgrouped with
  | last cs =>
      simp at hns
  | more group behind =>
      have hlength : group.length = 8 := by
        injection hns with h
        exact h.symm
      obtain ⟨c, first, rfl⟩ := List.exists_cons_of_length_eq_add_one hlength
      refine ⟨c, first, _, rfl, Nat.succ.inj hlength, ?_⟩
      exact hex.hexValue?_ne_none (by simp)

theorem Hyphenated.ofHex?_eq_none : ofHex? cs = none := by
  obtain ⟨c, first, rest, rfl, _, _⟩ := hyphenated.exists_first_group
  exact ofHex?_of_not_hex (c := '-') (by simp) (by decide)

theorem Hyphenated.unbraced?_eq_none : unbraced? cs = none := by
  obtain ⟨c, first, rest, rfl, _, hc⟩ := hyphenated.exists_first_group
  rw [List.cons_append, unbraced?]
  rintro rest' hbrace
  cases hbrace
  exact hc (by decide)

/-- The marker of resource names has no hyphen. -/
theorem Hyphenated.afterMarker?_eq_none : afterMarker? cs = none := by
  obtain ⟨c, first, rest, rfl, hlength, _⟩ := hyphenated.exists_first_group
  have hnine : (c :: first ++ ['-']).length = 9 := by simp [hlength]
  have htake : (c :: first ++ '-' :: rest).take 9 = c :: first ++ ['-'] := by
    rw [List.append_cons, List.take_left' hnine]
  have hcolon : resourceMarker.getLast? = some ':' := by decide
  rw [afterMarker?, htake, if_neg]
  intro hmarker
  have hlast := congrArg List.getLast? hmarker
  rw [hcolon, List.map_append, List.map_singleton, List.getLast?_concat] at hlast
  revert hlast
  decide

end Hyphenated

/-! ## Reading -/

theorem Spelling.parse?_eq
    {cs : List Char} {id : Identifier}
    (spelling : Spelling id cs) :
    parse? cs = some id := by
  cases spelling with
  | plain hex =>
      rw [parse?, ofHex?_eq_some_iff.mpr hex]
  | hyphenated hyphenated =>
      rw [parse?, hyphenated.ofHex?_eq_none, hyphenated.unbraced?_eq_none,
        hyphenated.afterMarker?_eq_none]
      exact ofHyphenated?_eq_some_iff.mpr hyphenated
  | @braced cs hyphenated =>
      have hhex : ofHex? ('{' :: (cs ++ ['}'])) = none :=
        ofHex?_of_not_hex (List.mem_cons_self ..) (by decide)
      have hinner : unbraced? ('{' :: (cs ++ ['}'])) = some cs := by
        rw [unbraced?, if_pos (by simp), List.dropLast_concat]
      rw [parse?, hhex, hinner]
      exact ofHyphenated?_eq_some_iff.mpr hyphenated
  | @resource marker cs marks hyphenated =>
      have hlength : marker.length = 9 := by
        have h := congrArg List.length marks
        rwa [List.length_map] at h
      have hhex : ofHex? (marker ++ cs) = none := by
        cases h : ofHex? (marker ++ cs) with
        | none =>
            rfl
        | some id' =>
            have hall := (ofHex?_eq_some_iff.mp h).length
            rw [List.length_append, hyphenated.length] at hall
            omega
      have hbrace : unbraced? (marker ++ cs) = none := by
        obtain ⟨c, marker', rfl⟩ := List.exists_cons_of_length_eq_add_one hlength
        rw [List.cons_append, unbraced?]
        rintro rest hbrace
        cases hbrace
        have hfirst := congrArg List.head? marks
        revert hfirst
        simp only [List.map_cons, List.head?_cons]
        decide
      have hafter : afterMarker? (marker ++ cs) = some cs := by
        rw [afterMarker?, List.take_left' hlength, if_pos marks, List.drop_left' hlength]
      rw [parse?, hhex, hbrace, hafter]
      exact ofHyphenated?_eq_some_iff.mpr hyphenated

theorem spelling_of_parse?
    {cs : List Char} {id : Identifier}
    (read : parse? cs = some id) :
    Spelling id cs := by
  rw [parse?] at read
  split at read
  · rename_i hhex
    cases read
    exact .plain (ofHex?_eq_some_iff.mp hhex)
  · split at read
    · rename_i inner hbrace
      have hgroups := ofHyphenated?_eq_some_iff.mp read
      rw [unbraced?.eq_def] at hbrace
      split at hbrace
      · split at hbrace
        · rename_i rest hlast
          cases hbrace
          rw [← List.dropLast_append_getLast? _ hlast]
          exact .braced hgroups
        · cases hbrace
      · cases hbrace
    · split at read
      · rename_i inner hmarker
        rw [afterMarker?] at hmarker
        split at hmarker
        · rename_i marks
          cases hmarker
          rw [← List.take_append_drop 9 cs]
          exact .resource marks (ofHyphenated?_eq_some_iff.mp read)
        · cases hmarker
      · exact .hyphenated (ofHyphenated?_eq_some_iff.mp read)

/-- What is read as an identifier is exactly what spells it. -/
theorem parse?_eq_some_iff
    {cs : List Char} {id : Identifier} :
    parse? cs = some id ↔ Spelling id cs :=
  ⟨spelling_of_parse?, Spelling.parse?_eq⟩

theorem hex_map_hexChar
    (id : Identifier) :
    Hex (id.digits.map hexChar) id := by
  rw [Hex, List.map_map]
  exact List.map_congr_left fun d _ => hexValue?_hexChar d

theorem mem_hyphenate
    {ns : List Nat} {cs : List Char} {c : Char}
    (mem : c ∈ hyphenate ns cs) :
    c = '-' ∨ c ∈ cs := by
  induction ns generalizing cs with
  | nil =>
      cases mem
  | cons n ns ih =>
      cases ns with
      | nil =>
          exact Or.inr (List.mem_of_mem_take mem)
      | cons m ns =>
          rw [hyphenate, List.mem_append, List.mem_cons] at mem
          · rcases mem with mem | rfl | mem
            · exact Or.inr (List.mem_of_mem_take mem)
            · exact Or.inl rfl
            · exact (ih mem).imp_right List.mem_of_mem_drop
          · simp

/-- A text is the written form of an identifier: its digits in five groups, with small
letters. -/
structure WrittenAs (id : Identifier) (cs : List Char) : Prop where
  groups : Hyphenated cs id
  small : ∀ c ∈ cs, c = '-' ∨ ('0' ≤ c ∧ c ≤ '9') ∨ ('a' ≤ c ∧ c ≤ 'f')

theorem writtenAs_toChars
    (id : Identifier) :
    WrittenAs id id.toChars := by
  have hlength : (id.digits.map hexChar).length = Identifier.groups.sum := by
    rw [List.length_map, id.length_digits]
    rfl
  have hsmall : ∀ d : Fin 16,
      ('0' ≤ hexChar d ∧ hexChar d ≤ '9') ∨ ('a' ≤ hexChar d ∧ hexChar d ≤ 'f') := by
    decide
  refine ⟨⟨_, grouped_hyphenate (by decide) hlength, hex_map_hexChar id⟩, ?_⟩
  intro c hc
  refine (mem_hyphenate hc).imp_right ?_
  intro hdigit
  obtain ⟨d, -, rfl⟩ := List.mem_map.mp hdigit
  exact hsmall d

/-- The written form is a spelling. -/
theorem spelling_toChars
    (id : Identifier) :
    Spelling id id.toChars :=
  .hyphenated (writtenAs_toChars id).groups

/-- What is written reads back. -/
theorem parse?_toChars
    (id : Identifier) :
    parse? id.toChars = some id :=
  (spelling_toChars id).parse?_eq

end Identifier
end OrderDesk
