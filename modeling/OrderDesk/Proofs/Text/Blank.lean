import OrderDesk.Text.Blank

/-!
# What trimming leaves

A text without the blanks at its two ends is the part of it that begins and ends with a
visible character, with nothing but blanks around it.

* `Trims`: the relation between a text and that part.
* `trim_eq_iff`: trimming gives this part, and there is only one.
* `trim_eq_nil_iff`: nothing is left exactly of a blank text.
-/

namespace OrderDesk
namespace Text

/-- The second text stands in the first between blanks, and is visible at both ends. -/
structure Trims (cs t : List Char) : Prop where
  between : ∃ before after,
    cs = before ++ t ++ after ∧
    (∀ c ∈ before, isBlank c = true) ∧
    (∀ c ∈ after, isBlank c = true)
  first : ∀ c ∈ t.head?, isBlank c = false
  last : ∀ c ∈ t.getLast?, isBlank c = false

/-- A text falls into its leading blanks and what is left of it, which is visible at its
start. -/
theorem split_trimStart
    (cs : List Char) :
    (∃ before, cs = before ++ trimStart cs ∧ ∀ c ∈ before, isBlank c = true) ∧
      ∀ c ∈ (trimStart cs).head?, isBlank c = false := by
  refine ⟨⟨cs.takeWhile isBlank, List.takeWhile_append_dropWhile.symm, ?_⟩, ?_⟩
  · intro c hc
    exact List.all_eq_true.mp List.all_takeWhile c hc
  · intro c hc
    have h := List.head?_dropWhile_not isBlank cs
    rw [← trimStart, Option.mem_def.mp hc] at h
    simpa using h

/-- The same at the other end. -/
theorem split_trimEnd
    (cs : List Char) :
    (∃ after, cs = trimEnd cs ++ after ∧ ∀ c ∈ after, isBlank c = true) ∧
      ∀ c ∈ (trimEnd cs).getLast?, isBlank c = false := by
  obtain ⟨⟨before, hsplit, hblank⟩, hhead⟩ := split_trimStart cs.reverse
  refine ⟨⟨before.reverse, ?_, by simpa using hblank⟩, ?_⟩
  · have h := congrArg List.reverse hsplit
    rwa [List.reverse_reverse, List.reverse_append] at h
  · intro c hc
    rw [trimEnd, List.getLast?_reverse] at hc
    exact hhead c hc

theorem trims_trim
    (cs : List Char) :
    Trims cs (trim cs) := by
  obtain ⟨⟨before, hbefore, blankBefore⟩, hhead⟩ := split_trimStart cs
  obtain ⟨⟨after, hafter, blankAfter⟩, hlast⟩ := split_trimEnd (trimStart cs)
  refine ⟨⟨before, after, ?_, blankBefore, blankAfter⟩, ?_, hlast⟩
  · rw [trim, List.append_assoc, ← hafter, ← hbefore]
  · intro c hc
    refine hhead c ?_
    rw [hafter, List.head?_append, ← trim, Option.mem_def.mp hc]
    rfl

theorem trimStart_append_of_blank
    {before : List Char}
    (blank : ∀ c ∈ before, isBlank c = true)
    (cs : List Char) :
    trimStart (before ++ cs) = trimStart cs :=
  List.dropWhile_append_of_pos blank

theorem trimStart_eq_self
    {cs : List Char}
    (visible : ∀ c ∈ cs.head?, isBlank c = false) :
    trimStart cs = cs := by
  cases cs with
  | nil =>
      rfl
  | cons c cs =>
      exact trimStart_cons_of_not_blank cs (visible c (by simp))

theorem trimEnd_append_of_blank
    {after : List Char}
    (blank : ∀ c ∈ after, isBlank c = true)
    {cs : List Char}
    (visible : ∀ c ∈ cs.getLast?, isBlank c = false) :
    trimEnd (cs ++ after) = cs := by
  have hafter : ∀ c ∈ after.reverse, isBlank c = true := by simpa using blank
  have hhead : ∀ c ∈ cs.reverse.head?, isBlank c = false := by simpa using visible
  rw [trimEnd, List.reverse_append, ← trimStart, trimStart_append_of_blank hafter,
    trimStart_eq_self hhead, List.reverse_reverse]

/-- Trimming leaves the part between the blanks, and there is only one such part. -/
theorem trim_eq_iff
    {cs t : List Char} :
    trim cs = t ↔ Trims cs t := by
  constructor
  · rintro rfl
    exact trims_trim cs
  · intro trims
    obtain ⟨⟨before, after, rfl, blankBefore, blankAfter⟩, hfirst, hlast⟩ := trims
    rw [trim, List.append_assoc, trimStart_append_of_blank blankBefore]
    cases t with
    | nil =>
        have hnil : trimStart after = [] := by
          rw [← List.append_nil after, trimStart_append_of_blank blankAfter]
          rfl
        rw [List.nil_append, hnil]
        rfl
    | cons c t =>
        rw [trimStart_eq_self (by simpa using hfirst), trimEnd_append_of_blank blankAfter hlast]

/-- Nothing is left exactly of a blank text. -/
theorem trim_eq_nil_iff
    {cs : List Char} :
    trim cs = [] ↔ ∀ c ∈ cs, isBlank c = true := by
  rw [trim_eq_iff]
  constructor
  · rintro ⟨⟨before, after, rfl, blankBefore, blankAfter⟩, _, _⟩
    simpa [or_imp, forall_and] using ⟨blankBefore, blankAfter⟩
  · intro blank
    exact ⟨⟨cs, [], by simp, blank, nofun⟩, nofun, nofun⟩

end Text
end OrderDesk
