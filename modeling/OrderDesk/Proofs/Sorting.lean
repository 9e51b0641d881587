import Mathlib.Data.List.Nodup

/-!
# Stable sorting

Sorting keeps entries that may stand either way in the order in which they stood: any two of
them (`pairwise_mergeSort_stable`), and all that may stand in any order among each other
(`filter_mergeSort`).
-/

namespace OrderDesk

section Stable

variable {α : Type} {l : List α} {a b : α}

theorem sublist_or_sublist_swap
    (ha : a ∈ l)
    (hb : b ∈ l)
    (different : a ≠ b) :
    [a, b].Sublist l ∨ [b, a].Sublist l := by
  induction l with
  | nil =>
      cases ha
  | cons c l ih =>
      rcases List.mem_cons.mp ha with rfl | hal
      · rcases List.mem_cons.mp hb with rfl | hbl
        · exact absurd rfl different
        · exact Or.inl ((List.singleton_sublist.mpr hbl).cons_cons a)
      · rcases List.mem_cons.mp hb with rfl | hbl
        · exact Or.inr ((List.singleton_sublist.mpr hal).cons_cons b)
        · rcases ih hal hbl with h | h
          · exact Or.inl (h.cons c)
          · exact Or.inr (h.cons c)

theorem not_sublist_swap
    (nodup : l.Nodup)
    (before : [a, b].Sublist l) :
    ¬ [b, a].Sublist l := by
  induction l with
  | nil =>
      cases before
  | cons c l ih =>
      obtain ⟨hc, hl⟩ := List.nodup_cons.mp nodup
      intro after
      cases before with
      | cons _ before =>
          cases after with
          | cons _ after =>
              exact ih hl before after
          | cons_cons _ after =>
              exact hc (before.subset (by simp))
      | cons_cons _ before =>
          cases after with
          | cons _ after =>
              exact hc (after.subset (by simp))
          | cons_cons _ after =>
              exact hc (before.subset (by simp))

/-- Sorting is stable: in the sorted list, entries that may stand either way stand as
they did before. -/
theorem pairwise_mergeSort_stable
    {le : α → α → Bool}
    (trans : ∀ a b c, le a b = true → le b c = true → le a c = true)
    (total : ∀ a b, (le a b || le b a) = true)
    (nodup : l.Nodup) :
    (l.mergeSort le).Pairwise fun a b =>
      le a b = true ∧ (le b a = true → [a, b].Sublist l) := by
  have hnodup : (l.mergeSort le).Nodup := (l.mergeSort_perm le).nodup_iff.mpr nodup
  refine List.pairwise_iff_forall_sublist.mpr ?_
  intro a b hab
  refine ⟨List.pairwise_iff_forall_sublist.mp (List.pairwise_mergeSort trans total l) hab, ?_⟩
  intro hba
  have hmem : ∀ c ∈ [a, b], c ∈ l := fun c hc => List.mem_mergeSort.mp (hab.subset hc)
  have hne : a ≠ b := by simpa using hnodup.sublist hab
  rcases sublist_or_sublist_swap (hmem a (by simp)) (hmem b (by simp)) hne with h | h
  · exact h
  · exact absurd (List.pair_sublist_mergeSort trans total hba h) (not_sublist_swap hnodup hab)

/-- Entries that may stand in any order among each other stand in the sorted list as they did
before. -/
theorem filter_mergeSort
    {le : α → α → Bool} {p : α → Bool}
    (trans : ∀ a b c, le a b = true → le b c = true → le a c = true)
    (total : ∀ a b, (le a b || le b a) = true)
    (alike : ∀ a b, p a = true → p b = true → le a b = true)
    (l : List α) :
    (l.mergeSort le).filter p = l.filter p := by
  have sorted : (l.filter p).Pairwise (le · · = true) :=
    List.pairwise_of_forall_mem_list fun a ha b hb =>
      alike a b (List.of_mem_filter ha) (List.of_mem_filter hb)
  have kept : (l.filter p).Sublist (l.mergeSort le) :=
    List.sublist_mergeSort trans total sorted List.filter_sublist
  have within := kept.filter p
  simp only [List.filter_filter, Bool.and_self] at within
  exact (within.eq_of_length ((l.mergeSort_perm le).filter p).length_eq.symm).symm

end Stable

end OrderDesk
