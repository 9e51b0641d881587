import Mathlib.Data.List.Forall2

/-!
# Traversals

A list is traversed from the left by a step that may fail.  Success is success with every
member (`mapM_eq_ok_iff`), and a failure is that of the first member that fails
(`mapM_eq_error_iff`).  Every member of a list has a counterpart in one that is related to it
member by member (`exists_mem_of_forall₂`).
-/

namespace OrderDesk

/-- What is related to a list has a counterpart in it. -/
theorem exists_mem_of_forall₂
    {α β : Type} {R : α → β → Prop} {as : List α} {bs : List β}
    (related : List.Forall₂ R as bs)
    {b : β}
    (mem : b ∈ bs) :
    ∃ a ∈ as, R a b := by
  induction related with
  | nil =>
      cases mem
  | cons first _ ih =>
      rcases List.mem_cons.mp mem with rfl | mem
      · exact ⟨_, List.mem_cons_self .., first⟩
      · obtain ⟨a, ha, hab⟩ := ih mem
        exact ⟨a, List.mem_cons_of_mem _ ha, hab⟩

/-- A list is traversed with success exactly if each of its members is. -/
theorem mapM_eq_ok_iff
    {α β ε : Type} {f : α → Except ε β} {l : List α} {results : List β} :
    l.mapM f = .ok results ↔ List.Forall₂ (fun a b => f a = .ok b) l results := by
  induction l generalizing results with
  | nil =>
      simp [pure, Except.pure, eq_comm]
  | cons a l ih =>
      rw [List.mapM_cons, List.forall₂_cons_left_iff]
      cases hfirst : f a with
      | error e =>
          simp [bind, Except.bind]
      | ok b =>
          cases hrest : l.mapM f with
          | error e =>
              simp [bind, Except.bind, ← ih, hrest]
          | ok bs =>
              simp [bind, Except.bind, pure, Except.pure, ← ih, hrest, eq_comm]

/-- A traversal fails with the first failure: all earlier members succeed. -/
theorem mapM_eq_error_iff
    {α β ε : Type} {f : α → Except ε β} {l : List α} {e : ε} :
    l.mapM f = .error e ↔
      ∃ before a after,
        l = before ++ a :: after ∧
        (∀ b ∈ before, ∃ result, f b = .ok result) ∧
        f a = .error e := by
  induction l with
  | nil =>
      simp [pure, Except.pure]
  | cons a l ih =>
      rw [List.mapM_cons]
      cases hfirst : f a with
      | error e' =>
          constructor
          · intro h
            cases h
            exact ⟨[], a, l, rfl, nofun, hfirst⟩
          · rintro ⟨before, b, after, hsplit, passed, hfails⟩
            cases before with
            | nil =>
                cases hsplit
                rw [hfirst] at hfails
                cases hfails
                rfl
            | cons c before =>
                cases hsplit
                obtain ⟨result, hok⟩ := passed a (List.mem_cons_self ..)
                rw [hfirst] at hok
                cases hok
      | ok result =>
          have hrest : (do let rest ← l.mapM f; pure (result :: rest)) = .error e ↔
              l.mapM f = .error e := by
            cases l.mapM f <;> simp [bind, Except.bind, pure, Except.pure]
          refine hrest.trans (ih.trans ?_)
          constructor
          · rintro ⟨before, b, after, rfl, passed, hfails⟩
            refine ⟨a :: before, b, after, rfl, ?_, hfails⟩
            intro c hc
            rcases List.mem_cons.mp hc with rfl | hc
            · exact ⟨result, hfirst⟩
            · exact passed c hc
          · rintro ⟨before, b, after, hsplit, passed, hfails⟩
            cases before with
            | nil =>
                cases hsplit
                rw [hfirst] at hfails
                cases hfails
            | cons c before =>
                cases hsplit
                exact ⟨before, b, after, rfl,
                  fun c hc => passed c (List.mem_cons_of_mem _ hc), hfails⟩

end OrderDesk
