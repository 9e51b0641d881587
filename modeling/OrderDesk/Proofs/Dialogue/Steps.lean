import OrderDesk.Dialogue

/-!
# Dialogues in single steps

A run answers all questions of a dialogue at once.  Where dialogues are
interleaved, each of them moves on by one answer at a time.  `advance` is this
single step, and a run is a run of what the step leaves (`run_advance`).

`All P d` says that `d` asks only questions with the property `P`, whatever it
is answered, and `FailsBy P d` that it fails only with failures that have the property
`P`.
-/

namespace OrderDesk
namespace Dialogue

variable {Q : Type} {A : Q → Type} {ε δ α β σ : Type}

/-- The question that a dialogue asks next. -/
def asked? : Dialogue Q A ε α → Option Q
  | done _ => none
  | fail _ => none
  | ask q _ => some q

/-- What a dialogue has ended in. -/
def outcome? : Dialogue Q A ε α → Option (Except ε α)
  | done a => some (.ok a)
  | fail e => some (.error e)
  | ask _ _ => none

/-- A dialogue after the answer to its next question, if it asks one. -/
def advance
    (answer : (q : Q) → σ → A q × σ) :
    Dialogue Q A ε α → σ → Dialogue Q A ε α × σ
  | done a, s => (done a, s)
  | fail e, s => (fail e, s)
  | ask q next, s => (next (answer q s).1, (answer q s).2)

@[simp] theorem advance_ask
    (answer : (q : Q) → σ → A q × σ)
    (q : Q)
    (next : A q → Dialogue Q A ε α)
    (s : σ) :
    (ask q next).advance answer s = (next (answer q s).1, (answer q s).2) := rfl

/-- A step and then a run is a run. -/
theorem run_advance
    (answer : (q : Q) → σ → A q × σ)
    (d : Dialogue Q A ε α)
    (s : σ) :
    (d.advance answer s).1.run answer (d.advance answer s).2 = d.run answer s := by
  cases d <;> rfl

/-- Every question that a dialogue may come to ask has a property. -/
def All (P : Q → Prop) : Dialogue Q A ε α → Prop
  | done _ => True
  | fail _ => True
  | ask q next => P q ∧ ∀ r, (next r).All P

theorem all_ofExcept
    (P : Q → Prop)
    (x : Except ε α) :
    (ofExcept x : Dialogue Q A ε α).All P := by
  cases x <;> trivial

theorem all_bind
    {P : Q → Prop}
    {d : Dialogue Q A ε α}
    {f : α → Dialogue Q A ε β}
    (first : d.All P)
    (rest : ∀ a, (f a).All P) :
    (d.bind f).All P := by
  induction d with
  | done a => exact rest a
  | fail e => trivial
  | ask q next ih => exact ⟨first.1, fun r => ih r (first.2 r)⟩

theorem All.mono
    {P P' : Q → Prop}
    {d : Dialogue Q A ε α}
    (all : d.All P)
    (weaker : ∀ q, P q → P' q) :
    d.All P' := by
  induction d with
  | done a => trivial
  | fail e => trivial
  | ask q next ih => exact ⟨weaker q all.1, fun r => ih r (all.2 r)⟩

theorem all_attempt
    {P : Q → Prop}
    {d : Dialogue Q A ε α}
    (all : d.All P) :
    (d.attempt : Dialogue Q A δ (Except ε α)).All P := by
  induction d with
  | done a => trivial
  | fail e => trivial
  | ask q next ih => exact ⟨all.1, fun r => ih r (all.2 r)⟩

/-- The questions that are asked in a run have the property. -/
theorem All.transcript
    {P : Q → Prop}
    {d : Dialogue Q A ε α}
    (all : d.All P)
    (answer : (q : Q) → σ → A q × σ)
    (s : σ) :
    ∀ q ∈ (d.transcript answer s).2.2, P q := by
  -- the questions noted before are those that a run starts with
  have noted : ∀ (s : σ) (before : List Q), (∀ q ∈ before, P q) →
      ∀ q ∈ (d.run (noting answer) (s, before)).2.2, P q := by
    induction d with
    | done a => exact fun _ _ h => h
    | fail e => exact fun _ _ h => h
    | ask q next ih =>
        intro s before h
        refine ih _ (all.2 _) _ _ ?_
        rw [List.forall_mem_append, List.forall_mem_singleton]
        exact ⟨h, all.1⟩
  exact noted s [] (by simp)

/-- Partners who answer all questions alike lead to the same run. -/
theorem All.run_eq
    {P : Q → Prop}
    {d : Dialogue Q A ε α}
    (all : d.All P)
    {answer answer' : (q : Q) → σ → A q × σ}
    (alike : ∀ q s, P q → answer q s = answer' q s)
    (s : σ) :
    d.run answer s = d.run answer' s := by
  induction d generalizing s with
  | done a => rfl
  | fail e => rfl
  | ask q next ih =>
      rw [run, run, alike q s all.1]
      exact ih _ (all.2 _) _

theorem All.asked
    {P : Q → Prop}
    {d : Dialogue Q A ε α}
    (all : d.All P)
    {q : Q}
    (asked : d.asked? = some q) :
    P q := by
  cases d with
  | done a => cases asked
  | fail e => cases asked
  | ask q' next =>
      cases asked
      exact all.1

/-- Every failure that a dialogue may come to end in has a property. -/
def FailsBy (P : ε → Prop) : Dialogue Q A ε α → Prop
  | done _ => True
  | fail e => P e
  | ask _ next => ∀ r, (next r).FailsBy P

theorem FailsBy.mono
    {P R : ε → Prop}
    {d : Dialogue Q A ε α}
    (failsBy : d.FailsBy P)
    (weaker : ∀ e, P e → R e) :
    d.FailsBy R := by
  induction d with
  | done a => trivial
  | fail e => exact weaker e failsBy
  | ask q next ih => exact fun r => ih r (failsBy r)

/-- Whoever answers, a run fails with such a failure. -/
theorem FailsBy.run
    {P : ε → Prop}
    {d : Dialogue Q A ε α}
    (failsBy : d.FailsBy P)
    {answer : (q : Q) → σ → A q × σ} {s : σ} {e : ε}
    (fails : (d.run answer s).1 = .error e) :
    P e := by
  induction d generalizing s with
  | done a =>
      cases fails
  | fail e' =>
      cases fails
      exact failsBy
  | ask q next ih =>
      exact ih _ (failsBy _) fails

end Dialogue
end OrderDesk
