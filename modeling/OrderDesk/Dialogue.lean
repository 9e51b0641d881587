/-!
# Dialogues

A dialogue is a computation that asks questions and goes on with the answers.
It says what is asked, in which order, and what follows from each answer; who
answers is left open.  So one dialogue can be run against a store in memory,
against scripted answers, or in single steps between those of other dialogues.

`run` lets a partner with a state answer every question.  `transcript` keeps
the questions that were asked.
-/

namespace OrderDesk

/-- A computation that asks questions `q : Q`, is answered with an `A q`, and ends
in an `α` or an `ε`. -/
inductive Dialogue (Q : Type) (A : Q → Type) (ε α : Type) where
  | done (a : α)
  | fail (e : ε)
  | ask (q : Q) (next : A q → Dialogue Q A ε α)

namespace Dialogue

variable {Q : Type} {A : Q → Type} {ε δ α β σ : Type}

/-- Continues a dialogue with what it ends in. -/
def bind : Dialogue Q A ε α → (α → Dialogue Q A ε β) → Dialogue Q A ε β
  | done a, f => f a
  | fail e, _ => fail e
  | ask q next, f => ask q fun r => (next r).bind f

instance : Monad (Dialogue Q A ε) where
  pure := done
  bind := bind

/-- A dialogue that asks nothing. -/
def ofExcept : Except ε α → Dialogue Q A ε α
  | .ok a => done a
  | .error e => fail e

/-- The same dialogue with its outcome, good or bad, as its result. -/
def attempt : Dialogue Q A ε α → Dialogue Q A δ (Except ε α)
  | done a => done (.ok a)
  | fail e => done (.error e)
  | ask q next => ask q fun r => (next r).attempt

/-- The same dialogue with its failures renamed. -/
def mapError (f : ε → δ) : Dialogue Q A ε α → Dialogue Q A δ α
  | done a => done a
  | fail e => fail (f e)
  | ask q next => ask q fun r => (next r).mapError f

/-- Runs a dialogue with a partner who answers from a state. -/
def run (answer : (q : Q) → σ → A q × σ) : Dialogue Q A ε α → σ → Except ε α × σ
  | done a, s => (.ok a, s)
  | fail e, s => (.error e, s)
  | ask q next, s =>
    let (r, s) := answer q s
    (next r).run answer s

/-- A partner who also notes every question. -/
def noting (answer : (q : Q) → σ → A q × σ) (q : Q) (s : σ × List Q) : A q × (σ × List Q) :=
  let (r, t) := answer q s.1
  (r, (t, s.2 ++ [q]))

/-- The outcome of a run with the final state and the questions asked, in order. -/
def transcript
    (answer : (q : Q) → σ → A q × σ)
    (d : Dialogue Q A ε α)
    (s : σ) :
    Except ε α × σ × List Q :=
  d.run (noting answer) (s, [])

@[simp] theorem done_bind (a : α) (f : α → Dialogue Q A ε β) :
    (done a : Dialogue Q A ε α).bind f = f a := rfl

@[simp] theorem fail_bind (e : ε) (f : α → Dialogue Q A ε β) :
    (fail e : Dialogue Q A ε α).bind f = fail e := rfl

@[simp] theorem ask_bind (q : Q) (next : A q → Dialogue Q A ε α) (f : α → Dialogue Q A ε β) :
    (ask q next).bind f = ask q fun r => (next r).bind f := rfl

@[simp] theorem pure_eq_done (a : α) :
    (pure a : Dialogue Q A ε α) = done a := rfl

@[simp] theorem monad_bind_eq (d : Dialogue Q A ε α) (f : α → Dialogue Q A ε β) :
    d >>= f = d.bind f := rfl

/-- Binding is associative. -/
theorem bind_assoc
    {γ : Type} (d : Dialogue Q A ε α)
    (f : α → Dialogue Q A ε β)
    (g : β → Dialogue Q A ε γ) :
    (d.bind f).bind g = d.bind fun a => (f a).bind g := by
  induction d with
  | done a => rfl
  | fail e => rfl
  | ask q next ih => simp [ih]

/-- A run of a continued dialogue is a run of its first part, then of the rest. -/
theorem run_bind
    (answer : (q : Q) → σ → A q × σ)
    (d : Dialogue Q A ε α)
    (f : α → Dialogue Q A ε β)
    (s : σ) :
    (d.bind f).run answer s =
      match d.run answer s with
      | (.ok a, t) => (f a).run answer t
      | (.error e, t) => (.error e, t) := by
  induction d generalizing s with
  | done a => rfl
  | fail e => rfl
  | ask q next ih => simp [run, ih]

/-- An attempt ends in the outcome of the dialogue. -/
theorem run_attempt
    (answer : (q : Q) → σ → A q × σ)
    (d : Dialogue Q A ε α)
    (s : σ) :
    (d.attempt : Dialogue Q A δ (Except ε α)).run answer s =
      (.ok (d.run answer s).1, (d.run answer s).2) := by
  induction d generalizing s with
  | done a => rfl
  | fail e => rfl
  | ask q next ih => simp [attempt, run, ih]

end Dialogue
end OrderDesk
