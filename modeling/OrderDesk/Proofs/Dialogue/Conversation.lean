import OrderDesk.Dialogue

/-!
# Conversations

A conversation is what has been said in a dialogue: the questions, each with its
answer, in order.

* `Conversation d log x`: if the questions of `d` are answered as in `log`, then they
  are the questions of `log`, and `d` ends in `x`.
* `record`: the conversation with a partner who answers from a state.

What holds of all conversations of a dialogue holds whoever answers, and it is proved
by cases on the answers, one question at a time.
-/

namespace OrderDesk
namespace Dialogue

variable {Q : Type} {A : Q → Type} {ε δ α β σ : Type}

/-- A question with its answer. -/
abbrev Exchanged (A : Q → Type) := (q : Q) × A q

/-- The dialogue asks the questions of the log, if it is answered as there, and ends in
the given outcome. -/
inductive Conversation :
    Dialogue Q A ε α → List (Exchanged A) → Except ε α → Prop where
  | done (a : α) : Conversation (.done a) [] (.ok a)
  | fail (e : ε) : Conversation (.fail e) [] (.error e)
  | ask {q : Q} {next : A q → Dialogue Q A ε α} {r : A q}
      {log : List (Exchanged A)} {x : Except ε α} :
      Conversation (next r) log x → Conversation (.ask q next) (⟨q, r⟩ :: log) x

/-- The outcome of a run, and the questions asked in it with their answers. -/
def record
    (answer : (q : Q) → σ → A q × σ) :
    Dialogue Q A ε α → σ → Except ε α × List (Exchanged A)
  | done a, _ => (.ok a, [])
  | fail e, _ => (.error e, [])
  | ask q next, s =>
    let (r, t) := answer q s
    let (x, log) := (next r).record answer t
    (x, ⟨q, r⟩ :: log)

theorem record_fst
    (answer : (q : Q) → σ → A q × σ)
    (d : Dialogue Q A ε α)
    (s : σ) :
    (d.record answer s).1 = (d.run answer s).1 := by
  induction d generalizing s with
  | done a => rfl
  | fail e => rfl
  | ask q next ih => exact ih _ _

theorem conversation_record
    (answer : (q : Q) → σ → A q × σ)
    (d : Dialogue Q A ε α)
    (s : σ) :
    Conversation d (d.record answer s).2 (d.record answer s).1 := by
  induction d generalizing s with
  | done a => exact .done a
  | fail e => exact .fail e
  | ask q next ih => exact .ask (ih _ _)

section Record

variable (answer : (q : Q) → σ → A q × σ) (s : σ)

theorem record_ask
    {q : Q} {next : A q → Dialogue Q A ε α} {r : A q}
    (answered : (answer q s).1 = r) :
    (ask q next).record answer s =
      (((next r).record answer (answer q s).2).1,
        ⟨q, r⟩ :: ((next r).record answer (answer q s).2).2) := by
  subst answered
  rfl

theorem record_attempt
    (d : Dialogue Q A ε α) :
    (d.attempt : Dialogue Q A δ (Except ε α)).record answer s =
      (.ok (d.record answer s).1, (d.record answer s).2) := by
  induction d generalizing s with
  | done a => rfl
  | fail e => rfl
  | ask q next ih => simp [attempt, record, ih]

theorem record_mapError
    (f : ε → δ)
    (d : Dialogue Q A ε α) :
    (d.mapError f).record answer s =
      ((d.record answer s).1.mapError f, (d.record answer s).2) := by
  induction d generalizing s with
  | done a => rfl
  | fail e => rfl
  | ask q next ih => simp [mapError, record, ih]

end Record

section Inversion

variable {log : List (Exchanged A)}

theorem conversation_done
    {a : α} {x : Except ε α}
    (h : Conversation (.done a : Dialogue Q A ε α) log x) :
    log = [] ∧ x = .ok a := by
  cases h
  exact ⟨rfl, rfl⟩

theorem conversation_fail
    {e : ε} {x : Except ε α}
    (h : Conversation (.fail e : Dialogue Q A ε α) log x) :
    log = [] ∧ x = .error e := by
  cases h
  exact ⟨rfl, rfl⟩

theorem conversation_ask
    {q : Q} {next : A q → Dialogue Q A ε α} {x : Except ε α}
    (h : Conversation (.ask q next) log x) :
    ∃ r rest, log = ⟨q, r⟩ :: rest ∧ Conversation (next r) rest x := by
  cases h with
  | ask h => exact ⟨_, _, rfl, h⟩

/-- A continued dialogue fails in its first part, or goes on behind it. -/
theorem conversation_bind
    {d : Dialogue Q A ε α} {f : α → Dialogue Q A ε β} {x : Except ε β}
    (h : Conversation (d.bind f) log x) :
    (∃ e, x = .error e ∧ Conversation d log (.error e)) ∨
    (∃ a before after,
      log = before ++ after ∧ Conversation d before (.ok a) ∧
        Conversation (f a) after x) := by
  induction d generalizing log with
  | done a => exact Or.inr ⟨a, [], log, rfl, .done a, h⟩
  | fail e =>
      obtain ⟨rfl, rfl⟩ := conversation_fail h
      exact Or.inl ⟨e, rfl, .fail e⟩
  | ask q next ih =>
      obtain ⟨r, rest, rfl, later⟩ := conversation_ask h
      rcases ih r later with ⟨e, rfl, first⟩ | ⟨a, before, after, rfl, first, second⟩
      · exact Or.inl ⟨e, rfl, .ask first⟩
      · exact Or.inr ⟨a, ⟨q, r⟩ :: before, after, rfl, .ask first, second⟩

/-- A continued dialogue that ends well does so in both of its parts. -/
theorem conversation_bind_ok
    {d : Dialogue Q A ε α} {f : α → Dialogue Q A ε β} {b : β}
    (h : Conversation (d.bind f) log (.ok b)) :
    ∃ a before after,
      log = before ++ after ∧ Conversation d before (.ok a) ∧
        Conversation (f a) after (.ok b) := by
  rcases conversation_bind h with ⟨_, hfails, _⟩ | parts
  · cases hfails
  · exact parts

/-- A dialogue whose result is only reshaped is the same conversation. -/
theorem conversation_map
    {d : Dialogue Q A ε α} {f : α → β} {x : Except ε β}
    (h : Conversation (d.bind fun a => .done (f a)) log x) :
    ∃ y : Except ε α, x = y.map f ∧ Conversation d log y := by
  rcases conversation_bind h with ⟨e, rfl, own⟩ | ⟨a, before, after, rfl, own, rest⟩
  · exact ⟨_, rfl, own⟩
  · obtain ⟨rfl, rfl⟩ := conversation_done rest
    rw [List.append_nil]
    exact ⟨_, rfl, own⟩

theorem conversation_map_ok
    {d : Dialogue Q A ε α} {f : α → β} {b : β}
    (h : Conversation (d.bind fun a => .done (f a)) log (.ok b)) :
    ∃ a, b = f a ∧ Conversation d log (.ok a) := by
  obtain ⟨y, hy, own⟩ := conversation_map h
  cases y with
  | error e => cases hy
  | ok a =>
      cases hy
      exact ⟨a, rfl, own⟩

theorem conversation_attempt
    {d : Dialogue Q A ε α} {x : Except δ (Except ε α)}
    (h : Conversation (d.attempt : Dialogue Q A δ (Except ε α)) log x) :
    ∃ y, x = .ok y ∧ Conversation d log y := by
  induction d generalizing log with
  | done a =>
      obtain ⟨rfl, rfl⟩ := conversation_done h
      exact ⟨_, rfl, .done a⟩
  | fail e =>
      obtain ⟨rfl, rfl⟩ := conversation_done h
      exact ⟨_, rfl, .fail e⟩
  | ask q next ih =>
      obtain ⟨r, rest, rfl, later⟩ := conversation_ask h
      obtain ⟨y, hy, same⟩ := ih r later
      exact ⟨y, hy, .ask same⟩

theorem conversation_mapError
    {f : ε → δ} {d : Dialogue Q A ε α} {x : Except δ α}
    (h : Conversation (d.mapError f) log x) :
    ∃ y : Except ε α, x = y.mapError f ∧ Conversation d log y := by
  induction d generalizing log with
  | done a =>
      obtain ⟨rfl, rfl⟩ := conversation_done h
      exact ⟨_, rfl, .done a⟩
  | fail e =>
      obtain ⟨rfl, rfl⟩ := conversation_fail h
      exact ⟨_, rfl, .fail e⟩
  | ask q next ih =>
      obtain ⟨r, rest, rfl, later⟩ := conversation_ask h
      obtain ⟨y, hy, same⟩ := ih r later
      exact ⟨y, hy, .ask same⟩

end Inversion

end Dialogue
end OrderDesk
