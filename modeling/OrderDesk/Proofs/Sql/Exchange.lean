import OrderDesk.Proofs.Dialogue.Conversation
import OrderDesk.Sql.Store

/-!
# Exchanges, one reply at a time

What an exchange does next depends on the rows that it gets.  Where it needs rows and
gets none, it is over with this reply.
-/

namespace OrderDesk
namespace Sql

open Dialogue

/-- A statement with its reply. -/
abbrev Sent := Exchanged fun s : Statement => Reply s.Row

variable {α : Type} {s : Statement} {log : List Sent} {x : Except (Stop StoreError) α}

theorem conversation_rows_bind
    {f : List s.Row → Exchange StoreError α}
    (talk : Conversation ((stored (rows s)).bind f) log x) :
    (∃ r, log = [⟨s, r⟩] ∧ ∀ rs, r ≠ .rows rs) ∨
    (∃ rs rest, log = ⟨s, .rows rs⟩ :: rest ∧ Conversation (f rs) rest x) := by
  obtain ⟨r, rest, rfl, later⟩ := conversation_ask talk
  cases r with
  | rows rs => exact Or.inr ⟨rs, rest, rfl, later⟩
  | refused message =>
      obtain ⟨rfl, _⟩ := conversation_fail later
      exact Or.inl ⟨_, rfl, by simp⟩
  | silent =>
      obtain ⟨rfl, _⟩ := conversation_fail later
      exact Or.inl ⟨_, rfl, by simp⟩

theorem conversation_firstRow_bind
    {f : s.Row → Exchange StoreError α}
    (talk : Conversation ((stored (firstRow s)).bind f) log x) :
    (∃ r, log = [⟨s, r⟩] ∧ ∀ row rs, r ≠ .rows (row :: rs)) ∨
    (∃ row rs rest, log = ⟨s, .rows (row :: rs)⟩ :: rest ∧ Conversation (f row) rest x) := by
  obtain ⟨r, rest, rfl, later⟩ := conversation_ask talk
  cases r with
  | rows rs =>
      cases rs with
      | nil =>
          obtain ⟨rfl, _⟩ := conversation_fail later
          exact Or.inl ⟨_, rfl, by simp⟩
      | cons row rs => exact Or.inr ⟨row, rs, rest, rfl, later⟩
  | refused message =>
      obtain ⟨rfl, _⟩ := conversation_fail later
      exact Or.inl ⟨_, rfl, by simp⟩
  | silent =>
      obtain ⟨rfl, _⟩ := conversation_fail later
      exact Or.inl ⟨_, rfl, by simp⟩

section Record

variable {σ : Type} {server : (s : Statement) → σ → Reply s.Row × σ} {state : σ}

theorem record_rows_bind
    {f : List s.Row → Exchange StoreError α} {rs : List s.Row}
    (answered : (server s state).1 = .rows rs) :
    ((stored (rows s)).bind f).record server state =
      (((f rs).record server (server s state).2).1,
        ⟨s, .rows rs⟩ :: ((f rs).record server (server s state).2).2) :=
  record_ask server state answered

theorem record_firstRow_bind
    {f : s.Row → Exchange StoreError α} {row : s.Row} {rs : List s.Row}
    (answered : (server s state).1 = .rows (row :: rs)) :
    ((stored (firstRow s)).bind f).record server state =
      (((f row).record server (server s state).2).1,
        ⟨s, .rows (row :: rs)⟩ :: ((f row).record server (server s state).2).2) :=
  record_ask server state answered

theorem record_firstRow?_bind
    {f : Option s.Row → Exchange StoreError α} {rs : List s.Row}
    (answered : (server s state).1 = .rows rs) :
    ((stored (firstRow? s)).bind f).record server state =
      (((f rs.head?).record server (server s state).2).1,
        ⟨s, .rows rs⟩ :: ((f rs.head?).record server (server s state).2).2) :=
  record_ask server state answered

end Record

/-- A transaction that ends well does so with the result of what was to be done. -/
theorem conversation_inTransaction_ok
    {body : Exchange StoreError α} {a : α}
    (talk : Conversation (inTransaction body) log (.ok a)) :
    ∃ part, Conversation body part (.ok a) := by
  obtain ⟨_, _, _, _, _, talk⟩ := conversation_bind_ok talk
  obtain ⟨outcome, _, _, _, own, talk⟩ := conversation_bind_ok talk
  obtain ⟨_, h, own⟩ := conversation_attempt own
  cases h
  cases outcome with
  | error stop =>
      cases stop with
      | silence =>
          obtain ⟨_, h⟩ := conversation_fail talk
          cases h
      | error e =>
          obtain ⟨_, _, _, later⟩ := conversation_ask talk
          obtain ⟨_, h⟩ := conversation_fail later
          cases h
  | ok b =>
      obtain ⟨_, h⟩ := conversation_done talk
      cases h
      obtain ⟨c, part, _, _, done, committed⟩ := conversation_bind_ok own
      obtain ⟨_, rfl, _⟩ := conversation_map_ok committed
      exact ⟨part, done⟩

end Sql
end OrderDesk
