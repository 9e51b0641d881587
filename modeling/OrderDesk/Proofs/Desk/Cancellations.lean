import OrderDesk.Proofs.Desk.Aggregates

/-!
# What decides a cancellation

Where nothing fails and nothing comes between its two calls, a cancellation is decided by
the stored order alone: first whether there is one, then whom it belongs to, then its
status.

* `run_cancel_of_absent`, `run_cancel_of_stored`: what a cancellation comes to, with an
  order under the identifier and without.
* `cancellations_go_by_existence_owner_and_status`: the cases for every state that a run
  reaches, and what a cancellation leaves of the store.
-/

namespace OrderDesk

theorem OrderStatus.canCancel_iff_open
    (s : OrderStatus) :
    s.canCancel = true ↔ s = .new ∨ s = .inProgress := by
  cases s <;> decide

theorem OrderStatus.not_canCancel_iff_terminal
    (s : OrderStatus) :
    s.canCancel = false ↔ s = .done ∨ s = .cancelled := by
  cases s <;> decide

theorem Memory.find?_eq_none_iff
    {m : Memory} {id : Identifier} :
    m.find? id = none ↔ ∀ p ∈ m.orders, p.id ≠ id := by
  simp [find?]

namespace Service

/-! ## The four cases -/

section Cases

variable {o : Occasion} {m : Memory} {id userId : Identifier} {stored : Order}

theorem run_cancel_of_absent
    (absent : m.find? id = none) :
    (cancel id userId).run (Memory.answerUnder none o) m =
      (.error (passed (.notFound .order id)), m) := by
  have hload : (m.answerUnder none o (.load id false)).1 = .error (.notFound .order id) := by
    rw [Memory.answerUnder_none, Memory.answer, Memory.load, absent]
  rw [run_cancel, hload]

/-- A stored order is cancelled if it is the user's own and its status allows that.  The
user gets the written order without its lines. -/
theorem run_cancel_of_stored
    (found : m.find? id = some stored) :
    (cancel id userId).run (Memory.answerUnder none o) m =
      if stored.userId = userId then
        if stored.status.canCancel then
          (.ok (Memory.written stored .cancelled o.now).withoutLines,
            m.modify id fun s => Memory.written s .cancelled o.now)
        else
          (.error (refused (.invalidTransition stored.status .cancelled)), m)
      else
        (.error (refused (.permissionDenied id)), m) := by
  by_cases own : stored.userId = userId
  · cases allowed : stored.status.canCancel with
    | true =>
        rw [run_cancel_of_found found, decideCancel_eq_ok_iff.mpr ⟨own, allowed, rfl⟩, if_pos own]
        rfl
    | false =>
        have hdecide : decideCancel id userId stored.withoutLines =
            .error (refused (.invalidTransition stored.status .cancelled)) := by
          simp [decideCancel, Order.isOwnedBy, Order.cancel?, Order.withoutLines, own, allowed]
        rw [run_cancel_of_found found, hdecide, if_pos own]
        rfl
  · have hdecide : decideCancel id userId stored.withoutLines =
        .error (refused (.permissionDenied id)) := by
      simp [decideCancel, Order.isOwnedBy, Order.withoutLines, own]
    rw [run_cancel_of_found found, hdecide, if_neg own]
    rfl

end Cases

/-- **A cancellation goes by existence, owner and status.**  In every state that a run with
fresh identifiers reaches, where nothing fails and nothing comes in between, a cancellation

* finds no order exactly if none has the identifier;
* is refused for want of permission exactly if the order is not the user's, whatever its
  status;
* is refused as an invalid transition exactly if the order is the user's own, and done or
  cancelled;
* succeeds exactly if it is the user's own, and new or in progress.  Then this order, in its
  place, is cancelled with the next version and the time of the write, and all else is as
  it was; the answer is the order as it is stored then, without its lines.

What does not succeed changes nothing. -/
theorem cancellations_go_by_existence_owner_and_status
    {desk : Desk} {es : List Desk.Event}
    (opened : desk.Opened)
    (fresh : desk.Along Desk.Fresh es)
    (o : Occasion)
    (id userId : Identifier) :
    let m := (desk.after es).memory
    let run := (cancel id userId).run (Memory.answerUnder none o) m
    (run.1 = .error (passed (.notFound .order id)) ↔ ∀ p ∈ m.orders, p.id ≠ id) ∧
    (∀ (i : Nat) (stored : Order), m.orders[i]? = some stored → stored.id = id →
      (run.1 = .error (refused (.permissionDenied id)) ↔ stored.userId ≠ userId) ∧
      (run.1 = .error (refused (.invalidTransition stored.status .cancelled)) ↔
        stored.userId = userId ∧ (stored.status = .done ∨ stored.status = .cancelled)) ∧
      ((∃ order, run.1 = .ok order) ↔
        stored.userId = userId ∧ (stored.status = .new ∨ stored.status = .inProgress)) ∧
      (∀ order, run.1 = .ok order →
        let cancelled : Order :=
          { stored with status := .cancelled, version := stored.version + 1, updatedAt := o.now }
        order = { cancelled with lines := [] } ∧
          run.2 = { m with orders := m.orders.set i cancelled })) ∧
    (∀ failure, run.1 = .error failure → run.2 = m) := by
  intro m run
  have distinct : m.Distinct := Desk.distinct_after opened.distinct fresh
  refine ⟨?_, ?_, cancel_fails_atomically id userId⟩
  · rw [← Memory.find?_eq_none_iff]
    cases hfound : m.find? id with
    | none =>
        simp [run, run_cancel_of_absent hfound]
    | some stored =>
        simp only [run, run_cancel_of_stored hfound]
        split
        · split <;> simp [passed, refused]
        · simp [passed, refused]
  · intro i stored stands hid
    have found : m.find? id = some stored :=
      hid ▸ Memory.find?_of_mem distinct (List.mem_of_getElem? stands)
    have hset : (m.modify id fun s => Memory.written s .cancelled o.now) =
        { m with orders := m.orders.set i (Memory.written stored .cancelled o.now) } := by
      rw [Memory.modify, ← hid, map_ite_eq_set distinct stands]
    rw [← OrderStatus.canCancel_iff_open, ← OrderStatus.not_canCancel_iff_terminal]
    simp only [run, run_cancel_of_stored found, hset]
    by_cases own : stored.userId = userId
    · cases allowed : stored.status.canCancel with
      | true =>
          rw [if_pos own, if_pos rfl]
          refine ⟨by simp [own], by simp, by simp [own], ?_⟩
          intro order answered
          cases answered
          exact ⟨rfl, rfl⟩
      | false =>
          simp [own, refused]
    · simp [own, refused]

/-- An order in progress and one that is done: the second is refused to a stranger for want of
permission and to its owner for its status; the first is cancelled and keeps its line. -/
theorem cancellations_go_by_existence_owner_and_status_of_two_orders :
    let line : PricedLine := ⟨.ofNat 7, 2, ⟨false, 500, 2, by decide, by decide⟩⟩
    let desk : Desk := { memory := {} }
    let es : List Desk.Event :=
      [.create (.numbered 1) (.ofNat 1) [line],
        .create (.numbered 2) (.ofNat 1) [],
        .setStatus (.ofSeconds 3) (.ofNat 1) .inProgress,
        .setStatus (.ofSeconds 4) (.ofNat 2) .done]
    let m := (desk.after es).memory
    let run := fun id userId =>
      (cancel id userId).run (Memory.answerUnder none (.numbered 5)) m
    desk.Opened ∧ desk.Along Desk.Fresh es ∧
      (run (.ofNat 3) (.ofNat 1)).1 = .error (passed (.notFound .order (.ofNat 3))) ∧
      (run (.ofNat 2) (.ofNat 9)).1 = .error (refused (.permissionDenied (.ofNat 2))) ∧
      (run (.ofNat 2) (.ofNat 1)).1 = .error (refused (.invalidTransition .done .cancelled)) ∧
      ∃ order, (run (.ofNat 1) (.ofNat 1)).1 = .ok order ∧
        order.version = 3 ∧ order.lines = [] ∧
        (run (.ofNat 1) (.ofNat 1)).2.orders.map
            (fun o => (o.status, o.version, o.lines.map (·.priced))) =
          [(.cancelled, 3, [line]), (.done, 2, [])] := by
  intro line desk es m run
  have opened : desk.Opened := ⟨rfl, rfl, rfl⟩
  have fresh : desk.Along Desk.Fresh es := by decide
  have holds := fun id userId =>
    cancellations_go_by_existence_owner_and_status opened fresh (.numbered 5) id userId
  have none : ∀ p ∈ m.orders, p.id ≠ .ofNat 3 := by decide
  have first : m.orders[0]? = some (Memory.written
      (Memory.newOrder (.numbered 1) (.ofNat 1) [line] line.price) .inProgress (.ofSeconds 3)) :=
    rfl
  have second : m.orders[1]? = some (Memory.written
      (Memory.newOrder (.numbered 2) (.ofNat 1) [] .zero) .done (.ofSeconds 4)) := rfl
  obtain ⟨absent, _, _⟩ := holds (.ofNat 3) (.ofNat 1)
  obtain ⟨_, stranger, _⟩ := holds (.ofNat 2) (.ofNat 9)
  obtain ⟨denied, _, _, _⟩ := stranger 1 _ second rfl
  obtain ⟨_, owner, _⟩ := holds (.ofNat 2) (.ofNat 1)
  obtain ⟨_, refuses, _, _⟩ := owner 1 _ second rfl
  obtain ⟨_, cancels, _⟩ := holds (.ofNat 1) (.ofNat 1)
  obtain ⟨_, _, succeeds, written⟩ := cancels 0 _ first rfl
  obtain ⟨order, answered⟩ := succeeds.mpr ⟨rfl, Or.inr rfl⟩
  obtain ⟨rfl, state⟩ := written order answered
  refine ⟨opened, fresh, absent.mpr none, denied.mpr (by decide),
    refuses.mpr ⟨rfl, Or.inl rfl⟩, _, answered, rfl, rfl, ?_⟩
  exact (congrArg (fun m : Memory => m.orders.map _) state).trans rfl

end Service
end OrderDesk
