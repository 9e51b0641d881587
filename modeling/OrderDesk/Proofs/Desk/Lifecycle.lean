import Mathlib.Data.List.Chain
import OrderDesk.Proofs.Desk.Errands

/-!
# The life of an order

Cancellations decide on a copy and write later, so between their two calls the
order may have changed.  Still every stored order goes through its statuses as
the transitions allow, because a write succeeds only under the version that was
loaded, and an equal version means an unchanged order.

* `transition_of_writing`: a lawful event that writes a status makes a transition.
* `path_of_history`: the statuses of an order, in order, are a path from `new`.
* `find?_of_terminal`: an order with a terminal status never changes again.
* `cancelled_of_done`: a cancellation that succeeds has replaced the status that
  it had loaded.
-/

namespace OrderDesk

namespace OrderStatus

/-- A list of statuses that goes from one to another by transitions. -/
structure IsPath (source target : OrderStatus) (history : List OrderStatus) : Prop where
  starts : history.head? = some source
  ends : history.getLast? = some target
  steps : history.IsChain Transition

theorem IsPath.single
    (s : OrderStatus) :
    IsPath s s [s] :=
  ⟨rfl, rfl, List.isChain_singleton s⟩

theorem IsPath.concat
    {source target next : OrderStatus} {history : List OrderStatus}
    (path : IsPath source target history)
    (step : Transition target next) :
    IsPath source next (history ++ [next]) := by
  refine ⟨?_, ?_, ?_⟩
  · rw [List.head?_append, path.starts]
    rfl
  · simp
  · refine path.steps.append (List.isChain_singleton next) ?_
    intro s hs t ht
    rw [path.ends] at hs
    cases hs
    cases ht
    exact step

theorem Transition.not_terminal
    {source target : OrderStatus}
    (step : Transition source target) :
    source.isTerminal = false := by
  cases step <;> rfl

end OrderStatus

namespace Desk

open OrderStatus

/-- Only the service cancels orders, and what is set from outside is the start or
the end of the work on an order. -/
def Lawful (d : Desk) : Event → Prop
  | .update _ _ => False
  | .setStatus _ id status =>
    ∀ o ∈ d.memory.find? id,
      (o.status = .new ∧ status = .inProgress) ∨ (o.status = .inProgress ∧ status = .done)
  | _ => True

instance (d : Desk) : (e : Event) → Decidable (d.Lawful e)
  | .update _ _ => isFalse id
  | .setStatus _ id status =>
    inferInstanceAs <| Decidable <| ∀ o ∈ d.memory.find? id,
      (o.status = .new ∧ status = .inProgress) ∨ (o.status = .inProgress ∧ status = .done)
  | .take _ | .proceed _ _ _ | .create _ _ _ | .read _ _ | .edit _ _ | .stock _
  | .reprice _ _ => isTrue trivial

/-- The status of an order, if it has just been created or changed. -/
def newStatus? (before after : Option Order) : Option OrderStatus :=
  if after = before then none else after.map (·.status)

/-- The statuses that an order gets in a run, in order. -/
def statusHistory (d : Desk) (id : Identifier) : List Event → List OrderStatus
  | [] => []
  | e :: es =>
    (newStatus? (d.memory.find? id) ((d.step e).memory.find? id)).toList ++
      (d.step e).statusHistory id es

theorem statusHistory_concat
    (d : Desk)
    (id : Identifier)
    (es : List Event)
    (e : Event) :
    d.statusHistory id (es ++ [e]) =
      d.statusHistory id es ++
        (newStatus? ((d.after es).memory.find? id)
          (((d.after es).step e).memory.find? id)).toList := by
  induction es generalizing d with
  | nil =>
      simp [statusHistory]
  | cons f es ih =>
      simp [statusHistory, ih]

/-- A lawful event that writes a status into an order makes a transition. -/
theorem transition_of_writing
    {d : Desk}
    (idle : d.errands = [])
    {es : List Event} {e : Event}
    {id : Identifier} {status : OrderStatus} {now : Instant} {o : Order}
    (lawful : (d.after es).Lawful e)
    (writes : (d.after es).deed e = .writing id status now)
    (found : (d.after es).memory.find? id = some o) :
    Transition o.status status := by
  rcases deed_eq_writing writes with
    ⟨_, copy, stored, hcall, rfl, hstatus, _, hstored, hversion⟩ | ⟨stored, rfl, _⟩
  · rw [found] at hstored
    cases hstored
    rcases call?_eq_save hcall with ⟨k, rfl, _⟩ | ⟨i, fault, errand, rfl, hfound, hasked, _⟩
    · exact lawful.elim
    · obtain ⟨_, hcan, hcopy⟩ := current_errand idle hfound hasked found hversion
      rw [← hstatus, hcopy]
      exact (canCancel_iff o.status).mp hcan
  · rcases lawful o found with ⟨hsource, rfl⟩ | ⟨hsource, rfl⟩
    · rw [hsource]
      exact .start
    · rw [hsource]
      exact .finish

/-! ## Runs -/

/-- What the statuses so far have led to: an order that has none is not stored. -/
def Led (history : List OrderStatus) : Option Order → Prop
  | none => history = []
  | some o => IsPath .new o.status history

theorem led_step
    {d : Desk} {e : Event} {id : Identifier} {history : List OrderStatus}
    (led : Led history (d.memory.find? id))
    (transition : ∀ o status now,
      d.memory.find? id = some o → d.deed e = .writing id status now →
      Transition o.status status) :
    Led (history ++ (newStatus? (d.memory.find? id) ((d.step e).memory.find? id)).toList)
      ((d.step e).memory.find? id) := by
  rw [find?_step]
  cases hdeed : d.deed e with
  | nothing =>
      simpa [newStatus?] using led
  | creation order =>
      obtain ⟨o, userId, lines, totalPrice, _, _, rfl⟩ := deed_eq_creation hdeed
      cases hfound : d.memory.find? id with
      | some stored =>
          rw [hfound] at led
          simpa [newStatus?] using led
      | none =>
          rw [hfound] at led
          have hempty : history = [] := led
          rw [hempty, Deed.on?_creation_none]
          split
          · exact IsPath.single .new
          · rfl
  | writing target status now =>
      by_cases h : target = id
      · subst h
        obtain ⟨stored, hstored⟩ := stored_of_deed_eq_writing hdeed
        have hstep := transition stored status now hstored hdeed
        rw [hstored] at led ⊢
        have hchanged := Memory.written_ne stored status now
        have hnew : newStatus? (some stored) (some (Memory.written stored status now)) =
            some status := by
          rw [newStatus?, if_neg (by simpa using hchanged)]
          rfl
        rw [Deed.on?_writing_self, Option.map_some, hnew]
        exact IsPath.concat led hstep
      · rw [Deed.on?_writing_of_ne h]
        simpa [newStatus?] using led

theorem path_of_history
    {d : Desk} {es : List Event}
    (opened : d.Opened)
    (lawful : d.Along Lawful es)
    (id : Identifier) :
    Led (d.statusHistory id es) ((d.after es).memory.find? id) := by
  induction es using List.reverseRecOn with
  | nil =>
      simp [Memory.find?, opened.no_orders, Led, statusHistory]
  | append_singleton es e ih =>
      obtain ⟨before, last⟩ := (along_concat Lawful d es e).mp lawful
      rw [statusHistory_concat, after_concat]
      refine led_step (ih before) ?_
      intro o status now found writes
      exact transition_of_writing opened.no_errands last writes found

theorem find?_of_terminal
    {d : Desk} {es : List Event}
    (idle : d.errands = [])
    (lawful : d.Along Lawful es)
    {j : Nat} {id : Identifier} {o : Order}
    (found : (d.after (es.take j)).memory.find? id = some o)
    (terminal : o.status.isTerminal = true) :
    (d.after es).memory.find? id = some o := by
  induction es using List.reverseRecOn with
  | nil =>
      simpa using found
  | append_singleton es e ih =>
      obtain ⟨before, last⟩ := (along_concat Lawful d es e).mp lawful
      rcases after_take_concat d es e j with ⟨_, h⟩ | ⟨_, h⟩
      · rw [h] at found
        have hend := ih before found
        rw [after_concat]
        rcases find?_step_cases hend e with same | ⟨status, now, writes, _⟩
        · exact same
        · have hopen := (transition_of_writing idle last writes hend).not_terminal
          rw [terminal] at hopen
          cases hopen
      · rw [h] at found
        rw [after_concat]
        exact found

/-- A cancellation that succeeds has loaded an order of its user that was not yet
terminal, has found the same order unchanged when it wrote, and returns what it has
written. -/
theorem cancelled_of_done
    {d : Desk} {es : List Event}
    (idle : d.errands = [])
    {i : Nat} {id userId : Identifier} {result : Order}
    (found : (d.after es).errands[i]? = some ⟨.cancel id userId, .done result⟩) :
    ∃ j k stored now,
      j < k ∧
      d.AnsweredAt es j i (.load id false) (.ok stored.withoutLines) ∧
      (d.after (es.take k)).memory.find? id = some stored ∧
      stored.userId = userId ∧
      stored.status.isTerminal = false ∧
      (d.after (es.take (k + 1))).memory.find? id =
        some (Memory.written stored .cancelled now) ∧
      result = (Memory.written stored .cancelled now).withoutLines := by
  obtain ⟨n, stage⟩ := cancelStage_of_errand idle found
  generalize hrest : Dialogue.done result = rest at stage
  cases stage with
  | won loads decides between saves =>
      rename_i j k order copy stamp
      obtain ⟨stored, now, rfl, hown, hcan, rfl, rfl, hstored, hwritten⟩ :=
        loads.cancelled decides between saves
      refine ⟨j, k, stored, now, between, loads, hstored, hown, ?_, hwritten, ?_⟩
      · simpa [OrderStatus.canCancel] using hcan
      · cases hrest
        rfl
  | waiting => cases hrest
  | unread _ => cases hrest
  | refused _ _ => cases hrest
  | decided _ _ => cases hrest
  | lost _ _ _ _ => cases hrest

/-- **Statuses follow the life of an order**, whatever overlaps in a lawful run with
fresh identifiers:

* the statuses of every stored order, from its creation to now, are a path of
  transitions that starts with `new`;
* an order that has once been found with a terminal status is never changed again;
* every cancellation that succeeds has replaced the very order that it had loaded,
  which belonged to its user and was not yet terminal. -/
theorem statuses_follow_the_lifecycle
    {d : Desk} {es : List Event}
    (opened : d.Opened)
    (fresh : d.Along Fresh es)
    (lawful : d.Along Lawful es) :
    (∀ o ∈ (d.after es).memory.orders,
      IsPath .new o.status (d.statusHistory o.id es)) ∧
    (∀ j id o,
      (d.after (es.take j)).memory.find? id = some o →
      o.status.isTerminal = true →
      (d.after es).memory.find? id = some o) ∧
    (∀ i id userId result,
      (d.after es).errands[i]? = some ⟨.cancel id userId, .done result⟩ →
      ∃ j k stored now,
        j < k ∧
        d.AnsweredAt es j i (.load id false) (.ok stored.withoutLines) ∧
        (d.after (es.take k)).memory.find? id = some stored ∧
        stored.userId = userId ∧
        stored.status.isTerminal = false ∧
        (d.after (es.take (k + 1))).memory.find? id =
          some (Memory.written stored .cancelled now) ∧
        result = (Memory.written stored .cancelled now).withoutLines) := by
  refine ⟨?_, ?_, ?_⟩
  · intro o stored
    have distinct := distinct_after opened.distinct fresh
    have led := path_of_history opened lawful o.id
    rw [Memory.find?_of_mem distinct stored] at led
    exact led
  · intro j id o found terminal
    exact find?_of_terminal opened.no_errands lawful found terminal
  · intro i id userId result found
    exact cancelled_of_done opened.no_errands found

/-- Of two cancellations around the start of the work, the one that loads later wins. -/
theorem statuses_follow_the_lifecycle_of_two_cancellations :
    let d : Desk := { memory := {} }
    let es : List Event :=
      [.create (.numbered 1) .nil [],
        .take (.cancel (.ofNat 1) .nil), .take (.cancel (.ofNat 1) .nil),
        .proceed 0 (.numbered 2) none, .setStatus (.ofSeconds 3) (.ofNat 1) .inProgress,
        .proceed 1 (.numbered 4) none, .proceed 0 (.numbered 5) none,
        .proceed 1 (.numbered 6) none]
    d.Opened ∧ d.Along Fresh es ∧ d.Along Lawful es ∧
      d.statusHistory (.ofNat 1) es = [.new, .inProgress, .cancelled] ∧
      ∀ o ∈ (d.after es).memory.orders,
        IsPath .new o.status (d.statusHistory o.id es) := by
  intro d es
  have opened : d.Opened := ⟨rfl, rfl, rfl⟩
  have fresh : d.Along Fresh es := by decide
  have lawful : d.Along Lawful es := by decide
  exact ⟨opened, fresh, lawful, by decide +kernel,
    (statuses_follow_the_lifecycle opened fresh lawful).1⟩

end Desk
end OrderDesk
