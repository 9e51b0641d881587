import OrderDesk.Proofs.Desk.Errands

/-!
# Racing cancellations

An owner may cancel an order any number of times at once.  If nobody else writes
the order, exactly one of these cancellations wins, whatever the order of their
calls, and when the others have loaded the order decides how they fail.

* `Finish`: how each of the cancellations may end, by what it has loaded.
* `untouched_or_won`: before the first write the order is as at the start, and
  after it cancelled; there is no second write.
* `one_cancellation_wins`: the outcomes of all of them, side by side.
-/

namespace OrderDesk
namespace Desk

/-- Only cancellations by the owner write the order, and they are not disturbed. -/
def Spares (id owner : Identifier) (d : Desk) : Event → Prop
  | .update k _ => ∀ copy ∈ d.copies[k]?, copy.id ≠ id
  | .setStatus _ target _ => target ≠ id
  | .proceed i _ fault =>
    ∀ errand ∈ d.errands[i]?, errand.request = .cancel id owner → fault = none
  | _ => True

instance (id owner : Identifier) (d : Desk) : (e : Event) → Decidable (d.Spares id owner e)
  | .update k _ =>
    inferInstanceAs <| Decidable <| ∀ copy ∈ d.copies[k]?, copy.id ≠ id
  | .setStatus _ target _ =>
    inferInstanceAs <| Decidable (target ≠ id)
  | .proceed i _ fault =>
    inferInstanceAs <| Decidable <|
      ∀ errand ∈ d.errands[i]?, errand.request = .cancel id owner → fault = none
  | .take _ | .create _ _ _ | .read _ _ | .edit _ _ | .stock _ | .reprice _ _ =>
    isTrue trivial

section Race

variable {d : Desk} {es : List Event} {id : Identifier} {o : Order}

/-! ## The answers to an undisturbed errand -/

/-- The owner's cancellations are answered by the store itself. -/
theorem AnsweredAt.undisturbed
    {owner : Identifier}
    (spared : d.Along (Spares id owner) es)
    {i : Nat} {rest : Task Service.Failure Order}
    (found : (d.after es).errands[i]? = some ⟨.cancel id owner, rest⟩)
    {j : Nat} {c : Call} {r : c.Answer}
    (answered : d.AnsweredAt es j i c r) :
    ∃ occasion, r = ((d.after (es.take j)).memory.answer occasion c).1 := by
  obtain ⟨occasion, fault, errand, hevent, hfound, _, rfl⟩ := answered
  have hrequest : errand.request = .cancel id owner := by
    obtain ⟨last, hlast⟩ := errand_after hfound (es.drop j)
    rw [after_take_drop, found, Option.some.injEq, Errand.mk.injEq] at hlast
    exact hlast.1.symm
  have hfault : fault = none :=
    along_getElem? spared hevent errand hfound hrequest
  subst hfault
  exact ⟨occasion, by rw [Memory.answerUnder_none]⟩

/-! ## How a cancellation ends -/

/-- How a cancellation by the owner of a stored order ends. -/
inductive Finish
    (d : Desk)
    (es : List Event)
    (i : Nat)
    (id : Identifier) :
    Task Service.Failure Order → Prop where
  /-- It has loaded an order that cannot be cancelled. -/
  | refused
      {j : Nat} {p : Order}
      (loads : d.AnsweredAt es j i (.load id false) (.ok p.withoutLines))
      (loaded : (d.after (es.take j)).memory.find? id = some p)
      (closed : p.status.canCancel = false) :
      Finish d es i id
        (.fail (Service.refused (.invalidTransition p.status .cancelled)))
  /-- The order has been written between its two calls. -/
  | overtaken
      {j k : Nat} {p q : Order}
      (loads : d.AnsweredAt es j i (.load id false) (.ok p.withoutLines))
      (loaded : (d.after (es.take j)).memory.find? id = some p)
      (canCancel : p.status.canCancel = true)
      (between : j < k)
      (stored : (d.after (es.take k)).memory.find? id = some q)
      (written : q.version ≠ p.version) :
      Finish d es i id (.fail (Service.passed (.versionConflict id p.version)))
  /-- It has written the order that it had loaded. -/
  | won
      {k : Nat} {p : Order} {now : Instant}
      (canCancel : p.status.canCancel = true)
      (saves : d.AnsweredAt es k i (.save (Service.cancelledCopy p)) (.ok ⟨p.version + 1, now⟩))
      (stored : (d.after (es.take k)).memory.find? id = some p)
      (written : (d.after (es.take (k + 1))).memory.find? id =
        some (Memory.written p .cancelled now)) :
      Finish d es i id (.done (Memory.written p .cancelled now).withoutLines)

/-- Every cancellation by the owner that has finished has done so in one of these ways,
as long as the order is stored. -/
theorem finish_of_errand
    (idle : d.errands = [])
    (found : d.memory.find? id = some o)
    (spared : d.Along (Spares id o.userId) es)
    {i : Nat} {rest : Task Service.Failure Order}
    (errand : (d.after es).errands[i]? = some ⟨.cancel id o.userId, rest⟩)
    (finished : rest.outcome?.isSome) :
    d.Finish es i id rest := by
  obtain ⟨n, stage⟩ := cancelStage_of_errand idle errand
  cases stage with
  | waiting =>
      cases finished
  | decided _ _ =>
      cases finished
  | unread loads =>
      -- The order is there from the start, so it can be loaded.
      rename_i j e
      obtain ⟨p, hp, _⟩ := later_after found (es.take j)
      obtain ⟨occasion, hanswer⟩ := loads.undisturbed spared errand
      simp only [Memory.answer, Memory.load, hp] at hanswer
      cases hanswer
  | refused loads refuses =>
      rename_i j order failure
      obtain ⟨p, hp, rfl⟩ := loads.loaded
      obtain ⟨q, hq, later⟩ := later_after found (es.take j)
      rw [hp] at hq
      cases hq
      obtain ⟨hclosed, rfl⟩ := Service.decideCancel_eq_error later.userId_eq refuses
      exact .refused loads hp hclosed
  | lost loads decides between saves =>
      rename_i j k order copy e
      obtain ⟨p, hp, rfl, _, hcan, rfl⟩ := loads.decided decides
      have hid : p.id = id := Memory.id_of_find? hp
      obtain ⟨q, hq, _⟩ := later_after found (es.take k)
      obtain ⟨occasion, hanswer⟩ := saves.undisturbed spared errand
      have hcopy : (d.after (es.take k)).memory.find? (Service.cancelledCopy p).id =
          some q := by
        rw [Service.cancelledCopy_id, hid]
        exact hq
      by_cases hversion : q.version = p.version
      · rw [Memory.answer, Memory.save_of_current occasion.now hcopy hversion] at hanswer
        cases hanswer
      · rw [Memory.answer, Memory.save_of_stale occasion.now hcopy hversion] at hanswer
        cases hanswer
        rw [Service.cancelledCopy_id, Service.cancelledCopy_version, hid]
        exact .overtaken loads hp hcan between hq hversion
  | won loads decides between saves =>
      rename_i j k order copy stamp
      obtain ⟨p, now, rfl, _, hcan, rfl, rfl, hstored, hwritten⟩ :=
        loads.cancelled decides between saves
      have finish := Finish.won hcan saves hstored hwritten
      exact finish

/-! ## The one write -/

/-- Nobody has written the order. -/
def Untouched (d : Desk) (es : List Event) (id : Identifier) (o : Order) : Prop :=
  ∀ j, (d.after (es.take j)).memory.find? id = some o

/-- An errand has cancelled the order at a position, and nobody else has written it. -/
structure WonBy
    (d : Desk)
    (es : List Event)
    (id : Identifier)
    (o : Order)
    (w k : Nat)
    (now : Instant) :
    Prop where
  saves : d.AnsweredAt es k w (.save (Service.cancelledCopy o)) (.ok ⟨o.version + 1, now⟩)
  result : (d.after es).errands[w]? =
    some ⟨.cancel id o.userId, .done (Memory.written o .cancelled now).withoutLines⟩
  before : ∀ j, j ≤ k → (d.after (es.take j)).memory.find? id = some o
  after : ∀ j, k < j →
    (d.after (es.take j)).memory.find? id = some (Memory.written o .cancelled now)

/-- In a race only the owner's cancellations write the order, if it is not terminal. -/
theorem writing_in_race
    (idle : d.errands = [])
    {e : Event} {owner : Identifier}
    (spares : (d.after es).Spares id owner e)
    {stored : Order}
    (found : (d.after es).memory.find? id = some stored)
    (own : stored.userId = owner)
    {status : OrderStatus} {now : Instant}
    (writes : (d.after es).deed e = .writing id status now) :
    ∃ w occasion,
      e = .proceed w occasion none ∧
      occasion.now = now ∧
      status = .cancelled ∧
      stored.status.canCancel = true ∧
      (d.after es).errands[w]? =
        some ⟨.cancel id owner, Service.writing (Service.cancelledCopy stored)⟩ := by
  subst own
  rcases deed_eq_writing writes with
    ⟨occasion, copy, p, hcall, rfl, hstatus, hnow, hp, hversion⟩ | ⟨_, rfl, _⟩
  · rw [found] at hp
    cases hp
    rcases call?_eq_save hcall with ⟨k, rfl, hcopy⟩ | ⟨w, fault, errand, rfl, hw, hasked, _⟩
    · exact absurd rfl (spares copy hcopy)
    · obtain ⟨rfl, hcan, hcopy⟩ := current_errand idle hw hasked found hversion
      have hfault : fault = none := spares _ hw rfl
      subst hfault
      refine ⟨w, occasion, rfl, hnow, ?_, hcan, ?_⟩
      · rw [← hstatus, hcopy, Service.cancelledCopy_status]
      · rw [hw, ← hcopy]
  · exact absurd rfl spares

/-- The first write into an order decides the race. -/
theorem Untouched.won
    (idle : d.errands = [])
    (untouched : d.Untouched es id o)
    {e : Event}
    (spares : (d.after es).Spares id o.userId e)
    {status : OrderStatus} {now : Instant}
    (writes : (d.after es).deed e = .writing id status now) :
    ∃ w, d.WonBy (es ++ [e]) id o w es.length now := by
  have hend : (d.after es).memory.find? id = some o := by
    simpa using untouched es.length
  obtain ⟨w, occasion, rfl, rfl, rfl, _, hw⟩ := writing_in_race idle spares hend rfl writes
  have hcopy : (d.after es).memory.find? (Service.cancelledCopy o).id = some o := by
    rw [Service.cancelledCopy_id, Memory.id_of_find? hend]
    exact hend
  have hsave := Memory.save_of_current occasion.now hcopy rfl
  refine ⟨w, ?_, ?_, ?_, ?_⟩
  · have answered := answeredAt_concat hw rfl occasion none
    rw [Memory.answerUnder_none, Memory.answer, hsave] at answered
    exact answered
  · obtain ⟨hlt, _⟩ := List.getElem?_eq_some_iff.mp hw
    rw [after_concat]
    simp only [step, hw, Service.writing, Dialogue.advance_ask,
      Memory.answerUnder_none, Memory.answer, hsave]
    rw [List.getElem?_set_self hlt]
    rfl
  · intro j hj
    rw [List.take_append_of_le_length hj]
    exact untouched j
  · intro j hj
    rcases after_take_concat d es (.proceed w occasion none) j with ⟨h, _⟩ | ⟨_, h⟩
    · omega
    · rw [h, find?_step, writes, hend, Deed.on?_writing_self]
      rfl

/-- After the first write there is no second one. -/
theorem WonBy.concat
    (idle : d.errands = [])
    {w k : Nat} {now : Instant}
    (won : d.WonBy es id o w k now)
    {e : Event}
    (spares : (d.after es).Spares id o.userId e) :
    d.WonBy (es ++ [e]) id o w k now := by
  have hk : k < es.length := won.saves.lt_length
  have hend : (d.after es).memory.find? id = some (Memory.written o .cancelled now) := by
    simpa using won.after es.length hk
  have same : ((d.after es).step e).memory.find? id =
      some (Memory.written o .cancelled now) := by
    rcases find?_step_cases hend e with same | ⟨status, now', writes, _⟩
    · exact same
    · obtain ⟨_, _, _, _, _, hcan, _⟩ := writing_in_race idle spares hend rfl writes
      have hclosed : (Memory.written o .cancelled now).status.canCancel = false := rfl
      rw [hclosed] at hcan
      cases hcan
  refine ⟨won.saves.append _, ?_, ?_, ?_⟩
  · obtain ⟨rest, hrest, silent⟩ := errand_step won.result e
    rw [after_concat, hrest, silent rfl]
  · intro j hj
    rw [List.take_append_of_le_length (by omega)]
    exact won.before j hj
  · intro j hj
    rcases after_take_concat d es e j with ⟨_, h⟩ | ⟨_, h⟩
    · rw [h]
      exact won.after j hj
    · rw [h]
      exact same

theorem untouched_or_won
    (idle : d.errands = [])
    (found : d.memory.find? id = some o)
    (spared : d.Along (Spares id o.userId) es) :
    d.Untouched es id o ∨ ∃ w k now, d.WonBy es id o w k now := by
  induction es using List.reverseRecOn with
  | nil =>
      left
      intro j
      simpa using found
  | append_singleton es e ih =>
      obtain ⟨before, last⟩ := (along_concat _ d es e).mp spared
      rcases ih before with untouched | ⟨w, k, now, won⟩
      · have hend : (d.after es).memory.find? id = some o := by
          simpa using untouched es.length
        rcases find?_step_cases hend e with same | ⟨status, now, writes, _⟩
        · left
          intro j
          rcases after_take_concat d es e j with ⟨_, h⟩ | ⟨_, h⟩
          · rw [h]
            exact untouched j
          · rw [h]
            exact same
        · right
          obtain ⟨w, won⟩ := untouched.won idle last writes
          exact ⟨w, es.length, now, won⟩
      · right
        exact ⟨w, k, now, won.concat idle last⟩

/-! ## The outcome -/

/-- As long as nobody has written the order, no cancellation has finished. -/
theorem Untouched.not_finished
    (untouched : d.Untouched es id o)
    (cancellable : o.status.canCancel = true)
    {i : Nat} {rest : Task Service.Failure Order} :
    ¬ d.Finish es i id rest := by
  intro finish
  cases finish with
  | refused loads loaded closed =>
      rename_i j p
      rw [untouched j] at loaded
      cases loaded
      rw [cancellable] at closed
      cases closed
  | overtaken loads loaded hcan between stored written =>
      rename_i j k p q
      rw [untouched j] at loaded
      rw [untouched k] at stored
      cases loaded
      cases stored
      exact written rfl
  | won hcan saves stored written =>
      rename_i k p now
      rw [untouched k] at stored
      cases stored
      rw [untouched (k + 1)] at written
      exact Memory.written_ne o .cancelled now (Option.some.inj written).symm

/-- Against a winner, the others have lost, and how they lost depends on when they
have loaded the order. -/
theorem WonBy.loser
    {w k : Nat} {now : Instant}
    (won : d.WonBy es id o w k now)
    (cancellable : o.status.canCancel = true)
    {i : Nat} {rest : Task Service.Failure Order}
    (finish : d.Finish es i id rest)
    (other : i ≠ w) :
    ∃ j order,
      d.AnsweredAt es j i (.load id false) (.ok order) ∧
      ((j < k ∧ rest = .fail (Service.passed (.versionConflict id o.version))) ∨
        (k < j ∧ rest =
          .fail (Service.refused (.invalidTransition .cancelled .cancelled)))) := by
  -- What is cancellable is the order before the winning write.
  have loaded_before : ∀ {j : Nat} {p : Order},
      (d.after (es.take j)).memory.find? id = some p → p.status.canCancel = true →
      p = o ∧ j ≤ k := by
    intro j p loaded hcan
    by_cases hj : j ≤ k
    · rw [won.before j hj] at loaded
      cases loaded
      exact ⟨rfl, hj⟩
    · rw [won.after j (by omega)] at loaded
      cases loaded
      cases hcan
  cases finish with
  | refused loads loaded closed =>
      rename_i j p
      by_cases hj : j ≤ k
      · rw [won.before j hj] at loaded
        cases loaded
        rw [cancellable] at closed
        cases closed
      · rw [won.after j (by omega)] at loaded
        cases loaded
        exact ⟨j, _, loads, Or.inr ⟨by omega, rfl⟩⟩
  | overtaken loads loaded hcan between stored written =>
      rename_i j k' p q
      obtain ⟨rfl, hj⟩ := loaded_before loaded hcan
      have hne : j ≠ k := by
        intro h
        subst h
        exact other (loads.unique won.saves).1
      exact ⟨j, _, loads, Or.inl ⟨by omega, rfl⟩⟩
  | won hcan saves stored written =>
      rename_i k' p now'
      obtain ⟨rfl, hk⟩ := loaded_before stored hcan
      have hlast : k ≤ k' := by
        by_contra h
        rw [won.before (k' + 1) (by omega)] at written
        exact Memory.written_ne p .cancelled now' (Option.some.inj written).symm
      have hsame : k' = k := by omega
      subst hsame
      exact absurd (saves.unique won.saves).1 other

/-- **Exactly one cancellation wins.**  An order that can be cancelled is stored, its
owner cancels it any number of times, at least once, and nobody else writes it.
When all of these cancellations have finished, whatever the order of their calls:

* one of them has succeeded, by a write at some position of the run;
* every other one has failed, with a version conflict if it had loaded the order
  before that write, and because the order was already cancelled if after it;
* the stored order is cancelled, and its version is one higher than at the start. -/
theorem one_cancellation_wins
    (idle : d.errands = [])
    (found : d.memory.find? id = some o)
    (cancellable : o.status.canCancel = true)
    (spared : d.Along (Spares id o.userId) es)
    (racing : ∃ errand ∈ (d.after es).errands, errand.request = .cancel id o.userId)
    (finished : ∀ errand ∈ (d.after es).errands,
      errand.request = .cancel id o.userId → errand.rest.outcome?.isSome) :
    ∃ w k now,
      d.AnsweredAt es k w (.save (Service.cancelledCopy o)) (.ok ⟨o.version + 1, now⟩) ∧
      (d.after es).errands[w]? =
        some ⟨.cancel id o.userId, .done (Memory.written o .cancelled now).withoutLines⟩ ∧
      (∀ i rest,
        i ≠ w →
        (d.after es).errands[i]? = some ⟨.cancel id o.userId, rest⟩ →
        ∃ j order,
          d.AnsweredAt es j i (.load id false) (.ok order) ∧
          ((j < k ∧ rest = .fail (Service.passed (.versionConflict id o.version))) ∨
            (k < j ∧ rest =
              .fail (Service.refused (.invalidTransition .cancelled .cancelled))))) ∧
      (d.after es).memory.find? id = some (Memory.written o .cancelled now) := by
  have finish : ∀ {i rest},
      (d.after es).errands[i]? = some ⟨.cancel id o.userId, rest⟩ → d.Finish es i id rest := by
    intro i rest errand
    have hend := finished _ (List.mem_of_getElem? errand) rfl
    exact finish_of_errand idle found spared errand hend
  rcases untouched_or_won idle found spared with untouched | ⟨w, k, now, won⟩
  · obtain ⟨⟨_, rest⟩, hmem, rfl⟩ := racing
    obtain ⟨i, errand⟩ := List.getElem?_of_mem hmem
    exact absurd (finish errand) (untouched.not_finished cancellable)
  · refine ⟨w, k, now, won.saves, won.result, ?_, ?_⟩
    · intro i rest other errand
      exact won.loser cancellable (finish errand) other
    · simpa using won.after es.length won.saves.lt_length

end Race

/-- Of three cancellations the second wins; the first has loaded before its write, and
the third after it. -/
theorem one_cancellation_wins_of_three :
    let d : Desk := ({ memory := {} } : Desk).step (.create (.numbered 1) .nil [])
    let o : Order := Memory.newOrder (.numbered 1) .nil [] .zero
    let cancel : Event := .take (.cancel (.ofNat 1) .nil)
    let call (i : Nat) : Event := .proceed i (.numbered i) none
    let es : List Event := [cancel, cancel, call 0, call 1, call 1, call 0, cancel, call 2]
    d.memory.find? (.ofNat 1) = some o ∧
      d.Along (Spares (.ofNat 1) o.userId) es ∧
      (∃ now, (d.after es).memory.find? (.ofNat 1) =
        some (Memory.written o .cancelled now)) := by
  intro d o cancel call es
  have found : d.memory.find? (.ofNat 1) = some o := rfl
  have spared : d.Along (Spares (.ofNat 1) o.userId) es := by decide
  have finished : ∀ errand ∈ (d.after es).errands,
      errand.request = .cancel (.ofNat 1) o.userId → errand.rest.outcome?.isSome := by
    decide
  obtain ⟨w, k, now, _, _, _, hend⟩ :=
    one_cancellation_wins rfl found rfl spared (by decide) finished
  exact ⟨found, spared, now, hend⟩

end Desk
end OrderDesk
