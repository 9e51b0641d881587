import OrderDesk.Proofs.Desk

/-!
# What one event does

The lemmas in this module say once what an event can do, so that no later proof
goes through the kinds of events again.

* `orders_step`, `find?_step`: an event changes the stored orders by its deed
  and in no other way.
* `deed_eq_creation`, `deed_eq_writing`: an event that creates is a creating
  call; one that writes is a call that saves or a status set from outside.
* `errands_step`: an event leaves the errands alone, adds one, or answers the next
  call of one.
* `distinct_after`: identifiers stay distinct along every run with fresh ones.
-/

namespace OrderDesk
namespace Desk

/-! ## Runs -/

@[simp] theorem after_nil
    (d : Desk) :
    d.after [] = d := rfl

@[simp] theorem after_cons
    (d : Desk)
    (e : Event)
    (es : List Event) :
    d.after (e :: es) = (d.step e).after es := rfl

theorem after_append
    (d : Desk)
    (es fs : List Event) :
    d.after (es ++ fs) = (d.after es).after fs := by
  simp [after]

@[simp] theorem after_concat
    (d : Desk)
    (es : List Event)
    (e : Event) :
    d.after (es ++ [e]) = (d.after es).step e := by
  simp [after]

/-- A run goes on from what it has reached at a position. -/
theorem after_take_drop
    (d : Desk)
    (es : List Event)
    (j : Nat) :
    (d.after (es.take j)).after (es.drop j) = d.after es := by
  rw [← after_append, List.take_append_drop]

theorem after_take_succ
    (d : Desk)
    {es : List Event} {k : Nat} {e : Event}
    (event : es[k]? = some e) :
    d.after (es.take (k + 1)) = (d.after (es.take k)).step e := by
  rw [List.take_add_one, event, Option.toList_some, after_concat]

/-- A position of a longer run is one of the run, or the end. -/
theorem after_take_concat
    (d : Desk)
    (es : List Event)
    (e : Event)
    (j : Nat) :
    (j ≤ es.length ∧ d.after ((es ++ [e]).take j) = d.after (es.take j)) ∨
    (es.length < j ∧ d.after ((es ++ [e]).take j) = (d.after es).step e) := by
  by_cases hj : j ≤ es.length
  · left
    rw [List.take_append_of_le_length hj]
    exact ⟨hj, rfl⟩
  · right
    rw [List.take_of_length_le (by simp; omega), after_concat]
    exact ⟨by omega, rfl⟩

theorem along_concat
    (P : Desk → Event → Prop)
    (d : Desk)
    (es : List Event)
    (e : Event) :
    d.Along P (es ++ [e]) ↔ d.Along P es ∧ P (d.after es) e := by
  induction es generalizing d with
  | nil =>
      simp [Along]
  | cons f es ih =>
      simp only [List.cons_append, Along, ih, after_cons, and_assoc]

/-- A condition along a run holds at each of its positions. -/
theorem along_getElem?
    {P : Desk → Event → Prop} {d : Desk} {es : List Event}
    (along : d.Along P es)
    {j : Nat} {e : Event}
    (event : es[j]? = some e) :
    P (d.after (es.take j)) e := by
  induction es generalizing d j with
  | nil =>
      simp at event
  | cons f es ih =>
      cases j with
      | zero =>
          rw [List.getElem?_cons_zero] at event
          cases event
          exact along.1
      | succ j =>
          rw [List.getElem?_cons_succ] at event
          exact ih along.2 event

/-- An answer that is given at a position is given there in every longer run. -/
theorem AnsweredAt.append
    {d : Desk} {es : List Event} {j i : Nat} {c : Call} {r : c.Answer}
    (answered : d.AnsweredAt es j i c r)
    (fs : List Event) :
    d.AnsweredAt (es ++ fs) j i c r := by
  obtain ⟨o, fault, errand, hevent, hfound, hasked, hanswer⟩ := answered
  obtain ⟨hj, _⟩ := List.getElem?_eq_some_iff.mp hevent
  have htake : (es ++ fs).take j = es.take j :=
    List.take_append_of_le_length (Nat.le_of_lt hj)
  refine ⟨o, fault, errand, ?_, ?_, hasked, ?_⟩
  · rw [List.getElem?_append_left hj]
    exact hevent
  · rw [htake]
    exact hfound
  · rw [htake]
    exact hanswer

theorem AnsweredAt.lt_length
    {d : Desk} {es : List Event} {j i : Nat} {c : Call} {r : c.Answer}
    (answered : d.AnsweredAt es j i c r) :
    j < es.length := by
  obtain ⟨o, fault, errand, hevent, _⟩ := answered
  exact (List.getElem?_eq_some_iff.mp hevent).1

/-- At one position, one errand makes one call. -/
theorem AnsweredAt.unique
    {d : Desk} {es : List Event} {j i i' : Nat}
    {c c' : Call} {r : c.Answer} {r' : c'.Answer}
    (first : d.AnsweredAt es j i c r)
    (second : d.AnsweredAt es j i' c' r') :
    i = i' ∧ c = c' := by
  obtain ⟨o, fault, errand, hevent, hfound, hasked, _⟩ := first
  obtain ⟨o', fault', errand', hevent', hfound', hasked', _⟩ := second
  rw [hevent] at hevent'
  cases hevent'
  rw [hfound] at hfound'
  cases hfound'
  rw [hasked] at hasked'
  cases hasked'
  exact ⟨rfl, rfl⟩

/-- The last event of a run answers the call that its errand asks for. -/
theorem answeredAt_concat
    {d : Desk} {es : List Event} {i : Nat} {errand : Errand} {c : Call}
    (found : (d.after es).errands[i]? = some errand)
    (asked : errand.rest.asked? = some c)
    (o : Occasion)
    (fault : Option Fault) :
    d.AnsweredAt (es ++ [.proceed i o fault]) es.length i c
      ((d.after es).memory.answerUnder fault o c).1 := by
  refine ⟨o, fault, errand, by simp, ?_, asked, ?_⟩
  · simpa using found
  · simp

/-! ## The stored orders -/

/-- The state of the store after an errand has gone on. -/
theorem memory_proceed
    {d : Desk} {i : Nat} {errand : Errand}
    (found : d.errands[i]? = some errand)
    (o : Occasion)
    (fault : Option Fault) :
    (d.step (.proceed i o fault)).memory =
      (errand.rest.advance (Memory.answerUnder fault o) d.memory).2 := by
  simp [step, found]

/-- An event changes the stored orders by its deed and in no other way. -/
theorem orders_step
    (d : Desk)
    (e : Event) :
    (d.step e).memory.orders = (d.deed e).apply d.memory.orders := by
  cases e with
  | take request =>
      rfl
  | read id withLines =>
      rfl
  | edit k order =>
      rfl
  | stock product =>
      rfl
  | reprice id price =>
      rfl
  | create o userId lines =>
      exact Memory.orders_answer d.memory o (.create userId lines)
  | update k o =>
      cases hcopy : d.copies[k]? with
      | none =>
          simp [step, deed, call?, setting, hcopy, Deed.apply]
      | some copy =>
          have h := Memory.orders_answer d.memory o (.save copy)
          rw [Memory.answer] at h
          simpa [step, deed, call?, hcopy] using h
  | setStatus now id status =>
      cases hfound : d.memory.find? id with
      | none =>
          simp [step, deed, call?, setting, Memory.setStatus?, hfound, Deed.apply]
      | some o =>
          simp [step, deed, call?, setting, Memory.setStatus?, hfound, Deed.apply,
            Memory.modify]
  | proceed i o fault =>
      cases hfound : d.errands[i]? with
      | none =>
          simp [step, deed, call?, setting, hfound, Deed.apply]
      | some errand =>
          rw [memory_proceed hfound]
          cases hrest : errand.rest with
          | done order =>
              simp [deed, call?, setting, hfound, Errand.call?, hrest,
                Dialogue.asked?, Dialogue.advance, Deed.apply]
          | fail failure =>
              simp [deed, call?, setting, hfound, Errand.call?, hrest,
                Dialogue.asked?, Dialogue.advance, Deed.apply]
          | ask c next =>
              cases hfault : Memory.faultOn? fault c with
              | some error =>
                  simp [deed, call?, setting, hfound, Errand.call?, hrest,
                    Dialogue.asked?, Memory.answerUnder_of_fault hfault, hfault, Deed.apply]
              | none =>
                  simpa [deed, call?, hfound, Errand.call?, hrest, Dialogue.asked?,
                    Memory.answerUnder_of_no_fault hfault, hfault] using
                    Memory.orders_answer d.memory o c

/-- The order that is found under an identifier after an event. -/
theorem find?_step
    (d : Desk)
    (e : Event)
    (id : Identifier) :
    (d.step e).memory.find? id = (d.deed e).on? id (d.memory.find? id) := by
  rw [Memory.find?, orders_step, Deed.find?_apply, Memory.find?]

/-- An event leaves a stored order alone or writes a status into it. -/
theorem find?_step_cases
    {d : Desk} {id : Identifier} {o : Order}
    (found : d.memory.find? id = some o)
    (e : Event) :
    (d.step e).memory.find? id = some o ∨
    (∃ status now,
      d.deed e = .writing id status now ∧
      (d.step e).memory.find? id = some (Memory.written o status now)) := by
  rw [find?_step, found]
  cases d.deed e with
  | nothing =>
      exact Or.inl rfl
  | creation order =>
      exact Or.inl rfl
  | writing target status now =>
      by_cases h : target = id
      · subst h
        exact Or.inr ⟨status, now, rfl, by simp⟩
      · exact Or.inl (Deed.on?_writing_of_ne h status now _)

/-- An event that creates an order makes a creating call. -/
theorem deed_eq_creation
    {d : Desk} {e : Event} {order : Order}
    (h : d.deed e = .creation order) :
    ∃ o userId lines totalPrice,
      d.call? e = some (o, .create userId lines) ∧
      Order.totalOf lines = .ok totalPrice ∧
      order = Memory.newOrder o userId lines totalPrice := by
  rw [deed] at h
  split at h
  · rename_i o c hcall
    obtain ⟨userId, lines, totalPrice, rfl, htotal, horder⟩ :=
      Memory.deed_eq_creation h
    exact ⟨o, userId, lines, totalPrice, hcall, htotal, horder⟩
  · simp only [setting] at h
    split at h
    · split at h <;> cases h
    · cases h

/-- An event that writes a status saves a copy with the stored version, or sets the
status of a stored order from outside. -/
theorem deed_eq_writing
    {d : Desk} {e : Event}
    {id : Identifier} {status : OrderStatus} {now : Instant}
    (h : d.deed e = .writing id status now) :
    (∃ o copy stored,
      d.call? e = some (o, .save copy) ∧
      copy.id = id ∧ copy.status = status ∧ o.now = now ∧
      d.memory.find? id = some stored ∧ stored.version = copy.version) ∨
    (∃ stored,
      e = .setStatus now id status ∧ d.memory.find? id = some stored) := by
  rw [deed] at h
  split at h
  · rename_i o c hcall
    obtain ⟨copy, stored, rfl, hid, hstatus, hnow, hfound, hversion⟩ :=
      Memory.deed_eq_writing h
    exact Or.inl ⟨o, copy, stored, hcall, hid, hstatus, hnow, hfound, hversion⟩
  · right
    simp only [setting] at h
    split at h
    · rename_i now' id' status' _
      cases hfound : d.memory.find? id' with
      | none =>
          simp [Memory.setStatus?, hfound] at h
      | some stored =>
          simp only [Memory.setStatus?, hfound, Option.map_some, Deed.writing.injEq] at h
          obtain ⟨rfl, rfl, rfl⟩ := h
          exact ⟨stored, rfl, hfound⟩
    · cases h

/-- Only a stored order is written. -/
theorem stored_of_deed_eq_writing
    {d : Desk} {e : Event}
    {id : Identifier} {status : OrderStatus} {now : Instant}
    (h : d.deed e = .writing id status now) :
    ∃ stored, d.memory.find? id = some stored := by
  rcases deed_eq_writing h with ⟨_, _, stored, _, _, _, _, hfound, _⟩ | ⟨stored, _, hfound⟩
  · exact ⟨stored, hfound⟩
  · exact ⟨stored, hfound⟩

/-- A saving call is a client's write or the next call of an errand. -/
theorem call?_eq_save
    {d : Desk} {e : Event} {o : Occasion} {copy : Order}
    (h : d.call? e = some (o, .save copy)) :
    (∃ k, e = .update k o ∧ d.copies[k]? = some copy) ∨
    (∃ i fault errand,
      e = .proceed i o fault ∧
      d.errands[i]? = some errand ∧
      errand.rest.asked? = some (.save copy) ∧
      Memory.faultOn? fault (.save copy) = none) := by
  cases e with
  | proceed i o' fault =>
      right
      simp only [call?, Option.map_eq_some_iff, Option.bind_eq_some_iff] at h
      obtain ⟨c, ⟨errand, hfound, hcall⟩, hpair⟩ := h
      cases hpair
      rw [Errand.call?] at hcall
      split at hcall
      · cases hcall
      · rename_i c' hasked
        split at hcall
        · cases hcall
        · rename_i hfault
          cases hcall
          exact ⟨i, fault, errand, rfl, hfound, hasked, by simpa using hfault⟩
  | update k o' =>
      left
      simp only [call?, Option.map_eq_some_iff] at h
      obtain ⟨copy', hcopy, hpair⟩ := h
      cases hpair
      exact ⟨k, rfl, hcopy⟩
  | create o' userId lines =>
      simp [call?] at h
  | take request => cases h
  | read id withLines => cases h
  | edit k order => cases h
  | setStatus now id status => cases h
  | stock product => cases h
  | reprice id price => cases h

/-! ## Errands and identifiers -/

/-- An event leaves the errands alone, adds one, or answers the next call of one. -/
theorem errands_step
    (d : Desk)
    (e : Event) :
    (d.step e).errands = d.errands ∨
    (∃ request,
      e = .take request ∧
      (d.step e).errands = d.errands ++ [⟨request, request.task⟩]) ∨
    (∃ i o fault request c next,
      e = .proceed i o fault ∧
      d.errands[i]? = some ⟨request, .ask c next⟩ ∧
      (d.step e).errands =
        d.errands.set i ⟨request, next (d.memory.answerUnder fault o c).1⟩) := by
  cases e with
  | take request =>
      exact Or.inr (Or.inl ⟨request, rfl, rfl⟩)
  | proceed i o fault =>
      cases hfound : d.errands[i]? with
      | none =>
          left
          simp only [step, hfound]
      | some errand =>
          obtain ⟨hi, hget⟩ := List.getElem?_eq_some_iff.mp hfound
          obtain ⟨request, rest⟩ := errand
          cases rest with
          | done order =>
              left
              simp only [step, hfound, Dialogue.advance]
              rw [← hget, List.set_getElem_self]
          | fail failure =>
              left
              simp only [step, hfound, Dialogue.advance]
              rw [← hget, List.set_getElem_self]
          | ask c next =>
              right
              right
              refine ⟨i, o, fault, request, c, next, rfl, hfound, ?_⟩
              simp only [step, hfound, Dialogue.advance_ask]
  | update k o =>
      left
      simp only [step]
      split <;> rfl
  | create o userId lines => exact Or.inl rfl
  | read id withLines => exact Or.inl rfl
  | edit k order => exact Or.inl rfl
  | setStatus now id status => exact Or.inl rfl
  | stock product => exact Or.inl rfl
  | reprice id price => exact Or.inl rfl

/-- An errand that is found after an event was there before it, has just been taken
up, or has been answered. -/
theorem errand_of_step
    {d : Desk} {e : Event} {i : Nat} {errand : Errand}
    (found : (d.step e).errands[i]? = some errand) :
    d.errands[i]? = some errand ∨
    (∃ request, e = .take request ∧ errand = ⟨request, request.task⟩) ∨
    (∃ o fault c next,
      e = .proceed i o fault ∧
      d.errands[i]? = some ⟨errand.request, .ask c next⟩ ∧
      errand.rest = next (d.memory.answerUnder fault o c).1) := by
  rcases errands_step d e with
    same | ⟨request, rfl, added⟩ | ⟨k, o, fault, request, c, next, rfl, before, moved⟩
  · left
    rw [← same]
    exact found
  · rw [added, List.getElem?_append] at found
    split at found
    · exact Or.inl found
    · right
      left
      have hmem := List.mem_of_getElem? found
      rw [List.mem_singleton] at hmem
      exact ⟨request, rfl, hmem⟩
  · rw [moved] at found
    by_cases hki : k = i
    · subst hki
      obtain ⟨hk, _⟩ := List.getElem?_eq_some_iff.mp before
      rw [List.getElem?_set_self hk] at found
      cases found
      exact Or.inr (Or.inr ⟨o, fault, c, next, rfl, before, rfl⟩)
    · rw [List.getElem?_set_ne hki] at found
      exact Or.inl found

/-- An errand is never given up: it keeps its place and its request, and it stays as it
is once it asks nothing more. -/
theorem errand_step
    {d : Desk} {i : Nat} {errand : Errand}
    (found : d.errands[i]? = some errand)
    (e : Event) :
    ∃ rest,
      (d.step e).errands[i]? = some ⟨errand.request, rest⟩ ∧
      (errand.rest.asked? = none → rest = errand.rest) := by
  obtain ⟨hi, _⟩ := List.getElem?_eq_some_iff.mp found
  rcases errands_step d e with
    same | ⟨request, rfl, added⟩ | ⟨k, o, fault, request, c, next, rfl, before, moved⟩
  · rw [same]
    exact ⟨errand.rest, found, fun _ => rfl⟩
  · rw [added, List.getElem?_append_left hi]
    exact ⟨errand.rest, found, fun _ => rfl⟩
  · rw [moved]
    by_cases hki : k = i
    · subst hki
      rw [found] at before
      cases before
      exact ⟨_, List.getElem?_set_self hi, nofun⟩
    · rw [List.getElem?_set_ne hki]
      exact ⟨errand.rest, found, fun _ => rfl⟩

theorem errand_after
    {d : Desk} {i : Nat} {errand : Errand}
    (found : d.errands[i]? = some errand)
    (es : List Event) :
    ∃ rest, (d.after es).errands[i]? = some ⟨errand.request, rest⟩ := by
  induction es generalizing d errand with
  | nil =>
      exact ⟨errand.rest, found⟩
  | cons e es ih =>
      obtain ⟨rest, hstep, _⟩ := errand_step found e
      obtain ⟨last, hafter⟩ := ih hstep
      exact ⟨last, hafter⟩

/-- An event with a fresh identifier keeps identifiers distinct. -/
theorem distinct_step
    {d : Desk} {e : Event}
    (distinct : d.memory.Distinct)
    (fresh : d.Fresh e) :
    (d.step e).memory.Distinct := by
  rw [Memory.Distinct, orders_step]
  cases hdeed : d.deed e with
  | nothing =>
      exact distinct
  | creation order =>
      have hnone := fresh order (by simp [hdeed, Deed.created?])
      rw [Memory.find?, List.find?_eq_none] at hnone
      rw [Deed.apply, List.map_append, List.map_singleton, List.nodup_append]
      refine ⟨distinct, List.nodup_singleton _, ?_⟩
      intro id hid id' hid'
      obtain ⟨o, ho, rfl⟩ := List.mem_map.mp hid
      rw [List.mem_singleton] at hid'
      subst hid'
      simpa using hnone o ho
  | writing id status now =>
      have keeps : ((Deed.writing id status now).apply d.memory.orders).map (·.id) =
          d.memory.orders.map (·.id) :=
        Memory.map_id_modify_written d.memory id status now
      rw [keeps]
      exact distinct

/-- Along a run with fresh identifiers the stored ones stay distinct. -/
theorem distinct_after
    {d : Desk} {es : List Event}
    (distinct : d.memory.Distinct)
    (fresh : d.Along Fresh es) :
    (d.after es).memory.Distinct := by
  induction es generalizing d with
  | nil =>
      exact distinct
  | cons e es ih =>
      exact ih (distinct_step distinct fresh.1) fresh.2

theorem Opened.distinct
    {d : Desk}
    (opened : d.Opened) :
    d.memory.Distinct := by
  simp [Memory.Distinct, opened.no_orders]

end Desk
end OrderDesk
