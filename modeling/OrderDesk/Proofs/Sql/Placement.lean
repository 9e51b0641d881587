import Mathlib.Algebra.Group.Nat.Defs
import Mathlib.Data.List.Infix
import OrderDesk.Proofs.Sql.Exchange

/-!
# Storing an order whole or not at all

A new order is stored by a plan of statements: the order, then its lines, in one
transaction.  They are sent one by one until a reply stops the exchange.

* `setback?`: why a reply stops the exchange of a placement.
* `Carried`: a plan is carried out up to its end, or up to the first setback.
* `conversation_insertOrder`: an exchange that stores an order carries out its plan, and
  fails exactly if there is a setback.
-/

namespace OrderDesk
namespace Sql

open Dialogue

/-! ## Plans -/

/-- What is wrong with the rows that answer a statement of a placement: the new row is
missing, or its status cannot be read. -/
def shortfall? : (s : Statement) → List s.Row → Option StoreError
  | .insertOrder .., [] => some (.database .rowMissing)
  | .insertOrder .., row :: _ =>
    match OrderStatus.parse? row.status with
    | some _ => none
    | none => some (.invalidRow s!"order {row.id}: {OrderStatus.unknownMessage row.status}")
  | .insertLine .., [] => some (.database .rowMissing)
  | _, _ => none

/-- Why a placement stops at a reply, if it does. -/
def setback? (s : Statement) : Reply s.Row → Option (Stop StoreError)
  | .refused message => some (.error (.database (.server message)))
  | .silent => some .silence
  | .rows rs => (shortfall? s rs).map .error

/-- The error that the caller gets where an exchange stops. -/
def Stop.report (budget : Duration) : Stop StoreError → StoreError
  | .error e => e
  | .silence => .timeout budget

theorem record_bounded
    {σ α : Type}
    {server : (s : Statement) → σ → Reply s.Row × σ} {state : σ}
    (budget : Duration)
    (x : Exchange StoreError α) :
    (bounded budget x).record server state =
      ((x.record server state).1.mapError (Stop.report budget), (x.record server state).2) :=
  record_mapError server state (Stop.report budget) x

/-- A statement was answered as the placement needs it. -/
def Sent.Accepted (e : Sent) : Prop := setback? e.1 e.2 = none

/-- The statements of a plan are sent one after the other, up to the last one or to the
first setback. -/
inductive Carried : List Statement → List Sent → Option (Stop StoreError) → Prop where
  | finished : Carried [] [] none
  | stopped {s : Statement} {r : Reply s.Row} {stop : Stop StoreError}
      (plan : List Statement) :
      setback? s r = some stop → Carried (s :: plan) [⟨s, r⟩] (some stop)
  | accepted {s : Statement} {r : Reply s.Row} {plan : List Statement} {log : List Sent}
      {stop? : Option (Stop StoreError)} :
      setback? s r = none → Carried plan log stop? → Carried (s :: plan) (⟨s, r⟩ :: log) stop?

namespace Carried

variable {plan plan' : List Statement} {log log' : List Sent}
  {s : Statement} {stop : Stop StoreError} {stop? : Option (Stop StoreError)}

theorem append
    (first : Carried plan log none)
    (rest : Carried plan' log' stop?) :
    Carried (plan ++ plan') (log ++ log') stop? := by
  generalize hnone : (none : Option (Stop StoreError)) = none? at first
  induction first with
  | finished => exact rest
  | stopped plan h => cases hnone
  | accepted h _ ih => exact .accepted h (ih hnone)

theorem stop_append
    (first : Carried plan log (some stop))
    (plan' : List Statement) :
    Carried (plan ++ plan') log (some stop) := by
  generalize hsome : some stop = some? at first ⊢
  induction first with
  | finished => cases hsome
  | stopped plan h => exact .stopped _ h
  | accepted h _ ih => exact .accepted h (ih hsome)

theorem sent_prefix
    (carried : Carried plan log stop?) :
    log.map (·.1) <+: plan := by
  induction carried with
  | finished => exact List.prefix_rfl
  | stopped plan _ => exact List.prefix_append [_] plan
  | accepted _ _ ih => exact (List.prefix_cons_inj _).mpr ih

/-- Only the last reply can be a setback. -/
theorem accepted_dropLast
    (carried : Carried plan log stop?) :
    ∀ e ∈ log.dropLast, e.Accepted := by
  induction carried with
  | finished => simp
  | stopped plan _ => simp
  | @accepted s r plan log stop? h _ ih =>
      cases log with
      | nil => simp
      | cons e log =>
          rw [List.dropLast_cons_cons]
          exact List.forall_mem_cons.mpr ⟨h, ih⟩

/-- The plan stops at the setback that the replies contain. -/
theorem stop_iff
    (carried : Carried plan log stop?)
    (stop : Stop StoreError) :
    stop? = some stop ↔ ∃ e ∈ log, setback? e.1 e.2 = some stop := by
  induction carried with
  | finished => simp
  | stopped plan h => simp [h]
  | accepted h _ ih => simp [h, ih]

theorem report_iff
    (carried : Carried plan log stop?)
    (budget : Duration)
    (failure : Interruption StoreError) :
    (∃ e ∈ log, ∃ stop, setback? e.1 e.2 = some stop ∧
        failure = .error (stop.report budget)) ↔
      ∃ stop, stop? = some stop ∧ failure = .error (stop.report budget) := by
  constructor
  · rintro ⟨e, he, stop, hstop, hfailure⟩
    exact ⟨stop, (carried.stop_iff stop).mpr ⟨e, he, hstop⟩, hfailure⟩
  · rintro ⟨stop, hstop, hfailure⟩
    obtain ⟨e, he, hsetback⟩ := (carried.stop_iff stop).mp hstop
    exact ⟨e, he, stop, hsetback, hfailure⟩

/-- The plan is finished exactly if its last statement is accepted. -/
theorem finished_iff
    (carried : Carried (plan ++ [s]) log stop?)
    (once : s ∉ plan) :
    stop? = none ↔ ∃ e ∈ log, e.1 = s ∧ e.Accepted := by
  induction plan generalizing log with
  | nil =>
      cases carried with
      | stopped _ h => simp [Sent.Accepted, h]
      | accepted h rest =>
          cases rest
          simp [Sent.Accepted, h]
  | cons t plan ih =>
      obtain ⟨hne, hplan⟩ := List.ne_and_not_mem_of_not_mem_cons once
      cases carried with
      | stopped _ h => simp [Ne.symm hne]
      | accepted h rest => simp [ih rest hplan, Ne.symm hne]

/-- A plan whose last statement was sent was sent to its end. -/
theorem sent_eq_of_mem
    (carried : Carried (plan ++ [s]) log stop?)
    (once : s ∉ plan)
    (sent : ∃ e ∈ log, e.1 = s) :
    log.map (·.1) = plan ++ [s] := by
  rcases List.prefix_concat_iff.mp carried.sent_prefix with h | h
  · exact h
  · obtain ⟨e, he, rfl⟩ := sent
    exact absurd (h.subset (List.mem_map_of_mem he)) once

theorem length_pos
    (carried : Carried plan log stop?)
    (some : plan ≠ []) :
    0 < log.length := by
  cases carried with
  | finished => exact absurd rfl some
  | stopped _ _ => simp
  | accepted _ _ => simp

end Carried

/-! ## Exchanges that carry out a plan -/

section CarriesOut

variable {α β : Type}

/-- An exchange carries out a plan: it ends well if the plan is finished, and otherwise
in the setback. -/
def CarriesOut (x : Exchange StoreError α) (plan : List Statement) : Prop :=
  ∀ log outcome, Conversation x log outcome →
    (∃ a, outcome = .ok a ∧ Carried plan log none) ∨
    (∃ stop, outcome = .error stop ∧ Carried plan log (some stop))

theorem carriesOut_done (a : α) : CarriesOut (.done a) [] := by
  intro log outcome talk
  obtain ⟨rfl, rfl⟩ := conversation_done talk
  exact Or.inl ⟨a, rfl, .finished⟩

theorem CarriesOut.bind
    {x : Exchange StoreError α} {f : α → Exchange StoreError β}
    {plan plan' : List Statement}
    (first : CarriesOut x plan)
    (rest : ∀ a, CarriesOut (f a) plan') :
    CarriesOut (x.bind f) (plan ++ plan') := by
  intro log outcome talk
  rcases conversation_bind talk with ⟨stop, rfl, own⟩ | ⟨a, before, after, rfl, own, later⟩
  · rcases first _ _ own with ⟨_, h, _⟩ | ⟨_, h, carried⟩
    · cases h
    · cases h
      exact Or.inr ⟨stop, rfl, carried.stop_append plan'⟩
  · rcases first _ _ own with ⟨_, _, carried⟩ | ⟨_, h, _⟩
    · rcases rest a _ _ later with ⟨b, rfl, carried'⟩ | ⟨stop, rfl, carried'⟩
      · exact Or.inl ⟨b, rfl, carried.append carried'⟩
      · exact Or.inr ⟨stop, rfl, carried.append carried'⟩
    · cases h

theorem CarriesOut.map
    {x : Exchange StoreError α} {plan : List Statement}
    (carries : CarriesOut x plan)
    (f : α → β) :
    CarriesOut (x.bind fun a => .done (f a)) plan := by
  have h := carries.bind fun a => carriesOut_done (f a)
  rwa [List.append_nil] at h

/-- An exchange that sends one statement and then knows how it ends. -/
theorem carriesOut_ask
    {s : Statement} {next : Reply s.Row → Exchange StoreError α}
    (ends : ∀ r, (∃ a, next r = .done a ∧ setback? s r = none) ∨
      (∃ stop, next r = .fail stop ∧ setback? s r = some stop)) :
    CarriesOut (.ask s next) [s] := by
  intro log outcome talk
  obtain ⟨r, rest, rfl, later⟩ := conversation_ask talk
  rcases ends r with ⟨a, hnext, h⟩ | ⟨stop, hnext, h⟩
  · rw [hnext] at later
    obtain ⟨rfl, rfl⟩ := conversation_done later
    exact Or.inl ⟨a, rfl, .accepted h .finished⟩
  · rw [hnext] at later
    obtain ⟨rfl, rfl⟩ := conversation_fail later
    exact Or.inr ⟨stop, rfl, .stopped [] h⟩

/-- A statement whose rows do not matter. -/
theorem carriesOut_send
    {s : Statement}
    (anyRows : ∀ rs, shortfall? s rs = none) :
    CarriesOut (stored (send s)) [s] := by
  refine carriesOut_ask ?_
  intro r
  cases r with
  | rows rs => exact Or.inl ⟨(), rfl, by rw [setback?, anyRows]; rfl⟩
  | refused message => exact Or.inr ⟨_, rfl, rfl⟩
  | silent => exact Or.inr ⟨_, rfl, rfl⟩

theorem carriesOut_insertLine
    (id orderId : Identifier)
    (position : Int32)
    (line : PricedLine) :
    CarriesOut (stored (firstRow (.insertLine id orderId position line)))
      [.insertLine id orderId position line] := by
  refine carriesOut_ask ?_
  intro r
  cases r with
  | rows rs =>
      cases rs with
      | nil => exact Or.inr ⟨_, rfl, rfl⟩
      | cons row rs => exact Or.inl ⟨_, rfl, rfl⟩
  | refused message => exact Or.inr ⟨_, rfl, rfl⟩
  | silent => exact Or.inr ⟨_, rfl, rfl⟩

theorem orderOf_of_known
    {row : OrderRow} {status : OrderStatus}
    (known : OrderStatus.parse? row.status = some status) :
    ∃ order, orderOf row = .ok order := by
  rw [orderOf, OrderRow.order, known]
  exact ⟨_, rfl⟩

theorem orderOf_of_unknown
    {row : OrderRow}
    (unknown : OrderStatus.parse? row.status = none) :
    orderOf row = .error (.error (.invalidRow
      s!"order {row.id}: {OrderStatus.unknownMessage row.status}")) := by
  rw [orderOf, OrderRow.order, unknown]
  rfl

/-- The order that was added is read while the transaction is open, so a status that
cannot be read is a setback of the placement. -/
theorem carriesOut_insertOrderRow
    (id : Identifier)
    (code : String)
    (userId : Identifier)
    (totalPrice : Decimal) :
    CarriesOut
      ((stored (firstRow (.insertOrder id code userId totalPrice .new))).bind fun row =>
        .ofExcept (orderOf row))
      [.insertOrder id code userId totalPrice .new] := by
  refine carriesOut_ask ?_
  intro r
  cases r with
  | rows rs =>
      cases rs with
      | nil => exact Or.inr ⟨_, rfl, rfl⟩
      | cons row rs =>
          show (∃ order, ofExcept (orderOf row) = .done order ∧ _) ∨
            (∃ stop, ofExcept (orderOf row) = .fail stop ∧ _)
          cases hstatus : OrderStatus.parse? row.status with
          | some status =>
              obtain ⟨order, horder⟩ := orderOf_of_known hstatus
              exact Or.inl ⟨order, by rw [horder]; rfl, by simp [setback?, shortfall?, hstatus]⟩
          | none =>
              refine Or.inr ⟨_, by rw [orderOf_of_unknown hstatus]; rfl, ?_⟩
              simp [setback?, shortfall?, hstatus]
  | refused message => exact Or.inr ⟨_, rfl, rfl⟩
  | silent => exact Or.inr ⟨_, rfl, rfl⟩

/-- The statements that store lines, the first of which has the given position. -/
def linePlan
    (orderId : Identifier)
    (lineId : Nat → Identifier)
    (position : Nat)
    (lines : List PricedLine) :
    List Statement :=
  lines.mapIdx fun i line =>
    .insertLine (lineId (position + i)) orderId (Int32.ofNat (position + i)) line

theorem linePlan_cons
    (orderId : Identifier)
    (lineId : Nat → Identifier)
    (position : Nat)
    (line : PricedLine)
    (lines : List PricedLine) :
    linePlan orderId lineId position (line :: lines) =
      .insertLine (lineId position) orderId (Int32.ofNat position) line ::
        linePlan orderId lineId (position + 1) lines := by
  simp [linePlan, List.mapIdx_cons, Nat.add_assoc, Nat.add_comm 1]

theorem carriesOut_insertLines
    (orderId : Identifier)
    (lineId : Nat → Identifier)
    (position : Nat)
    (lines : List PricedLine) :
    CarriesOut (insertLines orderId lineId position lines)
      (linePlan orderId lineId position lines) := by
  induction lines generalizing position with
  | nil => exact carriesOut_done []
  | cons line lines ih =>
      rw [linePlan_cons]
      exact (carriesOut_insertLine _ _ _ _).bind fun _ => (ih (position + 1)).map _

end CarriesOut

/-! ## Transactions -/

/-- What is sent behind the statements of a transaction that stopped: nothing if it was
never begun or if the database does not answer any more, and otherwise it is taken
back. -/
def closing (sent : List Sent) : Stop StoreError → List Statement
  | .silence => []
  | .error _ => if sent.length ≤ 1 then [] else [.rollback]

theorem conversation_inTransaction
    {α : Type} {body : Exchange StoreError α} {plan : List Statement}
    (carries : CarriesOut body plan)
    {log : List Sent} {x : Except (Stop StoreError) α}
    (talk : Conversation (inTransaction body) log x) :
    (∃ a, x = .ok a ∧ Carried (.begin :: plan ++ [.commit]) log none) ∨
    (∃ stop sent rest,
      x = .error stop ∧ log = sent ++ rest ∧
        Carried (.begin :: plan ++ [.commit]) sent (some stop) ∧
        rest.map (·.1) = closing sent stop) := by
  have begins : CarriesOut (stored (send .begin)) [.begin] := carriesOut_send fun _ => rfl
  have commits : CarriesOut (stored (send .commit)) [.commit] := carriesOut_send fun _ => rfl
  rcases conversation_bind talk with ⟨stop, rfl, own⟩ | ⟨_, first, later, rfl, own, talk⟩
  · -- The transaction could not be begun.
    rcases begins _ _ own with ⟨_, h, _⟩ | ⟨_, h, carried⟩
    · cases h
    · cases h
      have hlength := carried.sent_prefix.length_le
      rw [List.length_map, List.length_singleton] at hlength
      refine Or.inr ⟨stop, log, [], rfl, by simp, carried.stop_append _, ?_⟩
      cases stop with
      | error e => simp [closing, hlength]
      | silence => rfl
  rcases begins _ _ own with ⟨_, _, begun⟩ | ⟨_, h, _⟩
  · rcases conversation_bind talk with ⟨_, _, own⟩ | ⟨y, middle, last, rfl, own, talk⟩
    · obtain ⟨_, h, _⟩ := conversation_attempt own
      cases h
    obtain ⟨_, h, own⟩ := conversation_attempt own
    cases h
    have inner : CarriesOut (body.bind fun a => (stored (send .commit)).bind fun _ => .done a)
        (plan ++ [.commit]) :=
      carries.bind fun a => commits.map fun _ => a
    rcases inner _ _ own with ⟨a, rfl, carried⟩ | ⟨stop, rfl, carried⟩
    · obtain ⟨rfl, rfl⟩ := conversation_done talk
      rw [List.append_nil]
      exact Or.inl ⟨a, rfl, begun.append carried⟩
    · -- Two statements at least were sent, and the last of them was a setback.
      have hlength : ¬ (first ++ middle).length ≤ 1 := by
        have hfirst := begun.length_pos (by simp)
        have hmiddle := carried.length_pos (by simp)
        rw [List.length_append]
        omega
      cases stop with
      | silence =>
          obtain ⟨rfl, rfl⟩ := conversation_fail talk
          exact Or.inr ⟨.silence, first ++ middle, [], rfl, by simp, begun.append carried, rfl⟩
      | error e =>
          obtain ⟨r, rest, rfl, ended⟩ := conversation_ask talk
          obtain ⟨rfl, rfl⟩ := conversation_fail ended
          exact Or.inr ⟨.error e, first ++ middle, [⟨.rollback, r⟩], rfl, by simp,
            begun.append carried, by rw [closing, if_neg hlength]; rfl⟩
  · cases h

/-! ## Placements -/

/-- The statements that store a new order and are to be committed. -/
def insertionPlan
    (o : Occasion)
    (userId : Identifier)
    (lines : List PricedLine)
    (totalPrice : Decimal) :
    List Statement :=
  .begin ::
    .insertOrder o.orderId (OrderCode.generate o.now o.draws) userId totalPrice .new ::
    lines.mapIdx fun i line => .insertLine (o.lineId i) o.orderId (Int32.ofNat i) line

/-- The statements that store a new order for good, if none of them is a setback. -/
def placementPlan
    (o : Occasion)
    (userId : Identifier)
    (lines : List PricedLine)
    (totalPrice : Decimal) :
    List Statement :=
  insertionPlan o userId lines totalPrice ++ [.commit]

theorem commit_not_mem_insertionPlan
    (o : Occasion)
    (userId : Identifier)
    (lines : List PricedLine)
    (totalPrice : Decimal) :
    .commit ∉ insertionPlan o userId lines totalPrice := by
  simp [insertionPlan, List.mem_mapIdx]

theorem params_insertionPlan
    (o : Occasion)
    (userId : Identifier)
    {lines : List PricedLine}
    (totalPrice : Decimal)
    (fits : lines.length < 2 ^ 31) :
    (insertionPlan o userId lines totalPrice).map Statement.params =
      [] ::
      [.identifier o.orderId, .text (OrderCode.generate o.now o.draws),
        .identifier userId, .amount totalPrice, .text "new"] ::
      lines.mapIdx fun i line =>
        [.identifier (o.lineId i), .identifier o.orderId, .identifier line.productId,
          .integer i, .integer line.quantity.toInt, .amount line.price] := by
  simp only [insertionPlan, List.map_cons, Statement.params, OrderStatus.text]
  congr 2
  refine List.ext_getElem (by simp) ?_
  intro i _ hi
  rw [List.length_mapIdx] at hi
  have hposition : (Int32.ofNat i).toInt = i := Int32.toInt_ofNat_of_lt (by omega)
  simp only [List.getElem_map, List.getElem_mapIdx, Statement.params, hposition]

/-- The texts of a plan depend on the number of its lines only. -/
theorem text_placementPlan
    (o : Occasion)
    (userId : Identifier)
    (lines : List PricedLine)
    (totalPrice : Decimal) :
    (placementPlan o userId lines totalPrice).map Statement.text =
      "BEGIN" ::
      ("INSERT INTO orders (id, code, user_id, total_price, status, version) " ++
        "VALUES ($1, $2, $3, $4, $5, 1) RETURNING " ++
        "id, code, user_id, total_price, status, version, created_at, updated_at") ::
      (List.replicate lines.length
        ("INSERT INTO order_lines (id, order_id, product_id, position, quantity, price) " ++
          "VALUES ($1, $2, $3, $4, $5, $6) RETURNING created_at, updated_at") ++
        ["COMMIT"]) := by
  rw [placementPlan, insertionPlan, List.map_append, List.map_cons, List.map_cons,
    List.cons_append, List.cons_append]
  congr 3
  refine List.eq_replicate_iff.mpr ⟨by rw [List.length_map, List.length_mapIdx], ?_⟩
  intro text mem
  obtain ⟨s, sent, rfl⟩ := List.mem_map.mp mem
  obtain ⟨i, _, rfl⟩ := List.mem_mapIdx.mp sent
  rfl

theorem conversation_insertOrder
    {o : Occasion} {userId : Identifier} {lines : List PricedLine} {totalPrice : Decimal}
    {log : List Sent} {x : Except (Stop StoreError) Order}
    (talk : Conversation (insertOrder o userId lines totalPrice) log x) :
    (∃ order, x = .ok order ∧
      Carried (placementPlan o userId lines totalPrice) log none) ∨
    (∃ stop sent rest,
      x = .error stop ∧ log = sent ++ rest ∧
        Carried (placementPlan o userId lines totalPrice) sent (some stop) ∧
        rest.map (·.1) = closing sent stop) := by
  have hlines := carriesOut_insertLines o.orderId o.lineId 0 lines
  simp only [linePlan, Nat.zero_add] at hlines
  refine conversation_inTransaction ?_ talk
  have horder := carriesOut_insertOrderRow o.orderId (OrderCode.generate o.now o.draws) userId
    totalPrice
  have h := horder.bind fun order => hlines.map fun lines => ({ order with lines } : Order)
  rw [bind_assoc] at h
  exact h

theorem conversation_create
    {budget : Duration} {o : Occasion} {userId : Identifier} {lines : List PricedLine}
    {totalPrice : Decimal}
    (total : Order.totalOf lines = .ok totalPrice)
    {log : List Sent} {x : Except Empty (Except (Interruption StoreError) Order)}
    (talk : Conversation (answer budget o (.create userId lines)) log x) :
    (∃ order, x = .ok (.ok order) ∧
      Carried (placementPlan o userId lines totalPrice) log none) ∨
    (∃ stop sent rest,
      x = .ok (.error (.error (stop.report budget))) ∧ log = sent ++ rest ∧
        Carried (placementPlan o userId lines totalPrice) sent (some stop) ∧
        rest.map (·.1) = closing sent stop) := by
  simp only [answer, total] at talk
  obtain ⟨_, rfl, attempted⟩ := conversation_attempt talk
  obtain ⟨_, rfl, bounded⟩ := conversation_mapError attempted
  obtain ⟨_, rfl, own⟩ := conversation_mapError bounded
  rcases conversation_insertOrder own with ⟨order, rfl, carried⟩ |
    ⟨stop, sent, rest, rfl, rfl, carried, closed⟩
  · exact Or.inl ⟨order, rfl, carried⟩
  · refine Or.inr ⟨stop, sent, rest, ?_, rfl, carried, closed⟩
    cases stop <;> rfl

/-- **Only whole orders are committed.**  Whatever the database answers to the call that
stores a new order:

* the statements sent are those of the plan, up to the last or to the first setback, and
  behind a setback only the one that takes the transaction back;
* a statement is sent only where all before it were accepted, so the commit is sent only
  behind the order and all its lines;
* the call succeeds exactly if the commit does, and otherwise it reports the setback.

The plan names one order throughout, each line with its own position.  Its texts, and that of
the statement that takes a transaction back, hold none of these values. -/
theorem only_whole_orders_are_committed
    {σ : Type}
    (server : (s : Statement) → σ → Reply s.Row × σ)
    (state : σ)
    (budget : Duration)
    (o : Occasion)
    (userId : Identifier)
    {lines : List PricedLine} {totalPrice : Decimal}
    (fits : lines.length < 2 ^ 31)
    (total : Order.totalOf lines = .ok totalPrice) :
    let plan := placementPlan o userId lines totalPrice
    let call := (answer budget o (.create userId lines)).record server state
    (∃ sent rest : List Sent,
      call.2 = sent ++ rest ∧
      sent.map (·.1) <+: plan ∧
      (∀ e ∈ sent.dropLast, e.Accepted) ∧
      ((∃ e ∈ sent, e.1 = .commit) → sent.map (·.1) = plan) ∧
      ((∃ order, call.1 = .ok (.ok order)) ↔ ∃ e ∈ sent, e.1 = .commit ∧ e.Accepted) ∧
      (∀ failure, call.1 = .ok (.error failure) ↔
        ∃ e ∈ sent, ∃ stop, setback? e.1 e.2 = some stop ∧
          failure = .error (stop.report budget)) ∧
      ((∃ order, call.1 = .ok (.ok order)) → rest = []) ∧
      (∀ e ∈ sent, ∀ stop, setback? e.1 e.2 = some stop →
        rest.map (·.1) = closing sent stop)) ∧
    plan.map Statement.text =
      "BEGIN" ::
      ("INSERT INTO orders (id, code, user_id, total_price, status, version) " ++
        "VALUES ($1, $2, $3, $4, $5, 1) RETURNING " ++
        "id, code, user_id, total_price, status, version, created_at, updated_at") ::
      (List.replicate lines.length
        ("INSERT INTO order_lines (id, order_id, product_id, position, quantity, price) " ++
          "VALUES ($1, $2, $3, $4, $5, $6) RETURNING created_at, updated_at") ++
        ["COMMIT"]) ∧
    Statement.text .rollback = "ROLLBACK" ∧
    (insertionPlan o userId lines totalPrice).map Statement.params =
      [] ::
      [.identifier o.orderId, .text (OrderCode.generate o.now o.draws),
        .identifier userId, .amount totalPrice, .text "new"] ::
      lines.mapIdx fun i line =>
        [.identifier (o.lineId i), .identifier o.orderId, .identifier line.productId,
          .integer i, .integer line.quantity.toInt, .amount line.price] := by
  intro plan call
  refine ⟨?_, text_placementPlan o userId lines totalPrice, rfl,
    params_insertionPlan o userId totalPrice fits⟩
  have once := commit_not_mem_insertionPlan o userId lines totalPrice
  have talk := conversation_record server (answer budget o (.create userId lines)) state
  rcases conversation_create total talk with ⟨order, hcall, carried⟩ |
    ⟨stop, sent, rest, hcall, hlog, carried, closed⟩
  · have hcall : call.1 = .ok (.ok order) := hcall
    refine ⟨call.2, [], by simp, carried.sent_prefix, carried.accepted_dropLast,
      carried.sent_eq_of_mem once, ?_, ?_, fun _ => rfl, ?_⟩
    · exact ⟨fun _ => (carried.finished_iff once).mp rfl, fun _ => ⟨order, hcall⟩⟩
    · intro failure
      rw [carried.report_iff]
      simp [hcall]
    · intro e he stop hstop
      have h := (carried.stop_iff stop).mpr ⟨e, he, hstop⟩
      cases h
  · have hcall : call.1 = .ok (.error (.error (stop.report budget))) := hcall
    refine ⟨sent, rest, hlog, carried.sent_prefix, carried.accepted_dropLast,
      carried.sent_eq_of_mem once, ?_, ?_, ?_, ?_⟩
    · simp [← carried.finished_iff once, hcall]
    · intro failure
      rw [carried.report_iff]
      simp [hcall, eq_comm]
    · rintro ⟨order, h⟩
      rw [hcall] at h
      cases h
    · intro e he stop' hstop
      have h := (carried.stop_iff stop').mpr ⟨e, he, hstop⟩
      cases h
      exact closed

/-- A database that takes every statement but the line at one position. -/
def refusingLineAt (refused : Int32) : (s : Statement) → Unit → Reply s.Row × Unit
  | .insertOrder id code userId totalPrice status, _ =>
    (.rows [⟨id, code, userId, totalPrice, status.text, 1, .ofSeconds 0, .ofSeconds 0⟩], ())
  | .insertLine _ _ position _, _ =>
    (if position = refused then .refused "refused" else .rows [(.ofSeconds 0, .ofSeconds 0)], ())
  | _, _ => (.rows [], ())

/-- Where the second line is refused, the order and the first line are taken back. -/
theorem only_whole_orders_are_committed_of_refused_line :
    let price : Decimal := ⟨false, 250, 2, by decide, by decide⟩
    let lines : List PricedLine := [⟨.ofNat 1, 2, price⟩, ⟨.ofNat 2, 1, price⟩]
    let total : Decimal := ⟨false, 500, 2, by decide, by decide⟩
    let o : Occasion := ⟨.ofNat 7, .ofNat, fun _ => ⟨0, by decide⟩, .ofSeconds 0⟩
    let plan := placementPlan o .nil lines total
    let call := (answer ⟨0⟩ o (.create .nil lines)).record (refusingLineAt 1) ()
    lines.length < 2 ^ 31 ∧ Order.totalOf lines = .ok total ∧
      call.2.map (·.1) = plan.take 4 ++ [.rollback] ∧
      call.1 = .ok (.error (.error (.database (.server "refused")))) ∧
      ∃ sent rest : List Sent,
        call.2 = sent ++ rest ∧ sent.map (·.1) <+: plan ∧ ∀ e ∈ sent, e.1 ≠ .commit := by
  intro price lines total o plan call
  have fits : lines.length < 2 ^ 31 := by decide
  have htotal : Order.totalOf lines = .ok total := by decide
  have statements : call.2.map (·.1) = plan.take 4 ++ [.rollback] := by decide +kernel
  have outcome : call.1 = .ok (.error (.error (.database (.server "refused")))) := by decide +kernel
  obtain ⟨⟨sent, rest, hlog, hprefix, _⟩, _⟩ :=
    only_whole_orders_are_committed (refusingLineAt 1) () ⟨0⟩ o .nil fits htotal
  refine ⟨fits, htotal, statements, outcome, sent, rest, hlog, hprefix, ?_⟩
  intro e he hcommit
  have sent_commit : .commit ∈ call.2.map (·.1) := by
    rw [show call.2 = sent ++ rest from hlog, ← hcommit]
    exact List.mem_map_of_mem (List.mem_append_left _ he)
  rw [statements] at sent_commit
  exact absurd sent_commit (by decide +kernel)

end Sql
end OrderDesk
