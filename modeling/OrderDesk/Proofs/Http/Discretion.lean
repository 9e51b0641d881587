import OrderDesk.Http.Api
import OrderDesk.Memory.Disturbance
import OrderDesk.Proofs.Http.Reports
import OrderDesk.Proofs.Memory.Deeds

/-!
# What stays inside

A client learns that the database has failed, or that it took too long.  It does not learn
what the database said, nor how long it took: such errors are alike (`StoreError.Alike`).
So two runs of one request that differ only in this end alike, in the response and in the
state.

* `Service.PassesOn`: an operation that stops at every such error, with nothing but it.
* `Discreet`: an answer to a request that goes on in the same way after errors that are
  alike.  Once an operation is settled, its failures are hidden behind their reports
  (`discreet_settle`).
* `respond_conceals_persistence`: the two runs.
-/

namespace OrderDesk

namespace Service

variable {α β : Type}

/-- Whatever is called, an error that is not that of a missing row ends the task, which
fails with that error. -/
def PassesOn : Task Failure α → Prop
  | .done _ => True
  | .fail _ => True
  | .ask c next =>
    (∀ e : StoreError, e.isNotFound = false → next (c.failed e) = .fail (passed e)) ∧
    ∀ r, PassesOn (next r)

theorem passesOn_ofExcept
    (x : Except Failure α) :
    PassesOn (.ofExcept x) := by
  cases x <;> trivial

theorem passesOn_bind
    {task : Task Failure α} {f : α → Task Failure β}
    (first : PassesOn task)
    (rest : ∀ a, PassesOn (f a)) :
    PassesOn (task.bind f) := by
  induction task with
  | done a =>
      exact rest a
  | fail e =>
      trivial
  | ask c next ih =>
      constructor
      · intro e other
        exact congrArg (Dialogue.bind · f) (first.1 e other)
      · intro r
        exact ih r (first.2 r)

theorem passesOn_resolve
    (id : Identifier) :
    PassesOn (resolve id) := by
  constructor
  · intro e other
    simp [Call.failed, other]
  · intro r
    cases r with
    | ok product =>
        trivial
    | error e =>
        cases e <;> trivial

theorem passesOn_productFor
    (known : Known)
    (id : Identifier) :
    PassesOn (productFor known id) := by
  rw [productFor]
  split
  · trivial
  · exact passesOn_bind (passesOn_resolve id) fun _ => trivial

theorem passesOn_priceLines
    (lines : List ValidLine)
    (known : Known) :
    PassesOn (priceLines lines known) := by
  induction lines generalizing known with
  | nil =>
      trivial
  | cons line lines ih =>
      refine passesOn_bind (passesOn_productFor known line.productId) ?_
      rintro ⟨product, known'⟩
      refine passesOn_bind (passesOn_ofExcept _) ?_
      intro priced
      exact passesOn_bind (ih known') fun _ => trivial

theorem passesOn_store
    (userId : Identifier)
    (lines : List PricedLine) :
    PassesOn (store userId lines) := by
  constructor
  · intro e _
    rfl
  · intro r
    cases r with
    | ok order =>
        trivial
    | error e =>
        cases e <;> trivial

theorem passesOn_place
    (policy : OrderPolicy)
    (userId : Identifier)
    (request : List LineRequest) :
    PassesOn (place policy userId request) := by
  refine passesOn_bind (passesOn_ofExcept _) ?_
  intro valid
  refine passesOn_bind (passesOn_priceLines valid []) ?_
  rintro ⟨lines, known⟩
  exact passesOn_bind (passesOn_store userId lines) fun _ => trivial

theorem passesOn_get
    (id : Identifier) :
    PassesOn (get id) := by
  constructor
  · intro e _
    rfl
  · intro r
    cases r <;> trivial

theorem passesOn_list
    (userId : Identifier)
    (query : OrderQuery) :
    PassesOn (list userId query) := by
  constructor
  · intro e _
    rfl
  · intro r
    cases r <;> trivial

theorem passesOn_cancel
    (id userId : Identifier) :
    PassesOn (cancel id userId) := by
  constructor
  · intro e _
    rfl
  · intro loaded
    cases loaded with
    | error e =>
        trivial
    | ok order =>
        cases hdecide : decideCancel id userId order with
        | error failure =>
            simp only [hdecide]
            trivial
        | ok copy =>
            simp only [hdecide]
            constructor
            · intro e _
              rfl
            · intro saved
              cases saved <;> trivial

end Service

namespace Api

section Discretion

variable {ε α β : Type}

/-- Whatever is called, what follows upon errors that are alike is the same. -/
def Discreet : Task ε α → Prop
  | .done _ => True
  | .fail _ => True
  | .ask c next =>
    (∀ e e' : StoreError, e.Alike e' → next (c.failed e) = next (c.failed e')) ∧
    ∀ r, Discreet (next r)

theorem discreet_bind
    {task : Task ε α} {f : α → Task ε β}
    (first : Discreet task)
    (rest : ∀ a, Discreet (f a)) :
    Discreet (task.bind f) := by
  induction task with
  | done a =>
      exact rest a
  | fail e =>
      trivial
  | ask c next ih =>
      constructor
      · intro e e' alike
        exact congrArg (Dialogue.bind · f) (first.1 e e' alike)
      · intro r
        exact ih r (first.2 r)

/-- A discreet task that is run under faults that are alike ends in the same way. -/
theorem Discreet.run_eq
    {task : Task ε α}
    (discreet : Discreet task)
    {e e' : StoreError}
    (alike : e.Alike e')
    (kind : Call.Kind)
    (interference : Option OrderStatus)
    (o : Occasion)
    (m : Memory) :
    task.run (({ fault := some ⟨kind, e⟩, interference } : Disturbance).answer o) m =
      task.run (({ fault := some ⟨kind, e'⟩, interference } : Disturbance).answer o) m := by
  induction task generalizing m with
  | done a =>
      rfl
  | fail failure =>
      rfl
  | ask c next ih =>
      by_cases hits : kind = c.kind
      · -- the call fails in both runs, and nothing has been done
        have hanswer : ∀ e : StoreError,
            ({ fault := some ⟨kind, e⟩, interference } : Disturbance).answer o c m =
              (c.failed e, m) := by
          intro e
          simp only [Disturbance.answer, Disturbance.faultOf?, hits, if_true]
        rw [Dialogue.run, Dialogue.run, hanswer e, hanswer e']
        dsimp only
        rw [← discreet.1 e e' alike]
        exact ih _ (discreet.2 _) m
      · -- the call is answered without regard to the fault
        have hanswer :
            ({ fault := some ⟨kind, e⟩, interference } : Disturbance).answer o c m =
              ({ fault := some ⟨kind, e'⟩, interference } : Disturbance).answer o c m := by
          simp only [Disturbance.answer, Disturbance.faultOf?, hits, if_false]
          rfl
        rw [Dialogue.run, Dialogue.run, hanswer]
        exact ih _ (discreet.2 _) _

end Discretion

/-- The response to a failed operation shows no more than its report. -/
theorem discreet_settle
    {α : Type} {task : Task Service.Failure α}
    (respond : α → Response)
    (passesOn : Service.PassesOn task) :
    Discreet (settle respond task) := by
  rw [settle, Dialogue.monad_bind_eq]
  induction task with
  | done a =>
      trivial
  | fail failure =>
      cases failure <;> trivial
  | ask c next ih =>
      constructor
      · intro e e' alike
        obtain ⟨other, other'⟩ := alike.isNotFound
        have hreport : refusal (.store e) = refusal (.store e') :=
          congrArg ErrorReport.response alike.report_eq
        dsimp only
        rw [passesOn.1 e other, passesOn.1 e' other']
        exact congrArg Dialogue.done hreport
      · intro r
        exact ih r (passesOn.2 r)

theorem discreet_placeOrder
    (policy : OrderPolicy)
    (userId : Identifier)
    (r : Request) :
    Discreet (placeOrder policy userId r) := by
  rw [placeOrder]
  split
  · exact discreet_settle _ (Service.passesOn_place policy userId _)
  · trivial

theorem discreet_listOrders
    (userId : Identifier)
    (r : Request) :
    Discreet (listOrders userId r) := by
  rw [listOrders]
  split
  · exact discreet_settle _ (Service.passesOn_list userId _)
  · trivial

theorem discreet_withOrder
    (sent : List UInt8)
    {answering : Identifier → Answering}
    (discreet : ∀ id, Discreet (answering id)) :
    Discreet (withOrder sent answering) := by
  rw [withOrder]
  split
  · exact discreet _
  · trivial

theorem discreet_dispatch
    (policy : OrderPolicy)
    (userId : Identifier)
    (r : Request)
    (route : OrderRoute) :
    Discreet (dispatch policy userId r route) := by
  have reading : ∀ id, Discreet (getOrder userId id) :=
    fun id => discreet_settle _ (Service.passesOn_get id)
  have cancelling : ∀ id, Discreet (cancelOrder userId id) :=
    fun id => discreet_settle _ (Service.passesOn_cancel id userId)
  cases route with
  | all =>
      rw [dispatch]
      split
      · exact discreet_placeOrder policy userId r
      · exact discreet_listOrders userId r
      · exact discreet_listOrders userId r
      · trivial
  | one sent =>
      rw [dispatch]
      split
      · exact discreet_withOrder sent reading
      · exact discreet_withOrder sent reading
      · trivial
  | cancellation sent =>
      rw [dispatch]
      split
      · exact discreet_withOrder sent cancelling
      · trivial

theorem discreet_respond
    (policy : OrderPolicy)
    (random : Identifier)
    (r : Request) :
    Discreet (respond policy random r) := by
  rw [respond]
  split
  · trivial
  · trivial
  · rename_i route _
    refine discreet_bind ?_ fun _ => trivial
    rw [answerCaller]
    split
    · exact discreet_dispatch policy _ r route
    · trivial

/-- **What the database says does not reach a client.**  In every state, whatever is
requested, and whichever kind of call is made to fail: two errors of persistence, whatever
their texts, lead to the same response and to the same state, and so do two timeouts,
whatever their durations. -/
theorem respond_conceals_persistence
    (policy : OrderPolicy)
    (random : Identifier)
    (r : Request)
    (kind : Call.Kind)
    (interference : Option OrderStatus)
    (o : Occasion)
    (m : Memory)
    {e e' : StoreError}
    (alike : e.Alike e') :
    let run := fun error : StoreError =>
      (respond policy random r).run
        (({ fault := some ⟨kind, error⟩, interference } : Disturbance).answer o) m
    run e = run e' :=
  (discreet_respond policy random r).run_eq alike kind interference o m

/-- A cancellation whose write fails, after a status was set from outside. -/
theorem respond_conceals_persistence_of_failed_write :
    let m : Memory := { orders := [Memory.newOrder (.numbered 1) (.ofNat 1) [] .zero] }
    let r : Request :=
      { method := .put
        target := Utf8.ofString "/api/v1/orders/00000000-0000-0000-0000-000000000001/cancel"
        headers := [⟨"X-Request-User-Id",
          Utf8.ofString "00000000-0000-0000-0000-000000000001"⟩]
        body := [] }
    let run := fun error : StoreError =>
      (respond {} .nil r).run
        (({ fault := some ⟨.save, error⟩, interference := some .done } : Disturbance).answer
          (.numbered 2)) m
    let e : StoreError := .database (.server "deadlock detected")
    let e' : StoreError := .invalidRow "unknown order status: lost"
    e ≠ e' ∧ (run e).1.toOption.map (·.status) = some .internalError ∧ run e = run e' := by
  intro m r run e e'
  have alike : e.Alike e' := .persistence (.database _) (.invalidRow _)
  refine ⟨by decide, by decide +kernel, ?_⟩
  exact respond_conceals_persistence {} .nil r .save (some .done) (.numbered 2) m alike

end Api
end OrderDesk
