import OrderDesk.Proofs.Documents
import OrderDesk.Proofs.Http.Operations
import OrderDesk.Proofs.Http.Reports
import OrderDesk.Proofs.Listing.Pages
import OrderDesk.Proofs.Memory.Disturbance

/-!
# Users are kept apart

Whoever sends requests to the paths of orders is shown only orders of the own user, and
changes only those.  Each of the four operations sees to that in its own way: a placement
stores under the calling user, a listing selects by the user, an order that is read is shown
to its owner alone, and a cancellation asks for the owner before it writes.

* `Isolates`: what an answer shows and leaves.
* `isolates_dispatch`: the answer of every operation, whatever may disturb it.
* `respond_keeps_users_apart`: every request in every state that can be reached.
-/

namespace OrderDesk

namespace Api

open Memory

/-- The orders that an answer shows are the user's own, and the orders of others are as they
were, but for a status that was set from outside. -/
structure Isolates
    (userId : Identifier)
    (outside : Option OrderStatus)
    (now : Instant)
    (m : Memory)
    (result : Except Overflow Response × Memory) :
    Prop where
  shows : ∀ response,
    result.1 = .ok response → response.status = .ok → response.body.ShowsOnly userId
  spares : Spares userId outside now m result.2

section Isolation

variable {userId : Identifier} {outside : Option OrderStatus} {now : Instant} {m : Memory}
variable {answer : (c : Call) → Memory → c.Answer × Memory}

theorem isolates_done
    {response : Response}
    (refuses : response.status ≠ .ok) :
    Isolates userId outside now m ((.done response : Answering).run answer m) := by
  constructor
  · intro response' same status
    cases same
    exact absurd status refuses
  · exact (Leaves.refl userId m).spares outside now

theorem isolates_methodNotAllowed :
    Isolates userId outside now m
      ((.done (.bare .methodNotAllowed) : Answering).run answer m) :=
  isolates_done nofun

theorem isolates_refusal
    (e : ServiceError) :
    Isolates userId outside now m ((.done (refusal e) : Answering).run answer m) :=
  isolates_done e.report_status_ne_ok

theorem isolates_settle
    {α : Type} {respond : α → Response} {task : Task Service.Failure α}
    (shows : ∀ a, (task.run answer m).1 = .ok a →
      (respond a).status = .ok → (respond a).body.ShowsOnly userId)
    (spares : Spares userId outside now m (task.run answer m).2) :
    Isolates userId outside now m ((settle respond task).run answer m) := by
  rw [run_settle]
  constructor
  · intro response same status
    cases hrun : (task.run answer m).1 with
    | ok a =>
        rw [hrun] at same
        cases same
        exact shows a hrun status
    | error failure =>
        rw [hrun] at same
        cases failure with
        | error e =>
            cases same
            exact absurd status e.report_status_ne_ok
        | overflow x =>
            cases same
  · exact spares

end Isolation

section Operations

variable (d : Disturbance) (o : Occasion) (m : Memory) (userId : Identifier)

theorem showOrder_showsOnly
    {userId : Identifier} {order : Order}
    (own : order.userId = userId) :
    (showOrder order).body.ShowsOnly userId :=
  .order (OrderView.of order) own

theorem isolates_placeOrder
    (policy : OrderPolicy)
    (r : Request) :
    Isolates userId d.interference o.now m
      ((placeOrder policy userId r).run (d.answer o) m) := by
  rw [placeOrder]
  cases requestedLines r with
  | error e =>
      exact isolates_refusal _
  | ok lines =>
      have alike := d.run_place o m policy userId lines
      cases hrun : (Service.place policy userId lines).run (answerUnder d.fault o) m with
      | mk result m' =>
          cases result with
          | error failure =>
              have unchanged := Service.place_fails_atomically policy userId lines failure
                (congrArg Prod.fst hrun)
              refine isolates_settle ?_ ?_
              · intro order placed
                rw [alike, hrun] at placed
                cases placed
              · rw [alike, unchanged]
                exact (Leaves.refl userId m).spares _ _
          | ok order =>
              obtain ⟨_, priced, totalPrice, _, _, _, _, _, _, horder, hstate⟩ :=
                Service.place_eq_ok hrun
              refine isolates_settle ?_ ?_
              · intro order' placed _
                rw [alike, hrun] at placed
                cases placed
                apply showOrder_showsOnly
                rw [horder]
                rfl
              · rw [alike, hrun, hstate]
                exact (leaves_append userId m _).spares _ _

theorem isolates_listOrders
    (r : Request) :
    Isolates userId d.interference o.now m
      ((listOrders userId r).run (d.answer o) m) := by
  rw [listOrders]
  cases requestedListing r with
  | error e =>
      exact isolates_refusal _
  | ok query =>
      have alike := d.run_list o m userId query
      refine isolates_settle ?_ ?_
      · intro listing listed _
        rw [alike, Service.run_list] at listed
        rcases answerUnder_cases d.fault o (.page userId query) m with ⟨e, h⟩ | h
        · rw [h] at listed
          cases listed
        · rw [h] at listed
          cases listed
          apply Body.ShowsOnly.listing
          intro view hview
          obtain ⟨order, horder, rfl⟩ := List.mem_map.mp hview
          obtain ⟨stored, _, admits, rfl⟩ := m.stored_of_mem_pageAt userId query horder
          exact (m.shown_userId stored).trans admits.user
      · rw [alike, Service.run_list]
        exact (Leaves.refl userId m).spares _ _

theorem isolates_getOrder
    (id : Identifier) :
    Isolates userId d.interference o.now m
      ((getOrder userId id).run (d.answer o) m) := by
  have shown_to_owner : ∀ order,
      (showOwnOrder id userId order).status = .ok →
        (showOwnOrder id userId order).body.ShowsOnly userId := by
    intro order status
    rw [showOwnOrder] at status ⊢
    by_cases own : order.isOwnedBy userId = true
    · rw [if_pos own]
      exact showOrder_showsOnly (by simpa [Order.isOwnedBy] using own)
    · rw [if_neg own] at status
      exact absurd status (ServiceError.report_status_ne_ok _)
  refine isolates_settle (fun order _ => shown_to_owner order) ?_
  rw [Service.get, Dialogue.run]
  rcases d.answer_load_cases o m id true with ⟨e, h⟩ | ⟨stored, found, h⟩
  · rw [h]
    exact (Leaves.refl userId m).spares _ _
  · rw [h]
    exact d.spares_interfered userId o.now id

theorem run_writing_snd
    (answer : (c : Call) → Memory → c.Answer × Memory)
    (copy : Order) :
    ((Service.writing copy).run answer m).2 = (answer (.save copy) m).2 := by
  cases hanswer : answer (.save copy) m with
  | mk r m' =>
      cases r with
      | ok stamp =>
          simp only [Service.writing, Dialogue.run, hanswer]
      | error e =>
          simp only [Service.writing, Dialogue.run, hanswer]

theorem userId_of_run_writing
    {answer : (c : Call) → Memory → c.Answer × Memory}
    {copy order : Order}
    (written : ((Service.writing copy).run answer m).1 = .ok order) :
    order.userId = copy.userId := by
  cases hanswer : answer (.save copy) m with
  | mk r m' =>
      cases r with
      | ok stamp =>
          simp only [Service.writing, Dialogue.run, hanswer] at written
          cases written
          rfl
      | error e =>
          simp only [Service.writing, Dialogue.run, hanswer] at written
          cases written

/-- A cancellation loads first.  What it goes on with is decided on the loaded copy, and
whatever it writes goes to an order of the calling user. -/
theorem isolates_cancelOrder
    (distinct : m.Distinct)
    (id : Identifier) :
    Isolates userId d.interference o.now m
      ((cancelOrder userId id).run (d.answer o) m) := by
  rw [cancelOrder]
  rcases d.answer_load_cases o m id false with ⟨e, hload⟩ | ⟨stored, found, hload⟩
  · have hrun : (Service.cancel id userId).run (d.answer o) m =
        (.error (Service.passed e), m) := by
      simp only [Service.cancel, Dialogue.run, hload]
    refine isolates_settle ?_ ?_
    · intro order cancelled
      rw [hrun] at cancelled
      cases cancelled
    · rw [hrun]
      exact (Leaves.refl userId m).spares _ _
  · have hload : d.answer o (.load id false) m =
        (.ok stored.withoutLines, d.interfered m o.now id) := hload
    cases hdecide : Service.decideCancel id userId stored.withoutLines with
    | error failure =>
        have hrun : (Service.cancel id userId).run (d.answer o) m =
            (.error failure, d.interfered m o.now id) := by
          simp only [Service.cancel, Dialogue.run, hload, hdecide]
        refine isolates_settle ?_ ?_
        · intro order cancelled
          rw [hrun] at cancelled
          cases cancelled
        · rw [hrun]
          exact d.spares_interfered userId o.now id
    | ok copy =>
        obtain ⟨own, _, hcopy⟩ := Service.decideCancel_eq_ok_iff.mp hdecide
        have hrun : (Service.cancel id userId).run (d.answer o) m =
            (Service.writing copy).run (d.answer o) (d.interfered m o.now id) := by
          simp only [Service.cancel, Dialogue.run, hload, hdecide]
          rfl
        have hid : copy.id = id := by
          rw [hcopy, Service.cancelledCopy_id, id_of_find? found]
        have owns : Owns userId m id := owns_of_find? distinct found own
        refine isolates_settle ?_ ?_
        · intro order cancelled _
          rw [hrun] at cancelled
          apply showOrder_showsOnly
          rw [userId_of_run_writing _ cancelled, hcopy]
          exact own
        · have hkind : (Call.save copy).kind ≠ .load := by
            intro h
            cases h
          have hsave := d.answer_of_not_load o (d.interfered m o.now id) hkind
          have later : Owns userId (d.interfered m o.now id) copy.id := by
            rw [hid]
            exact d.owns_interfered owns o.now
          rw [hrun, run_writing_snd, hsave]
          exact ((d.leaves_interfered owns o.now).trans
            (leaves_answerUnder_save d.fault o copy later)).spares _ _

theorem isolates_withOrder
    (sent : List UInt8)
    {answering : Identifier → Answering}
    (isolates : ∀ id, Isolates userId d.interference o.now m
      ((answering id).run (d.answer o) m)) :
    Isolates userId d.interference o.now m ((withOrder sent answering).run (d.answer o) m) := by
  rw [withOrder]
  cases pathIdentifier sent with
  | ok id =>
      exact isolates id
  | error text =>
      exact isolates_done nofun

/-- Every operation on orders keeps users apart. -/
theorem isolates_dispatch
    (distinct : m.Distinct)
    (policy : OrderPolicy)
    (r : Request)
    (route : OrderRoute) :
    Isolates userId d.interference o.now m
      ((dispatch policy userId r route).run (d.answer o) m) := by
  cases route with
  | all =>
      rw [dispatch]
      cases r.method with
      | post =>
          exact isolates_placeOrder d o m userId policy r
      | get =>
          exact isolates_listOrders d o m userId r
      | head =>
          exact isolates_listOrders d o m userId r
      | put =>
          exact isolates_methodNotAllowed
      | other =>
          exact isolates_methodNotAllowed
  | one id =>
      rw [dispatch]
      cases r.method with
      | get =>
          exact isolates_withOrder d o m userId id (isolates_getOrder d o m userId)
      | head =>
          exact isolates_withOrder d o m userId id (isolates_getOrder d o m userId)
      | post =>
          exact isolates_methodNotAllowed
      | put =>
          exact isolates_methodNotAllowed
      | other =>
          exact isolates_methodNotAllowed
  | cancellation id =>
      rw [dispatch]
      cases r.method with
      | put =>
          exact isolates_withOrder d o m userId id (isolates_cancelOrder d o m userId distinct)
      | get =>
          exact isolates_methodNotAllowed
      | head =>
          exact isolates_methodNotAllowed
      | post =>
          exact isolates_methodNotAllowed
      | other =>
          exact isolates_methodNotAllowed

end Operations

/-- A response keeps its status when it is given a name and trimmed, and its body or none. -/
theorem isolates_finished
    {userId : Identifier} {outside : Option OrderStatus} {now : Instant} {m : Memory}
    {answer : (c : Call) → Memory → c.Answer × Memory}
    {answering : Answering}
    (isolates : Isolates userId outside now m (answering.run answer m))
    (r : Request)
    (route : Route)
    (name : Identifier) :
    Isolates userId outside now m
      ((answering.bind fun response =>
        .done (trimmedFor r route (response.correlated name))).run answer m) := by
  rw [Dialogue.run_bind]
  cases hrun : answering.run answer m with
  | mk result m' =>
      rw [hrun] at isolates
      cases result with
      | error x =>
          exact ⟨nofun, isolates.spares⟩
      | ok response =>
          refine ⟨?_, isolates.spares⟩
          intro trimmed same status
          cases same
          rw [trimmedFor] at status ⊢
          split at status
          · rename_i bare
            rw [if_pos bare]
            exact .nothing
          · rename_i whole
            rw [if_neg whole]
            exact isolates.shows response rfl status

/-- **Users are kept apart.**  In every state that a run with fresh identifiers reaches,
whoever sends a request to a path of orders, whatever it carries, whatever fails, and even
if a status is set from outside between a load and a write:

* all orders that a successful response shows are those of the calling user, and no other
  user is named in its document;
* every order of another user stands in its place as it stood, but for the status that was
  set from outside. -/
theorem respond_keeps_users_apart
    {desk : Desk} {es : List Desk.Event}
    (opened : desk.Opened)
    (fresh : desk.Along Desk.Fresh es)
    (policy : OrderPolicy)
    (random : Identifier)
    {r : Request} {route : OrderRoute} {userId : Identifier}
    (path : Route.ofPath? r.path = some (.orders route))
    (caller : callingUser r = .ok userId)
    (d : Disturbance)
    (o : Occasion) :
    let m := (desk.after es).memory
    let run := (respond policy random r).run (d.answer o) m
    (∀ response, run.1 = .ok response → response.status = .ok →
      response.body.ShowsOnly userId ∧
      ∀ v, response.body = .document v →
        ∀ user ∈ v.named "user_id", user = .text userId.text) ∧
    (∀ (i : Nat) (stored : Order),
      m.orders[i]? = some stored → stored.userId ≠ userId →
        run.2.orders[i]? = some stored ∨
        ∃ status, d.interference = some status ∧
          run.2.orders[i]? = some (written stored status o.now)) := by
  intro m run
  have distinct : m.Distinct := Desk.distinct_after opened.distinct fresh
  have isolates : Isolates userId d.interference o.now m run := by
    have hrespond : respond policy random r =
        (dispatch policy userId r route).bind fun response =>
          .done (trimmedFor r (.orders route) (response.correlated (correlationId r random))) := by
      rw [respond, path]
      simp only [answerCaller, caller]
      rfl
    have dispatched := isolates_dispatch d o m userId distinct policy r route
    have finished := isolates_finished dispatched r (.orders route) (correlationId r random)
    rw [← hrespond] at finished
    exact finished
  refine ⟨?_, isolates.spares⟩
  intro response answered status
  have shows := isolates.shows response answered status
  refine ⟨shows, ?_⟩
  intro v hbody
  rw [hbody] at shows
  exact shows.named_userId

/-- Whoever tries to cancel the order of another user is refused, and what becomes of the
order is only what was done to it from outside. -/
theorem respond_keeps_users_apart_of_foreign_cancellation :
    let desk : Desk := { memory := {} }
    let es : List Desk.Event := [.create (.numbered 1) (.ofNat 1) []]
    let r : Request :=
      { method := .put
        target := Utf8.ofString "/api/v1/orders/00000000-0000-0000-0000-000000000001/cancel"
        headers := [⟨"X-Request-User-Id",
          Utf8.ofString "00000000-0000-0000-0000-000000000002"⟩]
        body := [] }
    let d : Disturbance := { interference := some .inProgress }
    let m := (desk.after es).memory
    let run := (respond {} .nil r).run (d.answer (.numbered 2)) m
    desk.Opened ∧ desk.Along Desk.Fresh es ∧
      callingUser r = .ok (.ofNat 2) ∧
      run.1.toOption.map (·.status) = some .forbidden ∧
      ∃ stored, m.orders[0]? = some stored ∧ stored.userId = .ofNat 1 ∧
        (run.2.orders[0]? = some stored ∨
          ∃ status, d.interference = some status ∧
            run.2.orders[0]? = some (written stored status (Occasion.numbered 2).now)) := by
  intro desk es r d m run
  have opened : desk.Opened := ⟨rfl, rfl, rfl⟩
  have fresh : desk.Along Desk.Fresh es := by decide
  have path : Route.ofPath? r.path = some (.orders (.cancellation
      (Utf8.ofString "00000000-0000-0000-0000-000000000001"))) := by
    decide +kernel
  have caller : callingUser r = .ok (.ofNat 2) := by decide +kernel
  have refused : run.1.toOption.map (·.status) = some .forbidden := by decide +kernel
  obtain ⟨_, others⟩ :=
    respond_keeps_users_apart opened fresh {} .nil path caller d (.numbered 2)
  have stands : m.orders[0]? = some (newOrder (.numbered 1) (.ofNat 1) [] .zero) := rfl
  have other : (newOrder (.numbered 1) (.ofNat 1) [] .zero).userId ≠ .ofNat 2 := by
    decide
  exact ⟨opened, fresh, caller, refused, _, stands, rfl, others 0 _ stands other⟩

end Api
end OrderDesk
