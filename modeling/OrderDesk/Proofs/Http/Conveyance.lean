import OrderDesk.Proofs.Http.Operations
import OrderDesk.Proofs.Http.Reports
import OrderDesk.Proofs.Memory.Faults
import OrderDesk.Proofs.Service

/-!
# What the web interface adds to the service

Between a client and the service the web interface reads what the request carries, and
writes what the service answers.  What cannot be read is refused before the service is
asked for anything; otherwise the service is asked once, with what was read, and its
answer is conveyed as it is.  The one thing that is decided here is who may read an order.

* `Conveys`: what a client is answered for the outcome of an operation.
* `RefusesInput`: the answer to a request that cannot be read.
* `ownOnly`: the outcome of reading an order, for a user who may see only the own ones.
* `respond_conveys_the_service`: the four operations, for every partner who answers the
  calls of the service.  So it holds of the store in memory in all its states and under all
  disturbances, and what is said of the state is said of all calls that lead there.
-/

namespace OrderDesk

/-- The response with a document, under the name of its request. -/
def Response.under
    (name : Identifier)
    (status : HttpStatus)
    (v : Json.Value) :
    Response where
  status
  contentType := some "application/json"
  correlation := some name
  body := .document v

namespace Api

/-- What a client sees of an order. -/
def orderDocument (o : Order) : Json.Value :=
  (OrderView.of o).document

/-- What a client sees of a page of orders. -/
def listingDocument (listing : List Order × Page) : Json.Value :=
  (ListingView.of listing.1 listing.2).document

/-- What is answered for the outcome of an operation: the document of its result, or the
report of its error.  An amount that is too large has no response. -/
inductive Conveys
    {α : Type}
    (name : Identifier)
    (document : α → Json.Value) :
    Except Service.Failure α → Except Overflow Response → Prop where
  | result
      (a : α) :
      Conveys name document (.ok a) (.ok (.under name .ok (document a)))
  | error
      (e : ServiceError) :
      Conveys name document (.error (.error e))
        (.ok (.under name e.report.status e.report.document))
  | overflow
      (x : Overflow) :
      Conveys name document (.error (.overflow x)) (.error x)

/-- The request is answered as invalid, and the state is as it was. -/
def RefusesInput
    {σ : Type}
    (name : Identifier)
    (s : σ)
    (run : Except Overflow Response × σ) :
    Prop :=
  ∃ details : String,
    run =
      (.ok (.under name .badRequest
        (.object
          [("error", .text ("Invalid input: " ++ details)),
            ("error_code", .text "invalid_input"),
            ("details", .text details)])), s)

/-- The outcome of reading an order, for a user who may see only the own ones. -/
def ownOnly
    (id userId : Identifier) :
    Except Service.Failure Order → Except Service.Failure Order
  | .ok order =>
    if order.userId = userId then .ok order
    else .error (Service.refused (.permissionDenied id))
  | .error failure => .error failure

section Operations

variable {σ : Type} (answer : (c : Call) → σ → c.Answer × σ) (s : σ)
variable (policy : OrderPolicy) (random : Identifier)
variable {r : Request} {userId : Identifier}

theorem conveys_settle
    {α : Type}
    (name : Identifier)
    (document : α → Json.Value)
    (task : Task Service.Failure α) :
    Conveys name document (task.run answer s).1
      (((settle (fun a => .ok (document a)) task).run answer s).1.map (·.correlated name)) := by
  rw [run_settle]
  cases (task.run answer s).1 with
  | ok a =>
      exact .result a
  | error failure =>
      cases failure with
      | error e =>
          exact .error e
      | overflow x =>
          exact .overflow x

theorem refusesInput_unbound
    (name : Identifier)
    (s : σ)
    (text : String) :
    RefusesInput name s
      (.ok ((refusal (.rule (.invalidInput (.unbound text)))).correlated name), s) :=
  ⟨text, rfl⟩

/-- A placement is that of the service, with the lines of the body. -/
theorem respond_placing
    (asks : r.Asks .placing)
    (caller : callingUser r = .ok userId)
    {lines : List LineRequest}
    (carries : r.CarriesLines lines) :
    let service := (Service.place policy userId lines).run answer s
    let run := (respond policy random r).run answer s
    Conveys (correlationId r random) orderDocument service.1 run.1 ∧ run.2 = service.2 := by
  intro service run
  have hrun : run = _ := run_respond_of_asks answer s policy random asks caller
  rw [hrun, dispatch_placing policy asks, placeOrder, requestedLines_eq_ok_iff.mpr carries]
  refine ⟨conveys_settle answer s _ orderDocument _, ?_⟩
  simp only [run_settle]
  rfl

theorem respond_placing_of_unread
    (asks : r.Asks .placing)
    (caller : callingUser r = .ok userId)
    (unread : ∀ lines, ¬ r.CarriesLines lines) :
    RefusesInput (correlationId r random) s ((respond policy random r).run answer s) := by
  obtain ⟨text, hrefused⟩ := requestedLines_of_unread unread
  rw [run_respond_of_asks answer s policy random asks caller, dispatch_placing policy asks,
    placeOrder, hrefused]
  exact refusesInput_unbound _ s text

/-- A listing is that of the service, with the query of the query string. -/
theorem respond_listing
    (asks : r.Asks .listing)
    (caller : callingUser r = .ok userId)
    {query : OrderQuery}
    (carries : r.CarriesQuery query) :
    let service := (Service.list userId query).run answer s
    let run := (respond policy random r).run answer s
    Conveys (correlationId r random) listingDocument service.1 run.1 ∧ run.2 = service.2 := by
  intro service run
  have hrun : run = _ := run_respond_of_asks answer s policy random asks caller
  rw [hrun, dispatch_listing policy asks, listOrders, requestedListing_eq_ok_iff.mpr carries]
  refine ⟨conveys_settle answer s _ listingDocument _, ?_⟩
  simp only [run_settle]
  rfl

theorem respond_listing_of_unread
    (asks : r.Asks .listing)
    (caller : callingUser r = .ok userId)
    (unread : ∀ query, ¬ r.CarriesQuery query) :
    RefusesInput (correlationId r random) s ((respond policy random r).run answer s) := by
  obtain ⟨text, hrefused⟩ := requestedListing_of_unread unread
  rw [run_respond_of_asks answer s policy random asks caller, dispatch_listing policy asks,
    listOrders, hrefused]
  exact refusesInput_unbound _ s text

/-- Reading an order is that of the service, with the answer kept to the owner. -/
theorem respond_reading
    {sent : List UInt8} {id : Identifier}
    (asks : r.Asks (.reading sent))
    (caller : callingUser r = .ok userId)
    (spells : Spells sent id) :
    let service := (Service.get id).run answer s
    let run := (respond policy random r).run answer s
    Conveys (correlationId r random) orderDocument (ownOnly id userId service.1) run.1 ∧
      run.2 = service.2 := by
  intro service run
  have hrun : run = _ := run_respond_of_asks answer s policy random asks caller
  rw [hrun, dispatch_reading policy asks, withOrder, pathIdentifier_eq_ok_iff.mpr spells]
  simp only [getOrder, run_settle, and_true, service]
  cases (Service.get id).run answer s with
  | mk result s' =>
      cases result with
      | ok order =>
          by_cases own : order.userId = userId
          · simp only [showOwnOrder, Order.isOwnedBy, ownOnly, own, beq_self_eq_true, if_true]
            exact .result order
          · simp only [showOwnOrder, Order.isOwnedBy, ownOnly, own, beq_eq_false_iff_ne.mpr own,
              if_false, Bool.false_eq_true]
            exact .error (.rule (.permissionDenied id))
      | error failure =>
          cases failure with
          | error e =>
              exact .error e
          | overflow x =>
              exact .overflow x

/-- A cancellation is that of the service. -/
theorem respond_cancelling
    {sent : List UInt8} {id : Identifier}
    (asks : r.Asks (.cancelling sent))
    (caller : callingUser r = .ok userId)
    (spells : Spells sent id) :
    let service := (Service.cancel id userId).run answer s
    let run := (respond policy random r).run answer s
    Conveys (correlationId r random) orderDocument service.1 run.1 ∧ run.2 = service.2 := by
  intro service run
  have hrun : run = _ := run_respond_of_asks answer s policy random asks caller
  rw [hrun, dispatch_cancelling policy asks, withOrder, pathIdentifier_eq_ok_iff.mpr spells]
  refine ⟨conveys_settle answer s _ orderDocument _, ?_⟩
  simp only [cancelOrder, run_settle]
  rfl

/-- The answer to a reading is a refusal exactly if an order is read that belongs to
somebody else. -/
theorem forbidden_iff
    {id name : Identifier} {answered : Except Overflow Response}
    (conveys : Conveys name orderDocument
      (ownOnly id userId ((Service.get id).run answer s).1) answered) :
    (∃ response, answered = .ok response ∧ response.status = .forbidden) ↔
      ∃ order, ((Service.get id).run answer s).1 = .ok order ∧ order.userId ≠ userId := by
  cases hservice : ((Service.get id).run answer s).1 with
  | ok order =>
      rw [hservice, ownOnly] at conveys
      by_cases own : order.userId = userId
      · rw [if_pos own] at conveys
        cases conveys
        simp [own, Response.under]
      · rw [if_neg own] at conveys
        cases conveys
        simp [own, Response.under, ServiceError.report, RuleError.report]
  | error failure =>
      obtain ⟨e, rfl⟩ := (Service.get_fails id).run hservice
      rw [hservice] at conveys
      cases conveys
      simp [Response.under, ServiceError.report, e.report_status_ne_forbidden]

end Operations

/-- **The web interface adds nothing to the service** but the reading of requests, the
ownership of what is read, and the writing of answers.  An identified user asks for one of
the four operations, and whoever answers the calls of the service:

* if the body or the query string cannot be read, the answer is that the input is invalid,
  and nothing is called;
* otherwise the calls are those of the service, for the lines or the query that were read
  or the identifier in the path, and its outcome is conveyed as it is;
* only the outcome of reading an order is kept to its owner, and exactly where the order
  that was read belongs to somebody else the answer is a refusal. -/
theorem respond_conveys_the_service
    {σ : Type}
    (answer : (c : Call) → σ → c.Answer × σ)
    (s : σ)
    (policy : OrderPolicy)
    (random : Identifier)
    {r : Request} {userId : Identifier}
    (caller : callingUser r = .ok userId) :
    let name := correlationId r random
    let run := (respond policy random r).run answer s
    (r.Asks .placing →
      (∀ lines, r.CarriesLines lines →
        let service := (Service.place policy userId lines).run answer s
        Conveys name orderDocument service.1 run.1 ∧ run.2 = service.2) ∧
      ((∀ lines, ¬ r.CarriesLines lines) → RefusesInput name s run)) ∧
    (r.Asks .listing →
      (∀ query, r.CarriesQuery query →
        let service := (Service.list userId query).run answer s
        Conveys name listingDocument service.1 run.1 ∧ run.2 = service.2) ∧
      ((∀ query, ¬ r.CarriesQuery query) → RefusesInput name s run)) ∧
    (∀ sent id, r.Asks (.reading sent) → Spells sent id →
      let service := (Service.get id).run answer s
      Conveys name orderDocument (ownOnly id userId service.1) run.1 ∧
      run.2 = service.2 ∧
      ((∃ response, run.1 = .ok response ∧ response.status = .forbidden) ↔
        ∃ order, service.1 = .ok order ∧ order.userId ≠ userId)) ∧
    (∀ sent id, r.Asks (.cancelling sent) → Spells sent id →
      let service := (Service.cancel id userId).run answer s
      Conveys name orderDocument service.1 run.1 ∧ run.2 = service.2) := by
  intro name run
  refine ⟨?_, ?_, ?_, ?_⟩
  · intro asks
    constructor
    · intro lines carries
      exact respond_placing answer s policy random asks caller carries
    · intro unread
      exact respond_placing_of_unread answer s policy random asks caller unread
  · intro asks
    constructor
    · intro query carries
      exact respond_listing answer s policy random asks caller carries
    · intro unread
      exact respond_listing_of_unread answer s policy random asks caller unread
  · intro sent id asks spells
    obtain ⟨conveys, state⟩ := respond_reading answer s policy random asks caller spells
    exact ⟨conveys, state, forbidden_iff answer s conveys⟩
  · intro sent id asks spells
    exact respond_cancelling answer s policy random asks caller spells

/-- A placement whose body has the members of its line in another order, and one that the
service does not know. -/
theorem respond_conveys_the_service_of_mixed_members :
    let product : Product :=
      ⟨.ofNat 7, "P-7", "Pencil", "", ⟨false, 250, 2, by decide, by decide⟩⟩
    let m : Memory := { catalog := .ofList [product] }
    let answer := Memory.answerUnder none (.numbered 1)
    let r : Request :=
      { method := .post
        target := Utf8.ofString "/api/v1/orders"
        headers :=
          [⟨"X-Request-User-Id", Utf8.ofString " 00000000-0000-0000-0000-000000000001 "⟩,
            ⟨"Content-Type", Utf8.ofString "application/json; charset=utf-8"⟩]
        body := Utf8.ofString
          "[[\x7b\"note\": [null, true], \"quantity\": 3, \"product_id\": \"urn:uuid:00000000-0000-0000-0000-000000000007\"\x7d]]" }
    let lines : List LineRequest := [⟨"urn:uuid:00000000-0000-0000-0000-000000000007", 3⟩]
    let service := (Service.place {} (.ofNat 1) lines).run answer m
    let run := (respond {} .nil r).run answer m
    callingUser r = .ok (.ofNat 1) ∧ r.Asks .placing ∧ r.CarriesLines lines ∧
      service.2.orders.map (·.totalPrice.mantissa) = [750] ∧
      Conveys (correlationId r .nil) orderDocument service.1 run.1 ∧
      run.2 = service.2 := by
  intro product m answer r lines service run
  have caller : callingUser r = .ok (.ofNat 1) := by decide +kernel
  have asks : r.Asks .placing := ⟨by decide +kernel, trivial, rfl⟩
  have carries : r.CarriesLines lines := by
    have read : (requestedLines r).toOption = some lines := by decide +kernel
    cases hread : requestedLines r with
    | ok found =>
        rw [hread] at read
        cases read
        exact requestedLines_eq_ok_iff.mp hread
    | error e =>
        rw [hread] at read
        cases read
  have stored : service.2.orders.map (·.totalPrice.mantissa) = [750] := by decide +kernel
  obtain ⟨placing, _⟩ := respond_conveys_the_service answer m {} .nil caller
  obtain ⟨conveys, state⟩ := (placing asks).1 lines carries
  exact ⟨caller, asks, carries, stored, conveys, state⟩

end Api
end OrderDesk
