import OrderDesk.Proofs.Http.Conveyance
import OrderDesk.Proofs.Memory.Disturbance
import OrderDesk.Proofs.Service.Prices

/-!
# What a client has to be prepared for

A client of the four operations is answered with the document of the operation, or with a
document that has a message and a code.  Status and code of an error are one of the pairs
of `documentedErrors`, whatever the request carries, whatever the state is and whatever
fails.

There is one exception.  What stands in a path for the identifier of an order is taken out
of it by the framework, and where it spells none, the framework answers by itself, with a
text.

* `Asked.Documented`: the responses that a client has to be prepared for.
* `Request.Misnames`: the exception.
* `respond_is_documented_unless_misnamed`: all requests for one of the operations.
* `respond_undocumented_of_misnamed`: an instance of the exception.
-/

namespace OrderDesk

namespace Asked

/-- A document shows what an operation results in: a page of orders, or one order. -/
def Shows : Asked → Json.Value → Prop
  | listing, v => ∃ orders, v = Api.listingDocument orders
  | placing, v => ∃ order, v = Api.orderDocument order
  | reading _, v => ∃ order, v = Api.orderDocument order
  | cancelling _, v => ∃ order, v = Api.orderDocument order

/-- The responses that a client has to be prepared for. -/
inductive Documented (asked : Asked) : Response → Prop where
  /-- The document of the operation. -/
  | result
      (name : Identifier)
      {v : Json.Value}
      (shows : asked.Shows v) :
      Documented asked (.under name .ok v)
  /-- A message and a code, and the details if there are any. -/
  | error
      (name : Identifier)
      {status : HttpStatus} {code : String}
      (message : String)
      (details : Option String)
      (documented : (status, code) ∈ documentedErrors) :
      Documented asked
        (.under name status
          (.object
            ([("error", .text message), ("error_code", .text code)] ++
              Json.Value.optional "details" (details.map .text))))

theorem Documented.contentType
    {asked : Asked} {response : Response}
    (documented : asked.Documented response) :
    response.contentType = some "application/json" := by
  cases documented <;> rfl

end Asked

/-- An identified user asks for an operation on an order, and what stands in the path for
its identifier spells none. -/
def Request.Misnames (r : Request) (asked : Asked) : Prop :=
  ∃ userId sent,
    Api.callingUser r = .ok userId ∧
    asked.sent? = some sent ∧
    ∀ id, ¬ Api.Spells sent id

/-- A response with a text, under the name of its request. -/
def Response.plain
    (name : Identifier)
    (status : HttpStatus)
    (text : String) :
    Response where
  status
  contentType := some "text/plain; charset=utf-8"
  correlation := some name
  body := .text text

namespace Api

section Operations

variable {σ : Type} (answer : (c : Call) → σ → c.Answer × σ) (s : σ)
variable (policy : OrderPolicy) (random : Identifier)
variable {r : Request} {userId : Identifier} {asked : Asked}

theorem documented_refusal
    (asked : Asked)
    (name : Identifier)
    (e : ServiceError) :
    asked.Documented ((refusal e).correlated name) :=
  .error name e.report.message e.report.details e.report_documented

/-- What is conveyed is documented, unless an amount is too large. -/
theorem documented_of_conveys
    {α : Type} {name : Identifier} {document : α → Json.Value}
    {outcome : Except Service.Failure α} {answered : Except Overflow Response}
    (conveys : Conveys name document outcome answered)
    (shows : ∀ a, asked.Shows (document a))
    (fails : ∀ failure, outcome = .error failure → ∃ e, failure = .error e) :
    ∃ response, answered = .ok response ∧ asked.Documented response := by
  cases conveys with
  | result a =>
      exact ⟨_, rfl, .result name (shows a)⟩
  | error e =>
      exact ⟨_, rfl, documented_refusal asked name e⟩
  | overflow x =>
      obtain ⟨e, he⟩ := fails _ rfl
      cases he

theorem documented_of_refusesInput
    {name : Identifier} {s : σ} {run : Except Overflow Response × σ}
    (refuses : RefusesInput name s run) :
    ∃ response, run.1 = .ok response ∧ asked.Documented response := by
  obtain ⟨details, rfl⟩ := refuses
  have documented : (HttpStatus.badRequest, "invalid_input") ∈ documentedErrors := by
    simp [documentedErrors]
  exact ⟨_, rfl, .error name _ (some details) documented⟩

/-- Where no identifier is spelled, a text is answered and nothing is called. -/
theorem respond_of_misnamed
    (asks : r.Asks asked)
    (misnames : r.Misnames asked) :
    ∃ text ∈ pathFaults,
      (respond policy random r).run answer s =
        (.ok (.plain (correlationId r random) .badRequest text), s) := by
  obtain ⟨userId, sent, caller, hsent, unspelled⟩ := misnames
  obtain ⟨text, hmem, hfault⟩ := pathIdentifier_of_unspelled unspelled
  refine ⟨text, hmem, ?_⟩
  cases asked with
  | placing =>
      cases hsent
  | listing =>
      cases hsent
  | reading sent' =>
      cases hsent
      rw [run_respond_of_asks answer s policy random asks caller, dispatch_reading policy asks,
        withOrder, hfault]
      rfl
  | cancelling sent' =>
      cases hsent
      rw [run_respond_of_asks answer s policy random asks caller,
        dispatch_cancelling policy asks, withOrder, hfault]
      rfl

/-- Reading is kept to the owner by an error too. -/
theorem ownOnly_fails
    {id : Identifier} {outcome : Except Service.Failure Order}
    (fails : ∀ failure, outcome = .error failure → ∃ e, failure = .error e)
    {failure : Service.Failure}
    (kept : ownOnly id userId outcome = .error failure) :
    ∃ e, failure = .error e := by
  cases outcome with
  | ok order =>
      rw [ownOnly] at kept
      split at kept
      · cases kept
      · cases kept
        exact ⟨_, rfl⟩
  | error failure' =>
      cases kept
      exact fails _ rfl

theorem spelled_of_not_misnamed
    (caller : callingUser r = .ok userId)
    (named : ¬ r.Misnames asked)
    {sent : List UInt8}
    (hsent : asked.sent? = some sent) :
    ∃ id, Spells sent id := by
  by_contra unspelled
  exact named ⟨userId, sent, caller, hsent, not_exists.mp unspelled⟩

end Operations

section Disturbed

variable {policy : OrderPolicy} (random : Identifier) {m : Memory}
variable (d : Disturbance) (o : Occasion) {r : Request} {userId : Identifier}

theorem documented_placing
    (affordable : m.catalog.Affordable policy)
    (asks : r.Asks .placing)
    (caller : callingUser r = .ok userId) :
    ∃ response,
      ((respond policy random r).run (d.answer o) m).1 = .ok response ∧
      Asked.placing.Documented response := by
  by_cases carries : ∃ lines, r.CarriesLines lines
  · obtain ⟨lines, carries⟩ := carries
    have placed := respond_placing (d.answer o) m policy random asks caller carries
    refine documented_of_conveys placed.1 (fun order => ⟨order, rfl⟩) ?_
    intro failure fails
    rw [d.run_place] at fails
    exact Service.place_fails affordable fails
  · exact documented_of_refusesInput
      (respond_placing_of_unread (d.answer o) m policy random asks caller
        (not_exists.mp carries))

theorem documented_listing
    (asks : r.Asks .listing)
    (caller : callingUser r = .ok userId) :
    ∃ response,
      ((respond policy random r).run (d.answer o) m).1 = .ok response ∧
      Asked.listing.Documented response := by
  by_cases carries : ∃ query, r.CarriesQuery query
  · obtain ⟨query, carries⟩ := carries
    have listed := respond_listing (d.answer o) m policy random asks caller carries
    refine documented_of_conveys listed.1 (fun orders => ⟨orders, rfl⟩) ?_
    intro failure fails
    obtain ⟨e, rfl⟩ := (Service.list_fails userId query).run fails
    exact ⟨.store e, rfl⟩
  · exact documented_of_refusesInput
      (respond_listing_of_unread (d.answer o) m policy random asks caller
        (not_exists.mp carries))

theorem documented_reading
    {sent : List UInt8} {id : Identifier}
    (asks : r.Asks (.reading sent))
    (caller : callingUser r = .ok userId)
    (spells : Spells sent id) :
    ∃ response,
      ((respond policy random r).run (d.answer o) m).1 = .ok response ∧
      (Asked.reading sent).Documented response := by
  have read := respond_reading (d.answer o) m policy random asks caller spells
  refine documented_of_conveys read.1 (fun order => ⟨order, rfl⟩) ?_
  intro failure kept
  refine ownOnly_fails ?_ kept
  intro failure' fails
  obtain ⟨e, rfl⟩ := (Service.get_fails id).run fails
  exact ⟨.store e, rfl⟩

theorem documented_cancelling
    {sent : List UInt8} {id : Identifier}
    (asks : r.Asks (.cancelling sent))
    (caller : callingUser r = .ok userId)
    (spells : Spells sent id) :
    ∃ response,
      ((respond policy random r).run (d.answer o) m).1 = .ok response ∧
      (Asked.cancelling sent).Documented response := by
  have cancelled := respond_cancelling (d.answer o) m policy random asks caller spells
  refine documented_of_conveys cancelled.1 (fun order => ⟨order, rfl⟩) ?_
  intro failure fails
  exact (Service.cancel_fails id userId).run fails

/-- **No request for one of the operations escapes the documents, but for a misnamed
order.**  In every state whose prices are small enough, whatever the request carries in its
headers, its path, its query string and its body, whatever fails, and even if a status is
set from outside between a load and a write:

* the request is answered, and unless the path of an identified user spells no identifier,
  the answer is the document of the operation or that of an error, with a status and a code
  that are documented;
* otherwise the answer is the status of a bad request with a text, and nothing is changed. -/
theorem respond_is_documented_unless_misnamed
    (affordable : m.catalog.Affordable policy)
    {asked : Asked}
    (asks : r.Asks asked) :
    let run := (respond policy random r).run (d.answer o) m
    ∃ response,
      run.1 = .ok response ∧
      (¬ r.Misnames asked → asked.Documented response) ∧
      (r.Misnames asked →
        (∃ text ∈ pathFaults,
          response = .plain (correlationId r random) .badRequest text) ∧
        run.2 = m) := by
  intro run
  by_cases misnames : r.Misnames asked
  · obtain ⟨text, hmem, hrun⟩ := respond_of_misnamed (d.answer o) m policy random asks misnames
    refine ⟨_, congrArg Prod.fst hrun, fun named => absurd misnames named, ?_⟩
    exact fun _ => ⟨⟨text, hmem, rfl⟩, congrArg Prod.snd hrun⟩
  · have documented : ∃ response, run.1 = .ok response ∧ asked.Documented response := by
      cases caller : callingUser r with
      | error e =>
          have hrun : run = _ :=
            run_respond_of_stranger (d.answer o) m policy random asks caller
          exact ⟨_, congrArg Prod.fst hrun, documented_refusal asked _ e⟩
      | ok userId =>
          cases asked with
          | placing =>
              exact documented_placing random d o affordable asks caller
          | listing =>
              exact documented_listing random d o asks caller
          | reading sent =>
              obtain ⟨id, spells⟩ := spelled_of_not_misnamed caller misnames rfl
              exact documented_reading random d o asks caller spells
          | cancelling sent =>
              obtain ⟨id, spells⟩ := spelled_of_not_misnamed caller misnames rfl
              exact documented_cancelling random d o asks caller spells
    obtain ⟨response, answered, hdocumented⟩ := documented
    exact ⟨response, answered, fun _ => hdocumented, fun h => absurd h misnames⟩

end Disturbed

/-- An order that is written by somebody else, just after it was loaded to be cancelled. -/
theorem respond_is_documented_unless_misnamed_of_overtaken_cancellation :
    let product : Product :=
      ⟨.ofNat 7, "P-7", "Pencil", "", ⟨false, 250, 2, by decide, by decide⟩⟩
    let m : Memory :=
      { orders := [Memory.newOrder (.numbered 1) (.ofNat 1) [] .zero]
        catalog := .ofList [product] }
    let d : Disturbance := { interference := some .inProgress }
    let sent := Utf8.ofString "00000000-0000-0000-0000-00000000000%31"
    let r : Request :=
      { method := .put
        target := Utf8.ofString "/api/v1/orders/" ++ sent ++ Utf8.ofString "/cancel"
        headers := [⟨"X-Request-User-Id",
          Utf8.ofString "00000000-0000-0000-0000-000000000001"⟩]
        body := [] }
    let run := (respond {} .nil r).run (d.answer (.numbered 2)) m
    m.catalog.Affordable {} ∧ r.Asks (.cancelling sent) ∧
      ∃ response, run.1 = .ok response ∧ response.status = .conflict ∧
        (Asked.cancelling sent).Documented response := by
  intro product m d sent r run
  have affordable : m.catalog.Affordable {} :=
    Catalog.affordable_of_small 3 (by decide) (by decide) (by decide)
  have asks : r.Asks (.cancelling sent) := ⟨by decide +kernel, by decide +kernel, rfl⟩
  have conflict : run.1.toOption.map (·.status) = some .conflict := by decide +kernel
  obtain ⟨response, answered, documented, _⟩ :=
    respond_is_documented_unless_misnamed .nil d (.numbered 2) affordable asks
  have named : ¬ r.Misnames (.cancelling sent) := by
    rintro ⟨userId, sent', caller, hsent, unspelled⟩
    cases hsent
    have spelled : pathIdentifier sent = .ok (.ofNat 1) := by decide +kernel
    exact unspelled _ (pathIdentifier_eq_ok_iff.mp spelled)
  have hrun : run.1 = .ok response := answered
  rw [hrun] at conflict
  exact ⟨affordable, asks, response, answered, Option.some.inj conflict, documented named⟩

/-- Reading an order under a name that spells no identifier is not answered with a
document. -/
theorem respond_undocumented_of_misnamed :
    let m : Memory := {}
    let d : Disturbance := {}
    let sent := Utf8.ofString "abc"
    let r : Request :=
      { method := .get
        target := Utf8.ofString "/api/v1/orders/" ++ sent
        headers := [⟨"X-Request-User-Id",
          Utf8.ofString "11111111-1111-4111-8111-111111111111"⟩]
        body := [] }
    let run := (respond {} .nil r).run (d.answer (.numbered 1)) m
    m.catalog.Affordable {} ∧ r.Asks (.reading sent) ∧
      ∃ response, run.1 = .ok response ∧ response.status = .badRequest ∧
        ¬ (Asked.reading sent).Documented response := by
  intro m d sent r run
  have affordable : m.catalog.Affordable {} :=
    Catalog.affordable_of_small 0 nofun (by decide) (by decide)
  have asks : r.Asks (.reading sent) := ⟨by decide +kernel, by decide +kernel, rfl⟩
  have caller : ∃ userId, callingUser r = .ok userId := by
    cases h : callingUser r with
    | ok userId =>
        exact ⟨userId, rfl⟩
    | error e =>
        have identified : (callingUser r).isOk = true := by decide +kernel
        rw [h] at identified
        cases identified
  obtain ⟨userId, caller⟩ := caller
  have fault : pathIdentifier sent = .error "Invalid URL:" := by decide +kernel
  have unspelled : ∀ id, ¬ Spells sent id := by
    intro id spells
    rw [pathIdentifier_eq_ok_iff.mpr spells] at fault
    cases fault
  obtain ⟨text, _, hrun⟩ := respond_of_misnamed (d.answer (.numbered 1)) m {} .nil asks
    ⟨userId, sent, caller, rfl, unspelled⟩
  refine ⟨affordable, asks, _, congrArg Prod.fst hrun, rfl, ?_⟩
  intro documented
  exact absurd documented.contentType (by simp [Response.plain])

end Api
end OrderDesk
