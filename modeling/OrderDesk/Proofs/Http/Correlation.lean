import OrderDesk.Proofs.Http.Identification

/-!
# The names of requests

Every request on a path of orders has a name, which it brings or which is made for it, and its
answer carries this name, whatever becomes of the request.  Nothing else depends on it.

* `Response.names`, `Response.nameless`: the header with the name, and the response without
  it.
* `Request.NameIs`: the name of a request.
* `Request.SameButName`: requests that differ in the header with the name only.
* `overflow_of_run_answerCaller`: only a placement may be left without a response.
* `every_answer_is_correlated`: every answer, whoever answers the calls.
-/

namespace OrderDesk

/-- The values of the header that names the request of a response. -/
def Response.names (response : Response) : List String :=
  (response.correlation.map Identifier.text).toList

/-- A response without the header that names its request. -/
def Response.nameless (response : Response) : Response :=
  { response with correlation := none }

/-- The headers without those of a name. -/
def Headers.without (hs : Headers) (name : String) : Headers :=
  hs.filter (·.key != name.toLower)

theorem Headers.first?_without
    {name key : String}
    (other : key ≠ name.toLower)
    (hs : Headers) :
    (hs.without name).first? key = hs.first? key := by
  have both : ∀ h : Header,
      decide ((h.key != name.toLower) = true ∧ (h.key == key) = true) = (h.key == key) := by
    intro h
    by_cases hkey : h.key = key
    · simp [hkey, other]
    · simp [hkey]
  rw [first?, first?, without, List.find?_filter]
  simp only [both]

namespace Request

/-- The name of a request, in written form: the identifier that its first value for a name
denotes, and else a fresh one. -/
structure NameIs (r : Request) (random : Identifier) (name : String) : Prop where
  brought : ∀ value id, r.headers.FirstIs correlationHeader value → Header.Denotes value id →
    id.WrittenAs name.toList
  fresh : (∀ value id, r.headers.FirstIs correlationHeader value → ¬ Header.Denotes value id) →
    (Identifier.fresh random).WrittenAs name.toList

/-- The same request, but for the headers that name it. -/
structure SameButName (r r' : Request) : Prop where
  method : r'.method = r.method
  target : r'.target = r.target
  headers : r'.headers.without correlationHeader = r.headers.without correlationHeader
  body : r'.body = r.body

theorem nameIs_correlationId
    (r : Request)
    (random : Identifier) :
    r.NameIs random (Api.correlationId r random).text := by
  have brought : ∀ {id}, r.correlation? = some id ↔
      ∃ value, r.headers.FirstIs correlationHeader value ∧ Header.Denotes value id :=
    Headers.identifier?_eq_some_iff_denotes
  rw [Identifier.text]
  constructor
  · intro value id first denotes
    rw [Api.correlationId, brought.mpr ⟨value, first, denotes⟩, String.toList_ofList]
    exact id.writtenAs_toChars
  · intro none
    have hnone : r.correlation? = Option.none := by
      rw [Option.eq_none_iff_forall_ne_some]
      rintro id hid
      obtain ⟨value, first, denotes⟩ := brought.mp hid
      exact none value id first denotes
    rw [Api.correlationId, hnone, String.toList_ofList]
    exact Identifier.writtenAs_toChars _

end Request

namespace Api

/-! ## What does not depend on the name -/

section SameButName

variable {r r' : Request} (same : r.SameButName r')

include same

theorem first?_of_sameButName
    {key : String}
    (other : key ≠ Request.correlationHeader.toLower) :
    r'.headers.first? key = r.headers.first? key := by
  rw [← Headers.first?_without other, same.headers, Headers.first?_without other]

theorem callingUser_of_sameButName : callingUser r' = callingUser r := by
  have hfirst : r'.headers.first? Request.userHeader.toLower =
      r.headers.first? Request.userHeader.toLower :=
    first?_of_sameButName same (by decide +kernel)
  rw [callingUser, callingUser, Headers.identifier?, Headers.identifier?, hfirst]

theorem path_of_sameButName : r'.path = r.path := by
  rw [Request.path, Request.path, Request.located, Request.located, same.target]

theorem trimmedFor_of_sameButName
    (route : Route) :
    trimmedFor r' route = trimmedFor r route := by
  funext response
  rw [trimmedFor, trimmedFor, same.method]

/-- A caller is answered by the same dialogue. -/
theorem answerCaller_of_sameButName
    (policy : OrderPolicy)
    (route : OrderRoute) :
    answerCaller policy r' route = answerCaller policy r route := by
  have hjson : r'.bodyIsJson = r.bodyIsJson := by
    rw [Request.bodyIsJson, Request.bodyIsJson, first?_of_sameButName same (by decide +kernel)]
  have hquery : r'.queryString = r.queryString := by
    rw [Request.queryString, Request.queryString, Request.located, Request.located, same.target]
  have placing : ∀ userId, placeOrder policy userId r' = placeOrder policy userId r := by
    intro userId
    rw [placeOrder, placeOrder, requestedLines, requestedLines, hjson, same.body]
  have listing : ∀ userId, listOrders userId r' = listOrders userId r := by
    intro userId
    rw [listOrders, listOrders, requestedListing, requestedListing, hquery]
  have dispatched : ∀ userId,
      dispatch policy userId r' route = dispatch policy userId r route := by
    intro userId
    cases route <;> simp only [dispatch, same.method, placing, listing]
  simp only [answerCaller, callingUser_of_sameButName same, dispatched]

end SameButName

/-! ## Answers -/

variable {σ : Type} (answer : (c : Call) → σ → c.Answer × σ) (s : σ) (policy : OrderPolicy)

theorem names_trimmedFor
    (r : Request)
    (route : Route)
    (response : Response)
    (name : Identifier) :
    (trimmedFor r route (response.correlated name)).names = [name.text] := by
  rw [trimmedFor]
  split <;> rfl

theorem nameless_trimmedFor
    (r : Request)
    (route : Route)
    (response : Response)
    (name : Identifier) :
    (trimmedFor r route (response.correlated name)).nameless =
      trimmedFor r route response.nameless := by
  rw [trimmedFor, trimmedFor]
  split <;> rfl

section Overflow

variable {x : Overflow}

/-- Without a response an operation itself has ended in an amount that is too large. -/
theorem overflow_of_run_settle
    {α : Type} {respond : α → Response} {task : Task Service.Failure α}
    (fails : ((settle respond task).run answer s).1 = .error x) :
    (task.run answer s).1 = .error (.overflow x) := by
  rw [run_settle] at fails
  dsimp only at fails
  split at fails
  · cases fails
  · cases fails
  · cases fails
    assumption

/-- An operation that computes no amount is always answered. -/
theorem run_settle_ne_error
    {α : Type} {respond : α → Response} {task : Task Service.Failure α}
    (failsBy : task.FailsBy fun failure => ∃ e, failure = .error e) :
    ((settle respond task).run answer s).1 ≠ .error x := by
  intro fails
  obtain ⟨e, he⟩ := failsBy.run (overflow_of_run_settle answer s fails)
  cases he

theorem run_withOrder_ne_error
    {answering : Identifier → Answering}
    (answers : ∀ id, ((answering id).run answer s).1 ≠ .error x)
    (sent : List UInt8) :
    ((withOrder sent answering).run answer s).1 ≠ .error x := by
  rw [withOrder]
  split
  · exact answers _
  · intro fails
    cases fails

/-- Only a placement may be left without a response, as only there amounts are computed. -/
theorem overflow_of_run_answerCaller
    {r : Request} {route : OrderRoute}
    (fails : ((answerCaller policy r route).run answer s).1 = .error x) :
    route = .all ∧ r.method = .post ∧ ∃ userId lines,
      callingUser r = .ok userId ∧ r.CarriesLines lines ∧
        ((Service.place policy userId lines).run answer s).1 = .error (.overflow x) := by
  have passes : ∀ failure : Service.Failure, (∃ e, failure = Service.passed e) →
      ∃ e, failure = .error e := by
    rintro _ ⟨e, rfl⟩
    exact ⟨.store e, rfl⟩
  have reads : ∀ userId sent, ((withOrder sent (getOrder userId)).run answer s).1 ≠ .error x :=
    fun userId => run_withOrder_ne_error answer s fun id =>
      run_settle_ne_error answer s ((Service.get_fails id).mono passes)
  have cancels : ∀ userId sent,
      ((withOrder sent (cancelOrder userId)).run answer s).1 ≠ .error x :=
    fun userId => run_withOrder_ne_error answer s fun id =>
      run_settle_ne_error answer s (Service.cancel_fails id userId)
  have lists : ∀ userId, ((listOrders userId r).run answer s).1 ≠ .error x := by
    intro userId
    rw [listOrders]
    split
    · exact run_settle_ne_error answer s ((Service.list_fails userId _).mono passes)
    · intro fails
      cases fails
  rw [answerCaller] at fails
  split at fails
  · rename_i userId caller
    cases route with
    | all =>
        rw [dispatch] at fails
        split at fails
        · rename_i method
          rw [placeOrder] at fails
          split at fails
          · rename_i lines read
            exact ⟨rfl, method, userId, lines, caller, requestedLines_eq_ok_iff.mp read,
              overflow_of_run_settle answer s fails⟩
          · cases fails
        · exact absurd fails (lists userId)
        · exact absurd fails (lists userId)
        · cases fails
    | one sent =>
        rw [dispatch] at fails
        split at fails
        · exact absurd fails (reads userId sent)
        · exact absurd fails (reads userId sent)
        · cases fails
    | cancellation sent =>
        rw [dispatch] at fails
        split at fails
        · exact absurd fails (cancels userId sent)
        · cases fails
  · cases fails

end Overflow

/-- **Every answer is correlated.**  A request comes in on a path of orders, so it asks for one
of the four operations, or for none by another method.  In every state of whoever answers the
calls, and whatever becomes of it:

* its response carries exactly one name, in written form: the identifier that the first value
  for a name denotes, and else a fresh one;
* it is left without a response only if it places an order whose amounts are too large;
* but for the name, its response, the calls that are made for it and the state behind them are
  those of every request that differs in its values for a name only. -/
theorem every_answer_is_correlated
    {r : Request} {route : OrderRoute}
    (part : route.HasOnePart)
    (path : r.path = route.path) :
    (∀ random,
      let run := (respond policy random r).run answer s
      (∀ response, run.1 = .ok response →
        ∃ name, response.names = [name] ∧ r.NameIs random name) ∧
      (∀ x, run.1 = .error x → route = .all ∧ r.method = .post ∧ ∃ userId lines,
        callingUser r = .ok userId ∧ r.CarriesLines lines ∧
          ((Service.place policy userId lines).run answer s).1 = .error (.overflow x))) ∧
    (∀ random random' r', r.SameButName r' →
      let run := (respond policy random r).transcript answer s
      let run' := (respond policy random' r').transcript answer s
      run'.1.map Response.nameless = run.1.map Response.nameless ∧ run'.2 = run.2) := by
  have known := Route.ofPath?_eq_orders_iff.mpr ⟨part, path⟩
  constructor
  · intro random run
    have hrun : run = _ := run_respond answer s policy random known
    rw [hrun]
    cases hcaller : ((answerCaller policy r route).run answer s).1 with
    | ok plain =>
        refine ⟨?_, nofun⟩
        intro response answered
        cases answered
        exact ⟨_, names_trimmedFor r _ plain _, r.nameIs_correlationId random⟩
    | error x =>
        refine ⟨nofun, ?_⟩
        intro x' fails
        cases fails
        exact overflow_of_run_answerCaller answer s policy hcaller
  · intro random random' r' same run run'
    have known' : Route.ofPath? r'.path = some (.orders route) := by
      rwa [path_of_sameButName same]
    have hrun : run = _ := run_respond (Dialogue.noting answer) (s, []) policy random known
    have hrun' : run' = _ := run_respond (Dialogue.noting answer) (s, []) policy random' known'
    rw [answerCaller_of_sameButName same] at hrun'
    rw [hrun, hrun']
    refine ⟨?_, rfl⟩
    cases ((answerCaller policy r route).run (Dialogue.noting answer) (s, [])).1 with
    | error x => rfl
    | ok plain =>
        simp only [Except.map, nameless_trimmedFor, trimmedFor_of_sameButName same]

/-- A caller who is not identified, with two names of which the first is spelled in braces
between blanks, and without a name. -/
theorem every_answer_is_correlated_of_two_names :
    let request : Headers → Request := fun names =>
      { method := .get
        target := Utf8.ofString "/api/v1/orders/7"
        headers := ⟨"accept", []⟩ :: names
        body := [] }
    let spelling := Utf8.ofString " \t\x7b00000000-0000-0000-0000-00000000000A\x7d "
    let named := request
      [⟨"x-correlation-ID", spelling⟩, ⟨"X-Correlation-Id", Utf8.ofString "7"⟩]
    let unnamed := request []
    let route := OrderRoute.one (Utf8.ofString "7")
    let answer := Memory.answerUnder none (.numbered 1)
    let run := (respond {} .nil named).run answer ({} : Memory)
    route.HasOnePart ∧ named.path = route.path ∧ named.SameButName unnamed ∧
      ((respond {} .nil unnamed).transcript answer ({} : Memory)).2 =
        ((respond {} .nil named).transcript answer ({} : Memory)).2 ∧
      ∃ response name, run.1 = .ok response ∧ response.names = [name] ∧
        (Identifier.ofNat 10).WrittenAs name.toList := by
  intro request spelling named unnamed route answer run
  have part : route.HasOnePart := by decide +kernel
  have path : named.path = route.path := by decide +kernel
  have key : Request.correlationHeader.toLower = "x-correlation-id" := by decide +kernel
  have same : named.SameButName unnamed := by
    refine ⟨rfl, rfl, ?_, rfl⟩
    rw [Headers.without, Headers.without, key]
    decide +kernel
  have first : named.headers.FirstIs Request.correlationHeader spelling := by
    refine ⟨[⟨"accept", []⟩], _, _, rfl, by decide +kernel, ?_, rfl⟩
    rw [key]
    decide +kernel
  have denotes : Header.Denotes spelling (.ofNat 10) :=
    Header.denotes_iff.mp (by decide +kernel)
  obtain ⟨answered, alike⟩ := every_answer_is_correlated answer ({} : Memory) {} part path
  refine ⟨part, path, same, (alike .nil .nil unnamed same).2, ?_⟩
  cases hrun : run.1 with
  | error x =>
      obtain ⟨all, -⟩ := (answered .nil).2 x hrun
      simp [route] at all
  | ok response =>
      obtain ⟨name, only, is⟩ := (answered .nil).1 response hrun
      exact ⟨response, name, rfl, only, is.brought spelling _ first denotes⟩

end Api
end OrderDesk
