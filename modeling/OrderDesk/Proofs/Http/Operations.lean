import Mathlib.Data.List.TakeWhile
import OrderDesk.Http.Api

/-!
# The operations of the web interface

There are four of them.  A request asks for one by its path and its method, and what it
carries, lines or a query, has to be read first.

* `Route.ofPath?_eq_orders_iff`: the routes of orders by the patterns of their paths.
* `Request.Asks`: the operation that a request asks for.
* `Request.CarriesLines`, `Request.CarriesQuery`, `Api.Spells`: what a body, a query string
  and a part of a path are read as.
* `run_respond`: an answer is the answer to the caller under the name of the request.  So an
  identified user is answered by the operation (`run_respond_of_asks`), and whoever is not
  identified is refused (`run_respond_of_stranger`).
* `run_settle`: an operation ends in a response, or in an amount that is too large.
-/

namespace OrderDesk

open Text (octet)

/-! ## Paths -/

theorem Text.afterStart?_append
    (start rest : List UInt8) :
    afterStart? start (start ++ rest) = some rest := by
  induction start with
  | nil =>
      simp [afterStart?]
  | cons w ws ih =>
      simp [afterStart?, ih]

namespace OrderRoute

/-- What stands in the path of a route behind the path of all orders. -/
def tail : OrderRoute → List UInt8
  | all => []
  | one id => octet '/' :: id
  | cancellation id => octet '/' :: (id ++ Route.cancelPath)

/-- The path of a route. -/
def path (route : OrderRoute) : List UInt8 :=
  Route.ordersPath ++ route.tail

/-- The identifier of a route is one part of its path, and only in front of the end of a
cancellation it may be empty. -/
def HasOnePart : OrderRoute → Prop
  | all => True
  | one id => id ≠ [] ∧ octet '/' ∉ id
  | cancellation id => octet '/' ∉ id

instance : ∀ route : OrderRoute, Decidable route.HasOnePart
  | all => isTrue trivial
  | one id => inferInstanceAs (Decidable (id ≠ [] ∧ octet '/' ∉ id))
  | cancellation id => inferInstanceAs (Decidable (octet '/' ∉ id))

end OrderRoute

namespace Route

theorem takeWhile_part
    {id : List UInt8}
    (part : octet '/' ∉ id)
    (rest : List UInt8) :
    (id ++ rest).takeWhile (· != octet '/') = id ++ rest.takeWhile (· != octet '/') := by
  apply List.takeWhile_append_of_pos
  intro b hb
  rw [bne_iff_ne]
  rintro rfl
  exact part hb

theorem dropWhile_part
    {id : List UInt8}
    (part : octet '/' ∉ id)
    (rest : List UInt8) :
    (id ++ rest).dropWhile (· != octet '/') = rest.dropWhile (· != octet '/') := by
  apply List.dropWhile_append_of_pos
  intro b hb
  rw [bne_iff_ne]
  rintro rfl
  exact part hb

theorem not_mem_takeWhile
    (bs : List UInt8) :
    octet '/' ∉ bs.takeWhile (· != octet '/') := by
  intro h
  have := List.mem_takeWhile_imp h
  simp at this

theorem below?_eq_some_iff
    {rest : List UInt8} {route : OrderRoute} :
    below? rest = some route ↔ route.HasOnePart ∧ rest = route.tail := by
  have hcancel : cancelPath.takeWhile (· != octet '/') = [] ∧
      cancelPath.dropWhile (· != octet '/') = cancelPath := by
    decide +kernel
  have hne : [] ≠ cancelPath := by
    decide +kernel
  constructor
  · intro h
    cases rest with
    | nil =>
        cases h
        exact ⟨trivial, rfl⟩
    | cons b bs =>
        have hsplit := List.takeWhile_append_dropWhile (p := (· != octet '/')) (l := bs)
        rw [below?] at h
        split at h
        · cases h
        · rename_i hslash
          rw [not_not] at hslash
          subst hslash
          split at h
          · rename_i hend
            cases h
            rw [hend] at hsplit
            exact ⟨not_mem_takeWhile bs, congrArg _ hsplit.symm⟩
          · split at h
            · rename_i hone
              cases h
              rw [Bool.and_eq_true, List.isEmpty_iff, Bool.not_eq_true',
                List.isEmpty_eq_false_iff] at hone
              obtain ⟨hnil, hsome⟩ := hone
              rw [hnil, List.append_nil] at hsplit
              exact ⟨⟨hsome, not_mem_takeWhile bs⟩, congrArg _ hsplit.symm⟩
            · cases h
  · rintro ⟨part, rfl⟩
    cases route with
    | all =>
        rfl
    | one id =>
        obtain ⟨hsome, part⟩ := part
        have htake := takeWhile_part part []
        have hdrop := dropWhile_part part []
        rw [List.append_nil, List.takeWhile_nil, List.append_nil] at htake
        rw [List.append_nil, List.dropWhile_nil] at hdrop
        simp [OrderRoute.tail, below?, htake, hdrop, hne, hsome]
    | cancellation id =>
        have htake := takeWhile_part part cancelPath
        have hdrop := dropWhile_part part cancelPath
        rw [hcancel.1, List.append_nil] at htake
        rw [hcancel.2] at hdrop
        simp [OrderRoute.tail, below?, htake, hdrop]

/-- The routes of orders are told by the patterns of their paths. -/
theorem ofPath?_eq_orders_iff
    {path : List UInt8} {route : OrderRoute} :
    ofPath? path = some (.orders route) ↔ route.HasOnePart ∧ path = route.path := by
  have hhealth : Text.afterStart? ordersPath healthPath = none := by
    decide +kernel
  constructor
  · intro h
    rw [ofPath?] at h
    split at h
    · cases h
    · obtain ⟨found, hfound, hsame⟩ := Option.map_eq_some_iff.mp h
      cases hsame
      obtain ⟨rest, hstart, hbelow⟩ := Option.bind_eq_some_iff.mp hfound
      obtain ⟨part, rfl⟩ := below?_eq_some_iff.mp hbelow
      exact ⟨part, (Text.append_of_afterStart? hstart).symm⟩
  · rintro ⟨part, rfl⟩
    have hstart := Text.afterStart?_append ordersPath route.tail
    have hother : route.path ≠ healthPath := by
      intro hsame
      rw [OrderRoute.path] at hsame
      rw [hsame, hhealth] at hstart
      cases hstart
    rw [ofPath?, if_neg hother, OrderRoute.path, hstart, Option.bind_some,
      below?_eq_some_iff.mpr ⟨part, rfl⟩]
    rfl

end Route

/-! ## What a request asks for -/

/-- The operations on orders.  The identifier of an order is kept as it was sent. -/
inductive Asked where
  | placing
  | listing
  | reading (sent : List UInt8)
  | cancelling (sent : List UInt8)
deriving DecidableEq, Repr

namespace Asked

/-- The route of an operation. -/
def route : Asked → OrderRoute
  | placing => .all
  | listing => .all
  | reading sent => .one sent
  | cancelling sent => .cancellation sent

/-- The method of an operation. -/
def method : Asked → Method
  | placing => .post
  | listing => .get
  | reading _ => .get
  | cancelling _ => .put

/-- The part of the path that an operation takes for the identifier of an order. -/
def sent? : Asked → Option (List UInt8)
  | placing => none
  | listing => none
  | reading sent => some sent
  | cancelling sent => some sent

end Asked

namespace Request

/-- A request asks for an operation by its path and its method. -/
structure Asks (r : Request) (asked : Asked) : Prop where
  path : r.path = asked.route.path
  part : asked.route.HasOnePart
  method : r.method = asked.method

/-- The body of a request is a JSON document of the allowed size, and is read as lines. -/
structure CarriesLines (r : Request) (lines : List LineRequest) : Prop where
  isJson : r.bodyIsJson = true
  size : r.body.length ≤ Api.maxBodySize
  read : Placement.bindRequest (Json.Node.read r.body) = .ok lines

/-- The query string of a request is read as a query. -/
def CarriesQuery (r : Request) (query : OrderQuery) : Prop :=
  OrderQuery.ofQueryString r.queryString = .ok query

theorem Asks.route_eq
    {r : Request} {asked : Asked}
    (asks : r.Asks asked) :
    Route.ofPath? r.path = some (.orders asked.route) :=
  Route.ofPath?_eq_orders_iff.mpr ⟨asks.part, asks.path⟩

end Request

namespace Api

/-- A part of a path spells an identifier: without its escapes it is a text, and the text is
read as the identifier. -/
def Spells (sent : List UInt8) (id : Identifier) : Prop :=
  ∃ cs, Utf8.decode? (Text.percentDecode sent) = some cs ∧ Identifier.parse? cs = some id

theorem requestedLines_eq_ok_iff
    {r : Request} {lines : List LineRequest} :
    requestedLines r = .ok lines ↔ r.CarriesLines lines := by
  have hparts : r.CarriesLines lines ↔
      r.bodyIsJson = true ∧ r.body.length ≤ maxBodySize ∧
        Placement.bindRequest (Json.Node.read r.body) = .ok lines :=
    ⟨fun h => ⟨h.isJson, h.size, h.read⟩, fun h => ⟨h.1, h.2.1, h.2.2⟩⟩
  rw [hparts, requestedLines]
  cases hjson : r.bodyIsJson with
  | false =>
      simp
  | true =>
      by_cases hsize : maxBodySize < r.body.length
      · simp [hsize, Nat.not_le.mpr hsize]
      · cases hread : Placement.bindRequest (Json.Node.read r.body) <;>
          simp [hsize, Nat.not_lt.mp hsize, Except.mapError]

/-- A body that is not read as lines is refused as not bound. -/
theorem requestedLines_of_unread
    {r : Request}
    (unread : ∀ lines, ¬ r.CarriesLines lines) :
    ∃ text, requestedLines r = .error (.unbound text) := by
  cases h : requestedLines r with
  | ok lines =>
      exact absurd (requestedLines_eq_ok_iff.mp h) (unread lines)
  | error e =>
      rw [requestedLines] at h
      split at h
      · cases h
        exact ⟨_, rfl⟩
      · split at h
        · cases h
          exact ⟨_, rfl⟩
        · cases hread : Placement.bindRequest (Json.Node.read r.body) with
          | ok lines =>
              rw [hread] at h
              cases h
          | error p =>
              rw [hread] at h
              cases h
              exact ⟨_, rfl⟩

theorem requestedListing_eq_ok_iff
    {r : Request} {query : OrderQuery} :
    requestedListing r = .ok query ↔ r.CarriesQuery query := by
  rw [requestedListing, Request.CarriesQuery]
  cases OrderQuery.ofQueryString r.queryString <;> simp [Except.mapError]

/-- A query string that is not read as a query is refused as not bound. -/
theorem requestedListing_of_unread
    {r : Request}
    (unread : ∀ query, ¬ r.CarriesQuery query) :
    ∃ text, requestedListing r = .error (.unbound text) := by
  cases hread : OrderQuery.ofQueryString r.queryString with
  | ok query =>
      exact absurd hread (unread query)
  | error e =>
      simp [requestedListing, hread, Except.mapError]

theorem pathIdentifier_eq_ok_iff
    {sent : List UInt8} {id : Identifier} :
    pathIdentifier sent = .ok id ↔ Spells sent id := by
  rw [pathIdentifier, Spells]
  cases hdecode : Utf8.decode? (Text.percentDecode sent) with
  | none =>
      simp
  | some cs =>
      cases hparse : Identifier.parse? cs <;> simp [hparse]

/-- What a client is told of a part of a path that spells no identifier. -/
def pathFaults : List String :=
  ["Invalid URL:", "Invalid URL: Invalid UTF-8 in `order_id`"]

theorem pathIdentifier_of_unspelled
    {sent : List UInt8}
    (unspelled : ∀ id, ¬ Spells sent id) :
    ∃ text ∈ pathFaults, pathIdentifier sent = .error text := by
  cases h : pathIdentifier sent with
  | ok id =>
      exact absurd (pathIdentifier_eq_ok_iff.mp h) (unspelled id)
  | error text =>
      refine ⟨text, ?_, rfl⟩
      rw [pathIdentifier] at h
      split at h
      · cases h
        simp [pathFaults]
      · split at h
        · cases h
          simp [pathFaults]
        · cases h

/-! ## The answer to a request -/

variable {σ : Type} (answer : (c : Call) → σ → c.Answer × σ) (s : σ)

/-- An operation ends in a response, or in an amount that is too large. -/
theorem run_settle
    {α : Type}
    (respond : α → Response)
    (task : Task Service.Failure α) :
    (settle respond task).run answer s =
      (match (task.run answer s).1 with
        | .ok a => .ok (respond a)
        | .error (.error e) => .ok (refusal e)
        | .error (.overflow x) => .error x, (task.run answer s).2) := by
  rw [settle, Dialogue.monad_bind_eq, Dialogue.run_bind, Dialogue.run_attempt]
  cases (task.run answer s).1 with
  | ok a =>
      rfl
  | error failure =>
      cases failure <;> rfl

section Respond

variable (policy : OrderPolicy) (random : Identifier) {r : Request} {asked : Asked}

/-- A request on a path of orders is answered by the answer to the caller, under the name of
the request. -/
theorem run_respond
    {route : OrderRoute}
    (known : Route.ofPath? r.path = some (.orders route)) :
    (respond policy random r).run answer s =
      (((answerCaller policy r route).run answer s).1.map fun response =>
          trimmedFor r (.orders route) (response.correlated (correlationId r random)),
        ((answerCaller policy r route).run answer s).2) := by
  simp only [respond, known, Dialogue.monad_bind_eq, Dialogue.run_bind, Dialogue.pure_eq_done]
  cases (answerCaller policy r route).run answer s with
  | mk result s' =>
      cases result <;> rfl

/-- The answer to an operation keeps its body. -/
theorem trimmedFor_of_asks
    (asks : r.Asks asked)
    (route : Route)
    (response : Response) :
    trimmedFor r route response = response := by
  have whole : r.method ≠ .head := by
    rw [asks.method]
    cases asked <;> nofun
  rw [trimmedFor, if_neg fun h => whole h.1]

/-- An identified user is answered by the operation, and the answer gets the name of the
request. -/
theorem run_respond_of_asks
    (asks : r.Asks asked)
    {userId : Identifier}
    (caller : callingUser r = .ok userId) :
    (respond policy random r).run answer s =
      (((dispatch policy userId r asked.route).run answer s).1.map
          (·.correlated (correlationId r random)),
        ((dispatch policy userId r asked.route).run answer s).2) := by
  simp only [run_respond answer s policy random asks.route_eq, answerCaller, caller,
    trimmedFor_of_asks asks]

/-- Whoever is not identified is refused, and nothing is asked. -/
theorem run_respond_of_stranger
    (asks : r.Asks asked)
    {e : ServiceError}
    (stranger : callingUser r = .error e) :
    (respond policy random r).run answer s =
      (.ok ((refusal e).correlated (correlationId r random)), s) := by
  simp only [run_respond answer s policy random asks.route_eq, answerCaller, stranger,
    trimmedFor_of_asks asks]
  rfl

theorem dispatch_placing
    (asks : r.Asks .placing)
    (userId : Identifier) :
    dispatch policy userId r Asked.placing.route = placeOrder policy userId r := by
  simp only [dispatch, Asked.route, asks.method, Asked.method]

theorem dispatch_listing
    (asks : r.Asks .listing)
    (userId : Identifier) :
    dispatch policy userId r Asked.listing.route = listOrders userId r := by
  simp only [dispatch, Asked.route, asks.method, Asked.method]

theorem dispatch_reading
    {sent : List UInt8}
    (asks : r.Asks (.reading sent))
    (userId : Identifier) :
    dispatch policy userId r (Asked.reading sent).route =
      withOrder sent (getOrder userId) := by
  simp only [dispatch, Asked.route, asks.method, Asked.method]

theorem dispatch_cancelling
    {sent : List UInt8}
    (asks : r.Asks (.cancelling sent))
    (userId : Identifier) :
    dispatch policy userId r (Asked.cancelling sent).route =
      withOrder sent (cancelOrder userId) := by
  simp only [dispatch, Asked.route, asks.method, Asked.method]

end Respond

end Api
end OrderDesk
