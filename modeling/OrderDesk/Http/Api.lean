import OrderDesk.Documents.Order
import OrderDesk.Documents.Placement
import OrderDesk.Http.Request
import OrderDesk.Http.Response
import OrderDesk.Listing.Parameters
import OrderDesk.Service

/-!
# The web interface

How a request is answered, as a dialogue with the catalog and the store.

- An unknown path is answered at once, and so is the health check.
- A known path is answered under the identifier of its request, which the request
  brings or which is made anew.  Before anything else the calling user is
  identified, and only then is the method looked at.
- Where a request for a document is answered, one for its headers alone is answered
  like it, without the body.

A computation that runs into an amount too large to represent has no response.
-/

namespace OrderDesk
namespace Api

/-- The computation that answers a request. -/
abbrev Answering := Task Overflow Response

/-- The response to a failed operation. -/
def refusal (e : ServiceError) : Response := e.report.response

/-- Answers with the outcome of an operation of the service. -/
def settle {α : Type} (respond : α → Response) (task : Task Service.Failure α) : Answering := do
  match ← task.attempt with
  | .ok a => .done (respond a)
  | .error (.error e) => .done (refusal e)
  | .error (.overflow o) => .fail o

/-- The response that shows an order. -/
def showOrder (o : Order) : Response :=
  .ok (OrderView.of o).document

/-- The response that shows an order to its owner. -/
def showOwnOrder (id userId : Identifier) (o : Order) : Response :=
  if o.isOwnedBy userId then showOrder o else refusal (.rule (.permissionDenied id))

/-- The response that shows a page of orders. -/
def showListing (listing : List Order × Page) : Response :=
  .ok (ListingView.of listing.1 listing.2).document

/-- The largest body of a request. -/
def maxBodySize : Nat := 2097152

/-- The report of a problem of a JSON body. -/
def bodyFault : Json.Problem → String
  | .malformed => "Failed to parse the request body as JSON"
  | .mismatch path cause =>
    "Failed to deserialize the JSON body into the target type: " ++
      (if path.isEmpty then "" else path.text ++ ": ") ++ (cause.message?.getD "")

/-- The lines that the body of a request asks for. -/
def requestedLines (r : Request) : Except InputError (List LineRequest) :=
  if !r.bodyIsJson then
    .error (.unbound "Expected request with `Content-Type: application/json`")
  else if maxBodySize < r.body.length then
    .error (.unbound "Failed to buffer the request body: length limit exceeded")
  else
    (Placement.bindRequest (Json.Node.read r.body)).mapError fun p => .unbound (bodyFault p)

/-- The listing that the query string of a request asks for. -/
def requestedListing (r : Request) : Except InputError OrderQuery :=
  (OrderQuery.ofQueryString r.queryString).mapError fun e =>
    .unbound ("Failed to deserialize query string: " ++ e.message)

/-- The identifier in a path, or the text of the refusal. -/
def pathIdentifier (sent : List UInt8) : Except String Identifier :=
  match Utf8.decode? (Text.percentDecode sent) with
  | none => .error "Invalid URL: Invalid UTF-8 in `order_id`"
  | some cs =>
    match Identifier.parse? cs with
    | none => .error "Invalid URL:"
    | some id => .ok id

/-- Answers for the order in a path. -/
def withOrder (sent : List UInt8) (answer : Identifier → Answering) : Answering :=
  match pathIdentifier sent with
  | .ok id => answer id
  | .error text => .done (.of .badRequest (.text text))

/-- Answers a request to place an order. -/
def placeOrder (policy : OrderPolicy) (userId : Identifier) (r : Request) : Answering :=
  match requestedLines r with
  | .ok lines => settle showOrder (Service.place policy userId lines)
  | .error e => .done (refusal (.rule (.invalidInput e)))

/-- Answers a request to list orders. -/
def listOrders (userId : Identifier) (r : Request) : Answering :=
  match requestedListing r with
  | .ok query => settle showListing (Service.list userId query)
  | .error e => .done (refusal (.rule (.invalidInput e)))

/-- Answers a request to show an order. -/
def getOrder (userId id : Identifier) : Answering :=
  settle (showOwnOrder id userId) (Service.get id)

/-- Answers a request to cancel an order. -/
def cancelOrder (userId id : Identifier) : Answering :=
  settle showOrder (Service.cancel id userId)

/-- Answers an identified user on a known path. -/
def dispatch (policy : OrderPolicy) (userId : Identifier) (r : Request) : OrderRoute → Answering
  | .all =>
    match r.method with
    | .post => placeOrder policy userId r
    | .get | .head => listOrders userId r
    | _ => .done (.bare .methodNotAllowed)
  | .one id =>
    match r.method with
    | .get | .head => withOrder id (getOrder userId)
    | _ => .done (.bare .methodNotAllowed)
  | .cancellation id =>
    match r.method with
    | .put => withOrder id (cancelOrder userId)
    | _ => .done (.bare .methodNotAllowed)

/-- The user that a request acts for. -/
def callingUser (r : Request) : Except ServiceError Identifier :=
  match r.headers.first? Request.userHeader.toLower with
  | none => .error (.missingHeader Request.userHeader)
  | some _ =>
    match r.headers.identifier? Request.userHeader.toLower with
    | some id => .ok id
    | none => .error .invalidUserId

/-- The response to the health check. -/
def health (r : Request) : Response :=
  match r.method with
  | .get | .head => .of .ok (.text "OK")
  | _ => .bare .methodNotAllowed

/-- The identifier of a request, made from random digits if it brings none. -/
def correlationId (r : Request) (random : Identifier) : Identifier :=
  r.correlation?.getD (Identifier.fresh random)

/-- Answers a request on a path of orders, once the user is identified. -/
def answerCaller (policy : OrderPolicy) (r : Request) (route : OrderRoute) : Answering :=
  match callingUser r with
  | .ok userId => dispatch policy userId r route
  | .error e => .done (refusal e)

/-- Whether documents are asked for on a route. -/
def servesDocuments : Route → Bool
  | .health | .orders .all | .orders (.one _) => true
  | .orders (.cancellation _) => false

/-- Removes the body from the response to a request for the headers alone, on a
route of documents. -/
def trimmedFor (r : Request) (route : Route) (response : Response) : Response :=
  if r.method = .head ∧ servesDocuments route then response.withoutBody else response

/-- Answers a request.  The random digits serve to name it if it brings no name. -/
def respond (policy : OrderPolicy) (random : Identifier) (r : Request) : Answering :=
  match Route.ofPath? r.path with
  | none => .done (.bare .notFound)
  | some .health => .done (trimmedFor r .health (health r))
  | some (.orders route) => do
    let response ← answerCaller policy r route
    return trimmedFor r (.orders route) (response.correlated (correlationId r random))

end Api
end OrderDesk
