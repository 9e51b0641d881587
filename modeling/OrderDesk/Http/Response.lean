import OrderDesk.Failure
import OrderDesk.Json.Value

/-!
# Responses

A response has a status and possibly a document, a text and the identifier of the
request.

**Errors** are answered with a document that has a message, a fixed code and, where
that helps the client, a detail.  What went wrong inside the database stays
inside: the client sees neither texts nor durations of such errors.
-/

namespace OrderDesk

/-- The statuses of responses. -/
inductive HttpStatus where
  | ok
  | badRequest
  | unauthorized
  | forbidden
  | notFound
  | methodNotAllowed
  | conflict
  | internalError
  | unavailable
deriving DecidableEq, Repr

/-- The number of a status. -/
def HttpStatus.code : HttpStatus → Nat
  | .ok => 200
  | .badRequest => 400
  | .unauthorized => 401
  | .forbidden => 403
  | .notFound => 404
  | .methodNotAllowed => 405
  | .conflict => 409
  | .internalError => 500
  | .unavailable => 503

/-- What a response carries. -/
inductive Body where
  | empty
  | text (s : String)
  | document (v : Json.Value)

/-- The media type of a body. -/
def Body.contentType? : Body → Option String
  | .empty => none
  | .text _ => some "text/plain; charset=utf-8"
  | .document _ => some "application/json"

/-- A response. -/
structure Response where
  status : HttpStatus
  contentType : Option String
  /-- The identifier of the request. -/
  correlation : Option Identifier
  body : Body

namespace Response

/-- A response with a body. -/
def of (status : HttpStatus) (body : Body) : Response :=
  { status, contentType := body.contentType?, correlation := none, body }

/-- A response without a body. -/
def bare (status : HttpStatus) : Response := of status .empty

/-- A successful response with a document. -/
def ok (v : Json.Value) : Response := of .ok (.document v)

/-- The response to a request for the headers alone. -/
def withoutBody (r : Response) : Response := { r with body := .empty }

/-- The response under the identifier of its request. -/
def correlated (r : Response) (id : Identifier) : Response := { r with correlation := some id }

end Response

/-- What a client is told of an error. -/
structure ErrorReport where
  status : HttpStatus
  code : String
  message : String
  details : Option String
deriving DecidableEq, Repr

namespace ErrorReport

/-- The document of a report. -/
def document (r : ErrorReport) : Json.Value :=
  .object <|
    [("error", .text r.message), ("error_code", .text r.code)] ++
    Json.Value.optional "details" (r.details.map .text)

/-- The response that carries a report. -/
def response (r : ErrorReport) : Response :=
  .of r.status (.document r.document)

end ErrorReport

/-- The report of a refusal by a business rule. -/
def RuleError.report (e : RuleError) : ErrorReport :=
  match e with
  | .invalidInput input => ⟨.badRequest, "invalid_input", e.message, some input.message⟩
  | .productNotFound id => ⟨.badRequest, "product_not_found", e.message, some id⟩
  | .permissionDenied _ => ⟨.forbidden, "permission_denied", e.message, none⟩
  | .invalidTransition .. => ⟨.conflict, "invalid_state_transition", e.message, some e.message⟩

/-- The report of a failure of the store. -/
def StoreError.report (e : StoreError) : ErrorReport :=
  match e with
  | .notFound entity id =>
    ⟨.notFound, if entity = .order then "order_not_found" else "not_found", e.message,
      some id.text⟩
  | .versionConflict .. => ⟨.conflict, "version_conflict", e.message, none⟩
  | .timeout _ => ⟨.unavailable, "store_timeout", "Service temporarily unavailable", none⟩
  | .database _ | .invalidRow _ =>
    ⟨.internalError, "database_error", "Internal server error", none⟩

/-- The report of an error of the service. -/
def ServiceError.report (e : ServiceError) : ErrorReport :=
  match e with
  | .missingHeader name => ⟨.unauthorized, "unauthenticated", e.message, some name⟩
  | .invalidUserId => ⟨.badRequest, "invalid_user_id", e.message, none⟩
  | .rule e => e.report
  | .store e => e.report

end OrderDesk
