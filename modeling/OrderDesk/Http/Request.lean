import OrderDesk.Http.Headers
import OrderDesk.Http.MediaType
import OrderDesk.Text.Octet
import OrderDesk.Text.Percent
import OrderDesk.Text.Utf8

/-!
# Requests

A request has a method, a target with a path and possibly a query string, headers
and a body.  `Route` names the operations by their paths; a path is compared as it
was sent, without replacing escapes.
-/

namespace OrderDesk

open Text (octet)

/-- The methods that the service knows. -/
inductive Method where
  | get
  | head
  | post
  | put
  | other
deriving DecidableEq, Repr

/-- The method of a name. -/
def Method.ofName (name : String) : Method :=
  match name with
  | "GET" => .get
  | "HEAD" => .head
  | "POST" => .post
  | "PUT" => .put
  | _ => .other

/-- A request. -/
structure Request where
  method : Method
  target : List UInt8
  headers : Headers
  body : List UInt8
deriving DecidableEq

namespace Request

/-- The marks between a scheme and an authority. -/
def authorityMark : List UInt8 := Utf8.ofString "://"

/-- The octets behind the first occurrence of a mark, if there is one. -/
def behind? (mark : List UInt8) : List UInt8 → Option (List UInt8)
  | [] => none
  | b :: bs => (Text.afterStart? mark (b :: bs)).or (behind? mark bs)

/-- The target behind scheme and authority; a target that starts with a slash has
neither. -/
def localPart (target : List UInt8) : List UInt8 :=
  if target.head? = some (octet '/') then target
  else
    match behind? authorityMark target with
    | some rest => rest.dropWhile fun b => b != octet '/' && b != octet '?' && b != octet '#'
    | none => target

/-- The target without scheme and authority, and without the fragment, which starts
at a number sign. -/
def located (r : Request) : List UInt8 :=
  (localPart r.target).takeWhile (· != octet '#')

/-- The path of the target, up to a question mark. -/
def path (r : Request) : List UInt8 :=
  r.located.takeWhile (· != octet '?')

/-- The query string of the target, behind a question mark. -/
def queryString (r : Request) : List UInt8 :=
  (r.located.dropWhile (· != octet '?')).drop 1

/-- The header that names the calling user. -/
def userHeader : String := "X-Request-User-Id"

/-- The header that names the request. -/
def correlationHeader : String := "X-Correlation-Id"

/-- The identifier that a request brings for itself. -/
def correlation? (r : Request) : Option Identifier :=
  r.headers.identifier? correlationHeader.toLower

/-- Whether a request says that its body is JSON. -/
def bodyIsJson (r : Request) : Bool :=
  match (r.headers.first? "content-type").bind Header.textOf? with
  | some cs => (MediaType.parse? cs).any MediaType.isJson
  | none => false

end Request

/-- The paths of orders.  The identifier of an order is kept as it was sent. -/
inductive OrderRoute where
  /-- All orders of a user. -/
  | all
  /-- One order. -/
  | one (id : List UInt8)
  /-- The cancellation of one order. -/
  | cancellation (id : List UInt8)
deriving DecidableEq, Repr

/-- The paths that the service knows. -/
inductive Route where
  | health
  | orders (route : OrderRoute)
deriving DecidableEq, Repr

namespace Route

/-- The path of the health check. -/
def healthPath : List UInt8 := Utf8.ofString "/health"

/-- The path of all orders. -/
def ordersPath : List UInt8 := Utf8.ofString "/api/v1/orders"

/-- The end of the path of a cancellation. -/
def cancelPath : List UInt8 := Utf8.ofString "/cancel"

/-- The route behind the path of all orders.  Only in front of the end of a
cancellation may an identifier be empty. -/
def below? : List UInt8 → Option OrderRoute
  | [] => some .all
  | b :: bs =>
    let id := bs.takeWhile (· != octet '/')
    let rest := bs.dropWhile (· != octet '/')
    if b ≠ octet '/' then none
    else if rest = cancelPath then some (.cancellation id)
    else if rest.isEmpty && !id.isEmpty then some (.one id)
    else none

/-- The route of a path. -/
def ofPath? (path : List UInt8) : Option Route :=
  if path = healthPath then some .health
  else ((Text.afterStart? ordersPath path).bind below?).map .orders

end Route
end OrderDesk
