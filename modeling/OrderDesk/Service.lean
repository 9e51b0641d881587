import OrderDesk.Placement
import OrderDesk.Service.Call

/-!
# The order service

The business rules around placing, reading and cancelling orders, as dialogues
with the catalog and the store.

- **Placing.** The request is checked, every distinct product is looked up once,
  in the order of first mention, and each line is priced as soon as its product
  is known.  Only then is the order stored.
- **Reading.** Orders are read with their lines.
- **Cancelling.** The order is loaded, its owner and its status are checked, and
  the new status is written under the version that was loaded.
-/

namespace OrderDesk
namespace Service

/-- The failure of a service operation. -/
abbrev Failure := Interruption ServiceError

/-- A refusal by a business rule. -/
def refused (e : RuleError) : Failure :=
  .error (.rule e)

/-- A failure of a collaborator, unchanged. -/
def passed (e : StoreError) : Failure :=
  .error (.store e)

/-- Looks a product up; a product that does not exist is a fault of the request. -/
def resolve (id : Identifier) : Task Failure Product :=
  .ask (.product id) fun
    | .ok product => .done product
    | .error e =>
      if e.isNotFound then .fail (refused (.productNotFound id.text)) else .fail (passed e)

/-- The products looked up so far, each under the identifier it was asked by. -/
abbrev Known := List (Identifier × Product)

/-- The product known under an identifier, looked up if it is not known yet. -/
def productFor (known : Known) (id : Identifier) : Task Failure (Product × Known) :=
  match known.lookup id with
  | some product => .done (product, known)
  | none => do
    let product ← resolve id
    return (product, known ++ [(id, product)])

/-- Prices lines in order, from the products known so far. -/
def priceLines : List ValidLine → Known → Task Failure (List PricedLine × Known)
  | [], known => .done ([], known)
  | line :: lines, known => do
    let (product, known) ← productFor known line.productId
    let priced ← .ofExcept <|
      (PricedLine.of line.productId line.quantity product.price).mapError .overflow
    let (rest, known) ← priceLines lines known
    return (priced :: rest, known)

/-- Stores a new order. -/
def store (userId : Identifier) (lines : List PricedLine) : Task Failure Order :=
  .ask (.create userId lines) fun
    | .ok order => .done order
    | .error (.error e) => .fail (passed e)
    | .error (.overflow o) => .fail (.overflow o)

/-- Places an order for a user. -/
def place
    (policy : OrderPolicy)
    (userId : Identifier)
    (request : List LineRequest) :
    Task Failure Order := do
  let valid ← .ofExcept <|
    (policy.validate request).mapError fun e => refused (.invalidInput e)
  let (lines, known) ← priceLines valid []
  let order ← store userId lines
  return order.withProducts fun id => (known.lookup id).map (·.summary)

/-- One order with its lines. -/
def get (id : Identifier) : Task Failure Order :=
  .ask (.load id true) fun
    | .ok order => .done order
    | .error e => .fail (passed e)

/-- One page of a user's orders. -/
def list (userId : Identifier) (query : OrderQuery) : Task Failure (List Order × Page) :=
  .ask (.page userId query) fun
    | .ok page => .done page
    | .error e => .fail (passed e)

/-- What is written when a user cancels an order, decided on the loaded copy. -/
def decideCancel (id userId : Identifier) (order : Order) : Except Failure Order :=
  if order.isOwnedBy userId then
    match order.cancel? with
    | some cancelled => .ok cancelled
    | none => .error (refused (.invalidTransition order.status .cancelled))
  else .error (refused (.permissionDenied id))

/-- Cancels an order on behalf of a user. -/
def cancel (id userId : Identifier) : Task Failure Order :=
  .ask (.load id false) fun
    | .error e => .fail (passed e)
    | .ok order =>
      match decideCancel id userId order with
      | .error e => .fail e
      | .ok cancelled =>
        .ask (.save cancelled) fun
          | .ok stamp => .done (cancelled.stamped stamp)
          | .error e => .fail (passed e)

end Service
end OrderDesk
