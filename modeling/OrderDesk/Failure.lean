import OrderDesk.Duration
import OrderDesk.Order

/-!
# Failures

Why an operation did not succeed.  A failure is its cause; the wording is in
one function `message` for each kind.

- `StoreError`: the store or the catalog could not answer.
- `RuleError`: a business rule refuses the operation.
- `ServiceError`: either of these, or a caller who is not identified.
- `Interruption`: an error, or an amount that is too large to represent.
-/

namespace OrderDesk

/-- What the database reported. -/
inductive DatabaseError where
  /-- An exchange that makes no sense. -/
  | protocol (text : String)
  /-- An error of the server. -/
  | server (message : String)
  /-- No row where one was required. -/
  | rowMissing
deriving DecidableEq, Repr

/-- The wording of each report. -/
def DatabaseError.message : DatabaseError → String
  | .protocol text => "encountered unexpected or invalid data: " ++ text
  | .server message => "error returned from database: " ++ message
  | .rowMissing => "no rows returned by a query that expected to return at least one row"

/-- What a stored row is a row of, by its name in messages. -/
structure Entity where
  text : String
deriving DecidableEq, Repr

namespace Entity

/-- The rows of orders. -/
def order : Entity := ⟨"order"⟩

/-- The rows of products. -/
def product : Entity := ⟨"product"⟩

end Entity

/-- Why the store or the catalog could not answer. -/
inductive StoreError where
  /-- No such row is visible. -/
  | notFound (entity : Entity) (id : Identifier)
  /-- The stored version is not the expected one. -/
  | versionConflict (orderId : Identifier) (expected : Int)
  /-- The call exceeded its time budget. -/
  | timeout (budget : Duration)
  /-- The database failed. -/
  | database (error : DatabaseError)
  /-- A stored value cannot be read. -/
  | invalidRow (text : String)
deriving DecidableEq

namespace StoreError

/-- The wording of each cause. -/
def message : StoreError → String
  | .notFound entity id => s!"{entity.text} not found: {id}"
  | .versionConflict orderId expected =>
    s!"Version conflict for order {orderId}: expected version {expected}"
  | .timeout budget => s!"Store call timed out after {budget.text}"
  | .database error => s!"Database error: {error.message}"
  | .invalidRow text => s!"Invalid stored row: {text}"

/-- Whether the row does not exist. -/
def isNotFound : StoreError → Bool
  | .notFound .. => true
  | _ => false

/-- Whether a concurrent write came first. -/
def isConflict : StoreError → Bool
  | .versionConflict .. => true
  | _ => false

end StoreError

/-- What is wrong with a request. -/
inductive InputError where
  /-- An order without lines. -/
  | noLines
  /-- An order with too many lines. -/
  | tooManyLines (most got : Nat)
  /-- A line without a product. -/
  | productRequired (line : Nat)
  /-- A line whose product is not an identifier. -/
  | productInvalid (line : Nat) (text : String)
  /-- A line whose quantity is not positive. -/
  | quantityNotPositive (line : Nat)
  /-- A request that could not be bound, as reported by the binding. -/
  | unbound (text : String)
deriving DecidableEq, Repr

/-- The wording of each fault. -/
def InputError.message : InputError → String
  | .noLines => "order must contain at least one line"
  | .tooManyLines most got => s!"order may contain at most {most} lines, got {got}"
  | .productRequired line => s!"line {line}: product_id is required"
  | .productInvalid line text => s!"line {line}: product_id '{text}' is not a valid id"
  | .quantityNotPositive line => s!"line {line}: quantity must be positive"
  | .unbound text => text

/-- Which business rule refuses an operation. -/
inductive RuleError where
  | invalidInput (error : InputError)
  | productNotFound (id : String)
  | permissionDenied (orderId : Identifier)
  | invalidTransition (source target : OrderStatus)
deriving DecidableEq

/-- The wording of each refusal. -/
def RuleError.message : RuleError → String
  | .invalidInput error => s!"Invalid input: {error.message}"
  | .productNotFound id => s!"Product not found: {id}"
  | .permissionDenied orderId => s!"Permission denied for order {orderId}"
  | .invalidTransition source target =>
    s!"Invalid state transition: {source} -> {target}"

/-- Why the service did not carry out a request. -/
inductive ServiceError where
  | missingHeader (name : String)
  | invalidUserId
  | rule (error : RuleError)
  | store (error : StoreError)
deriving DecidableEq

/-- The wording of each cause; those of rules and stores are kept. -/
def ServiceError.message : ServiceError → String
  | .missingHeader name => s!"Missing required header: {name}"
  | .invalidUserId => "Invalid user id header"
  | .rule error => error.message
  | .store error => error.message

/-- Why a computation stopped: an error, or an amount too large to represent. -/
inductive Interruption (ε : Type) where
  | error (e : ε)
  | overflow (o : Overflow)
deriving DecidableEq

end OrderDesk
