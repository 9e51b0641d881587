import OrderDesk.Dialogue
import OrderDesk.Failure
import OrderDesk.Listing.Page
import OrderDesk.Listing.Query
import OrderDesk.Order.Code

/-!
# Calls of the service

The questions that the service asks its two collaborators, the product catalog
and the order store, and what each is answered with.  `Task` is a dialogue of
such calls.

What a call takes from outside, identifiers, random draws and the time, is its
`Occasion`.
-/

namespace OrderDesk

/-- A question to the catalog or the store. -/
inductive Call where
  /-- The current data of a product. -/
  | product (id : Identifier)
  /-- Stores a new order with all its lines. -/
  | create (userId : Identifier) (lines : List PricedLine)
  /-- One order, with its lines or without. -/
  | load (id : Identifier) (withLines : Bool)
  /-- One page of a user's orders. -/
  | page (userId : Identifier) (query : OrderQuery)
  /-- Writes the status of an order, if its version is still the stored one. -/
  | save (order : Order)
deriving DecidableEq

namespace Call

/-- What a call is answered with. -/
@[reducible] def Answer : Call → Type
  | product _ => Except StoreError Product
  | create .. => Except (Interruption StoreError) Order
  | load .. => Except StoreError Order
  | page .. => Except StoreError (List Order × Page)
  | save _ => Except StoreError Stamp

/-- The answer that reports an error. -/
def failed : (c : Call) → StoreError → c.Answer
  | product _, e => .error e
  | create .., e => .error (.error e)
  | load .., e => .error e
  | page .., e => .error e
  | save _, e => .error e

/-- The kinds of calls. -/
inductive Kind where
  | product
  | create
  | load
  | page
  | save
deriving DecidableEq, Repr

/-- The kind of a call. -/
def kind : Call → Kind
  | product _ => .product
  | create .. => .create
  | load .. => .load
  | page .. => .page
  | save _ => .save

end Call

/-- What the outside world supplies to one call. -/
structure Occasion where
  orderId : Identifier
  lineId : Nat → Identifier
  draws : OrderCode.Draws
  now : Instant

/-- A computation of the service. -/
abbrev Task (ε α : Type) := Dialogue Call Call.Answer ε α

end OrderDesk
