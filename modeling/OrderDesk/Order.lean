import OrderDesk.Instant
import OrderDesk.Order.Status
import OrderDesk.Product

/-!
# Orders

An order belongs to a user and owns its lines.  Both are created together, and
afterwards only the status changes, with a version that counts the writes.

**Prices** are frozen at creation: a line costs its unit price times its
quantity, and an order costs the sum of its lines.
-/

namespace OrderDesk

/-- A line whose price is settled, ready to be stored. -/
structure PricedLine where
  productId : Identifier
  quantity : Int32
  price : Decimal
deriving DecidableEq

/-- Settles the price of a line from the current unit price. -/
def PricedLine.of
    (productId : Identifier)
    (quantity : Int32)
    (unitPrice : Decimal) :
    Except Overflow PricedLine := do
  let price ← unitPrice.mul (Decimal.ofInt32 quantity)
  return { productId, quantity, price }

/-- A stored line.  The product is descriptive and filled in on reading. -/
structure OrderLine where
  id : Identifier
  orderId : Identifier
  productId : Identifier
  quantity : Int32
  price : Decimal
  product : Option ProductSummary
  createdAt : Instant
  updatedAt : Instant
deriving DecidableEq

/-- A stored order.  Its lines are present only where it was read with them. -/
structure Order where
  id : Identifier
  code : String
  userId : Identifier
  lines : List OrderLine
  totalPrice : Decimal
  status : OrderStatus
  /-- It is 1 at first and rises with every write.  It is an integer without bounds here, so
  the wrap of a 64-bit version at `2 ^ 63 - 1` is left out. -/
  version : Int
  createdAt : Instant
  updatedAt : Instant
deriving DecidableEq

/-- What a successful write leaves on an order: the next version and the time. -/
structure Stamp where
  version : Int
  updatedAt : Instant
deriving DecidableEq

namespace Order

/-- The sum of the line prices. -/
def totalOf (lines : List PricedLine) : Except Overflow Decimal :=
  Decimal.sum (lines.map (·.price))

/-- Whether the order belongs to a user. -/
def isOwnedBy (o : Order) (userId : Identifier) : Bool :=
  o.userId == userId

/-- The order with status `cancelled`, unless its status is terminal. -/
def cancel? (o : Order) : Option Order :=
  if o.status.canCancel then some { o with status := .cancelled } else none

/-- The order after a write. -/
def stamped (o : Order) (s : Stamp) : Order :=
  { o with version := s.version, updatedAt := s.updatedAt }

/-- The order without its lines. -/
def withoutLines (o : Order) : Order :=
  { o with lines := [] }

/-- The order with the product of each line chosen anew. -/
def withProducts
    (o : Order)
    (product : Identifier → Option ProductSummary) :
    Order :=
  { o with lines := o.lines.map fun l => { l with product := product l.productId } }

end Order
end OrderDesk
