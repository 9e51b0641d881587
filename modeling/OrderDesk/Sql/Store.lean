import OrderDesk.Service.Call
import OrderDesk.Sql.Exchange

/-!
# The order store in the database

How each call of the service is answered by an exchange with the database.

- A new order is stored in one transaction: first the order, then its lines.
- Lines are read in one statement for all orders that are shown, and none is sent
  if there are no orders.
- A status is written only over the version that the writer has read.  If no row
  has it, a second statement finds out whether the order exists at all.
-/

namespace OrderDesk
namespace Sql

/-- The order of a row, or an error of the store. -/
def orderOf (r : OrderRow) : Except (Stop StoreError) Order :=
  r.order.mapError fun text => .error (.invalidRow text)

/-- Stores the lines of an order, the first of which has the given position. -/
def insertLines (orderId : Identifier) (lineId : Nat → Identifier) :
    Nat → List PricedLine → Exchange StoreError (List OrderLine)
  | _, [] => .done []
  | position, line :: lines => do
    let (createdAt, updatedAt) ← stored <|
      firstRow (.insertLine (lineId position) orderId (Int32.ofNat position) line)
    let rest ← insertLines orderId lineId (position + 1) lines
    let stored : OrderLine :=
      { id := lineId position
        orderId
        productId := line.productId
        quantity := line.quantity
        price := line.price
        product := none
        createdAt
        updatedAt }
    return stored :: rest

/-- Stores a new order with its lines. -/
def insertOrder
    (o : Occasion) (userId : Identifier) (lines : List PricedLine) (totalPrice : Decimal) :
    Exchange StoreError Order :=
  inTransaction do
    let row ← stored <|
      firstRow (.insertOrder o.orderId (OrderCode.generate o.now o.draws) userId totalPrice .new)
    let order ← .ofExcept (orderOf row)
    let lines ← insertLines o.orderId o.lineId 0 lines
    return { order with lines }

/-- The lines of some orders. -/
def linesOf (orderIds : List Identifier) : Exchange StoreError (List OrderLine) :=
  if orderIds.isEmpty then .done []
  else do
    let rs ← stored (rows (.linesOf orderIds))
    return rs.map LineRow.line

/-- Gives every order its lines; of orders with one identifier, the first gets them. -/
def distribute : List Order → List OrderLine → List Order
  | [], _ => []
  | o :: os, lines =>
    { o with lines := lines.filter (·.orderId == o.id) } ::
      distribute os (lines.filter (·.orderId != o.id))

/-- Reads one order. -/
def fetchOrder (id : Identifier) (withLines : Bool) : Exchange StoreError Order := do
  match ← stored (firstRow? (.orderById id)) with
  | none => .fail (.error (.notFound .order id))
  | some row =>
    let order ← .ofExcept (orderOf row)
    if withLines then
      let lines ← linesOf [order.id]
      return { order with lines := lines.filter (·.orderId == order.id) }
    else
      return order

/-- Reads one page of a user's orders. -/
def fetchPage (userId : Identifier) (query : OrderQuery) :
    Exchange StoreError (List Order × Page) := do
  let filter := Filter.of userId query
  let total ← stored (firstRow (.countOrders filter))
  let page := Page.ofRequest query.page query.limit total
  let rs ← stored <|
    rows (.ordersOf filter query.orderBy query.descending page.limit page.skip)
  let orders ← .ofExcept (rs.mapM orderOf)
  let lines ← linesOf (orders.map (·.id))
  return (distribute orders lines, page)

/-- Writes the status of an order. -/
def writeStatus (order : Order) : Exchange StoreError Stamp := do
  match ← stored (firstRow? (.writeStatus order.id order.status order.version)) with
  | some stamp => .done stamp
  | none =>
    if ← stored (firstRow (.orderExists order.id)) then
      .fail (.error (.versionConflict order.id order.version))
    else
      .fail (.error (.notFound .order order.id))

/-- Reads one product. -/
def fetchProduct (id : Identifier) : Exchange StoreError Product := do
  match ← stored (firstRow? (.productById id)) with
  | none => .fail (.error (.notFound .product id))
  | some p => .done { p with price := p.price.withoutZeroPlaces }

/-- A dialogue of statements that always comes to an answer. -/
abbrev Answering (α : Type) := Dialogue Statement (fun s => Reply s.Row) Empty α

/-- Answers a call of the service within a time budget.  An order whose total is
too large is refused before anything is sent. -/
def answer (budget : Duration) (o : Occasion) : (c : Call) → Answering c.Answer
  | .product id => (bounded budget (fetchProduct id)).attempt
  | .create userId lines =>
    match Order.totalOf lines with
    | .error overflow => .done (.error (.overflow overflow))
    | .ok totalPrice =>
      ((bounded budget (insertOrder o userId lines totalPrice)).mapError .error).attempt
  | .load id withLines => (bounded budget (fetchOrder id withLines)).attempt
  | .page userId query => (bounded budget (fetchPage userId query)).attempt
  | .save order => (bounded budget (writeStatus order)).attempt

end Sql
end OrderDesk
