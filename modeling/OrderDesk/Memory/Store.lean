import OrderDesk.Memory.Catalog
import OrderDesk.Service.Call

/-!
# An order store in memory

The orders in the order of their creation, beside the catalog that fills in the
products of lines on reading.

- A new order becomes visible with all its lines or not at all.
- A write carries the version that the writer read.  It succeeds only if that
  is still the stored one, and raises it by one.
- An outside process may set a status at any time, which is a write too.
-/

namespace OrderDesk

/-- The state of the store and the catalog. -/
structure Memory where
  orders : List Order := []
  catalog : Catalog := {}
  /-- Whether lines are shown with the products of the catalog. -/
  showsProducts : Bool := true
  /-- The position of the line whose insertion fails. -/
  failingLine : Option Nat := none

namespace Memory

/-- The order with an identifier. -/
def find? (m : Memory) (id : Identifier) : Option Order :=
  m.orders.find? (·.id == id)

/-- The state with one order changed in its place. -/
def modify (m : Memory) (id : Identifier) (f : Order → Order) : Memory :=
  { m with orders := m.orders.map fun o => if o.id = id then f o else o }

/-- The stored lines of a new order. -/
def newLines (o : Occasion) (lines : List PricedLine) : List OrderLine :=
  lines.mapIdx fun i l =>
    { id := o.lineId i
      orderId := o.orderId
      productId := l.productId
      quantity := l.quantity
      price := l.price
      product := none
      createdAt := o.now
      updatedAt := o.now }

/-- The report of the line whose insertion fails, if a new order has it. -/
def lineFailure? (m : Memory) (lines : List PricedLine) : Option StoreError :=
  match m.failingLine with
  | some i =>
    if i < lines.length then
      some (.database (.protocol s!"insert of order line {i} failed"))
    else none
  | none => none

/-- Stores a new order. -/
def create
    (o : Occasion) (userId : Identifier) (lines : List PricedLine) (m : Memory) :
    Except (Interruption StoreError) Order × Memory :=
  match Order.totalOf lines with
  | .error overflow => (.error (.overflow overflow), m)
  | .ok totalPrice =>
    match m.lineFailure? lines with
    | some e => (.error (.error e), m)
    | none =>
      let order : Order :=
        { id := o.orderId
          code := OrderCode.generate o.now o.draws
          userId
          lines := newLines o lines
          totalPrice
          status := .new
          version := 1
          createdAt := o.now
          updatedAt := o.now }
      (.ok order, { m with orders := m.orders ++ [order] })

/-- An order as it is read with its lines. -/
def shown (m : Memory) (o : Order) : Order :=
  if m.showsProducts then o.withProducts m.catalog.summary? else o

/-- Reads one order. -/
def load (m : Memory) (id : Identifier) (withLines : Bool) : Except StoreError Order :=
  match m.find? id with
  | none => .error (.notFound .order id)
  | some o => .ok (if withLines then m.shown o else o.withoutLines)

/-- Reads one page of a user's orders. -/
def page (m : Memory) (userId : Identifier) (query : OrderQuery) : List Order × Page :=
  let matching := query.arrange userId m.orders
  let page := Page.ofRequest query.page query.limit (Int64.ofNat matching.length)
  ((page.cut matching).map m.shown, page)

/-- The stored order after a status is written. -/
def written (o : Order) (status : OrderStatus) (now : Instant) : Order :=
  { o with status, version := o.version + 1, updatedAt := now }

/-- Writes the status of an order under the version of the given copy. -/
def save (now : Instant) (copy : Order) (m : Memory) : Except StoreError Stamp × Memory :=
  match m.find? copy.id with
  | none => (.error (.notFound .order copy.id), m)
  | some stored =>
    if stored.version = copy.version then
      (.ok ⟨stored.version + 1, now⟩, m.modify copy.id fun o => written o copy.status now)
    else (.error (.versionConflict copy.id copy.version), m)

/-- Sets a status from outside, if the order exists. -/
def setStatus? (now : Instant) (id : Identifier) (status : OrderStatus) (m : Memory) :
    Option Memory :=
  (m.find? id).map fun _ => m.modify id fun o => written o status now

/-- Answers a call of the service. -/
def answer (o : Occasion) : (c : Call) → Memory → c.Answer × Memory
  | .product id, m => (m.catalog.lookUp id, m)
  | .create userId lines, m => m.create o userId lines
  | .load id withLines, m => (m.load id withLines, m)
  | .page userId query, m => (.ok (m.page userId query), m)
  | .save order, m => m.save o.now order

end Memory
end OrderDesk
