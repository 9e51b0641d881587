import OrderDesk.Proofs.Database.Values
import OrderDesk.Proofs.Text.Utf8
import OrderDesk.Sql.Schema
import OrderDesk.Sql.Store

/-!
# The tables and the meaning of statements

What the database does with a statement: the rows that it answers, or an error, and the
tables afterwards.

* `Tables.execute`: one statement on the tables of the schema, with the checks of the
  schema: primary keys, references, the widths of columns and positive quantities.
* `Database.answer`: the same with transactions.  A transaction works on a draft of the
  tables.  Committing stores the draft, rolling back drops it, and an error spoils it.

The columns of a table that no statement reads are left out.  A version has no bound
here, and a time keeps all its digits.  The check of a status, and the width of its
column, cannot fail: a statement can only write one of the four texts.
-/

namespace OrderDesk
namespace Sql

/-! ## Tables -/

structure ProductRecord extends Product where
  deletedAt : Option Instant := none

structure OrderRecord extends OrderRow where
  deletedAt : Option Instant := none

structure LineRecord where
  id : Identifier
  orderId : Identifier
  productId : Identifier
  position : Int32
  quantity : Int32
  price : Decimal
  createdAt : Instant
  updatedAt : Instant
  deletedAt : Option Instant := none

structure Tables where
  products : List ProductRecord := []
  orders : List OrderRecord := []
  lines : List LineRecord := []

/-! ## Conditions and orders of rows -/

def Condition.holds (r : OrderRecord) : Condition → Bool
  | .notDeleted => r.deletedAt.isNone
  | .ownedBy userId => r.userId == userId
  | .hasCode code => r.code == code
  | .hasStatus status => r.status == status.text

/-- The rows of orders for which all conditions of a filter hold. -/
def Filter.rows (f : Filter) (orders : List OrderRecord) : List OrderRecord :=
  orders.filter fun r => f.conditions.all (Condition.holds r)

/-- Order of two rows by one column, where texts are compared octet by octet. -/
def OrderRow.compareBy (column : SortColumn) (a b : OrderRow) : Ordering :=
  match column with
  | .createdAt => a.createdAt.cmp b.createdAt
  | .updatedAt => a.updatedAt.cmp b.updatedAt
  | .code => Utf8.compareOctets a.code b.code
  | .status => Utf8.compareOctets a.status b.status
  | .totalPrice => a.totalPrice.cmp b.totalPrice

/-- Order of two rows by one column in a direction, and then upwards by identifier. -/
def OrderRow.compare (column : SortColumn) (descending : Bool) (a b : OrderRow) : Ordering :=
  (if descending then (compareBy column a b).swap else compareBy column a b).then
    (Ord.compare a.id.toNat b.id.toNat)

/-- Order of two lines by order and then by position. -/
def LineRecord.compare (a b : LineRecord) : Ordering :=
  (Ord.compare a.orderId.toNat b.orderId.toNat).then
    (Ord.compare a.position.toInt b.position.toInt)

/-! ## Statements -/

namespace Refusal

def duplicateKey (constraint : String) : String :=
  s!"duplicate key value violates unique constraint \"{constraint}\""

def missingReference (constraint : String) : String :=
  s!"insert or update on table \"order_lines\" violates foreign key constraint \"{constraint}\""

def failedCheck (constraint : String) : String :=
  s!"new row for relation \"order_lines\" violates check constraint \"{constraint}\""

def numericOverflow : String := "numeric field overflow"

def tooLong : String := "value too long for type character varying(32)"

def negativeLimit : String := "LIMIT must not be negative"

def negativeOffset : String := "OFFSET must not be negative"

def abortedTransaction : String :=
  "current transaction is aborted, commands ignored until end of transaction block"

end Refusal

/-- Refuses a statement unless a condition holds. -/
def require (condition : Bool) (refusal : String) : Except String Unit :=
  if condition then .ok () else .error refusal

/-- An amount as it is kept, where it is sent as an amount. -/
def keptAmount (d : Decimal) : Except String Decimal :=
  match d.withoutZeroPlaces.money? with
  | some kept => .ok kept
  | none => .error Refusal.numericOverflow

namespace Tables

variable (now : Instant) (t : Tables)

def insertOrder
    (id : Identifier) (code : String) (userId : Identifier) (totalPrice : Decimal)
    (status : OrderStatus) :
    Except String (List OrderRow × Tables) := do
  let totalPrice ← keptAmount totalPrice
  require (decide (OrderCode.Fits code)) Refusal.tooLong
  require (t.orders.all (·.id != id)) (Refusal.duplicateKey "orders_pkey")
  let row : OrderRow :=
    { id, code, userId, totalPrice, status := status.text, version := 1
      createdAt := now, updatedAt := now }
  return ([row], { t with orders := t.orders ++ [{ row with }] })

def insertLine
    (id orderId : Identifier) (position : Int32) (line : PricedLine) :
    Except String (List (Instant × Instant) × Tables) := do
  let price ← keptAmount line.price
  require (decide (0 < line.quantity)) (Refusal.failedCheck "order_lines_quantity_check")
  require (t.lines.all (·.id != id)) (Refusal.duplicateKey "order_lines_pkey")
  require (t.orders.any (·.id == orderId))
    (Refusal.missingReference "order_lines_order_id_fkey")
  require (t.products.any (·.id == line.productId))
    (Refusal.missingReference "order_lines_product_id_fkey")
  let record : LineRecord :=
    { id, orderId, productId := line.productId, position, quantity := line.quantity, price
      createdAt := now, updatedAt := now }
  return ([(now, now)], { t with lines := t.lines ++ [record] })

/-- The rows of orders that are not deleted and have the given identifier. -/
def ordersWithId (id : Identifier) : List OrderRecord :=
  t.orders.filter fun r => r.id == id && r.deletedAt.isNone

/-- A line with its product, which is missing if no product has the identifier.  No two
products have it. -/
def joined (l : LineRecord) : LineRow :=
  let product := t.products.find? (·.id == l.productId)
  { id := l.id
    orderId := l.orderId
    productId := l.productId
    quantity := l.quantity
    price := l.price
    createdAt := l.createdAt
    updatedAt := l.updatedAt
    productCode := product.map (·.code)
    productName := product.map (·.name)
    productDescription := product.map (·.description) }

def linesOf (orderIds : List Identifier) : List LineRow :=
  ((t.lines.filter fun l => orderIds.contains l.orderId && l.deletedAt.isNone).mergeSort
    fun a b => (a.compare b).isLE).map t.joined

/-- The rows that a filter selects, sorted. -/
def sortedOrders
    (filter : Filter) (orderBy : SortColumn) (descending : Bool) :
    List OrderRecord :=
  (filter.rows t.orders).mergeSort fun a b =>
    (OrderRow.compare orderBy descending a.toOrderRow b.toOrderRow).isLE

def ordersOf
    (filter : Filter) (orderBy : SortColumn) (descending : Bool) (limit skip : Int64) :
    Except String (List OrderRow) := do
  require (decide (0 ≤ limit)) Refusal.negativeLimit
  require (decide (0 ≤ skip)) Refusal.negativeOffset
  let sorted := t.sortedOrders filter orderBy descending
  return ((sorted.drop skip.toInt.toNat).take limit.toInt.toNat).map (·.toOrderRow)

/-- Whether a status may be written into a row under a version. -/
def writable (id : Identifier) (version : Int) (r : OrderRecord) : Bool :=
  r.id == id && r.version == version && r.deletedAt.isNone

def writeStatus
    (id : Identifier) (status : OrderStatus) (version : Int) :
    List Stamp × Tables :=
  let written (r : OrderRecord) : OrderRecord :=
    { r with status := status.text, version := r.version + 1, updatedAt := now }
  ((t.orders.filter (writable id version)).map fun r => ⟨r.version + 1, now⟩,
    { t with orders := t.orders.map fun r => if writable id version r then written r else r })

/-- Carries out one statement.  The statements of a transaction change nothing by
themselves, and the only script is that of the schema, whose tables exist. -/
def execute : (s : Statement) → Except String (List s.Row × Tables)
  | .begin | .commit | .rollback | .script _ => .ok ([], t)
  | .insertOrder id code userId totalPrice status =>
    t.insertOrder now id code userId totalPrice status
  | .insertLine id orderId position line => t.insertLine now id orderId position line
  | .orderById id => .ok ((t.ordersWithId id).map (·.toOrderRow), t)
  | .linesOf orderIds => .ok (t.linesOf orderIds, t)
  | .countOrders filter => .ok ([Int64.ofNat (filter.rows t.orders).length], t)
  | .ordersOf filter orderBy descending limit skip =>
    (t.ordersOf filter orderBy descending limit skip).map fun rs => (rs, t)
  | .writeStatus id status version => .ok (t.writeStatus now id status version)
  | .orderExists id => .ok ([!(t.ordersWithId id).isEmpty], t)
  | .productById id =>
    .ok ((t.products.filter fun p => p.id == id && p.deletedAt.isNone).map (·.toProduct), t)
  | .probe => .ok ([()], t)
  | .tableExists name => .ok ([requiredTables.contains name], t)

end Tables

/-! ## Transactions -/

/-- Where a transaction stands. -/
inductive Transaction where
  | none
  | running (draft : Tables)
  | failed

/-- The stored tables, and the transaction of the connection. -/
structure Database where
  stored : Tables := {}
  transaction : Transaction := .none

namespace Database

def begin (db : Database) : Database :=
  match db.transaction with
  | .none => { db with transaction := .running db.stored }
  | _ => db

def commit (db : Database) : Database :=
  match db.transaction with
  | .running draft => { stored := draft }
  | _ => { stored := db.stored }

def rollback (db : Database) : Database :=
  { stored := db.stored }

/-- Carries out a statement in the transaction, if there is one. -/
def perform (now : Instant) (s : Statement) (db : Database) : Reply s.Row × Database :=
  match db.transaction with
  | .none =>
    match db.stored.execute now s with
    | .ok (rs, tables) => (.rows rs, { stored := tables })
    | .error refusal => (.refused refusal, db)
  | .running draft =>
    match draft.execute now s with
    | .ok (rs, tables) => (.rows rs, { db with transaction := .running tables })
    | .error refusal => (.refused refusal, { db with transaction := .failed })
  | .failed => (.refused Refusal.abortedTransaction, db)

/-- Answers a statement at a time. -/
def answer (now : Instant) : (s : Statement) → Database → Reply s.Row × Database
  | .begin, db => (.rows [], db.begin)
  | .commit, db => (.rows [], db.commit)
  | .rollback, db => (.rows [], db.rollback)
  | s, db => db.perform now s

/-- The outcome of a call of the service with the store in the database. -/
def call (budget : Duration) (o : Occasion) (c : Call) (db : Database) : c.Answer × Database :=
  match (Sql.answer budget o c).run (answer o.now) db with
  | (.ok a, db) => (a, db)

end Database
end Sql
end OrderDesk
