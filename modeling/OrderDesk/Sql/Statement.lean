import OrderDesk.Listing.Page
import OrderDesk.Listing.Query

/-!
# Statements

The statements that are sent to the database.  A statement is given by its
purpose and its values; `text` is its text with numbered places, and `params` are
the values for these places, in order.  No value ever becomes a part of a text.

**Listings.**  The two statements of a listing have variable parts.  They are put
together from pieces, and a piece is either text or a value, so texts and values
stay in step.  Both select by the same `Filter`, which is a list of conditions.

**Amounts.**  The database keeps no places of a zero, so a zero is sent and read
without places.
-/

namespace OrderDesk
namespace Sql

/-- A value sent with a statement. -/
inductive Param where
  | identifier (id : Identifier)
  | identifiers (ids : List Identifier)
  | text (s : String)
  | integer (n : Int)
  | decimal (d : Decimal)
deriving DecidableEq

/-- An amount as it is sent. -/
def Param.amount (d : Decimal) : Param := .decimal d.withoutZeroPlaces

/-- A condition on a row of the orders table. -/
inductive Condition where
  | notDeleted
  | ownedBy (userId : Identifier)
  | hasCode (code : String)
  | hasStatus (status : OrderStatus)
deriving DecidableEq

/-- Which orders a listing selects. -/
structure Filter where
  userId : Identifier
  code : Option String
  status : Option OrderStatus
deriving DecidableEq

namespace Filter

/-- The filter of a listing query of a user. -/
def of (userId : Identifier) (query : OrderQuery) : Filter :=
  { userId, code := query.code, status := query.status }

/-- The conditions of a filter, all of which must hold. -/
def conditions (f : Filter) : List Condition :=
  [.notDeleted, .ownedBy f.userId] ++ (f.code.map .hasCode).toList ++
    (f.status.map .hasStatus).toList

end Filter

/-- A piece of a statement: text, or a place for a value. -/
inductive Piece where
  | words (s : String)
  | value (p : Param)
deriving DecidableEq

namespace Piece

/-- The text of pieces, where the next place has the given number. -/
def textFrom : Nat → List Piece → String
  | _, [] => ""
  | n, .words s :: rest => s ++ textFrom n rest
  | n, .value _ :: rest => "$" ++ toString n ++ textFrom (n + 1) rest

/-- The text of pieces, with places numbered from one. -/
def text (ps : List Piece) : String := textFrom 1 ps

/-- The values of pieces. -/
def params (ps : List Piece) : List Param :=
  ps.filterMap fun
    | .words _ => none
    | .value p => some p

end Piece

/-- The pieces of one condition. -/
def Condition.pieces : Condition → List Piece
  | .notDeleted => [.words "deleted_at IS NULL"]
  | .ownedBy userId => [.words "user_id = ", .value (.identifier userId)]
  | .hasCode code => [.words "code = ", .value (.text code)]
  | .hasStatus status => [.words "status = ", .value (.text status.text)]

/-- The pieces of conditions, joined by the word between them. -/
def joined : List Condition → List Piece
  | [] => []
  | [c] => c.pieces
  | c :: cs => c.pieces ++ .words " AND " :: joined cs

/-- The clause that selects by a filter. -/
def Filter.pieces (f : Filter) : List Piece :=
  .words " WHERE " :: joined f.conditions

/-- The columns of an order. -/
def orderColumns : String :=
  "id, code, user_id, total_price, status, version, created_at, updated_at"

/-- A statement. -/
inductive Statement where
  | begin
  | commit
  | rollback
  /-- Adds an order, with version 1. -/
  | insertOrder
      (id : Identifier) (code : String) (userId : Identifier) (totalPrice : Decimal)
      (status : OrderStatus)
  /-- Adds a line at a position of an order. -/
  | insertLine (id orderId : Identifier) (position : Int32) (line : PricedLine)
  /-- Reads one order. -/
  | orderById (id : Identifier)
  /-- Reads the lines of some orders, with their products. -/
  | linesOf (orderIds : List Identifier)
  /-- Counts the orders that a filter selects. -/
  | countOrders (filter : Filter)
  /-- Reads some of the orders that a filter selects, sorted. -/
  | ordersOf (filter : Filter) (orderBy : SortColumn) (descending : Bool) (limit skip : Int64)
  /-- Writes a status and raises the version, if the version is the given one. -/
  | writeStatus (id : Identifier) (status : OrderStatus) (version : Int)
  /-- Whether an order exists. -/
  | orderExists (id : Identifier)
  /-- Reads one product. -/
  | productById (id : Identifier)
  /-- Does nothing, to see whether the database answers. -/
  | probe
  /-- Whether a table exists. -/
  | tableExists (name : String)
  /-- Runs a script. -/
  | script (text : String)
deriving DecidableEq

namespace Statement

/-- The pieces of the statement that counts orders. -/
def countPieces (f : Filter) : List Piece :=
  .words "SELECT COUNT(*) FROM orders" :: f.pieces

/-- The pieces of the statement that reads a page of orders. -/
def pagePieces
    (f : Filter) (orderBy : SortColumn) (descending : Bool) (limit skip : Int64) :
    List Piece :=
  .words ("SELECT " ++ orderColumns ++ " FROM orders") :: f.pieces ++
    [.words (" ORDER BY " ++ orderBy.text ++ (if descending then " DESC" else " ASC") ++
        ", id ASC LIMIT "),
      .value (.integer limit.toInt), .words " OFFSET ", .value (.integer skip.toInt)]

/-- The text of a statement. -/
def text : Statement → String
  | begin => "BEGIN"
  | commit => "COMMIT"
  | rollback => "ROLLBACK"
  | insertOrder .. =>
    "INSERT INTO orders (id, code, user_id, total_price, status, version) " ++
      "VALUES ($1, $2, $3, $4, $5, 1) RETURNING " ++ orderColumns
  | insertLine .. =>
    "INSERT INTO order_lines (id, order_id, product_id, position, quantity, price) " ++
      "VALUES ($1, $2, $3, $4, $5, $6) RETURNING created_at, updated_at"
  | orderById _ =>
    "SELECT " ++ orderColumns ++ " FROM orders WHERE id = $1 AND deleted_at IS NULL"
  | linesOf _ =>
    "SELECT l.id, l.order_id, l.product_id, l.quantity, l.price, l.created_at, l.updated_at, " ++
      "p.code AS product_code, p.name AS product_name, " ++
      "p.description AS product_description " ++
      "FROM order_lines l LEFT JOIN products p ON p.id = l.product_id " ++
      "WHERE l.order_id = ANY($1) AND l.deleted_at IS NULL ORDER BY l.order_id, l.position ASC"
  | countOrders f => Piece.text (countPieces f)
  | ordersOf f orderBy descending limit skip =>
    Piece.text (pagePieces f orderBy descending limit skip)
  | writeStatus .. =>
    "UPDATE orders SET status = $2, version = version + 1, updated_at = NOW() " ++
      "WHERE id = $1 AND version = $3 AND deleted_at IS NULL RETURNING version, updated_at"
  | orderExists _ =>
    "SELECT EXISTS (SELECT 1 FROM orders WHERE id = $1 AND deleted_at IS NULL)"
  | productById _ =>
    "SELECT id, code, name, description, price FROM products " ++
      "WHERE id = $1 AND deleted_at IS NULL"
  | probe => "SELECT 1"
  | tableExists _ =>
    "SELECT EXISTS ( SELECT 1 FROM information_schema.tables " ++
      "WHERE table_schema = 'public' AND table_name = $1 )"
  | script text => text

/-- The values sent with a statement. -/
def params : Statement → List Param
  | begin | commit | rollback | probe | script _ => []
  | insertOrder id code userId totalPrice status =>
    [.identifier id, .text code, .identifier userId, .amount totalPrice, .text status.text]
  | insertLine id orderId position line =>
    [.identifier id, .identifier orderId, .identifier line.productId, .integer position.toInt,
      .integer line.quantity.toInt, .amount line.price]
  | orderById id => [.identifier id]
  | linesOf orderIds => [.identifiers orderIds]
  | countOrders f => Piece.params (countPieces f)
  | ordersOf f orderBy descending limit skip =>
    Piece.params (pagePieces f orderBy descending limit skip)
  | writeStatus id status version => [.identifier id, .text status.text, .integer version]
  | orderExists id => [.identifier id]
  | productById id => [.identifier id]
  | tableExists name => [.text name]

end Statement

/-- A row of the orders table. -/
structure OrderRow where
  id : Identifier
  code : String
  userId : Identifier
  totalPrice : Decimal
  status : String
  version : Int
  createdAt : Instant
  updatedAt : Instant
deriving DecidableEq

/-- The order of a row, without lines, if its status is known. -/
def OrderRow.order (r : OrderRow) : Except String Order :=
  match OrderStatus.parse? r.status with
  | none => .error s!"order {r.id}: {OrderStatus.unknownMessage r.status}"
  | some status =>
    .ok
      { id := r.id
        code := r.code
        userId := r.userId
        lines := []
        totalPrice := r.totalPrice.withoutZeroPlaces
        status
        version := r.version
        createdAt := r.createdAt
        updatedAt := r.updatedAt }

/-- A row of the lines table, joined with its product. -/
structure LineRow where
  id : Identifier
  orderId : Identifier
  productId : Identifier
  quantity : Int32
  price : Decimal
  createdAt : Instant
  updatedAt : Instant
  productCode : Option String
  productName : Option String
  productDescription : Option String
deriving DecidableEq

namespace LineRow

/-- The product of a row, if it has a code and a name. -/
def product (r : LineRow) : Option ProductSummary :=
  match r.productCode, r.productName with
  | some code, some name =>
    some { id := r.productId, code, name, description := r.productDescription.getD "" }
  | _, _ => none

/-- The line of a row. -/
def line (r : LineRow) : OrderLine :=
  { id := r.id
    orderId := r.orderId
    productId := r.productId
    quantity := r.quantity
    price := r.price.withoutZeroPlaces
    product := r.product
    createdAt := r.createdAt
    updatedAt := r.updatedAt }

end LineRow

/-- The rows that answer a statement. -/
@[reducible] def Statement.Row : Statement → Type
  | .insertOrder .. | .orderById _ | .ordersOf .. => OrderRow
  | .insertLine .. => Instant × Instant
  | .linesOf _ => LineRow
  | .countOrders _ => Int64
  | .writeStatus .. => Stamp
  | .orderExists _ | .tableExists _ => Bool
  | .productById _ => Product
  | .begin | .commit | .rollback | .probe | .script _ => Unit

/-- What the database answers to a statement. -/
inductive Reply (ρ : Type) where
  /-- The rows asked for. -/
  | rows (rs : List ρ)
  /-- An error with its message. -/
  | refused (message : String)
  /-- No answer. -/
  | silent
deriving DecidableEq, Repr

end Sql
end OrderDesk
