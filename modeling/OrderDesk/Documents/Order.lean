import OrderDesk.Documents.Product
import OrderDesk.Listing.Page
import OrderDesk.Listing.Query

/-!
# Documents of orders

What a client sees of an order, of a page of orders and of their parts.  Versions
are not shown, nor the times of lines; a line without a product leaves the
product out.
-/

namespace OrderDesk

open Json

/-- Reads a status. -/
def OrderStatus.bind : Binder OrderStatus := Binder.variant OrderStatus.all OrderStatus.text

/-- The document of a status. -/
def OrderStatus.document (s : OrderStatus) : Value := .text s.text

/-- Reads a sort column. -/
def SortColumn.bind : Binder SortColumn := Binder.variant SortColumn.all SortColumn.text

/-- The document of a sort column. -/
def SortColumn.document (c : SortColumn) : Value := .text c.text

namespace Page

/-- The fields of a page descriptor. -/
def fields : Fields (Int64 × Int64 × Int64 × Int64 × Int64 × Unit) :=
  .cons (.required "current_page" Binder.int64) <|
  .cons (.required "total" Binder.int64) <|
  .cons (.required "total_page" Binder.int64) <|
  .cons (.required "limit" Binder.int64) <|
  .cons (.required "skip" Binder.int64) .nil

/-- Reads a page descriptor. -/
def bind : Binder Page := fun node =>
  (fields.bind "Pagination" node).map fun (currentPage, total, totalPage, limit, skip, ()) =>
    { currentPage, total, totalPage, limit, skip }

/-- The document of a page descriptor. -/
def document (p : Page) : Value :=
  .object
    [("current_page", .integer p.currentPage.toInt), ("total", .integer p.total.toInt),
      ("total_page", .integer p.totalPage.toInt), ("limit", .integer p.limit.toInt),
      ("skip", .integer p.skip.toInt)]

end Page

/-- What a client sees of a line. -/
structure LineView where
  id : Identifier
  productId : Identifier
  product : Option ProductSummary
  quantity : Int32
  price : Decimal
deriving DecidableEq

namespace LineView

/-- The view of a stored line. -/
def of (l : OrderLine) : LineView :=
  { id := l.id
    productId := l.productId
    product := l.product
    quantity := l.quantity
    price := l.price }

/-- The fields of a line. -/
def fields : Fields (Identifier × Identifier × Option ProductSummary × Int32 × Decimal × Unit) :=
  .cons (.required "id" Binder.identifier) <|
  .cons (.required "product_id" Binder.identifier) <|
  .cons (.nullable "product" (Binder.nullable (ProductSummary.bind "ProductResponse"))) <|
  .cons (.required "quantity" Binder.int32) <|
  .cons (.required "price" Binder.decimal) .nil

/-- Reads a line. -/
def bind : Binder LineView := fun node =>
  (fields.bind "OrderLineResponse" node).map fun (id, productId, product, quantity, price, ()) =>
    { id, productId, product, quantity, price }

/-- The document of a line. -/
def document (l : LineView) : Value :=
  .object <|
    [("id", .text l.id.text), ("product_id", .text l.productId.text)] ++
    Value.optional "product" (l.product.map ProductSummary.document) ++
    [("quantity", .integer l.quantity.toInt), ("price", .text l.price.text)]

end LineView

/-- What a client sees of an order. -/
structure OrderView where
  id : Identifier
  code : String
  userId : Identifier
  lines : List LineView
  totalPrice : Decimal
  status : OrderStatus
  createdAt : Instant
  updatedAt : Instant
deriving DecidableEq

namespace OrderView

/-- The view of an order. -/
def of (o : Order) : OrderView :=
  { id := o.id
    code := o.code
    userId := o.userId
    lines := o.lines.map LineView.of
    totalPrice := o.totalPrice
    status := o.status
    createdAt := o.createdAt
    updatedAt := o.updatedAt }

/-- The fields of an order. -/
def fields :
    Fields (Identifier × String × Identifier × List LineView × Decimal × OrderStatus ×
      Instant × Instant × Unit) :=
  .cons (.required "id" Binder.identifier) <|
  .cons (.required "code" Binder.string) <|
  .cons (.required "user_id" Binder.identifier) <|
  .cons (.required "lines" (Binder.list LineView.bind)) <|
  .cons (.required "total_price" Binder.decimal) <|
  .cons (.required "status" OrderStatus.bind) <|
  .cons (.required "created_at" Binder.instant) <|
  .cons (.required "updated_at" Binder.instant) .nil

/-- Reads an order. -/
def bind : Binder OrderView := fun node =>
  (fields.bind "OrderResponse" node).map
    fun (id, code, userId, lines, totalPrice, status, createdAt, updatedAt, ()) =>
      { id, code, userId, lines, totalPrice, status, createdAt, updatedAt }

/-- The document of an order. -/
def document (o : OrderView) : Value :=
  .object
    [("id", .text o.id.text), ("code", .text o.code), ("user_id", .text o.userId.text),
      ("lines", .array (o.lines.map LineView.document)), ("total_price", .text o.totalPrice.text),
      ("status", o.status.document), ("created_at", .text o.createdAt.text),
      ("updated_at", .text o.updatedAt.text)]

end OrderView

/-- What a client sees of a page of orders. -/
structure ListingView where
  orders : List OrderView
  page : Page
deriving DecidableEq

namespace ListingView

/-- The view of a page of orders. -/
def of (orders : List Order) (page : Page) : ListingView :=
  { orders := orders.map OrderView.of, page }

/-- The fields of a page of orders. -/
def fields : Fields (List OrderView × Page × Unit) :=
  .cons (.required "orders" (Binder.list OrderView.bind)) <|
  .cons (.required "pagination" Page.bind) .nil

/-- Reads a page of orders. -/
def bind : Binder ListingView := fun node =>
  (fields.bind "ListOrdersResponse" node).map fun (orders, page, ()) => { orders, page }

/-- The document of a page of orders. -/
def document (l : ListingView) : Value :=
  .object [("orders", .array (l.orders.map OrderView.document)), ("pagination", l.page.document)]

end ListingView
end OrderDesk
