import OrderDesk.Documents.Order
import OrderDesk.Proofs.Json.Leaf
import OrderDesk.Proofs.Json.Members

/-!
# Documents survive the wire

A page of orders is read again from the text of its document as it was, with the scales of
all decimals and the nanoseconds of all instants (`ListingView.survives_the_wire`).  So two
different pages have different texts.

What the text does not keep is set aside by `IsPlain`: the sign of a zero, leap seconds and
years that have not four digits.

For each document it is shown that its members are the fields of the record that reads it,
from the inside to the outside: products, lines, orders, pages.
-/

namespace OrderDesk

open Json

/-- No amount is a zero with a minus sign. -/
structure LineView.IsPlain (l : LineView) : Prop where
  price : l.price.isMinusZero = false

/-- All amounts and instants of an order are written without loss. -/
structure OrderView.IsPlain (o : OrderView) : Prop where
  lines : ∀ l ∈ o.lines, l.IsPlain
  totalPrice : o.totalPrice.isMinusZero = false
  createdAt : o.createdAt.IsPlain
  updatedAt : o.updatedAt.IsPlain

/-- All orders of a page are written without loss. -/
structure ListingView.IsPlain (l : ListingView) : Prop where
  orders : ∀ o ∈ l.orders, o.IsPlain

/-! ## Products -/

theorem ProductSummary.bind_document
    (shape : String)
    (p : ProductSummary) :
    ProductSummary.bind shape p.document.node = .ok p := by
  have hwritten : Fields.Written fields
      [("id", .text p.id.text), ("code", .text p.code), ("name", .text p.name),
        ("description", .text p.description)]
      (p.id, p.code, p.name, p.description, ()) :=
    .required (Binder.identifier_node _) <|
    .required (Binder.string_node _) <|
    .required (Binder.string_node _) <|
    .required (Binder.string_node _) .nil
  have hfields := Fields.bind_object shape hwritten (by decide)
  rw [bind, document, hfields]
  rfl

/-! ## Lines -/

theorem LineView.bind_document
    {l : LineView}
    (plain : l.IsPlain) :
    LineView.bind l.document.node = .ok l := by
  have hprice := Binder.decimal_node plain.price
  have hwritten : Fields.Written fields
      ([("id", .text l.id.text), ("product_id", .text l.productId.text)] ++
        Value.optional "product" (l.product.map ProductSummary.document) ++
        [("quantity", .integer l.quantity.toInt), ("price", .text l.price.text)])
      (l.id, l.productId, l.product, l.quantity, l.price, ()) := by
    refine .required (Binder.identifier_node _) <| .required (Binder.identifier_node _) ?_
    cases l.product with
    | none =>
        exact .leftOut <| .required (Binder.int32_node _) <| .required hprice .nil
    | some p =>
        exact .nullable (Binder.nullable_node (p.bind_document "ProductResponse")) <|
          .required (Binder.int32_node _) <| .required hprice .nil
  have hfields := Fields.bind_object "OrderLineResponse" hwritten (by decide)
  rw [bind, document, hfields]
  rfl

/-! ## Orders -/

theorem OrderStatus.bind_document
    (s : OrderStatus) :
    OrderStatus.bind s.document.node = .ok s :=
  Binder.variant_node (OrderStatus.parse?_text s)

theorem OrderView.bind_document
    {o : OrderView}
    (plain : o.IsPlain) :
    OrderView.bind o.document.node = .ok o := by
  have hlines : ∀ l ∈ o.lines, LineView.bind l.document.node = .ok l :=
    fun l hl => LineView.bind_document (plain.lines l hl)
  have hwritten : Fields.Written fields
      [("id", .text o.id.text), ("code", .text o.code), ("user_id", .text o.userId.text),
        ("lines", .array (o.lines.map LineView.document)),
        ("total_price", .text o.totalPrice.text), ("status", o.status.document),
        ("created_at", .text o.createdAt.text), ("updated_at", .text o.updatedAt.text)]
      (o.id, o.code, o.userId, o.lines, o.totalPrice, o.status, o.createdAt, o.updatedAt, ()) :=
    .required (Binder.identifier_node _) <|
    .required (Binder.string_node _) <|
    .required (Binder.identifier_node _) <|
    .required (Binder.list_node hlines) <|
    .required (Binder.decimal_node plain.totalPrice) <|
    .required (OrderStatus.bind_document _) <|
    .required (Binder.instant_node plain.createdAt) <|
    .required (Binder.instant_node plain.updatedAt) .nil
  have hfields := Fields.bind_object "OrderResponse" hwritten (by decide)
  rw [bind, document, hfields]
  rfl

/-! ## Pages -/

theorem Page.bind_document
    (p : Page) :
    Page.bind p.document.node = .ok p := by
  have hwritten : Fields.Written fields
      [("current_page", .integer p.currentPage.toInt), ("total", .integer p.total.toInt),
        ("total_page", .integer p.totalPage.toInt), ("limit", .integer p.limit.toInt),
        ("skip", .integer p.skip.toInt)]
      (p.currentPage, p.total, p.totalPage, p.limit, p.skip, ()) :=
    .required (Binder.int64_node _) <|
    .required (Binder.int64_node _) <|
    .required (Binder.int64_node _) <|
    .required (Binder.int64_node _) <|
    .required (Binder.int64_node _) .nil
  have hfields := Fields.bind_object "Pagination" hwritten (by decide)
  rw [bind, document, hfields]
  rfl

theorem ListingView.bind_document
    {l : ListingView}
    (plain : l.IsPlain) :
    ListingView.bind l.document.node = .ok l := by
  have horders : ∀ o ∈ l.orders, OrderView.bind o.document.node = .ok o :=
    fun o ho => OrderView.bind_document (plain.orders o ho)
  have hwritten : Fields.Written fields
      [("orders", .array (l.orders.map OrderView.document)), ("pagination", l.page.document)]
      (l.orders, l.page, ()) :=
    .required (Binder.list_node horders) <|
    .required l.page.bind_document .nil
  have hfields := Fields.bind_object "ListOrdersResponse" hwritten (by decide)
  rw [bind, document, hfields]
  rfl

/-! ## Texts -/

/-- What a binder makes of the node of a value, it makes of the text of the value. -/
theorem Json.Binder.ofText_render
    {α : Type} {bind : Binder α} {v : Value} {a : α}
    (read : bind v.node = .ok a) :
    Binder.ofText bind v.render = .ok a := by
  have spelled : v.node.Spelled v.render.toList := by
    rw [Value.render, String.toList_ofList]
    exact v.spelled_node
  rw [ofText_of_spelled spelled, read]

theorem ListingView.ofText_render
    {l : ListingView}
    (plain : l.IsPlain) :
    Binder.ofText ListingView.bind l.document.render = .ok l :=
  Binder.ofText_render (ListingView.bind_document plain)

/-- **Documents survive the wire.**  A page of orders is read from the text of its document
as it was, and no other page has that text. -/
theorem ListingView.survives_the_wire
    {l : ListingView}
    (plain : l.IsPlain) :
    Binder.ofText ListingView.bind l.document.render = .ok l ∧
      ∀ l' : ListingView, l'.IsPlain → l'.document.render = l.document.render → l' = l := by
  refine ⟨ListingView.ofText_render plain, ?_⟩
  intro l' plain' same
  have hread := ListingView.ofText_render plain'
  rw [same, ListingView.ofText_render plain] at hread
  exact (Except.ok.inj hread).symm

/-- A page with one order from the first second of the year 0 to the last of the year 9999.
Its texts have marks, control characters and a character beyond the first plane; one line
has a product, the other has not; and its numbers are at the ends of their ranges. -/
theorem ListingView.survives_the_wire_at_the_edges :
    let product : ProductSummary :=
      { id := .ofNat 3, code := "", name := "𝄞é", description := "null" }
    let lines : List LineView :=
      [⟨.ofNat 2, .ofNat 3, some product, Int32.maxValue,
          ⟨true, 79228162514264337593543950335, 28, by decide, by decide⟩⟩,
        ⟨.ofNat 4, .ofNat 5, none, Int32.minValue, ⟨false, 0, 4, by decide, by decide⟩⟩]
    let order : OrderView :=
      { id := .ofNat 1
        code := "\"\\/\x00\x1F\x7F\n"
        userId := .ofNat 0xFFFFFFFFFFFFFFFFFFFFFFFFFFFFFFFF
        lines
        totalPrice := ⟨false, 100, 2, by decide, by decide⟩
        status := .inProgress
        createdAt := ⟨-62167219200, 1, by decide⟩
        updatedAt := ⟨253402300799, 999000000, by decide⟩ }
    let l : ListingView := ⟨[order], ⟨Int64.maxValue, Int64.minValue, 0, 20, -1⟩⟩
    l.IsPlain ∧
      Binder.ofText ListingView.bind l.document.render = .ok l ∧
      ∀ l' : ListingView, l'.IsPlain → l'.document.render = l.document.render → l' = l := by
  intro product lines order l
  have plainLines : ∀ l ∈ lines, l.IsPlain := by
    intro l hl
    rcases List.mem_pair.mp hl with rfl | rfl
    · exact ⟨by decide⟩
    · exact ⟨by decide⟩
  have plainOrder : order.IsPlain := ⟨plainLines, by decide, by decide, by decide⟩
  have plain : l.IsPlain := by
    constructor
    intro o ho
    obtain rfl := List.mem_singleton.mp ho
    exact plainOrder
  exact ⟨plain, ListingView.survives_the_wire plain⟩

end OrderDesk
