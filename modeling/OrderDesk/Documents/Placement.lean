import OrderDesk.Json.Leaf
import OrderDesk.Json.Record
import OrderDesk.Json.Value
import OrderDesk.Placement

/-!
# Documents of placement

The lines of an order as they are sent.  They come in two shapes, which differ in
their names in reports and in one more point: a *request* without lines is an
empty one, a *command* must have them.
-/

namespace OrderDesk

open Json

namespace LineRequest

/-- The fields of a requested line. -/
def fields : Fields (String × Int32 × Unit) :=
  .cons (.required "product_id" Binder.string) <|
  .cons (.required "quantity" Binder.int32) .nil

/-- Reads a requested line, under the name of its shape. -/
def bind (shape : String) : Binder LineRequest := fun node =>
  (fields.bind shape node).map fun (productId, quantity, ()) => { productId, quantity }

/-- The document of a requested line. -/
def document (l : LineRequest) : Value :=
  .object [("product_id", .text l.productId), ("quantity", .integer l.quantity.toInt)]

end LineRequest

namespace Placement

/-- The lines of a request; they may be left out. -/
def bindRequest : Binder (List LineRequest) := fun node =>
  let lines := Binder.list (LineRequest.bind "PlaceOrderLineRequest")
  let fields : Fields (List LineRequest × Unit) := .cons (.defaulted "lines" lines []) .nil
  (fields.bind "PlaceOrderRequest" node).map (·.1)

/-- The lines of a command; they must be there. -/
def bindCommand : Binder (List LineRequest) := fun node =>
  let lines := Binder.list (LineRequest.bind "OrderLineRequest")
  let fields : Fields (List LineRequest × Unit) := .cons (.required "lines" lines) .nil
  (fields.bind "PlaceOrderCommand" node).map (·.1)

/-- The document of requested lines, in either shape. -/
def document (lines : List LineRequest) : Value :=
  .object [("lines", .array (lines.map LineRequest.document))]

end Placement
end OrderDesk
