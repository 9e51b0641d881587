import OrderDesk.Json.Leaf
import OrderDesk.Json.Record
import OrderDesk.Json.Value
import OrderDesk.Product

/-!
# Documents of products

A product with its price, and its descriptive part alone.  The latter is read
under different names, according to where it stands.
-/

namespace OrderDesk

open Json

namespace ProductSummary

/-- The fields of the descriptive part. -/
def fields : Fields (Identifier × String × String × String × Unit) :=
  .cons (.required "id" Binder.identifier) <|
  .cons (.required "code" Binder.string) <|
  .cons (.required "name" Binder.string) <|
  .cons (.required "description" Binder.string) .nil

/-- Reads the descriptive part, under the name of its shape. -/
def bind (shape : String) : Binder ProductSummary := fun node =>
  (fields.bind shape node).map fun (id, code, name, description, ()) =>
    { id, code, name, description }

/-- The document of the descriptive part. -/
def document (p : ProductSummary) : Value :=
  .object
    [("id", .text p.id.text), ("code", .text p.code), ("name", .text p.name),
      ("description", .text p.description)]

end ProductSummary

namespace Product

/-- The fields of a product. -/
def fields : Fields (Identifier × String × String × String × Decimal × Unit) :=
  .cons (.required "id" Binder.identifier) <|
  .cons (.required "code" Binder.string) <|
  .cons (.required "name" Binder.string) <|
  .cons (.required "description" Binder.string) <|
  .cons (.required "price" Binder.decimal) .nil

/-- Reads a product. -/
def bind : Binder Product := fun node =>
  (fields.bind "Product" node).map fun (id, code, name, description, price, ()) =>
    { id, code, name, description, price }

/-- The document of a product. -/
def document (p : Product) : Value :=
  .object
    [("id", .text p.id.text), ("code", .text p.code), ("name", .text p.name),
      ("description", .text p.description), ("price", .text p.price.text)]

end Product
end OrderDesk
