import OrderDesk.Decimal
import OrderDesk.Identifier

/-!
# Products

What the catalog knows of a product, and the descriptive part of it that is
shown with an order line.
-/

namespace OrderDesk

/-- The descriptive fields of a product. -/
structure ProductSummary where
  id : Identifier
  code : String
  name : String
  description : String
deriving DecidableEq

/-- A product with its current unit price. -/
structure Product where
  id : Identifier
  code : String
  name : String
  description : String
  price : Decimal
deriving DecidableEq

namespace Product

/-- A new product without a description, under a fresh identifier. -/
def create
    (random : Identifier)
    (code name : String)
    (price : Decimal) :
    Product :=
  { id := Identifier.fresh random, code, name, description := "", price }

/-- The product with another description. -/
def withDescription (p : Product) (description : String) : Product :=
  { p with description }

/-- The descriptive fields. -/
def summary (p : Product) : ProductSummary :=
  { id := p.id, code := p.code, name := p.name, description := p.description }

end Product
end OrderDesk
