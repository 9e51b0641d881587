import OrderDesk.Failure

/-!
# A catalog in memory

Products by identifier.  Inserting a product replaces the one with the same
identifier, and only the current price can be changed alone.
-/

namespace OrderDesk

/-- The products of a catalog, at most one for each identifier. -/
structure Catalog where
  products : List Product := []
deriving DecidableEq

namespace Catalog

/-- The product with an identifier. -/
def find? (c : Catalog) (id : Identifier) : Option Product :=
  c.products.find? (·.id == id)

/-- The catalog with a product added or replaced. -/
def insert (c : Catalog) (p : Product) : Catalog :=
  ⟨p :: c.products.filter (·.id != p.id)⟩

/-- The catalog with the given products inserted in order. -/
def ofList (ps : List Product) : Catalog :=
  ps.foldl insert {}

/-- The catalog with the price of one product changed, if the product exists. -/
def setPrice? (c : Catalog) (id : Identifier) (price : Decimal) : Option Catalog :=
  (c.find? id).map fun p => c.insert { p with price }

/-- The descriptive fields of a product. -/
def summary? (c : Catalog) (id : Identifier) : Option ProductSummary :=
  (c.find? id).map (·.summary)

/-- The answer to a lookup. -/
def lookUp (c : Catalog) (id : Identifier) : Except StoreError Product :=
  match c.find? id with
  | some p => .ok p
  | none => .error (.notFound .product id)

end Catalog
end OrderDesk
