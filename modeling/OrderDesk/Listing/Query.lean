import OrderDesk.Order

/-!
# Listing queries

Which of a user's orders to list, in which order, and which page of them.  The
column to sort by comes from a closed set.
-/

namespace OrderDesk

/-- A column that a listing may be sorted by. -/
inductive SortColumn where
  | createdAt
  | updatedAt
  | code
  | status
  | totalPrice
deriving DecidableEq, Repr

namespace SortColumn

/-- Listings are sorted by the time of creation unless asked otherwise. -/
instance : Inhabited SortColumn := ⟨.createdAt⟩

/-- The spelling of a column. -/
def text : SortColumn → String
  | .createdAt => "created_at"
  | .updatedAt => "updated_at"
  | .code => "code"
  | .status => "status"
  | .totalPrice => "total_price"

instance : ToString SortColumn := ⟨text⟩

/-- All columns. -/
def all : List SortColumn := [.createdAt, .updatedAt, .code, .status, .totalPrice]

/-- The column with the given spelling. -/
def parse? (s : String) : Option SortColumn :=
  all.find? (·.text == s)

/-- The report of a text that spells no column. -/
def unknownMessage (s : String) : String :=
  s!"Unknown sort column: {s}"

/-- Every spelling reads back. -/
theorem parse?_text (c : SortColumn) : parse? c.text = some c := by
  cases c <;> decide

end SortColumn

/-- Filters, order and page of a listing of one user's orders. -/
structure OrderQuery where
  code : Option String := none
  status : Option OrderStatus := none
  orderBy : SortColumn := .createdAt
  descending : Bool := false
  page : Int64 := 0
  limit : Int64 := 0
deriving DecidableEq

namespace OrderQuery

/-- Whether an order of a user passes the filters. -/
def selects (q : OrderQuery) (userId : Identifier) (o : Order) : Bool :=
  o.userId == userId &&
    (match q.code with | none => true | some code => o.code == code) &&
    (match q.status with | none => true | some status => o.status == status)

/-- Order of texts by their characters, which is also the order of their octets. -/
def compareText (a b : String) : Ordering :=
  if a < b then .lt else if a = b then .eq else .gt

/-- Order of two orders by one column. -/
def compareBy (column : SortColumn) (a b : Order) : Ordering :=
  match column with
  | .createdAt => a.createdAt.cmp b.createdAt
  | .updatedAt => a.updatedAt.cmp b.updatedAt
  | .code => compareText a.code b.code
  | .status => compareText a.status.text b.status.text
  | .totalPrice => a.totalPrice.cmp b.totalPrice

/-- Order of two orders as the query asks for it. -/
def compare (q : OrderQuery) (a b : Order) : Ordering :=
  if q.descending then (compareBy q.orderBy a b).swap else compareBy q.orderBy a b

/-- The matching orders, sorted; orders that compare equal keep their places. -/
def arrange (q : OrderQuery) (userId : Identifier) (orders : List Order) : List Order :=
  (orders.filter (q.selects userId)).mergeSort fun a b => (q.compare a b).isLE

end OrderQuery
end OrderDesk
