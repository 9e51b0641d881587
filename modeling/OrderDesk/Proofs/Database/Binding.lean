import Mathlib.Data.List.Range
import OrderDesk.Proofs.Database.Tables
import OrderDesk.Proofs.Sql.Listing

/-!
# Statements by the values that are sent

`Tables.execute` reads the fields of a statement.  What goes to the database is a text and
the values for its places, and the two sides must not drift apart.

* `Statement.perm_places`: the text of a statement has one place for each of its values.
* `Taking`: reading the values that are sent, one after the other.
* `Tables.executeSent`: the meaning of a statement where every value is taken from those
  that are sent.  Of the statement itself only that is used which its text shows: what it
  does, and for a listing its conditions and its order.
* `Tables.executeSent_params`: with the values that a statement sends this is
  `Tables.execute`.
-/

namespace OrderDesk
namespace Sql

/-! ## The places of a statement -/

/-- There is one place for every value that is sent with a statement, and no other.  A script
is sent as it is, whatever is written in it. -/
theorem Statement.perm_places
    {s : Statement}
    (noScript : ∀ text, s ≠ .script text) :
    (places s.text.toList).Perm (List.range' 1 s.params.length) := by
  cases s with
  | script text => exact absurd rfl (noScript text)
  | countOrders f => exact .of_eq (places_countOrders f)
  | ordersOf f orderBy descending limit skip =>
      exact .of_eq (places_ordersOf limit skip f orderBy descending)
  | begin | commit | rollback | probe => decide +kernel
  | insertOrder | insertLine | orderById | linesOf
  | writeStatus | orderExists | productById | tableExists =>
      -- A fixed text, of which only characters are left.  In the one of `writeStatus` the
      -- places do not stand in the order of the values.
      delta text params
      simp only [String.toList_append, orderColumns, List.length_cons, List.length_nil]
      repeat rw [String.toList_ofList]
      decide +kernel

/-! ## Values, one after the other -/

/-- Takes values from the front of those that are sent. -/
abbrev Taking (α : Type) := StateT (List Param) Option α

namespace Taking

def identifier : Taking Identifier
  | .identifier id :: values => some (id, values)
  | _ => none

def identifiers : Taking (List Identifier)
  | .identifiers ids :: values => some (ids, values)
  | _ => none

def text : Taking String
  | .text s :: values => some (s, values)
  | _ => none

def integer : Taking Int
  | .integer n :: values => some (n, values)
  | _ => none

def decimal : Taking Decimal
  | .decimal d :: values => some (d, values)
  | _ => none

def status : Taking OrderStatus
  | .text s :: values => (OrderStatus.parse? s).map (·, values)
  | _ => none

/-- A filter with the same conditions, on the values that are sent. -/
def filter (f : Filter) : Taking Filter := do
  let userId ← identifier
  let code ← f.code.mapM fun _ => text
  let status ← f.status.mapM fun _ => status
  return { userId, code, status }

/-- Takes all values, none of which may be left. -/
def whole {α : Type} (x : Taking α) (values : List Param) : Option α :=
  match x values with
  | some (a, []) => some a
  | _ => none

theorem whole_of_run
    {α : Type} {x : Taking α} {values : List Param} {a : α}
    (run : x.run values = some (a, [])) :
    x.whole values = some a := by
  rw [whole, show x values = some (a, []) from run]

@[simp] theorem run_identifier (id : Identifier) (values : List Param) :
    identifier.run (.identifier id :: values) = some (id, values) := rfl

@[simp] theorem run_text (s : String) (values : List Param) :
    text.run (.text s :: values) = some (s, values) := rfl

@[simp] theorem run_integer (n : Int) (values : List Param) :
    integer.run (.integer n :: values) = some (n, values) := rfl

@[simp] theorem run_decimal (d : Decimal) (values : List Param) :
    decimal.run (.decimal d :: values) = some (d, values) := rfl

@[simp] theorem run_status (s : OrderStatus) (values : List Param) :
    status.run (.text s.text :: values) = some (s, values) := by
  show (OrderStatus.parse? s.text).map (·, values) = _
  rw [OrderStatus.parse?_text]
  rfl

/-- An optional value is read back where every value is. -/
theorem run_mapM
    {α : Type} {x : Taking α} {sent : α → Param}
    (reads : ∀ a values, x.run (sent a :: values) = some (a, values))
    (given : Option α)
    (values : List Param) :
    (given.mapM fun _ => x).run ((given.map sent).toList ++ values) = some (given, values) := by
  cases given with
  | none => rfl
  | some a => simp [reads]

@[simp] theorem run_filter (f : Filter) (values : List Param) :
    (filter f).run (f.params ++ values) = some (f, values) := by
  simp [filter, Filter.params, run_mapM run_text, run_mapM run_status]

end Taking

/-! ## Statements on the values that are sent -/

/-- A zero is sent without places, and so it is kept. -/
theorem keptAmount_withoutZeroPlaces (d : Decimal) :
    keptAmount d.withoutZeroPlaces = keptAmount d := by
  have hagain : d.withoutZeroPlaces.withoutZeroPlaces = d.withoutZeroPlaces := by
    by_cases hzero : d.isZero = true
    · simp [Decimal.withoutZeroPlaces, hzero]
    · simp [Decimal.withoutZeroPlaces, hzero]
  rw [keptAmount, hagain, ← keptAmount]

namespace Tables

variable (now : Instant) (t : Tables)

open Taking in
/-- What a statement does, where every value is taken from those that are sent.  A number is
read at the width of its column or clause. -/
def taking : (s : Statement) → Taking (Except String (List s.Row × Tables))
  | .begin | .commit | .rollback | .script _ => return .ok ([], t)
  | .insertOrder .. => do
    let id ← identifier
    let code ← text
    let userId ← identifier
    let totalPrice ← decimal
    let status ← status
    return t.insertOrder now id code userId totalPrice status
  | .insertLine .. => do
    let id ← identifier
    let orderId ← identifier
    let productId ← identifier
    let position ← integer
    let quantity ← integer
    let price ← decimal
    let line : PricedLine := { productId, quantity := Int32.ofInt quantity, price }
    return t.insertLine now id orderId (Int32.ofInt position) line
  | .orderById _ => do
    let id ← identifier
    return .ok ((t.ordersWithId id).map (·.toOrderRow), t)
  | .linesOf _ => do
    let orderIds ← identifiers
    return .ok (t.linesOf orderIds, t)
  | .countOrders f => do
    let f ← filter f
    return .ok ([Int64.ofNat (f.rows t.orders).length], t)
  | .ordersOf f orderBy descending _ _ => do
    let f ← filter f
    let limit ← integer
    let skip ← integer
    return (t.ordersOf f orderBy descending (Int64.ofInt limit) (Int64.ofInt skip)).map
      fun rs => (rs, t)
  | .writeStatus .. => do
    let id ← identifier
    let status ← status
    let version ← integer
    return .ok (t.writeStatus now id status version)
  | .orderExists _ => do
    let id ← identifier
    return .ok ([!(t.ordersWithId id).isEmpty], t)
  | .productById _ => do
    let id ← identifier
    let found := t.products.filter fun p => p.id == id && p.deletedAt.isNone
    return .ok (found.map (·.toProduct), t)
  | .probe => return .ok ([()], t)
  | .tableExists _ => do
    let name ← text
    return .ok ([requiredTables.contains name], t)

/-- Carries out a statement on the values that are sent with it. -/
def executeSent (s : Statement) (values : List Param) :
    Option (Except String (List s.Row × Tables)) :=
  (t.taking now s).whole values

/-- **A statement does with the values that are sent what it does with its fields.** -/
theorem executeSent_params (s : Statement) :
    t.executeSent now s s.params = some (t.execute now s) := by
  cases s with
  | begin | commit | rollback | probe | script => rfl
  | orderById | linesOf | orderExists | productById | tableExists => rfl
  | insertOrder id code userId totalPrice status =>
      refine Taking.whole_of_run ?_
      simp only [taking, Statement.params, Param.amount]
      simp [execute, insertOrder, keptAmount_withoutZeroPlaces]
  | insertLine id orderId position line =>
      refine Taking.whole_of_run ?_
      simp only [taking, Statement.params, Param.amount]
      simp [execute, insertLine, keptAmount_withoutZeroPlaces]
  | countOrders f =>
      have hfilter := Taking.run_filter f []
      rw [List.append_nil] at hfilter
      refine Taking.whole_of_run ?_
      rw [params_countOrders]
      simp [taking, execute, hfilter]
  | ordersOf f orderBy descending limit skip =>
      refine Taking.whole_of_run ?_
      rw [params_ordersOf]
      simp [taking, execute]
  | writeStatus id status version =>
      refine Taking.whole_of_run ?_
      simp only [taking, Statement.params]
      simp [execute]

end Tables
end Sql
end OrderDesk
