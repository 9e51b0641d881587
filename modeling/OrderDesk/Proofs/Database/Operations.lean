import Mathlib.Data.List.Forall2
import OrderDesk.Proofs.Database.Calls

/-!
# Operations on single orders, in both stores

What a caller does with one order, and what he is left with.

* `Order.Agrees`: equal orders, where amounts are compared by value.
* `Operation`, `Outcome`: creating, loading and updating an order.  An update leaves its
  mark on the copy of the caller.
* `Turn`: one operation in both stores, on the same occasion.
-/

namespace OrderDesk

/-! ## Agreement up to places -/

structure OrderLine.Agrees (a b : OrderLine) : Prop where
  id : a.id = b.id
  orderId : a.orderId = b.orderId
  productId : a.productId = b.productId
  quantity : a.quantity = b.quantity
  price : a.price.value = b.price.value
  product : a.product = b.product
  createdAt : a.createdAt = b.createdAt
  updatedAt : a.updatedAt = b.updatedAt

structure Order.Agrees (a b : Order) : Prop where
  id : a.id = b.id
  code : a.code = b.code
  userId : a.userId = b.userId
  lines : List.Forall₂ OrderLine.Agrees a.lines b.lines
  totalPrice : a.totalPrice.value = b.totalPrice.value
  status : a.status = b.status
  version : a.version = b.version
  createdAt : a.createdAt = b.createdAt
  updatedAt : a.updatedAt = b.updatedAt

theorem OrderLine.Agrees.refl (l : OrderLine) : l.Agrees l :=
  ⟨rfl, rfl, rfl, rfl, rfl, rfl, rfl, rfl⟩

theorem Order.Agrees.stamped
    {a b : Order}
    (agrees : a.Agrees b)
    (stamp : Stamp) :
    (a.stamped stamp).Agrees (b.stamped stamp) :=
  { agrees with version := rfl, updatedAt := rfl }

/-! ## Operations on single orders -/

inductive Operation where
  | create (userId : Identifier) (lines : List PricedLine)
  | load (id : Identifier) (withLines : Bool)
  | update (copy : Order)

/-- What the caller of an operation is left with: an order, or the result of an update
with the copy that was handed over for it. -/
inductive Outcome where
  | order (result : Except (Interruption StoreError) Order)
  | updated (result : Except StoreError Unit) (copy : Order)

namespace Operation

def call : Operation → Call
  | create userId lines => .create userId lines
  | load id withLines => .load id withLines
  | update copy => .save copy

/-- An update that succeeds stamps the copy. -/
def outcome : (op : Operation) → op.call.Answer → Outcome
  | create .., result => .order result
  | load .., result => .order (result.mapError .error)
  | update copy, .ok stamp => .updated (.ok ()) (copy.stamped stamp)
  | update copy, .error e => .updated (.error e) copy

/-- The same operation, where the copies of an update may differ in places. -/
inductive Alike : Operation → Operation → Prop where
  | create (userId : Identifier) (lines : List PricedLine) :
      Alike (.create userId lines) (.create userId lines)
  | load (id : Identifier) (withLines : Bool) :
      Alike (.load id withLines) (.load id withLines)
  | update {a b : Order} (agrees : a.Agrees b) :
      Alike (.update a) (.update b)

end Operation

/-- Outcomes with the same result, whose orders agree. -/
inductive Outcome.Agrees : Outcome → Outcome → Prop where
  | order {a b : Order} (agrees : a.Agrees b) : Agrees (.order (.ok a)) (.order (.ok b))
  | failed (e : Interruption StoreError) : Agrees (.order (.error e)) (.order (.error e))
  | updated {a b : Order} (result : Except StoreError Unit) (agrees : a.Agrees b) :
      Agrees (.updated result a) (.updated result b)

/-- One operation, as the caller of each store does it, on one occasion. -/
structure Turn where
  occasion : Occasion
  inMemory : Operation
  inDatabase : Operation

namespace Turn

open Sql

def memory (turn : Turn) (m : Memory) : Outcome × Memory :=
  let (answer, m) := m.answer turn.occasion turn.inMemory.call
  (turn.inMemory.outcome answer, m)

def database (budget : Duration) (turn : Turn) (db : Database) : Outcome × Database :=
  let (answer, db) := db.call budget turn.occasion turn.inDatabase.call
  (turn.inDatabase.outcome answer, db)

/-- The outcomes of turns that are taken one after the other, and the final state. -/
def outcomes {σ : Type} (take : Turn → σ → Outcome × σ) : List Turn → σ → List Outcome × σ
  | [], s => ([], s)
  | turn :: turns, s =>
    let (x, s) := take turn s
    let (xs, s) := outcomes take turns s
    (x :: xs, s)

/-- The identifiers that are generated for orders. -/
def orderIds (turn : Turn) : List Identifier :=
  match turn.inMemory with
  | .create .. => [turn.occasion.orderId]
  | _ => []

/-- The identifiers that are generated for lines. -/
def lineIds (turn : Turn) : List Identifier :=
  match turn.inMemory with
  | .create _ lines => (List.range lines.length).map turn.occasion.lineId
  | _ => []

/-- What is asked for is the same in both stores, and the tables accept a new order.  The
clock shows a day that instants cover, as every clock does. -/
structure Sound (products : List ProductRecord) (turn : Turn) : Prop where
  alike : turn.inMemory.Alike turn.inDatabase
  covered : Instant.coversDay turn.occasion.now.dayNumber
  creation : ∀ userId lines, turn.inMemory = .create userId lines →
    lines.length < 2 ^ 31 ∧
      (∀ l ∈ lines, Acceptable products l) ∧
      ∀ totalPrice, Order.totalOf lines = .ok totalPrice → totalPrice.IsMoney

end Turn

end OrderDesk
