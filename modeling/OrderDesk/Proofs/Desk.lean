import OrderDesk.Proofs.Dialogue.Steps
import OrderDesk.Proofs.Memory.Faults
import OrderDesk.Service

/-!
# A desk where requests overlap

A desk is the store and the catalog together with everything that is going on
around them.

* **Errands.**  The service has taken up requests and not yet finished them.  An
  errand makes one call at a time, and between two of its calls anything may
  happen.
* **Copies.**  Clients hold copies of orders, which they have read, change at
  will, and write back.
* **Outside.**  Some process sets statuses, and the catalog changes.

One `Event` is one atomic step of any of these, so a list of events is one
interleaving of all of them.  `Desk.step` carries out an event, `Desk.after` a
list of events.  `Desk.deed` is what an event does to the stored orders, and
`orders_step` says that it does nothing else.
-/

namespace OrderDesk

/-- A request that the service carries out. -/
inductive OrderRequest where
  | place (policy : OrderPolicy) (userId : Identifier) (lines : List LineRequest)
  | get (id : Identifier)
  | cancel (id userId : Identifier)
deriving DecidableEq

/-- What the service does about a request. -/
def OrderRequest.task : OrderRequest → Task Service.Failure Order
  | place policy userId lines => Service.place policy userId lines
  | get id => Service.get id
  | cancel id userId => Service.cancel id userId

/-- A request in progress, with what remains to be done about it. -/
structure Errand where
  request : OrderRequest
  rest : Task Service.Failure Order

/-- The call that an errand makes next, unless its kind is made to fail. -/
def Errand.call? (errand : Errand) (fault : Option Fault) : Option Call :=
  match errand.rest.asked? with
  | none => none
  | some c => if (Memory.faultOn? fault c).isSome then none else some c

/-- The store and the catalog, and what is going on around them. -/
structure Desk where
  memory : Memory
  errands : List Errand := []
  copies : List Order := []

namespace Desk

/-- One atomic step of somebody. -/
inductive Event where
  /-- The service takes up a request. -/
  | take (request : OrderRequest)
  /-- An errand makes its next call, which may be made to fail. -/
  | proceed (errand : Nat) (o : Occasion) (fault : Option Fault)
  /-- A client stores a new order and keeps a copy of it. -/
  | create (o : Occasion) (userId : Identifier) (lines : List PricedLine)
  /-- A client reads a copy of an order. -/
  | read (id : Identifier) (withLines : Bool)
  /-- A client changes a copy at will. -/
  | edit (copy : Nat) (order : Order)
  /-- A client writes a copy back. -/
  | update (copy : Nat) (o : Occasion)
  /-- An outside process sets a status. -/
  | setStatus (now : Instant) (id : Identifier) (status : OrderStatus)
  /-- A product is added to the catalog or replaced. -/
  | stock (product : Product)
  /-- The price of a product is changed. -/
  | reprice (id : Identifier) (price : Decimal)

/-- A client's copy after the answer to its write. -/
def answered (copy : Order) : Except StoreError Stamp → Order
  | .ok stamp => copy.stamped stamp
  | .error _ => copy

/-- The desk after an event. -/
def step (d : Desk) : Event → Desk
  | .take request => { d with errands := d.errands ++ [⟨request, request.task⟩] }
  | .proceed i o fault =>
    match d.errands[i]? with
    | none => d
    | some errand =>
      let (rest, memory) := errand.rest.advance (Memory.answerUnder fault o) d.memory
      { d with memory, errands := d.errands.set i { errand with rest } }
  | .create o userId lines =>
    let (answer, memory) := d.memory.create o userId lines
    { d with memory, copies := d.copies ++ answer.toOption.toList }
  | .read id withLines =>
    { d with copies := d.copies ++ (d.memory.load id withLines).toOption.toList }
  | .edit k order => { d with copies := d.copies.set k order }
  | .update k o =>
    match d.copies[k]? with
    | none => d
    | some copy =>
      let (answer, memory) := d.memory.save o.now copy
      { d with memory, copies := d.copies.set k (answered copy answer) }
  | .setStatus now id status =>
    { d with memory := (d.memory.setStatus? now id status).getD d.memory }
  | .stock product =>
    { d with memory := { d.memory with catalog := d.memory.catalog.insert product } }
  | .reprice id price =>
    let catalog := (d.memory.catalog.setPrice? id price).getD d.memory.catalog
    { d with memory := { d.memory with catalog } }

/-- The desk after a list of events. -/
def after (d : Desk) (es : List Event) : Desk :=
  es.foldl step d

/-- The call that an event makes on the store or the catalog. -/
def call? (d : Desk) : Event → Option (Occasion × Call)
  | .proceed i o fault =>
    (d.errands[i]?.bind fun errand => errand.call? fault).map fun c => (o, c)
  | .create o userId lines => some (o, .create userId lines)
  | .update k o => d.copies[k]?.map fun copy => (o, .save copy)
  | _ => none

/-- What a status set from outside does to the stored orders. -/
def setting (d : Desk) : Event → Deed
  | .setStatus now id status =>
    match d.memory.setStatus? now id status with
    | some _ => .writing id status now
    | none => .nothing
  | _ => .nothing

/-- What an event does to the stored orders. -/
def deed (d : Desk) (e : Event) : Deed :=
  match d.call? e with
  | some (o, c) => d.memory.deed o c
  | none => d.setting e

/-- A condition on every event of a run and the desk that it finds. -/
def Along (P : Desk → Event → Prop) : Desk → List Event → Prop
  | _, [] => True
  | d, e :: es => P d e ∧ (d.step e).Along P es

instance decidableAlong
    (P : Desk → Event → Prop)
    [∀ d e, Decidable (P d e)] :
    ∀ (d : Desk) (es : List Event), Decidable (d.Along P es)
  | _, [] => isTrue trivial
  | d, e :: es =>
    have := decidableAlong P (d.step e) es
    inferInstanceAs (Decidable (P d e ∧ (d.step e).Along P es))

/-- A desk before the first order: nothing is stored and nothing is going on. -/
structure Opened (d : Desk) : Prop where
  no_orders : d.memory.orders = []
  no_errands : d.errands = []
  no_copies : d.copies = []

/-- A new order gets an identifier that no stored order has. -/
def Fresh (d : Desk) (e : Event) : Prop :=
  ∀ order ∈ (d.deed e).created?, d.memory.find? order.id = none

instance (d : Desk) (e : Event) : Decidable (d.Fresh e) :=
  inferInstanceAs (Decidable (∀ order ∈ (d.deed e).created?, d.memory.find? order.id = none))

/-- At a position of a run, an errand makes a call and gets an answer. -/
def AnsweredAt
    (d : Desk)
    (es : List Event)
    (j i : Nat)
    (c : Call)
    (r : c.Answer) :
    Prop :=
  ∃ o fault errand,
    es[j]? = some (.proceed i o fault) ∧
    (d.after (es.take j)).errands[i]? = some errand ∧
    errand.rest.asked? = some c ∧
    ((d.after (es.take j)).memory.answerUnder fault o c).1 = r

end Desk
end OrderDesk
