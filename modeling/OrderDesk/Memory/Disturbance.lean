import OrderDesk.Memory.Store

/-!
# Disturbances

What may go wrong around one service operation: one kind of call fails with a
given error and does nothing, and an outside process sets the status of an
order just after the service has loaded it.
-/

namespace OrderDesk

/-- A kind of call that fails with a given error. -/
structure Fault where
  kind : Call.Kind
  error : StoreError

/-- The disturbances of one operation. -/
structure Disturbance where
  fault : Option Fault := none
  /-- The status that is set from outside after a load. -/
  interference : Option OrderStatus := none

namespace Disturbance

/-- The error that takes the place of a call. -/
def faultOf? (d : Disturbance) (c : Call) : Option StoreError :=
  match d.fault with
  | some f => if f.kind = c.kind then some f.error else none
  | none => none

/-- The state after a call that was answered. -/
def interfere (d : Disturbance) (now : Instant) (c : Call) (r : c.Answer) (m : Memory) : Memory :=
  match c, r, d.interference with
  | .load .., .ok order, some status => (m.setStatus? now order.id status).getD m
  | _, _, _ => m

/-- Answers a call of the service under disturbances. -/
def answer (d : Disturbance) (o : Occasion) (c : Call) (m : Memory) : c.Answer × Memory :=
  match d.faultOf? c with
  | some e => (c.failed e, m)
  | none =>
    let (r, m) := m.answer o c
    (r, d.interfere o.now c r m)

end Disturbance
end OrderDesk
