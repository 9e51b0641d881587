/-!
# The status of an order

An order starts as `new`, may become `inProgress` and then `done`, and may be
cancelled before it is done.  `done` and `cancelled` are terminal: no
transition leaves them.
-/

namespace OrderDesk

/-- The status of an order. -/
inductive OrderStatus where
  | new
  | inProgress
  | done
  | cancelled
deriving DecidableEq, Repr

namespace OrderStatus

/-- A new order has the status `new`. -/
instance : Inhabited OrderStatus := ⟨.new⟩

/-- The stored and transmitted spelling. -/
def text : OrderStatus → String
  | .new => "new"
  | .inProgress => "in_progress"
  | .done => "done"
  | .cancelled => "cancelled"

instance : ToString OrderStatus := ⟨text⟩

/-- All statuses, in the order of the life of an order. -/
def all : List OrderStatus := [.new, .inProgress, .done, .cancelled]

/-- The status with the given spelling. -/
def parse? (s : String) : Option OrderStatus :=
  all.find? (·.text == s)

/-- The report of a text that spells no status. -/
def unknownMessage (s : String) : String :=
  s!"Unknown order status: {s}"

/-- Whether no transition leaves the status. -/
def isTerminal : OrderStatus → Bool
  | .done | .cancelled => true
  | .new | .inProgress => false

/-- Whether an order in this status may be cancelled. -/
def canCancel (s : OrderStatus) : Bool :=
  !s.isTerminal

/-- The transitions of the life of an order. -/
inductive Transition : OrderStatus → OrderStatus → Prop where
  | start : Transition .new .inProgress
  | finish : Transition .inProgress .done
  | cancelNew : Transition .new .cancelled
  | cancelStarted : Transition .inProgress .cancelled

/-- Every spelling reads back. -/
theorem parse?_text (s : OrderStatus) : parse? s.text = some s := by
  cases s <;> decide

/-- Only its own spelling reads as a status. -/
theorem text_of_parse?
    {s : String} {status : OrderStatus}
    (found : parse? s = some status) :
    status.text = s := by
  simpa using List.find?_some found

/-- An order may be cancelled exactly where a transition to `cancelled` starts. -/
theorem canCancel_iff (s : OrderStatus) :
    s.canCancel = true ↔ Transition s .cancelled := by
  constructor
  · intro h
    cases s with
    | new => exact .cancelNew
    | inProgress => exact .cancelStarted
    | done => exact absurd h (by decide)
    | cancelled => exact absurd h (by decide)
  · intro h
    cases h with
    | cancelNew => rfl
    | cancelStarted => rfl

end OrderStatus
end OrderDesk
