import OrderDesk.Failure
import OrderDesk.Text.Blank

/-!
# Placement requests

What a user asks for when placing an order: a list of products and quantities,
still as they were sent.  `validate` checks their shape without looking
anything up, and reports the first fault: first of the whole list, then line by
line, and within a line the product before the quantity.
-/

namespace OrderDesk

/-- One requested line as it was sent. -/
structure LineRequest where
  productId : String
  quantity : Int32
deriving DecidableEq, Repr

/-- A requested line whose product is an identifier and whose quantity is positive. -/
structure ValidLine where
  productId : Identifier
  quantity : Int32
deriving DecidableEq

/-- Limits on an order. -/
structure OrderPolicy where
  maxLines : Nat := 5
deriving DecidableEq, Repr

namespace LineRequest

/-- Checks one line, whose position is given for the report. -/
def validate (index : Nat) (line : LineRequest) : Except InputError ValidLine :=
  let id := Text.trim line.productId.toList
  if id.isEmpty then .error (.productRequired index)
  else
    match Identifier.parse? id with
    | none => .error (.productInvalid index (String.ofList id))
    | some productId =>
      if line.quantity ≤ 0 then .error (.quantityNotPositive index)
      else .ok { productId, quantity := line.quantity }

/-- Checks lines in order, the first of which has the given position. -/
def validateFrom : Nat → List LineRequest → Except InputError (List ValidLine)
  | _, [] => .ok []
  | index, line :: lines => do
    let valid ← line.validate index
    let rest ← validateFrom (index + 1) lines
    return valid :: rest

end LineRequest

/-- Checks the lines of an order under a policy. -/
def OrderPolicy.validate
    (policy : OrderPolicy)
    (lines : List LineRequest) :
    Except InputError (List ValidLine) :=
  if lines.isEmpty then .error .noLines
  else if policy.maxLines < lines.length then
    .error (.tooManyLines policy.maxLines lines.length)
  else LineRequest.validateFrom 0 lines

end OrderDesk
