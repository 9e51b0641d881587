import OrderDesk.Decimal.Text
import OrderDesk.Identifier
import OrderDesk.Instant.Text
import OrderDesk.Json.Binding

/-!
# Binding of single values and lists

Binders of texts, integers, identifiers, decimals, instants, lists, and of sets of
named variants.

**Decimals** are read from texts, and also from numbers: an integer as it is, a
double by its shortest digits without an exponent.

**Variants** are read from their names, and also from an object with one member
that has the name for its key and null for its value.
-/

namespace OrderDesk
namespace Json
namespace Binder

/-- Binds a text. -/
def text : Binder (List Char)
  | .text (some content) => .ok content
  | node => .error (node.unexpected "a string")

/-- Binds a text as a string. -/
def string : Binder String := fun node =>
  (text node).map String.ofList

/-- Binds an integer between two bounds, where the type of the bounds has a name. -/
def integer (low high : Int) (name : String) : Binder Int := fun node =>
  match node with
  | .number n =>
    match n.number? with
    | some (.integer i) =>
      if low ≤ i ∧ i ≤ high then .ok i else .error (.here (.wrongInteger i name))
    | _ => .error (node.unexpected name)
  | _ => .error (node.unexpected name)

/-- Binds a 32-bit signed integer. -/
def int32 : Binder Int32 := fun node =>
  (integer (-0x80000000) 0x7FFFFFFF "i32" node).map Int32.ofInt

/-- Binds a 64-bit signed integer. -/
def int64 : Binder Int64 := fun node =>
  (integer (-0x8000000000000000) 0x7FFFFFFFFFFFFFFF "i64" node).map Int64.ofInt

/-- The report on a value that is not a spelling of its type. -/
def unread (node : Node) : Problem :=
  match node.describe? with
  | some _ => .here .unreadable
  | none => .malformed

/-- Binds a text that spells a value. -/
def spelled {α : Type} (parse : List Char → Option α) : Binder α := fun node =>
  match node with
  | .text (some content) =>
    match parse content with
    | some a => .ok a
    | none => .error (.here .unreadable)
  | _ => .error (unread node)

/-- Binds an identifier. -/
def identifier : Binder Identifier := spelled Identifier.parse?

/-- Binds an instant. -/
def instant : Binder Instant := spelled Instant.parse?

/-- The decimal of a number. -/
def decimalOf? : Number → Option Decimal
  | .integer i => Decimal.ofParts? i 0
  | .double x => Decimal.ofPlain? x.plainChars

/-- Binds a decimal. -/
def decimal : Binder Decimal := fun node =>
  match node with
  | .number n =>
    match n.number? with
    | some number =>
      match decimalOf? number with
      | some d => .ok d
      | none => .error (.here .unreadable)
    | none => .error .malformed
  | _ => spelled Decimal.parse? node

/-- Binds items in order, the first of which has the given position, behind those
bound before, the last one first. -/
def items {α : Type} (bind : Binder α) : List α → Nat → List Node → Except Problem (List α)
  | bound, _, [] => .ok bound.reverse
  | bound, index, node :: nodes =>
    match bind node with
    | .ok a => items bind (a :: bound) (index + 1) nodes
    | .error p => .error (p.under (.item index))

/-- Binds an array of any length. -/
def list {α : Type} (bind : Binder α) : Binder (List α) := fun node =>
  match node with
  | .array nodes closed =>
    match items bind [] 0 nodes with
    | .ok bound => if closed then .ok bound else .error .malformed
    | .error p => .error p
  | _ => .error (node.unexpected "a sequence")

/-- Binds null to nothing, and everything else by the given binder. -/
def nullable {α : Type} (bind : Binder α) : Binder (Option α)
  | .null => .ok none
  | node => (bind node).map some

/-- The variant that a name stands for. -/
def variantNamed {α : Type} (all : List α) (name : α → String) (s : String) :
    Except Problem α :=
  match all.find? (name · == s) with
  | some a => .ok a
  | none => .error (.here (.unknownVariant s (all.map name)))

/-- Binds one of the given variants by its name. -/
def variant {α : Type} (all : List α) (name : α → String) : Binder α := fun node =>
  match node with
  | .text (some content) => variantNamed all name (String.ofList content)
  | .object ((some content, value) :: more) closed =>
    match variantNamed all name (String.ofList content) with
    | .error p => .error p
    | .ok a =>
      match value with
      | .null => if more.isEmpty && closed then .ok a else .error .malformed
      | _ => .error (value.unexpected "unit")
  | _ => .error .malformed

end Binder
end Json
end OrderDesk
