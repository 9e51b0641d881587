import OrderDesk.Double.Shown
import OrderDesk.Json.Node
import OrderDesk.Text.Shown

/-!
# Binding of JSON nodes

A binder reads a value of a domain type from a node.  It stops at the first
problem in the order of the text.  A problem is either that the text is not JSON
where it is looked at, or a mismatch with the wanted type, together with the path
to the place.

Binders of records are in `Json.Record`.
-/

namespace OrderDesk
namespace Json

/-- A step from a node to a node inside it. -/
inductive PathStep where
  | member (name : String)
  | item (index : Nat)
deriving DecidableEq, Repr

/-- The way to a place in a text. -/
abbrev Path := List PathStep

/-- A point stands before a member inside something. -/
def Path.separator : Path → String
  | .member _ :: _ => "."
  | _ => ""

/-- The text of a path: members are joined by points, items stand in brackets. -/
def Path.text : Path → String
  | [] => ""
  | .member name :: rest => name ++ Path.separator rest ++ Path.text rest
  | .item index :: rest => s!"[{index}]" ++ Path.separator rest ++ Path.text rest

/-- Why a whole JSON value does not have the wanted type. -/
inductive Mismatch where
  | missingMember (name : String)
  | duplicateMember (name : String)
  | unknownVariant (name : String) (known : List String)
  | wrongKind (found expected : String)
  /-- An integer outside the wanted width. -/
  | wrongInteger (n : Int) (expected : String)
  /-- An array that is too short for a record. -/
  | wrongLength (length : Nat) (expected : String)
  /-- A text or number that does not spell a value of the wanted type. -/
  | unreadable
deriving DecidableEq, Repr

/-- A name in quotation marks. -/
def quoted (name : String) : String := "`" ++ name ++ "`"

/-- The wording of a mismatch, if it has one of its own. -/
def Mismatch.message? : Mismatch → Option String
  | .missingMember name => some ("missing field " ++ quoted name)
  | .duplicateMember name => some ("duplicate field " ++ quoted name)
  | .unknownVariant name known =>
    some ("unknown variant " ++ quoted name ++ ", expected one of " ++
      ", ".intercalate (known.map quoted))
  | .wrongKind found expected => some ("invalid type: " ++ found ++ ", expected " ++ expected)
  | .wrongInteger n expected =>
    some ("invalid value: integer " ++ quoted (toString n) ++ ", expected " ++ expected)
  | .wrongLength length expected =>
    some ("invalid length " ++ toString length ++ ", expected " ++ expected)
  | .unreadable => none

/-- Why a node could not be bound. -/
inductive Problem where
  /-- The text is not JSON. -/
  | malformed
  /-- A value at the end of the path has the wrong type. -/
  | mismatch (path : Path) (cause : Mismatch)
deriving DecidableEq, Repr

/-- A mismatch of the node itself. -/
def Problem.here (cause : Mismatch) : Problem := .mismatch [] cause

/-- A problem inside a node, seen from outside. -/
def Problem.under (s : PathStep) : Problem → Problem
  | .malformed => .malformed
  | .mismatch path cause => .mismatch (s :: path) cause

/-- A way to read a value of a type from a node. -/
abbrev Binder (α : Type) := Node → Except Problem α

/-- Reads a value from a text that holds nothing else. -/
def Binder.ofText {α : Type} (bind : Binder α) (text : String) : Except Problem α :=
  let (node, whole) := Node.readWhole (Utf8.ofString text)
  match bind node with
  | .error p => .error p
  | .ok a => if whole then .ok a else .error .malformed

namespace Node

/-- How a node is named in a report of its kind, unless it is malformed. -/
def describe? : Node → Option String
  | null => some "null"
  | bool b => some ("boolean " ++ quoted (if b then "true" else "false"))
  | number n =>
    match n.number? with
    | some (.integer i) => some ("integer " ++ quoted (toString i))
    | some (.double x) => some ("floating point " ++ quoted (String.ofList x.shownChars))
    | none => none
  | text (some content) => some ("string " ++ String.ofList (Text.shown content))
  | text none => none
  | array .. => some "sequence"
  | object .. => some "map"
  | damaged => none

/-- The problem of a node of another kind than the expected one. -/
def unexpected (node : Node) (expected : String) : Problem :=
  match node.describe? with
  | some found => .here (.wrongKind found expected)
  | none => .malformed

end Node
end Json
end OrderDesk
