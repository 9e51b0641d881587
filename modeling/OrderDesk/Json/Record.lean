import OrderDesk.Json.Binding

/-!
# Binding of records

A record has named fields in a fixed order.  It is read from an object or from an
array.

**From an object** fields are found by their names, in any order, each at most
once; a second occurrence is a problem before its value is looked at.  Members
with other names are skipped, whatever their values.  Only then are fields that
did not occur reported, in the order of the record.

**From an array** fields are found by position, and the array has no further
items.

A field may have a value for the case that it does not occur; the two forms may
differ in this.
-/

namespace OrderDesk
namespace Json

/-- A field of a record. -/
structure Field (α : Type) where
  name : String
  bind : Binder α
  /-- The value of a field that an object does not have. -/
  ifAbsent : Option α
  /-- The value of a field that an array is too short for. -/
  ifShort : Option α

namespace Field

variable {α : Type}

/-- A field that must occur. -/
def required (name : String) (bind : Binder α) : Field α :=
  { name, bind, ifAbsent := none, ifShort := none }

/-- A field that has the given value if it does not occur. -/
def defaulted (name : String) (bind : Binder α) (value : α) : Field α :=
  { name, bind, ifAbsent := some value, ifShort := some value }

/-- A field that may be null, and that an object may leave out. -/
def nullable (name : String) (bind : Binder (Option α)) : Field (Option α) :=
  { name, bind, ifAbsent := some none, ifShort := none }

end Field

/-- The fields of a record in order, and the tuple of their values. -/
inductive Fields : Type → Type 1 where
  | nil : Fields Unit
  | cons {α β : Type} (field : Field α) (rest : Fields β) : Fields (α × β)

namespace Fields

/-- The number of fields. -/
def count {γ : Type} : Fields γ → Nat
  | nil => 0
  | cons _ rest => rest.count + 1

/-- The values found so far. -/
@[reducible] def Found {γ : Type} : Fields γ → Type
  | nil => Unit
  | @cons α _ _ rest => Option α × rest.Found

/-- Nothing found yet. -/
def nothing {γ : Type} : (fields : Fields γ) → fields.Found
  | nil => ()
  | cons _ rest => (none, rest.nothing)

/-- What a member of an object does to the values found: it adds one, it has no
field, or it is a problem. -/
def offer {γ : Type} (name : String) (value : Node) :
    (fields : Fields γ) → fields.Found → Except Problem (Option fields.Found)
  | nil, _ => .ok none
  | cons field rest, found =>
    if field.name = name then
      match found.1 with
      | some _ => .error (.here (.duplicateMember name))
      | none =>
        match field.bind value with
        | .ok a => .ok (some (some a, found.2))
        | .error p => .error (p.under (.member name))
    else
      match rest.offer name value found.2 with
      | .ok (some others) => .ok (some (found.1, others))
      | .ok none => .ok none
      | .error p => .error p

/-- Collects the values of the members of an object. -/
def collect {γ : Type} (fields : Fields γ) :
    fields.Found → List (Key × Node) → Except Problem fields.Found
  | found, [] => .ok found
  | found, (some name, value) :: members =>
    match fields.offer (String.ofList name) value found with
    | .ok (some found) => fields.collect found members
    | .ok none => if value.isIntact then fields.collect found members else .error .malformed
    | .error p => .error p
  | _, _ :: _ => .error .malformed

/-- The values of all fields, if none is missing. -/
def complete {γ : Type} : (fields : Fields γ) → fields.Found → Except Problem γ
  | nil, _ => .ok ()
  | cons field rest, found =>
    match found.1.or field.ifAbsent with
    | none => .error (.here (.missingMember field.name))
    | some a =>
      match rest.complete found.2 with
      | .ok b => .ok (a, b)
      | .error p => .error p

/-- Reads the fields from the members of an object. -/
def ofMembers {γ : Type}
    (fields : Fields γ) (members : List (Key × Node)) (closed : Bool) : Except Problem γ :=
  match fields.collect fields.nothing members with
  | .error p => .error p
  | .ok found => if closed then fields.complete found else .error .malformed

/-- Reads the fields from the items of an array, the first of which has the given
position. -/
def ofItems {γ : Type} (shape : String) (closed : Bool) :
    Fields γ → Nat → List Node → Except Problem γ
  | nil, _, items => if items.isEmpty && closed then .ok () else .error .malformed
  | cons field rest, index, [] =>
    if closed then
      match field.ifShort with
      | none => .error (.here (.wrongLength index shape))
      | some a =>
        match rest.ofItems shape closed (index + 1) [] with
        | .ok b => .ok (a, b)
        | .error p => .error p
    else .error .malformed
  | cons field rest, index, item :: items =>
    match field.bind item with
    | .error p => .error (p.under (.item index))
    | .ok a =>
      match rest.ofItems shape closed (index + 1) items with
      | .ok b => .ok (a, b)
      | .error p => .error p

/-- What an array of the fields should be. -/
def shape {γ : Type} (name : String) (fields : Fields γ) : String :=
  let elements := if fields.count = 1 then " element" else " elements"
  "struct " ++ name ++ " with " ++ toString fields.count ++ elements

/-- Binds a record with a name for reports. -/
def bind {γ : Type} (name : String) (fields : Fields γ) : Binder γ
  | .object members closed => fields.ofMembers members closed
  | .array items closed => fields.ofItems (fields.shape name) closed 0 items
  | node => .error (node.unexpected ("struct " ++ name))

end Fields
end Json
end OrderDesk
