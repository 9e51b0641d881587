import Mathlib.Data.List.Nodup
import OrderDesk.Json.Record
import OrderDesk.Proofs.Json.Node

/-!
# Written records

The members of a record are written in the order of its fields, each as its binder reads it.
A field may be left out if the record has a value for this case.

* `Fields.names`: the names of the fields.
* `Fields.Written`: members that are written for the values of a record, with one rule for
  each kind of field.
-/

namespace OrderDesk
namespace Json
namespace Fields

/-- The names of the fields. -/
def names {γ : Type} : Fields γ → List String
  | nil => []
  | cons field rest => field.name :: rest.names

/-- Members are the fields of a record, and their values are bound to the given tuple. -/
inductive Written : {γ : Type} → Fields γ → List (String × Value) → γ → Prop where
  | nil : Written .nil [] ()
  | present
      {α β : Type} {field : Field α} {rest : Fields β} {v : Value} {a : α}
      {members : List (String × Value)} {b : β}
      (bound : field.bind v.node = .ok a)
      (behind : Written rest members b) :
      Written (.cons field rest) ((field.name, v) :: members) (a, b)
  | absent
      {α β : Type} {field : Field α} {rest : Fields β} {a : α}
      {members : List (String × Value)} {b : β}
      (default : field.ifAbsent = some a)
      (behind : Written rest members b) :
      Written (.cons field rest) members (a, b)

section Field

variable {α β : Type} {name : String} {rest : Fields β} {v : Value}
  {members : List (String × Value)} {b : β}

theorem Written.required
    {bind : Binder α} {a : α}
    (bound : bind v.node = .ok a)
    (behind : Written rest members b) :
    Written (.cons (.required name bind) rest) ((name, v) :: members) (a, b) :=
  .present bound behind

theorem Written.nullable
    {bind : Binder (Option α)} {a : Option α}
    (bound : bind v.node = .ok a)
    (behind : Written rest members b) :
    Written (.cons (.nullable name bind) rest) ((name, v) :: members) (a, b) :=
  .present bound behind

theorem Written.leftOut
    {bind : Binder (Option α)}
    (behind : Written rest members b) :
    Written (.cons (.nullable name bind) rest) members (none, b) :=
  .absent rfl behind

end Field

/-- No member has a name that no field has. -/
theorem Written.ne_of_not_mem
    {γ : Type} {fields : Fields γ} {members : List (String × Value)} {values : γ}
    (written : Written fields members values)
    {name : String}
    (other : name ∉ fields.names) :
    ∀ m ∈ members, name ≠ m.1 := by
  induction written with
  | nil =>
      nofun
  | present _ _ ih =>
      rw [names, List.mem_cons, not_or] at other
      intro m hm
      rcases List.mem_cons.mp hm with rfl | hm
      · exact other.1
      · exact ih other.2 m hm
  | absent _ _ ih =>
      rw [names, List.mem_cons, not_or] at other
      exact ih other.2

end Fields
end Json
end OrderDesk
