import OrderDesk.Json.Leaf
import OrderDesk.Json.Record

/-!
# Records under two names

A record has a name for reports only.  Bound under two names, a node gives the same value, or
the same problem at the same place, where one name may stand for the other.

* `Mismatch.Renamed`: the same cause, where a shape has its other name.
* `Alike`: two outcomes that differ in such names at most.
* `Fields.bind_alike`: one record under two names.
* `Binder.list_alike`, `Fields.collect_alike`: lists and members whose binders are alike.
-/

namespace OrderDesk
namespace Json

variable {names : List (String × String)} {α β : Type}

/-- The same cause, where a shape has its other name.  The names come in pairs. -/
inductive Mismatch.Renamed (names : List (String × String)) : Mismatch → Mismatch → Prop where
  | same
      (cause : Mismatch) :
      Renamed names cause cause
  | kind
      {name name' : String}
      (pair : (name, name') ∈ names)
      (found : String) :
      Renamed names (.wrongKind found ("struct " ++ name)) (.wrongKind found ("struct " ++ name'))
  | length
      {γ : Type} {name name' : String}
      (pair : (name, name') ∈ names)
      (fields : Fields γ)
      (n : Nat) :
      Renamed names (.wrongLength n (fields.shape name)) (.wrongLength n (fields.shape name'))

/-- Two outcomes of binding differ in names at most. -/
inductive Alike (names : List (String × String)) :
    Except Problem α → Except Problem α → Prop where
  | ok
      (a : α) :
      Alike names (.ok a) (.ok a)
  | malformed : Alike names (.error .malformed) (.error .malformed)
  | mismatch
      {cause cause' : Mismatch}
      (path : Path)
      (renamed : Mismatch.Renamed names cause cause') :
      Alike names (.error (.mismatch path cause)) (.error (.mismatch path cause'))

namespace Alike

variable {x y : Except Problem α}

theorem refl
    (x : Except Problem α) :
    Alike names x x := by
  cases x with
  | ok a => exact .ok a
  | error p =>
      cases p with
      | malformed => exact .malformed
      | mismatch path cause => exact .mismatch path (.same cause)

/-- Outcomes stay alike where values go on alike. -/
theorem bind
    {f g : α → Except Problem β}
    (values : ∀ a, Alike names (f a) (g a)) :
    Alike names x y →
      Alike names
        (match x with
          | .ok a => f a
          | .error p => .error p)
        (match y with
          | .ok a => g a
          | .error p => .error p) := by
  intro alike
  cases alike with
  | ok a => exact values a
  | malformed => exact .malformed
  | mismatch path renamed => exact .mismatch path renamed

/-- And where problems are seen from outside. -/
theorem bind_under
    {f g : α → Except Problem β}
    (values : ∀ a, Alike names (f a) (g a))
    (s : PathStep) :
    Alike names x y →
      Alike names
        (match x with
          | .ok a => f a
          | .error p => .error (p.under s))
        (match y with
          | .ok a => g a
          | .error p => .error (p.under s)) := by
  intro alike
  cases alike with
  | ok a => exact values a
  | malformed => exact .malformed
  | mismatch path renamed => exact .mismatch (s :: path) renamed

theorem map
    (alike : Alike names x y)
    (f : α → β) :
    Alike names (x.map f) (y.map f) := by
  cases alike with
  | ok a => exact .ok (f a)
  | malformed => exact .malformed
  | mismatch path renamed => exact .mismatch path renamed

end Alike

theorem Node.unexpected_alike
    {name name' : String}
    (pair : (name, name') ∈ names)
    (node : Node) :
    @Alike α names
      (.error (node.unexpected ("struct " ++ name)))
      (.error (node.unexpected ("struct " ++ name'))) := by
  rw [unexpected, unexpected]
  cases node.describe? with
  | none => exact .malformed
  | some found => exact .mismatch [] (.kind pair found)

namespace Fields

theorem ofItems_alike
    {γ δ : Type} {name name' : String}
    (pair : (name, name') ∈ names)
    (whole : Fields δ)
    (closed : Bool)
    (fields : Fields γ)
    (index : Nat)
    (items : List Node) :
    Alike names
      (fields.ofItems (whole.shape name) closed index items)
      (fields.ofItems (whole.shape name') closed index items) := by
  induction fields generalizing index items with
  | nil => exact .refl _
  | cons field rest ih =>
      cases items with
      | nil =>
          rw [ofItems, ofItems]
          cases closed with
          | false => exact .malformed
          | true =>
              simp only [if_true]
              cases field.ifShort with
              | none => exact .mismatch [] (.length pair whole index)
              | some a => exact (ih _ _).bind fun b => .ok (a, b)
      | cons item items =>
          rw [ofItems, ofItems]
          cases field.bind item with
          | error p => exact .refl _
          | ok a => exact (ih _ _).bind fun b => .ok (a, b)

/-- A record under two names. -/
theorem bind_alike
    {γ : Type} {name name' : String}
    (pair : (name, name') ∈ names)
    (fields : Fields γ)
    (node : Node) :
    Alike names (fields.bind name node) (fields.bind name' node) := by
  cases node with
  | array items closed => exact ofItems_alike pair fields closed fields 0 items
  | object members closed => exact .refl _
  | null | bool _ | number _ | text _ | damaged => exact Node.unexpected_alike pair _

/-- A record of one field, whose values are read alike. -/
theorem collect_alike
    {name : String} {bind bind' : Binder α} {absent short absent' short' : Option α}
    (alike : ∀ node, Alike names (bind node) (bind' node))
    (found : Option α × Unit)
    (members : List (Key × Node)) :
    Alike names
      ((cons ⟨name, bind, absent, short⟩ nil).collect found members)
      ((cons ⟨name, bind', absent', short'⟩ nil).collect found members) := by
  induction members generalizing found with
  | nil => exact .ok found
  | cons m members ih =>
      obtain ⟨key, value⟩ := m
      cases key with
      | none => exact .malformed
      | some key =>
          have hoffer : Alike names
              (offer (String.ofList key) value (cons ⟨name, bind, absent, short⟩ nil) found)
              (offer (String.ofList key) value (cons ⟨name, bind', absent', short'⟩ nil) found) :=
              by
            simp only [offer]
            split
            · cases found.1 with
              | some _ => exact .refl _
              | none => exact (alike value).bind_under (fun a => .ok _) _
            · exact .ok _
          simp only [collect]
          generalize offer _ _ (cons ⟨name, bind, absent, short⟩ nil) found = x at hoffer ⊢
          generalize offer _ _ (cons ⟨name, bind', absent', short'⟩ nil) found = y at hoffer ⊢
          cases hoffer with
          | ok taken =>
              cases taken with
              | some found => exact ih found
              | none =>
                  dsimp only
                  split
                  · exact ih found
                  · exact .malformed
          | malformed => exact .malformed
          | mismatch path renamed => exact .mismatch path renamed

end Fields

namespace Binder

theorem items_alike
    {bind bind' : Binder α}
    (alike : ∀ node, Alike names (bind node) (bind' node))
    (bound : List α)
    (index : Nat)
    (nodes : List Node) :
    Alike names (items bind bound index nodes) (items bind' bound index nodes) := by
  induction nodes generalizing bound index with
  | nil => exact .ok _
  | cons node nodes ih =>
      rw [items, items]
      exact (alike node).bind_under (fun a => ih (a :: bound) (index + 1)) (.item index)

theorem list_alike
    {bind bind' : Binder α}
    (alike : ∀ node, Alike names (bind node) (bind' node))
    (node : Node) :
    Alike names (list bind node) (list bind' node) := by
  cases node with
  | array nodes closed =>
      have hitems := items_alike alike [] 0 nodes
      simp only [list]
      generalize items bind [] 0 nodes = x at hitems ⊢
      generalize items bind' [] 0 nodes = y at hitems ⊢
      cases hitems with
      | ok bound => exact .refl _
      | malformed => exact .malformed
      | mismatch path renamed => exact .mismatch path renamed
  | null | bool _ | number _ | text _ | object _ _ | damaged => exact .refl _

end Binder
end Json
end OrderDesk
