import OrderDesk.Json.Leaf
import OrderDesk.Proofs.Decimal.Text
import OrderDesk.Proofs.Identifier
import OrderDesk.Proofs.Instant.Text
import OrderDesk.Proofs.Json.Node

/-!
# Reading single values and lists back

Each binder reads the values that are written for it: a text, an integer of the binder's
width, an identifier, a decimal that is no zero below zero, a plain instant, a list of such
values, and a variant by its name.
-/

namespace OrderDesk
namespace Json
namespace Binder

theorem string_node
    (s : String) :
    string (Value.text s).node = .ok s := by
  rw [Value.node, string, text, Except.map, String.ofList_toList]

/-! ## Integers -/

/-- The bounds of a width lie within 64 bits. -/
theorem integer_node
    {low high n : Int}
    (name : String)
    (least : -0x8000000000000000 ≤ low)
    (most : high ≤ 0xFFFFFFFFFFFFFFFF)
    (above : low ≤ n)
    (below : n ≤ high) :
    integer low high name (Value.integer n).node = .ok n := by
  have hnumber := Numeral.number?_ofInt (n := n) (by omega) (by omega)
  rw [Value.node, integer]
  simp only [hnumber]
  rw [if_pos ⟨above, below⟩]

theorem int32_node
    (n : Int32) :
    int32 (Value.integer n.toInt).node = .ok n := by
  have hlow := n.le_toInt
  have hhigh := n.toInt_lt
  rw [int32, integer_node "i32" (by decide) (by decide) (by omega) (by omega), Except.map,
    Int32.ofInt_toInt]

theorem int64_node
    (n : Int64) :
    int64 (Value.integer n.toInt).node = .ok n := by
  have hlow := n.le_toInt
  have hhigh := n.toInt_lt
  rw [int64, integer_node "i64" (by decide) (by decide) (by omega) (by omega), Except.map,
    Int64.ofInt_toInt]

/-! ## Texts that spell a value -/

theorem spelled_node
    {α : Type} {parse : List Char → Option α} {cs : List Char} {a : α}
    (read : parse cs = some a) :
    spelled parse (Value.text (String.ofList cs)).node = .ok a := by
  rw [Value.node, String.toList_ofList, spelled, read]

theorem identifier_node
    (i : Identifier) :
    identifier (Value.text i.text).node = .ok i :=
  spelled_node i.parse?_toChars

theorem decimal_node
    {d : Decimal}
    (sign : d.isMinusZero = false) :
    decimal (Value.text d.text).node = .ok d :=
  spelled_node (Decimal.parse?_toChars sign)

theorem instant_node
    {t : Instant}
    (plain : t.IsPlain) :
    instant (Value.text t.text).node = .ok t :=
  spelled_node (Instant.parse?_toChars plain)

/-! ## Lists, missing values and variants -/

section List

variable {α : Type} {bind : Binder α} {f : α → Value}

/-- Items are bound in order. -/
theorem items_of_forall₂
    {l : List α} {nodes : List Node}
    (each : List.Forall₂ (fun a node => bind node = .ok a) l nodes)
    (bound : List α)
    (index : Nat) :
    items bind bound index nodes = .ok (bound.reverse ++ l) := by
  induction each generalizing bound index with
  | nil =>
      rw [items, List.append_nil]
  | cons first _ ih =>
      rw [items, first]
      dsimp only
      rw [ih, List.reverse_cons, List.append_assoc]
      rfl

theorem list_of_forall₂
    {l : List α} {nodes : List Node}
    (each : List.Forall₂ (fun a node => bind node = .ok a) l nodes) :
    list bind (.array nodes true) = .ok l := by
  rw [list, items_of_forall₂ each [] 0]
  rfl

theorem forall₂_itemNodes
    {R : α → Node → Prop} {l : List α}
    (related : ∀ a ∈ l, R a (f a).node) :
    List.Forall₂ R l (Value.itemNodes (l.map f)) := by
  induction l with
  | nil =>
      exact .nil
  | cons a l ih =>
      exact .cons (related a List.mem_cons_self)
        (ih fun a ha => related a (List.mem_cons_of_mem _ ha))

theorem list_node
    {l : List α}
    (read : ∀ a ∈ l, bind (f a).node = .ok a) :
    list bind (Value.array (l.map f)).node = .ok l :=
  list_of_forall₂ (forall₂_itemNodes read)

end List

/-- An object is not null. -/
theorem nullable_node
    {α : Type} {bind : Binder α} {members : List (String × Value)} {a : α}
    (read : bind (Value.object members).node = .ok a) :
    nullable bind (Value.object members).node = .ok (some a) := by
  rw [Value.node] at read ⊢
  rw [nullable, read]
  · rfl
  · nofun

theorem variant_node
    {α : Type} {all : List α} {name : α → String} {a : α}
    (found : all.find? (name · == name a) = some a) :
    variant all name (Value.text (name a)).node = .ok a := by
  rw [Value.node, variant, String.ofList_toList, variantNamed, found]

end Binder
end Json
end OrderDesk
