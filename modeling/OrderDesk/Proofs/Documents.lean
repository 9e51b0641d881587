import Mathlib.Data.List.Forall2
import Mathlib.Tactic.Tauto
import OrderDesk.Documents.Order
import OrderDesk.Http.Response

/-!
# What documents of orders show

A client sees an order but for its version, and its lines but for their times and the order
that they name, which is the one around them (`OrderView.of_eq_of_iff`).

An order is shown under the name of its user, and nothing else in the document of an order
or of a page of orders goes by the name of a user.  So the members `user_id` of a document,
at whatever depth, are the users of the orders in it (`named_userId_order`,
`named_userId_listing`).
-/

namespace OrderDesk

/-! ## What is left out -/

/-- Two lines look alike exactly if they differ in their times and their orders only. -/
theorem LineView.of_eq_of_iff
    {l l' : OrderLine} :
    LineView.of l' = LineView.of l ↔
      l' =
        { l with
          orderId := l'.orderId, createdAt := l'.createdAt, updatedAt := l'.updatedAt } := by
  obtain ⟨id, orderId, productId, quantity, price, product, createdAt, updatedAt⟩ := l
  obtain ⟨id', orderId', productId', quantity', price', product', createdAt', updatedAt'⟩ := l'
  simp only [LineView.of, LineView.mk.injEq, OrderLine.mk.injEq]
  tauto

/-- Two orders look alike exactly if they differ in their versions only, and in what is left
out of their lines. -/
theorem OrderView.of_eq_of_iff
    {o o' : Order} :
    OrderView.of o' = OrderView.of o ↔
      o' = { o with lines := o'.lines, version := o'.version } ∧
        List.Forall₂ (fun l' l : OrderLine =>
            l' =
              { l with
                orderId := l'.orderId, createdAt := l'.createdAt, updatedAt := l'.updatedAt })
          o'.lines o.lines := by
  have hlines : o'.lines.map LineView.of = o.lines.map LineView.of ↔ List.Forall₂
      (fun l' l : OrderLine => LineView.of l' = LineView.of l) o'.lines o.lines := by
    rw [← List.forall₂_eq_eq_eq, List.forall₂_map_left_iff, List.forall₂_map_right_iff]
  simp only [LineView.of_eq_of_iff] at hlines
  rw [← hlines]
  obtain ⟨id, code, userId, lines, totalPrice, status, version, createdAt, updatedAt⟩ := o
  obtain ⟨id', code', userId', lines', totalPrice', status', version', createdAt',
    updatedAt'⟩ := o'
  simp only [OrderView.of, OrderView.mk.injEq, Order.mk.injEq]
  tauto

/-! ## Whose orders are shown -/

namespace Json.Value

mutual

/-- The values of the members with a name, at any depth. -/
def named (name : String) : Value → List Value
  | null => []
  | bool _ => []
  | integer _ => []
  | text _ => []
  | array items => namedInItems name items
  | object members => namedInMembers name members

/-- The values of the members with a name inside of items. -/
def namedInItems (name : String) : List Value → List Value
  | [] => []
  | item :: items => named name item ++ namedInItems name items

/-- The values of the members with a name among members and inside of them. -/
def namedInMembers (name : String) : List (String × Value) → List Value
  | [] => []
  | (other, value) :: members =>
    (if other = name then [value] else []) ++ named name value ++ namedInMembers name members

end

@[simp] theorem named_text
    (name s : String) :
    (text s).named name = [] := rfl

@[simp] theorem named_integer
    (name : String)
    (n : Int) :
    (integer n).named name = [] := rfl

@[simp] theorem named_object
    (name : String)
    (members : List (String × Value)) :
    (object members).named name = namedInMembers name members := rfl

@[simp] theorem namedInMembers_nil
    (name : String) :
    namedInMembers name [] = [] := rfl

@[simp] theorem namedInMembers_cons
    (name other : String)
    (value : Value)
    (members : List (String × Value)) :
    namedInMembers name ((other, value) :: members) =
      (if other = name then [value] else []) ++ value.named name ++
        namedInMembers name members := rfl

theorem named_array_map
    {α : Type}
    (name : String)
    (f : α → Value)
    (l : List α) :
    (array (l.map f)).named name = l.flatMap fun a => (f a).named name := by
  rw [named]
  induction l with
  | nil =>
      rfl
  | cons a l ih =>
      rw [List.map_cons, namedInItems, ih, List.flatMap_cons]

end Json.Value

open Json.Value

theorem named_userId_summary
    (p : ProductSummary) :
    p.document.named "user_id" = [] := by
  simp [ProductSummary.document]

theorem named_userId_line
    (l : LineView) :
    l.document.named "user_id" = [] := by
  cases hproduct : l.product with
  | none =>
      simp [LineView.document, Json.Value.optional, hproduct]
  | some p =>
      simp [LineView.document, Json.Value.optional, hproduct, named_userId_summary]

theorem named_userId_order
    (o : OrderView) :
    o.document.named "user_id" = [.text o.userId.text] := by
  have hlines : (array (o.lines.map LineView.document)).named "user_id" = [] := by
    rw [named_array_map]
    simp [named_userId_line]
  simp [OrderView.document, OrderStatus.document, hlines]

theorem named_userId_listing
    (l : ListingView) :
    l.document.named "user_id" = l.orders.map fun o => .text o.userId.text := by
  have horders : (array (l.orders.map OrderView.document)).named "user_id" =
      l.orders.map fun o => .text o.userId.text := by
    rw [named_array_map, List.map_eq_flatMap]
    simp only [named_userId_order]
  simp [ListingView.document, Page.document, horders]

/-- All orders that a body shows are a user's own: it shows none, or one, or a page. -/
inductive Body.ShowsOnly (userId : Identifier) : Body → Prop where
  | nothing :
      Body.ShowsOnly userId .empty
  | order
      (o : OrderView)
      (own : o.userId = userId) :
      Body.ShowsOnly userId (.document o.document)
  | listing
      (l : ListingView)
      (own : ∀ o ∈ l.orders, o.userId = userId) :
      Body.ShowsOnly userId (.document l.document)

/-- The user of every order in such a body is that user, as the client reads it. -/
theorem Body.ShowsOnly.named_userId
    {userId : Identifier} {v : Json.Value}
    (shows : Body.ShowsOnly userId (.document v)) :
    ∀ user ∈ v.named "user_id", user = .text userId.text := by
  cases shows with
  | order o own =>
      rw [named_userId_order, own]
      simp
  | listing l own =>
      rw [named_userId_listing]
      intro user huser
      obtain ⟨o, ho, rfl⟩ := List.mem_map.mp huser
      rw [own o ho]

end OrderDesk
