import OrderDesk.Documents.Placement
import OrderDesk.Proofs.Documents.RoundTrip
import OrderDesk.Proofs.Json.Members
import OrderDesk.Proofs.Json.Renaming

/-!
# Bodies of placements

The lines of an order are sent in two shapes, a request and a command.  Both read the same
texts, and they read them by meaning: the layout of a text is free.

* `LineRequest.Renders`, `Placement.Renders`: the nodes that stand for a line and for lines,
  by name with further members or by position.
* `Placement.RenderedBy`: the texts that spell such a node.
* `Placement.LacksLines`: the bodies in which the two shapes differ, and what a command says
  about them.
* `bind_alike`: on every other node they are alike.
* `bodies_bind_by_meaning`: the two shapes on all texts.
-/

namespace OrderDesk

open Json

/-! ## Lines -/

namespace LineRequest

/-- A node stands for a line. -/
inductive Renders (l : LineRequest) : Node → Prop where
  /-- By name, in any order, with further members under other names. -/
  | object
      {members : List (Key × Node)}
      (product : valuesOf "product_id" members = [.text (some l.productId.toList)])
      (quantity : valuesOf "quantity" members = [.number (.ofInt l.quantity.toInt)])
      (keys : ∀ m ∈ members, m.1.isSome = true) :
      Renders l (.object members true)
  /-- By position. -/
  | array :
      Renders l
        (.array
          [.text (some l.productId.toList), .number (.ofInt l.quantity.toInt)] true)

theorem bind_of_renders
    {l : LineRequest} {node : Node}
    (renders : l.Renders node)
    (whole : node.Whole)
    (shape : String) :
    LineRequest.bind shape node = .ok l := by
  have hproduct : Binder.string (.text (some l.productId.toList)) = .ok l.productId :=
    Binder.string_node l.productId
  have hquantity : Binder.int32 (.number (.ofInt l.quantity.toInt)) = .ok l.quantity :=
    Binder.int32_node l.quantity
  have hfields : fields.bind shape node = .ok (l.productId, l.quantity, ()) := by
    cases renders with
    | object product quantity keys =>
        refine Fields.bind_of_members shape (by decide) keys
          (fun m hm => (whole.member m hm).isIntact) ?_
        exact ⟨.toCome product hproduct, .toCome quantity hquantity, trivial⟩
    | array =>
        simp [Fields.bind, fields, Fields.ofItems, Field.required, hproduct, hquantity]
  rw [LineRequest.bind, hfields]
  rfl

end LineRequest

namespace Placement

/-! ## Bodies -/

/-- A node stands for lines. -/
inductive Renders (lines : List LineRequest) : Node → Prop where
  /-- By name, with further members under other names. -/
  | object
      {members : List (Key × Node)} {items : List Node}
      (own : valuesOf "lines" members = [.array items true])
      (each : List.Forall₂ LineRequest.Renders lines items)
      (keys : ∀ m ∈ members, m.1.isSome = true) :
      Renders lines (.object members true)
  /-- By position. -/
  | array
      {items : List Node}
      (each : List.Forall₂ LineRequest.Renders lines items) :
      Renders lines (.array [.array items true] true)

/-- A text spells a node that stands for lines. -/
def RenderedBy (lines : List LineRequest) (text : String) : Prop :=
  ∃ node, Node.Spelled text.toList node ∧ Renders lines node

/-! ## Reading -/

theorem list_of_renders
    {lines : List LineRequest} {items : List Node}
    (each : List.Forall₂ LineRequest.Renders lines items)
    (whole : ∀ item ∈ items, item.Whole)
    (shape : String) :
    Binder.list (LineRequest.bind shape) (.array items true) = .ok lines := by
  refine Binder.list_of_forall₂ ?_
  induction each with
  | nil => exact .nil
  | cons first _ ih =>
      exact .cons (LineRequest.bind_of_renders first (whole _ List.mem_cons_self) shape)
        (ih fun item hitem => whole item (List.mem_cons_of_mem _ hitem))

/-- The one field of a body, under the names of a shape. -/
theorem fields_of_renders
    {lines : List LineRequest} {node : Node}
    (renders : Renders lines node)
    (whole : node.Whole)
    (name shape : String)
    (absent short : Option (List LineRequest)) :
    (Fields.cons ⟨"lines", Binder.list (LineRequest.bind shape), absent, short⟩ .nil).bind name
      node = .ok (lines, ()) := by
  cases renders with
  | object own each keys =>
      obtain ⟨m, hm, hitems⟩ := exists_of_mem_valuesOf (own ▸ List.mem_cons_self)
      have hlist := list_of_renders each (hitems ▸ whole.member m hm).item shape
      refine Fields.bind_of_members name (by simp [Fields.names]) keys
        (fun m hm => (whole.member m hm).isIntact) ?_
      exact ⟨.toCome own hlist, trivial⟩
  | array each =>
      have hlist := list_of_renders each (whole.item _ List.mem_cons_self).item shape
      simp [Fields.bind, Fields.ofItems, hlist]

/-- Both shapes read the lines that a node stands for. -/
theorem bind_of_renders
    {lines : List LineRequest} {node : Node}
    (renders : Renders lines node)
    (whole : node.Whole) :
    bindRequest node = .ok lines ∧ bindCommand node = .ok lines := by
  have hfields := fields_of_renders renders whole
  constructor
  · rw [bindRequest, Field.defaulted, hfields]
    rfl
  · rw [bindCommand, Field.required, hfields]
    rfl

end Placement

/-- The document of a line stands for it. -/
theorem LineRequest.renders_document
    (l : LineRequest) :
    l.Renders l.document.node :=
  .object rfl rfl (by simp [Value.memberNodes])

/-- The document of lines stands for them. -/
theorem Placement.renders_document
    (lines : List LineRequest) :
    Renders lines (document lines).node :=
  .object rfl (Binder.forall₂_itemNodes fun l _ => l.renders_document) (by simp [Value.memberNodes])

namespace Placement

/-! ## Bodies without lines -/

/-- A body has no lines, and a command says so. -/
inductive LacksLines : Node → Mismatch → Prop where
  | object
      {members : List (Key × Node)}
      (none : valuesOf "lines" members = [])
      (keys : ∀ m ∈ members, m.1.isSome = true)
      (intact : ∀ m ∈ members, m.2.isIntact = true) :
      LacksLines (.object members true) (.missingMember "lines")
  | array :
      LacksLines (.array [] true) (.wrongLength 0 "struct PlaceOrderCommand with 1 element")

/-- The names of the shapes, those of a request first. -/
def shapes : List (String × String) :=
  [("PlaceOrderRequest", "PlaceOrderCommand"), ("PlaceOrderLineRequest", "OrderLineRequest")]

/-- Without lines a request is empty, and a command is refused. -/
theorem bind_of_lacks
    {node : Node} {cause : Mismatch}
    (lacks : LacksLines node cause) :
    bindRequest node = .ok [] ∧ bindCommand node = .error (.here cause) := by
  cases lacks with
  | object without keys intact =>
      constructor
      · rw [bindRequest, Fields.bind_of_absent]
        exacts [rfl, without, keys, intact]
      · rw [bindCommand, Fields.bind_of_absent]
        exacts [rfl, without, keys, intact]
  | array => exact ⟨rfl, rfl⟩

/-- On every other body the two shapes are alike. -/
theorem bind_alike
    {node : Node}
    (some_lines : ∀ cause, ¬ LacksLines node cause) :
    Alike shapes (bindRequest node) (bindCommand node) := by
  have hbodies : ("PlaceOrderRequest", "PlaceOrderCommand") ∈ shapes := by decide
  have hlines : ("PlaceOrderLineRequest", "OrderLineRequest") ∈ shapes := by decide
  have hlist : ∀ node, Alike shapes
      (Binder.list (LineRequest.bind "PlaceOrderLineRequest") node)
      (Binder.list (LineRequest.bind "OrderLineRequest") node) :=
    Binder.list_alike fun item => (Fields.bind_alike hlines LineRequest.fields item).map _
  refine Alike.map ?_ _
  cases node with
  | array items closed =>
      cases items with
      | nil =>
          cases closed with
          | true => exact absurd .array (some_lines _)
          | false => exact .malformed
      | cons item items =>
          have hitem := hlist item
          simp only [Fields.bind, Fields.ofItems, Field.defaulted, Field.required]
          generalize Binder.list _ item = x at hitem ⊢
          generalize Binder.list _ item = y at hitem ⊢
          cases hitem with
          | ok lines => exact .refl _
          | malformed => exact .malformed
          | mismatch path renamed => exact .mismatch (.item 0 :: path) renamed
  | object members closed =>
      have hcollect : Alike shapes
          ((Fields.cons (.defaulted "lines"
            (Binder.list (LineRequest.bind "PlaceOrderLineRequest")) []) .nil).collect
              (none, ()) members)
          ((Fields.cons (.required "lines"
            (Binder.list (LineRequest.bind "OrderLineRequest"))) .nil).collect
              (none, ()) members) :=
        Fields.collect_alike hlist _ _
      simp only [Fields.bind, Fields.ofMembers, Fields.nothing]
      generalize hx : Fields.collect _ _ members = x at hcollect ⊢
      generalize hy : Fields.collect _ _ members = y at hcollect ⊢
      cases hcollect with
      | malformed => exact .malformed
      | mismatch path renamed => exact .mismatch path renamed
      | ok found =>
          cases closed with
          | false => exact .malformed
          | true =>
              obtain ⟨_ | lines, _⟩ := found
              · obtain ⟨without, keys, intact⟩ := Fields.collect_eq_nothing_iff.mp hx
                exact absurd (.object without keys intact) (some_lines _)
              · exact .ok _
  | null | bool _ | number _ | text _ | damaged => exact Node.unexpected_alike hbodies _

/-! ## Texts -/

/-- What a text is read as is bound first, and must be all of the text. -/
theorem ofText_eq
    {α : Type}
    (bind : Binder α)
    (text : String) :
    Binder.ofText bind text =
      match bind (Node.readWhole (Utf8.ofString text)).1 with
      | .error p => .error p
      | .ok a => if (Node.readWhole (Utf8.ofString text)).2 then .ok a else .error .malformed := rfl

theorem ofText_alike
    {text : String}
    (some_lines : ∀ cause, ¬ LacksLines (Node.readWhole (Utf8.ofString text)).1 cause) :
    Alike shapes (Binder.ofText bindRequest text) (Binder.ofText bindCommand text) := by
  have hbind := bind_alike some_lines
  rw [ofText_eq, ofText_eq]
  generalize bindRequest _ = x at hbind ⊢
  generalize bindCommand _ = y at hbind ⊢
  cases hbind with
  | ok lines => exact .refl _
  | malformed => exact .malformed
  | mismatch path renamed => exact .mismatch path renamed

/-- **Bodies bind by meaning, in both shapes.**

* A text that spells lines, in whatever order of members, white space, escapes and further
  members, and in either form for the body and for each line, is read as these lines in
  order: as a request, as a command, and as the body of a request to the web interface.
* Lines are read again from the text that is written for them.
* Any text at all is read as the same lines in both shapes, or is a problem of the same kind
  at the same place, but for the name of the shape, unless it is a body without lines.  Such
  a request is empty.  Such a command is refused before it is looked at what stands behind:
  an object for its missing member, an array for its length. -/
theorem bodies_bind_by_meaning :
    (∀ lines text, RenderedBy lines text →
      Binder.ofText bindRequest text = .ok lines ∧
      Binder.ofText bindCommand text = .ok lines ∧
      bindRequest (Node.read (Utf8.ofString text)) = .ok lines) ∧
    (∀ lines,
      Binder.ofText bindRequest (document lines).render = .ok lines ∧
      Binder.ofText bindCommand (document lines).render = .ok lines) ∧
    (∀ text,
      let read := Node.readWhole (Utf8.ofString text)
      (∀ cause, LacksLines read.1 cause →
        Binder.ofText bindRequest text =
          (if read.2 then .ok [] else .error .malformed) ∧
        Binder.ofText bindCommand text = .error (.here cause)) ∧
      ((∀ cause, ¬ LacksLines read.1 cause) →
        Alike shapes (Binder.ofText bindRequest text) (Binder.ofText bindCommand text))) := by
  refine ⟨?_, ?_, ?_⟩
  · rintro lines text ⟨node, spelled, renders⟩
    obtain ⟨request, command⟩ := bind_of_renders renders spelled.whole
    have hread : Node.readWhole (Utf8.ofString text) = (node, true) :=
      Node.readWhole_of_spelled spelled
    refine ⟨?_, ?_, ?_⟩
    · rw [Binder.ofText_of_spelled spelled, request]
    · rw [Binder.ofText_of_spelled spelled, command]
    · exact (congrArg (fun read => bindRequest read.1) hread).trans request
  · intro lines
    obtain ⟨request, command⟩ :=
      bind_of_renders (renders_document lines) (Value.whole_node _)
    exact ⟨Binder.ofText_render request, Binder.ofText_render command⟩
  · intro text read
    constructor
    · intro cause lacks
      obtain ⟨request, command⟩ := bind_of_lacks lacks
      rw [ofText_eq, ofText_eq, request, command]
      exact ⟨rfl, rfl⟩
    · exact ofText_alike

/-- A body with a member that no shape knows, an escaped name, a line by position and one by
name, in which the quantity comes first and the product is a surrogate pair. -/
theorem bodies_bind_by_meaning_with_escapes :
    let text := "\x7b\"x\":[\x7b\x7d,[]], \"l\\u0069nes\" : [[\"p\", -7],\x7b\"quantity\":-7,\"product_id\":\"\\uD834\\udd1e\"\x7d]\x7d"
    let lines : List LineRequest := [⟨"p", -7⟩, ⟨"𝄞", -7⟩]
    RenderedBy lines text ∧
      Binder.ofText bindRequest text = .ok lines ∧
      Binder.ofText bindCommand text = .ok lines := by
  intro text lines
  let number : Node := .number (.ofInt (-7 : Int32).toInt)
  let items : List Node :=
    [.array [.text (some "p".toList), number] true,
      .object
        [(some "quantity".toList, number), (some "product_id".toList, .text (some "𝄞".toList))]
        true]
  let node : Node :=
    .object
      [(some "x".toList, .array [.object [] true, .array [] true] true),
        (some "lines".toList, .array items true)] true
  have renders : Renders lines node :=
    .object rfl (.cons .array (.cons (.object rfl rfl (by decide)) .nil)) (by decide)
  have inside : ∀ item ∈ items, item.Whole := by
    rw [List.forall_mem_cons, List.forall_mem_singleton]
    constructor
    · refine .array ?_
      rw [List.forall_mem_cons, List.forall_mem_singleton]
      exact ⟨.text _, .number _⟩
    · refine .object ?_
      rw [List.forall_mem_cons, List.forall_mem_singleton]
      exact ⟨.number _, .text _⟩
  have whole : node.Whole := by
    refine .object ?_
    rw [List.forall_mem_cons, List.forall_mem_singleton]
    refine ⟨.array ?_, .array inside⟩
    rw [List.forall_mem_cons, List.forall_mem_singleton]
    exact ⟨.object (List.forall_mem_nil _), .array (List.forall_mem_nil _)⟩
  have seven : Numeral.Spells ['-', '7'] (.ofInt (-7 : Int32).toInt) := by
    have hchars : Value.integerChars (-7 : Int32).toInt = ['-', '7'] := by decide +kernel
    exact hchars ▸ Numeral.spells_integerChars _
  have name : Quoted.Spells ['l', '\\', 'u', '0', '0', '6', '9', 'n', 'e', 's']
      ['l', 'i', 'n', 'e', 's'] :=
    .plain (by decide) (by decide) (by decide) <|
      @Quoted.Spells.code 'i' ['0', '0', '6', '9'] _ _ ⟨0, 0, 6, 9, by decide, by decide⟩ <|
        Quoted.spells_plain (by simp)
  have clef : Quoted.Spells ['\\', 'u', 'D', '8', '3', '4', '\\', 'u', 'd', 'd', '1', 'e'] ['𝄞'] :=
    @Quoted.Spells.pair '𝄞' ['D', '8', '3', '4'] ['d', 'd', '1', 'e'] _ _ (by decide)
      ⟨0xD, 8, 3, 4, by decide, by decide⟩ ⟨0xD, 0xD, 1, 0xE, by decide, by decide⟩ .nil
  have lexes : Token.Lexes text.toList node.tokens := by
    simp only [text, node, items, number, String.reduceToList, Node.tokens, Node.laterItems,
      Node.laterMembers, List.cons_append, List.nil_append]
    refine .mark ?_ rfl
    refine @Token.Lexes.quoted _ _ ?_ ['x'] _ (Quoted.spells_plain (by simp))
    repeat first | refine .mark ?_ rfl | refine .space ?_ (by decide)
    refine @Token.Lexes.quoted _ _ ?_ _ _ name
    repeat first | refine .mark ?_ rfl | refine .space ?_ (by decide)
    refine @Token.Lexes.quoted _ _ ?_ ['p'] _ (Quoted.spells_plain (by simp))
    repeat first | refine .mark ?_ rfl | refine .space ?_ (by decide)
    refine @Token.Lexes.numeral _ _ ?_ _ _ seven (Numeral.stops_closeArray _)
    repeat first | refine .mark ?_ rfl | refine .space ?_ (by decide)
    refine @Token.Lexes.quoted _ _ ?_ "quantity".toList _ (Quoted.spells_plain (by simp))
    refine .mark ?_ rfl
    refine @Token.Lexes.numeral _ _ ?_ _ _ seven (Numeral.stops_comma _)
    refine .mark ?_ rfl
    refine @Token.Lexes.quoted _ _ ?_ "product_id".toList _ (Quoted.spells_plain (by simp))
    refine .mark ?_ rfl
    refine @Token.Lexes.quoted _ _ ?_ _ _ clef
    repeat refine .mark ?_ rfl
    exact .nil (List.forall_mem_nil _)
  have rendered : RenderedBy lines text := ⟨node, ⟨whole, lexes⟩, renders⟩
  obtain ⟨request, command, _⟩ := bodies_bind_by_meaning.1 lines text rendered
  exact ⟨rendered, request, command⟩

/-- A request that is empty is not always a command with a missing member: an empty array is
too short. -/
theorem empty_array_misses_no_member :
    ¬ ∀ text lines, Binder.ofText bindRequest text = .ok lines →
      Binder.ofText bindCommand text = .ok lines ∨
        lines = [] ∧ Binder.ofText bindCommand text = .error (.here (.missingMember "lines")) := by
  intro holds
  have spelled : Node.Spelled "[]".toList (.array [] true) := by
    refine ⟨.array (List.forall_mem_nil _), ?_⟩
    simp only [String.reduceToList, Node.tokens]
    exact .mark (.mark (.nil (List.forall_mem_nil _)) rfl) rfl
  obtain ⟨request, command⟩ := bind_of_lacks .array
  have hrequest := (Binder.ofText_of_spelled spelled bindRequest).trans request
  have hcommand := (Binder.ofText_of_spelled spelled bindCommand).trans command
  rcases holds "[]" [] hrequest with same | ⟨_, missing⟩
  · rw [hcommand] at same
    cases same
  · rw [hcommand] at missing
    cases missing

end Placement
end OrderDesk
