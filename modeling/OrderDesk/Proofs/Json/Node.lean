import Mathlib.Data.List.Forall2
import OrderDesk.Json.Binding
import OrderDesk.Proofs.Json.Token

/-!
# Nodes and the texts that spell them

A node that breaks off nowhere has a list of tokens, and every text of these tokens is read
as the node, however deep it is.  The text of a value is one of them.

* `Node.Whole`: a node breaks off nowhere.
* `Node.tokens`: its tokens in order.
* `Node.Spelled`: a text spells a node.
* `Builder.takes_of_whole`: the tokens of a whole node are read as the node, for every stack
  of open arrays and objects.
* `Node.readWhole_of_spelled`: a text is read as the node that it spells.
* `Value.node`, `Value.spelled_node`: the node of a value, which its text spells.
-/

namespace OrderDesk
namespace Json

open Text (octet)
open Utf8 (encode)

namespace Node

/-- A node that breaks off nowhere. -/
inductive Whole : Node → Prop where
  | null : Whole .null
  | bool
      (b : Bool) :
      Whole (.bool b)
  | number
      (n : Numeral) :
      Whole (.number n)
  | text
      (content : Option (List Char)) :
      Whole (.text content)
  | array
      {items : List Node}
      (inside : ∀ item ∈ items, Whole item) :
      Whole (.array items true)
  | object
      {members : List (Key × Node)}
      (inside : ∀ m ∈ members, Whole m.2) :
      Whole (.object members true)

theorem Whole.isIntact
    {n : Node}
    (whole : n.Whole) :
    n.isIntact = true := by
  cases whole <;> rfl

theorem Whole.item
    {items : List Node}
    (whole : Whole (.array items true)) :
    ∀ item ∈ items, item.Whole := by
  cases whole with
  | array inside => exact inside

theorem Whole.member
    {members : List (Key × Node)}
    (whole : Whole (.object members true)) :
    ∀ m ∈ members, m.2.Whole := by
  cases whole with
  | object inside => exact inside

mutual

/-- The tokens of a node in order. -/
def tokens : Node → List Token
  | null => [.null]
  | bool b => [.bool b]
  | number n => [.number n]
  | text content => [.text content]
  | array [] _ => [.openArray, .closeArray]
  | array (item :: items) _ => .openArray :: (tokens item ++ laterItems items)
  | object [] _ => [.openObject, .closeObject]
  | object ((key, value) :: members) _ =>
    .openObject :: .text key :: .colon :: (tokens value ++ laterMembers members)
  | damaged => [.damage]

/-- The tokens behind an item, up to the end of its array. -/
def laterItems : List Node → List Token
  | [] => [.closeArray]
  | item :: items => .comma :: (tokens item ++ laterItems items)

/-- The tokens behind a member, up to the end of its object. -/
def laterMembers : List (Key × Node) → List Token
  | [] => [.closeObject]
  | (key, value) :: members =>
    .comma :: .text key :: .colon :: (tokens value ++ laterMembers members)

end

/-- A text spells a node. -/
structure Spelled (text : List Char) (n : Node) : Prop where
  whole : n.Whole
  lexes : Token.Lexes text n.tokens

end Node

namespace Builder

/-- Goes on with an outcome: more tokens are taken, or they are left. -/
def resume : Outcome → List Token → Node × List Token
  | .inl next, ts => run next ts
  | .inr node, ts => (node, ts)

theorem run_cons
    (b : Builder)
    (t : Token)
    (ts : List Token) :
    run b (t :: ts) = resume (b.step t) ts := by
  rw [run]
  cases b.step t <;> rfl

theorem step_of_start
    {expects : Expectation}
    (start : expects = .value ∨ expects = .itemOrEnd)
    {t : Token}
    (other : t ≠ .closeArray)
    (frames : List Frame) :
    step ⟨expects, frames⟩ t = value frames t := by
  rcases start with rfl | rfl
  · rw [step.eq_def]
  · rw [step.eq_def]
    split <;> simp_all

/-- The tokens of a node are read as the node where a value must stand, and where the first
item of an array may stand. -/
def Takes (n : Node) : Prop :=
  ∀ rest expects, expects = .value ∨ expects = .itemOrEnd → ∀ frames,
    run ⟨expects, frames⟩ (n.tokens ++ rest) = resume (complete n frames) rest

theorem run_laterItems
    {items : List Node}
    (takes : ∀ item ∈ items, Takes item)
    (found : List Node)
    (frames : List Frame)
    (rest : List Token) :
    run ⟨.commaOrEnd, .array found :: frames⟩ (Node.laterItems items ++ rest) =
      resume (complete (.array (found.reverse ++ items) true) frames) rest := by
  induction items generalizing found with
  | nil =>
      rw [Node.laterItems, List.append_nil, List.singleton_append, run_cons]
      rfl
  | cons item items ih =>
      have hcomma : step ⟨.commaOrEnd, .array found :: frames⟩ .comma =
          .inl ⟨.value, .array found :: frames⟩ := rfl
      rw [Node.laterItems, List.cons_append, List.append_assoc, run_cons, hcomma, resume,
        takes item List.mem_cons_self _ _ (.inl rfl), complete, resume,
        ih (fun i hi => takes i (List.mem_cons_of_mem _ hi)), List.reverse_cons,
        List.append_assoc]
      rfl

theorem run_member
    {value : Node}
    (takes : Takes value)
    (key : Key)
    {expects : Expectation}
    (start : expects = .key ∨ expects = .keyOrEnd)
    (found : List (Key × Node))
    (frames : List Frame)
    (rest : List Token) :
    run ⟨expects, .object found none :: frames⟩
        (.text key :: .colon :: (value.tokens ++ rest)) =
      run ⟨.commaOrEnd, .object ((key, value) :: found) none :: frames⟩ rest := by
  have hkey : step ⟨expects, .object found none :: frames⟩ (.text key) =
      .inl ⟨.colon, .object found (some key) :: frames⟩ := by
    rcases start with rfl | rfl <;> rfl
  rw [run_cons, hkey, resume, run_cons]
  exact takes _ _ (.inl rfl) _

theorem run_laterMembers
    {members : List (Key × Node)}
    (takes : ∀ m ∈ members, Takes m.2)
    (found : List (Key × Node))
    (frames : List Frame)
    (rest : List Token) :
    run ⟨.commaOrEnd, .object found none :: frames⟩ (Node.laterMembers members ++ rest) =
      resume (complete (.object (found.reverse ++ members) true) frames) rest := by
  induction members generalizing found with
  | nil =>
      rw [Node.laterMembers, List.append_nil, List.singleton_append, run_cons]
      rfl
  | cons m members ih =>
      obtain ⟨key, value⟩ := m
      have hvalue : Takes value := takes (key, value) List.mem_cons_self
      have hcomma : step ⟨.commaOrEnd, .object found none :: frames⟩ .comma =
          .inl ⟨.key, .object found none :: frames⟩ := rfl
      rw [Node.laterMembers, List.cons_append, List.cons_append, List.cons_append,
        List.append_assoc, run_cons, hcomma, resume, run_member hvalue key (.inl rfl),
        ih (fun m hm => takes m (List.mem_cons_of_mem _ hm)), List.reverse_cons,
        List.append_assoc]
      rfl

/-- A whole node is read from its tokens. -/
theorem takes_of_whole
    {n : Node}
    (whole : n.Whole) :
    Takes n := by
  induction whole with
  | null | bool | number | text =>
      intro rest expects start frames
      rw [Node.tokens, List.singleton_append, run_cons, step_of_start start (by simp)]
      rfl
  | @array items _ takes =>
      intro rest expects start frames
      cases items with
      | nil =>
          rw [Node.tokens, List.cons_append, run_cons, step_of_start start (by simp), value,
            resume, List.singleton_append, run_cons]
          rfl
      | cons item items =>
          rw [Node.tokens, List.cons_append, run_cons, step_of_start start (by simp), value,
            resume, List.append_assoc, takes item List.mem_cons_self _ _ (.inr rfl), complete,
            resume, run_laterItems fun i hi => takes i (List.mem_cons_of_mem _ hi)]
          rfl
  | @object members _ takes =>
      intro rest expects start frames
      cases members with
      | nil =>
          rw [Node.tokens, List.cons_append, run_cons, step_of_start start (by simp), value,
            resume, List.singleton_append, run_cons]
          rfl
      | cons m members =>
          obtain ⟨key, first⟩ := m
          have hfirst : Takes first := takes (key, first) List.mem_cons_self
          rw [Node.tokens, List.cons_append, run_cons, step_of_start start (by simp), value,
            resume, List.cons_append, List.cons_append, List.append_assoc,
            run_member hfirst key (.inr rfl),
            run_laterMembers fun m hm => takes m (List.mem_cons_of_mem _ hm)]
          rfl

end Builder

/-- A text is read as the node that it spells, whole and with nothing left over. -/
theorem Node.readWhole_of_spelled
    {text : List Char} {n : Node}
    (spelled : n.Spelled text) :
    readWhole (encode text) = (n, true) := by
  have htakes := Builder.takes_of_whole spelled.whole [] .value (.inl rfl) []
  rw [List.append_nil] at htakes
  rw [readWhole, ofTokens, Token.scan_of_lexes spelled.lexes, Builder.start, htakes]
  rfl

/-- What a binder makes of a node, it makes of every text that spells the node. -/
theorem Binder.ofText_of_spelled
    {α : Type} {text : String} {n : Node}
    (spelled : n.Spelled text.toList)
    (bind : Binder α) :
    Binder.ofText bind text = bind n := by
  have hread : Node.readWhole (Utf8.ofString text) = (n, true) := Node.readWhole_of_spelled spelled
  rw [Binder.ofText, hread]
  dsimp only
  cases bind n <;> rfl

/-! ## Values -/

namespace Value

mutual

/-- The node that the text of a value is read as. -/
def node : Value → Node
  | null => .null
  | bool b => .bool b
  | integer n => .number (.ofInt n)
  | text s => .text (some s.toList)
  | array items => .array (itemNodes items) true
  | object members => .object (memberNodes members) true

/-- The nodes of items. -/
def itemNodes : List Value → List Node
  | [] => []
  | item :: items => node item :: itemNodes items

/-- The nodes of members with their keys. -/
def memberNodes : List (String × Value) → List (Key × Node)
  | [] => []
  | (name, value) :: members => (some name.toList, node value) :: memberNodes members

end

mutual

/-- The node of a value breaks off nowhere. -/
theorem whole_node : ∀ v : Value, v.node.Whole
  | .null => .null
  | .bool b => .bool b
  | .integer n => .number (.ofInt n)
  | .text s => .text (some s.toList)
  | .array items => .array (whole_itemNodes items)
  | .object members => .object (whole_memberNodes members)

theorem whole_itemNodes : ∀ items : List Value, ∀ n ∈ itemNodes items, n.Whole
  | [] => nofun
  | item :: items => List.forall_mem_cons.mpr ⟨whole_node item, whole_itemNodes items⟩

theorem whole_memberNodes :
    ∀ members : List (String × Value), ∀ m ∈ memberNodes members, m.2.Whole
  | [] => nofun
  | (_, v) :: members => List.forall_mem_cons.mpr ⟨whole_node v, whole_memberNodes members⟩

end

/-! ### Texts of values -/

/-- Texts with commas between them: behind the first one each has a comma in front. -/
theorem separated_cons
    (text : List Char)
    (texts : List (List Char)) :
    separated (text :: texts) = text ++ texts.flatMap fun text => ',' :: text := by
  induction texts generalizing text with
  | nil => rw [separated, List.flatMap_nil, List.append_nil]
  | cons next texts ih =>
      rw [separated, ih, List.flatMap_cons, List.cons_append]
      nofun

/-- No numeral goes on behind an item or a member. -/
theorem stops_later
    (texts : List (List Char))
    {mark : Char}
    (isMark : mark = ']' ∨ mark = '}')
    (rest : List Char) :
    Numeral.Stops (encode (texts.flatMap (fun text => ',' :: text) ++ mark :: rest)) := by
  cases texts with
  | nil =>
      rcases isMark with rfl | rfl
      · exact Numeral.stops_closeArray _
      · exact Numeral.stops_closeObject _
  | cons text texts => exact Numeral.stops_comma _

theorem lexes_text
    (cs : List Char)
    {rest : List Char} {ts : List Token}
    (behind : Token.Lexes rest ts) :
    Token.Lexes (textChars cs ++ rest) (.text (some cs) :: ts) := by
  have hquoted := behind.quoted (Quoted.spells_charTexts cs)
  rwa [textChars, List.cons_append, List.cons_append, List.append_assoc]

mutual

/-- The text of a value spells the tokens of its node, in front of whatever ends a numeral. -/
theorem lexes : ∀ (v : Value) {rest : List Char} {ts : List Token},
    Numeral.Stops (encode rest) → Token.Lexes rest ts →
      Token.Lexes (v.toChars ++ rest) (v.node.tokens ++ ts)
  | .null, _, _, _, behind => behind.token (.fixed rfl) nofun
  | .bool true, _, _, _, behind => behind.token (.fixed rfl) nofun
  | .bool false, _, _, _, behind => behind.token (.fixed rfl) nofun
  | .integer n, _, _, stops, behind => behind.numeral (Numeral.spells_integerChars n) stops
  | .text s, _, _, _, behind => lexes_text s.toList behind
  | .array [], _, _, _, behind => (behind.mark rfl).mark rfl
  | .array (item :: items), rest, _, _, behind => by
      have hitems := lexes item (stops_later _ (.inl rfl) rest) (lexes_laterItems items behind)
      have hopen := hitems.mark (c := '[') (t := .openArray) rfl
      simpa [toChars, itemTexts, separated_cons, node, itemNodes, Node.tokens] using hopen
  | .object [], _, _, _, behind => (behind.mark rfl).mark rfl
  | .object ((name, v) :: members), rest, _, _, behind => by
      have hmembers :=
        lexes v (stops_later _ (.inr rfl) rest) (lexes_laterMembers members behind)
      have hfirst := lexes_text name.toList (hmembers.mark (c := ':') (t := .colon) rfl)
      have hopen := hfirst.mark (c := '{') (t := .openObject) rfl
      simpa [toChars, memberTexts, separated_cons, node, memberNodes, Node.tokens] using hopen

theorem lexes_laterItems : ∀ (items : List Value) {rest : List Char} {ts : List Token},
    Token.Lexes rest ts →
      Token.Lexes ((itemTexts items).flatMap (fun text => ',' :: text) ++ ']' :: rest)
        (Node.laterItems (itemNodes items) ++ ts)
  | [], _, _, behind => behind.mark rfl
  | item :: items, rest, _, behind => by
      have hitems := lexes item (stops_later _ (.inl rfl) rest) (lexes_laterItems items behind)
      have hcomma := hitems.mark (c := ',') (t := .comma) rfl
      simpa [itemTexts, itemNodes, Node.laterItems] using hcomma

theorem lexes_laterMembers : ∀ (members : List (String × Value)) {rest : List Char}
    {ts : List Token}, Token.Lexes rest ts →
      Token.Lexes ((memberTexts members).flatMap (fun text => ',' :: text) ++ '}' :: rest)
        (Node.laterMembers (memberNodes members) ++ ts)
  | [], _, _, behind => behind.mark rfl
  | (name, v) :: members, rest, _, behind => by
      have hmembers :=
        lexes v (stops_later _ (.inr rfl) rest) (lexes_laterMembers members behind)
      have hfirst := lexes_text name.toList (hmembers.mark (c := ':') (t := .colon) rfl)
      have hcomma := hfirst.mark (c := ',') (t := .comma) rfl
      simpa [memberTexts, memberNodes, Node.laterMembers] using hcomma

end

/-- The text of a value spells its node. -/
theorem spelled_node
    (v : Value) :
    v.node.Spelled v.toChars := by
  have hlexes := @lexes v [] [] Numeral.stops_nil (.nil (List.forall_mem_nil _))
  rw [List.append_nil, List.append_nil] at hlexes
  exact ⟨v.whole_node, hlexes⟩

end Value
end Json
end OrderDesk
