import OrderDesk.Json.Token

/-!
# JSON nodes

The tree of a JSON text that is read in one pass, up to the place where it stops
being JSON.  So a node also tells how far it goes:

- an array or object that is not *closed* breaks off behind its last member, as it
  also does where a key is not a text;
- a *damaged* node stands where no value could be read.

A node breaks off at one place at most, behind everything else in it.

**Building.**  The tokens are taken one at a time by a builder that keeps the open
arrays and objects on a stack, so the depth of a text is not limited.
-/

namespace OrderDesk
namespace Json

/-- The characters of a key, unless its escapes spell none. -/
abbrev Key := Option (List Char)

/-- A value in a JSON text, as far as it could be read. -/
inductive Node where
  | null
  | bool (b : Bool)
  | number (n : Numeral)
  | text (content : Option (List Char))
  | array (items : List Node) (closed : Bool)
  | object (members : List (Key × Node)) (closed : Bool)
  | damaged

namespace Node

instance : Inhabited Node := ⟨damaged⟩

/-- Whether a node is a whole JSON value. -/
def isIntact : Node → Bool
  | array _ closed | object _ closed => closed
  | damaged => false
  | null | bool _ | number _ | text _ => true

end Node

/-- An array or object that is still open, with its members so far, the last one
first, and the key that waits for its value. -/
inductive Frame where
  | array (items : List Node)
  | object (members : List (Key × Node)) (key : Option Key)

/-- What may come next. -/
inductive Expectation where
  | value
  /-- The first item of an array, or its end. -/
  | itemOrEnd
  /-- The first key of an object, or its end. -/
  | keyOrEnd
  | key
  | colon
  /-- A comma, or the end of the innermost array or object. -/
  | commaOrEnd
deriving DecidableEq, Repr

/-- The state of reading between two tokens: what may come next, and the open
arrays and objects from the inside. -/
structure Builder where
  expects : Expectation
  frames : List Frame

namespace Builder

/-- The builder before the first token. -/
def start : Builder := ⟨.value, []⟩

/-- What a token leads to: more reading, or the end with the node read. -/
abbrev Outcome := Builder ⊕ Node

/-- Puts a node that ends early into the open arrays and objects. -/
def breakOff : Node → List Frame → Node
  | node, [] => node
  | node, .array items :: frames => breakOff (.array (node :: items).reverse false) frames
  | _, .object members none :: frames => breakOff (.object members.reverse false) frames
  | node, .object members (some key) :: frames =>
    breakOff (.object ((key, node) :: members).reverse false) frames

/-- The node as far as it was read. -/
def abandon (b : Builder) : Node :=
  breakOff .damaged b.frames

/-- Goes on behind a whole value. -/
def complete (node : Node) : List Frame → Outcome
  | [] => .inr node
  | .array items :: frames => .inl ⟨.commaOrEnd, .array (node :: items) :: frames⟩
  | .object members (some key) :: frames =>
    .inl ⟨.commaOrEnd, .object ((key, node) :: members) none :: frames⟩
  | .object members none :: frames => .inr (breakOff node (.object members none :: frames))

/-- Goes on at a place where a value must stand. -/
def value (frames : List Frame) : Token → Outcome
  | .null => complete .null frames
  | .bool b => complete (.bool b) frames
  | .number n => complete (.number n) frames
  | .text content => complete (.text content) frames
  | .openArray => .inl ⟨.itemOrEnd, .array [] :: frames⟩
  | .openObject => .inl ⟨.keyOrEnd, .object [] none :: frames⟩
  | .closeArray | .closeObject | .comma | .colon | .damage => .inr (breakOff .damaged frames)

/-- Goes on at a place where a key must stand; only a text is one. -/
def key (members : List (Key × Node)) (frames : List Frame) : Token → Outcome
  | .text content => .inl ⟨.colon, .object members (some content) :: frames⟩
  | _ => .inr (breakOff .damaged (.object members none :: frames))

/-- The builder after one more token, or the end. -/
def step (b : Builder) (t : Token) : Outcome :=
  match b.expects, b.frames, t with
  | .value, frames, t => value frames t
  | .itemOrEnd, .array items :: frames, .closeArray =>
    complete (.array items.reverse true) frames
  | .itemOrEnd, frames, t => value frames t
  | .keyOrEnd, .object members none :: frames, .closeObject =>
    complete (.object members.reverse true) frames
  | .keyOrEnd, .object members none :: frames, t => key members frames t
  | .key, .object members none :: frames, t => key members frames t
  | .colon, frames, .colon => .inl ⟨.value, frames⟩
  | .commaOrEnd, .array items :: frames, .comma => .inl ⟨.value, .array items :: frames⟩
  | .commaOrEnd, .array items :: frames, .closeArray =>
    complete (.array items.reverse true) frames
  | .commaOrEnd, .object members none :: frames, .comma =>
    .inl ⟨.key, .object members none :: frames⟩
  | .commaOrEnd, .object members none :: frames, .closeObject =>
    complete (.object members.reverse true) frames
  | _, frames, _ => .inr (breakOff .damaged frames)

/-- Reads tokens up to the end of a value or to the place where it breaks off; the
tokens behind it are left. -/
def run : Builder → List Token → Node × List Token
  | b, [] => (b.abandon, [])
  | b, t :: ts =>
    match b.step t with
    | .inl next => run next ts
    | .inr node => (node, ts)

end Builder

namespace Node

/-- The node at the start of the tokens, and the tokens behind it. -/
def ofTokens (ts : List Token) : Node × List Token :=
  Builder.start.run ts

/-- The node at the start of a text; whatever stands behind it is not looked at. -/
def read (bs : List UInt8) : Node :=
  (ofTokens (Token.scan bs)).1

/-- The node of a text that holds one value and nothing else. -/
def readWhole (bs : List UInt8) : Node × Bool :=
  let (node, rest) := ofTokens (Token.scan bs)
  (node, rest.isEmpty)

end Node
end Json
end OrderDesk
