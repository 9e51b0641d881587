/-!
# Media types

A media type has a kind, a name and optionally a suffix, which stands behind the
last plus sign that does not begin the name.  All are tokens, and letter case does
not matter.  Parameters may follow, each behind a semicolon, with a value that is
a token or quoted.

`isJson` holds of the media types of JSON documents.
-/

namespace OrderDesk

/-- A media type without its parameters, in small letters. -/
structure MediaType where
  kind : List Char
  name : List Char
  suffix : Option (List Char)
deriving DecidableEq, Repr

namespace MediaType

/-- The characters of tokens. -/
def isTokenChar (c : Char) : Bool :=
  c.isAlphanum || "!#$%&'*+-.^_`|~".toList.contains c

/-- The characters inside quotes. -/
def isQuotedChar (c : Char) : Bool :=
  0x20 ≤ c.toNat && c.toNat != 0x7F

/-- Where the reader of parameters stands. -/
inductive ParameterState where
  /-- Before a parameter; spaces are skipped. -/
  | start
  /-- In the name of a parameter. -/
  | name
  /-- At the start of a value. -/
  | valueStart
  /-- In a value that is a token. -/
  | value
  /-- Behind an opening quote. -/
  | quotedStart
  /-- In a quoted value. -/
  | quoted
  /-- Behind a closing quote. -/
  | closed
deriving DecidableEq, Repr

namespace ParameterState

/-- The state after one more character. -/
def step? : ParameterState → Char → Option ParameterState
  | start, c => if c == ' ' then some start else if isTokenChar c then some name else none
  | name, c => if isTokenChar c then some name else if c == '=' then some valueStart else none
  | valueStart, c =>
    if c == '"' then some quotedStart else if isTokenChar c then some value else none
  | value, c => if isTokenChar c then some value else if c == ';' then some start else none
  | quotedStart, c => if isQuotedChar c then some quoted else none
  | quoted, c => if c == '"' then some closed else if isQuotedChar c then some quoted else none
  | closed, c => if c == ';' then some start else if c == ' ' then some closed else none

/-- Whether the parameters may end here. -/
def isFinal : ParameterState → Bool
  | start | valueStart | value | closed => true
  | name | quotedStart | quoted => false

end ParameterState

/-- Whether a text is a list of parameters. -/
def areParameters (cs : List Char) : Bool :=
  match cs.foldlM ParameterState.step? .start with
  | some s => s.isFinal
  | none => false

/-- Whether a text is empty, or a semicolon with parameters behind it. -/
def endsWell (name : List Char) : List Char → Bool
  | [] => true
  | ';' :: cs => !name.isEmpty && areParameters cs
  | _ => false

/-- Cuts the suffix off a name. -/
def splitSuffix (name : List Char) : List Char × Option (List Char) :=
  let behind := (name.reverse.takeWhile (· != '+')).reverse
  match name.reverse.dropWhile (· != '+') with
  | _ :: base => if base.isEmpty then (name, none) else (base.reverse, some behind)
  | [] => (name, none)

/-- Reads a media type. -/
def parse? (cs : List Char) : Option MediaType :=
  let kind := cs.takeWhile isTokenChar
  match cs.dropWhile isTokenChar with
  | '/' :: rest =>
    let (name, suffix) := splitSuffix ((rest.takeWhile isTokenChar).map Char.toLower)
    if !kind.isEmpty && endsWell name (rest.dropWhile isTokenChar) then
      some { kind := kind.map Char.toLower, name, suffix }
    else none
  | _ => none

/-- Whether documents of the media type are JSON. -/
def isJson (m : MediaType) : Bool :=
  m.kind == "application".toList &&
    (m.name == "json".toList || m.suffix == some "json".toList)

end MediaType
end OrderDesk
