/-!
# UTF-8

Writing a text as octets, and reading octets back in two ways.  `decode?`
accepts well-formed octets only.  `decodeLossy` reads any octets and puts
U+FFFD where they are ill-formed: one for each longest piece that begins a
character without completing it, and one for each octet that begins none.

Both readings come from one machine, the `Reader`, which takes the octets one at
a time and keeps each character, or `none` for an ill-formed piece.
-/

namespace OrderDesk
namespace Utf8

/-- The octets of one character. -/
def encodeChar (c : Char) : List UInt8 :=
  let n := c.toNat
  if n < 0x80 then
    [UInt8.ofNat n]
  else if n < 0x800 then
    [UInt8.ofNat (0xC0 + n / 0x40), UInt8.ofNat (0x80 + n % 0x40)]
  else if n < 0x10000 then
    [UInt8.ofNat (0xE0 + n / 0x1000), UInt8.ofNat (0x80 + n / 0x40 % 0x40),
      UInt8.ofNat (0x80 + n % 0x40)]
  else
    [UInt8.ofNat (0xF0 + n / 0x40000), UInt8.ofNat (0x80 + n / 0x1000 % 0x40),
      UInt8.ofNat (0x80 + n / 0x40 % 0x40), UInt8.ofNat (0x80 + n % 0x40)]

/-- The octets of a text. -/
def encode (cs : List Char) : List UInt8 :=
  cs.flatMap encodeChar

/-- Where the reader stands between two octets. -/
inductive State where
  /-- Between characters. -/
  | start
  /-- Inside a character: the range of the next octet, how many octets are owed
  after it, and the number read so far. -/
  | inside (low high owed value : Nat)
deriving DecidableEq, Repr

/-- What a first octet begins: a whole character, a longer one, or nothing. -/
def startStep (b : UInt8) : List (Option Char) × State :=
  let n := b.toNat
  if n < 0x80 then ([some (Char.ofNat n)], .start)
  else if 0xC2 ≤ n ∧ n ≤ 0xDF then ([], .inside 0x80 0xBF 0 (n - 0xC0))
  else if n = 0xE0 then ([], .inside 0xA0 0xBF 1 0)
  else if n = 0xED then ([], .inside 0x80 0x9F 1 0xD)
  else if 0xE1 ≤ n ∧ n ≤ 0xEF then ([], .inside 0x80 0xBF 1 (n - 0xE0))
  else if n = 0xF0 then ([], .inside 0x90 0xBF 2 0)
  else if 0xF1 ≤ n ∧ n ≤ 0xF3 then ([], .inside 0x80 0xBF 2 (n - 0xF0))
  else if n = 0xF4 then ([], .inside 0x80 0x8F 2 4)
  else ([none], .start)

/-- One octet: what it completes, and the state after it.  An octet that does
not continue the open character ends it as ill-formed and begins anew. -/
def step : State → UInt8 → List (Option Char) × State
  | .start, b => startStep b
  | .inside low high owed value, b =>
    if low ≤ b.toNat ∧ b.toNat ≤ high then
      let value := value * 0x40 + (b.toNat - 0x80)
      match owed with
      | 0 => ([some (Char.ofNat value)], .start)
      | owed + 1 => ([], .inside 0x80 0xBF owed value)
    else
      let (found, next) := startStep b
      (none :: found, next)

/-- The reader: where it stands, and the characters and ill-formed pieces that it
has found, the last one first. -/
structure Reader where
  state : State
  found : List (Option Char)

namespace Reader

/-- The reader before the first octet. -/
def fresh : Reader := ⟨.start, []⟩

/-- The reader after one more octet. -/
def feed (r : Reader) (b : UInt8) : Reader :=
  let (found, next) := step r.state b
  ⟨next, found.reverse ++ r.found⟩

/-- All pieces in order; an open character at the end is ill-formed. -/
def pieces (r : Reader) : List (Option Char) :=
  match r.state with
  | .start => r.found.reverse
  | .inside .. => (none :: r.found).reverse

end Reader

/-- The characters and ill-formed pieces of the octets. -/
def scan (bs : List UInt8) : List (Option Char) :=
  (bs.foldl Reader.feed Reader.fresh).pieces

/-- The text that the octets spell, if they are well-formed. -/
def decode? (bs : List UInt8) : Option (List Char) :=
  let pieces := scan bs
  if pieces.all Option.isSome then some (pieces.filterMap id) else none

/-- The text that the octets spell, with U+FFFD for each ill-formed piece. -/
def decodeLossy (bs : List UInt8) : List Char :=
  (scan bs).map (·.getD '\uFFFD')

/-- The octets of a string. -/
def ofString (s : String) : List UInt8 :=
  encode s.toList

@[simp] theorem encode_nil : encode [] = [] := rfl

@[simp] theorem encode_cons
    (c : Char) (cs : List Char) :
    encode (c :: cs) = encodeChar c ++ encode cs := by
  simp [encode]

@[simp] theorem encode_append
    (cs ds : List Char) :
    encode (cs ++ ds) = encode cs ++ encode ds := by
  simp [encode]

end Utf8
end OrderDesk
