import Mathlib.Data.List.Nodup
import OrderDesk.Proofs.Listing.Parameters
import OrderDesk.Proofs.Text.Decoding

/-!
# Writing query strings

A text may be written in many ways: octets stand for themselves or are escaped, in either
letter case, and a plus sign may stand for a space.

* `Form.Escapes`, `Form.Writes`: what may be written for octets, and for pairs.
* `Form.pairs_of_writes`: whatever is written for pairs is read as these pairs.
* `Form.encoded`: one way to write pairs, with escapes wherever they are needed.
* `OrderQuery.Written`: the fields of a query as pairs in some order, where those with their
  default may be left out.
* `listing_query_strings_bind_exactly`: what query strings bind to.
-/

namespace OrderDesk
namespace Form

open Text (octet hexOctet?)

/-! ## Escapes -/

/-- What may be written for octets. -/
inductive Escapes : List UInt8 → List UInt8 → Prop where
  | nil : Escapes [] []
  | plain {b : UInt8} {bs meant : List UInt8} :
      b ∉ [octet '%', octet '+', octet '&', octet '='] → Escapes bs meant →
      Escapes (b :: bs) (b :: meant)
  | space {bs meant : List UInt8} :
      Escapes bs meant → Escapes (octet '+' :: bs) (octet ' ' :: meant)
  | escape {h l : UInt8} {high low : Fin 16} {bs meant : List UInt8} :
      hexOctet? h = some high → hexOctet? l = some low → Escapes bs meant →
      Escapes (octet '%' :: h :: l :: bs) (UInt8.ofNat (high.val * 16 + low.val) :: meant)

/-- What may be written for a pair. -/
inductive WritesPair : List UInt8 → String × String → Prop where
  | intro {nameOctets valueOctets : List UInt8} {name value : String} :
      Escapes nameOctets (Utf8.ofString name) → Escapes valueOctets (Utf8.ofString value) →
      WritesPair (nameOctets ++ octet '=' :: valueOctets) (name, value)

/-- What may be written for pairs.  Empty pairs may stand anywhere. -/
inductive Writes : List UInt8 → List (String × String) → Prop where
  | nil : Writes [] []
  | last {bs : List UInt8} {pair : String × String} :
      WritesPair bs pair → Writes bs [pair]
  | more {bs rest : List UInt8} {pair : String × String} {pairs : List (String × String)} :
      WritesPair bs pair → Writes rest pairs → Writes (bs ++ octet '&' :: rest) (pair :: pairs)
  | empty {rest : List UInt8} {pairs : List (String × String)} :
      Writes rest pairs → Writes (octet '&' :: rest) pairs

theorem percentDecode_cons
    {b : UInt8}
    (plain : b ≠ octet '%')
    (bs : List UInt8) :
    Text.percentDecode (b :: bs) = b :: Text.percentDecode bs := by
  match bs with
  | [] => rfl
  | [_] => rfl
  | _ :: _ :: _ => rw [Text.percentDecode, if_neg plain]

theorem percentDecode_escape
    {h l : UInt8} {high low : Fin 16}
    (highDigit : hexOctet? h = some high)
    (lowDigit : hexOctet? l = some low)
    (bs : List UInt8) :
    Text.percentDecode (octet '%' :: h :: l :: bs) =
      UInt8.ofNat (high.val * 16 + low.val) :: Text.percentDecode bs := by
  rw [Text.percentDecode, if_pos rfl, highDigit, lowDigit]

/-- A digit is no mark. -/
theorem ne_of_hexOctet?
    {b mark : UInt8} {d : Fin 16}
    (digit : hexOctet? b = some d)
    (none : hexOctet? mark = none) :
    b ≠ mark := by
  rintro rfl
  rw [digit] at none
  cases none

/-- Written octets hold none of the marks between names, values and pairs. -/
theorem Escapes.ne_mark
    {bs meant : List UInt8}
    (escapes : Escapes bs meant)
    {mark : UInt8}
    (isMark : mark = octet '&' ∨ mark = octet '=') :
    mark ∉ bs := by
  have hdigit : hexOctet? mark = none := by
    rcases isMark with rfl | rfl <;> decide
  have hmarks : mark ≠ octet '+' ∧ mark ≠ octet '%' := by
    rcases isMark with rfl | rfl <;> decide
  induction escapes with
  | nil => exact List.not_mem_nil
  | @plain b bs meant plain _ ih =>
      have hne : mark ≠ b := by
        rintro rfl
        rcases isMark with rfl | rfl <;> simp at plain
      simp [hne, ih]
  | space _ ih => simp [hmarks.1, ih]
  | escape high low _ ih =>
      simp [hmarks.2, (ne_of_hexOctet? high hdigit).symm, (ne_of_hexOctet? low hdigit).symm, ih]

/-- Written octets are read as what they are written for. -/
theorem Escapes.percentDecode
    {bs meant : List UInt8}
    (escapes : Escapes bs meant) :
    Text.percentDecode (bs.map fun b => if b = octet '+' then octet ' ' else b) = meant := by
  have hplus : hexOctet? (octet '+') = none := by decide
  induction escapes with
  | nil => rfl
  | plain plain _ ih =>
      simp only [List.mem_cons, not_or] at plain
      rw [List.map_cons, if_neg plain.2.1, percentDecode_cons plain.1, ih]
  | space _ ih =>
      rw [List.map_cons, if_pos rfl, percentDecode_cons (by decide), ih]
  | escape high low _ ih =>
      rw [List.map_cons, List.map_cons, List.map_cons, if_neg (by decide),
        if_neg (ne_of_hexOctet? high hplus), if_neg (ne_of_hexOctet? low hplus),
        percentDecode_escape high low, ih]

theorem decodeLossy_encode
    (cs : List Char) :
    Utf8.decodeLossy (Utf8.encode cs) = cs := by
  rw [Utf8.decodeLossy, Utf8.scan_encode, List.map_map]
  exact List.map_id' cs

theorem text_of_escapes
    {bs : List UInt8} {s : String}
    (escapes : Escapes bs (Utf8.ofString s)) :
    text bs = s := by
  rw [text, escapes.percentDecode, Utf8.ofString, decodeLossy_encode, String.ofList_toList]

/-! ## Pairs -/

theorem pair_of_writesPair
    {bs : List UInt8} {pair : String × String}
    (writes : WritesPair bs pair) :
    Form.pair bs = pair ∧ octet '&' ∉ bs ∧ bs ≠ [] := by
  obtain ⟨name, value⟩ := writes
  next nameOctets valueOctets _ _ =>
  have hname : ∀ b ∈ nameOctets, (b != octet '=') = true := by
    intro b hb
    simpa using ne_of_mem_of_not_mem hb (name.ne_mark (Or.inr rfl))
  refine ⟨?_, ?_, by simp⟩
  · rw [Form.pair, List.takeWhile_append_of_pos hname, List.dropWhile_append_of_pos hname]
    simp [text_of_escapes name, text_of_escapes value]
  · rw [List.mem_append, List.mem_cons]
    rintro (h | h | h)
    · exact name.ne_mark (Or.inl rfl) h
    · exact absurd h (by decide)
    · exact value.ne_mark (Or.inl rfl) h

section Cut

variable {mark : UInt8} {bs : List UInt8} (unmarked : mark ∉ bs)

theorem cutAll_mark
    (rest : List UInt8) :
    Text.cutAll mark (mark :: rest) = [] :: Text.cutAll mark rest :=
  if_pos rfl

include unmarked

theorem cutAll_of_not_mem : Text.cutAll mark bs = [bs] := by
  induction bs with
  | nil => rfl
  | cons b bs ih =>
      obtain ⟨hb, hbs⟩ := List.ne_and_not_mem_of_not_mem_cons unmarked
      have hrest := ih hbs
      rw [Text.cutAll] at hrest ⊢
      rw [List.foldr_cons, if_neg (Ne.symm hb), hrest]

theorem cutAll_append
    (rest : List UInt8) :
    Text.cutAll mark (bs ++ mark :: rest) = bs :: Text.cutAll mark rest := by
  induction bs with
  | nil => exact cutAll_mark rest
  | cons b bs ih =>
      obtain ⟨hb, hbs⟩ := List.ne_and_not_mem_of_not_mem_cons unmarked
      have hrest := ih hbs
      rw [Text.cutAll] at hrest ⊢
      rw [List.cons_append, List.foldr_cons, if_neg (Ne.symm hb), hrest]

end Cut

/-- Whatever is written for pairs is read as these pairs. -/
theorem pairs_of_writes
    {bs : List UInt8} {ps : List (String × String)}
    (writes : Writes bs ps) :
    pairs bs = ps := by
  induction writes with
  | nil => rfl
  | last pair =>
      obtain ⟨hpair, hmark, hsome⟩ := pair_of_writesPair pair
      rw [pairs, cutAll_of_not_mem hmark]
      simp [hsome, hpair]
  | more pair _ ih =>
      obtain ⟨hpair, hmark, hsome⟩ := pair_of_writesPair pair
      rw [pairs] at ih ⊢
      rw [cutAll_append hmark, List.filter_cons_of_pos (by simpa using hsome), List.map_cons,
        hpair, ih]
  | empty _ ih =>
      rw [pairs] at ih ⊢
      rw [cutAll_mark, List.filter_cons_of_neg (by simp), ih]

/-! ## One way to write pairs -/

/-- Whether an octet needs no escape. -/
def isPlain (b : UInt8) : Bool :=
  (Text.asciiOf b).isAlphanum || [octet '*', octet '-', octet '.', octet '_'].contains b

/-- What is written for an octet. -/
def encodedOctet (b : UInt8) : List UInt8 :=
  if isPlain b then [b]
  else if b = octet ' ' then [octet '+']
  else
    [octet '%', octet (Text.hexChar (Text.lastHexDigit (b.toNat / 16))),
      octet (Text.hexChar (Text.lastHexDigit b.toNat))]

def encodedText (s : String) : List UInt8 :=
  (Utf8.ofString s).flatMap encodedOctet

/-- What is written for pairs. -/
def encoded : List (String × String) → List UInt8
  | [] => []
  | [(name, value)] => encodedText name ++ octet '=' :: encodedText value
  | (name, value) :: pairs =>
    encodedText name ++ octet '=' :: encodedText value ++ octet '&' :: encoded pairs

theorem escapes_encodedOctet
    (b : UInt8)
    {bs meant : List UInt8}
    (escapes : Escapes bs meant) :
    Escapes (encodedOctet b ++ bs) (b :: meant) := by
  have hdigit : ∀ d : Fin 16, hexOctet? (octet (Text.hexChar d)) = some d := by decide
  rw [encodedOctet]
  split
  · next hplain =>
    refine .plain ?_ escapes
    intro hmark
    simp only [List.mem_cons, List.not_mem_nil, or_false] at hmark
    rcases hmark with rfl | rfl | rfl | rfl <;> exact absurd hplain (by decide)
  · split
    · next hspace =>
      rw [hspace]
      exact .space escapes
    · have hescape := Escapes.escape (hdigit (Text.lastHexDigit (b.toNat / 16)))
        (hdigit (Text.lastHexDigit b.toNat)) escapes
      have hb : UInt8.ofNat ((Text.lastHexDigit (b.toNat / 16)).val * 16 +
          (Text.lastHexDigit b.toNat).val) = b := by
        have hsize := b.toNat_lt
        rw [Text.lastHexDigit, Text.lastHexDigit,
          show b.toNat / 16 % 16 * 16 + b.toNat % 16 = b.toNat by omega]
        exact UInt8.ofNat_toNat
      rwa [hb] at hescape

theorem escapes_encodedText
    (s : String) :
    Escapes (encodedText s) (Utf8.ofString s) := by
  rw [encodedText]
  induction Utf8.ofString s with
  | nil => exact .nil
  | cons b bs ih => exact escapes_encodedOctet b ih

theorem writes_encoded
    (pairs : List (String × String)) :
    Writes (encoded pairs) pairs := by
  induction pairs with
  | nil => exact .nil
  | cons pair pairs ih =>
      have hpair := WritesPair.intro (escapes_encodedText pair.1) (escapes_encodedText pair.2)
      cases pairs with
      | nil => exact .last hpair
      | cons next pairs => exact .more hpair ih

end Form

/-! ## Queries as pairs -/

open Parameters (Shows Acceptable Offends Known)

/-- What is written for a parameter of a query, if it is there. -/
def Parameter.written? (q : OrderQuery) : Parameter → Option String
  | .code => q.code
  | .status => q.status.map OrderStatus.text
  | .orderBy => some q.orderBy.text
  | .descending => some (if q.descending then "true" else "false")
  | .page => some (String.ofList (Json.Value.integerChars q.page.toInt))
  | .limit => some (String.ofList (Json.Value.integerChars q.limit.toInt))

/-- The fields of a query as pairs, in some order.  A field with its default may be left
out. -/
structure OrderQuery.Written (q : OrderQuery) (fields : List (String × String)) : Prop where
  distinct : (fields.map (·.1)).Nodup
  given : ∀ name value, (name, value) ∈ fields →
    ∃ p : Parameter, name = p.name ∧ p.written? q = some value
  whole : ∀ (p : Parameter) (value : String), p.written? q = some value →
    p.written? {} ≠ some value → (p.name, value) ∈ fields

theorem shows_text (s : OrderStatus) : Shows s.text s.text := by
  rw [shows_iff]
  cases s <;> decide

theorem shows_column (c : SortColumn) : Shows c.text c.text := by
  rw [shows_iff]
  cases c <;> decide

theorem text_eq_of_shows
    {value text text' : String}
    (shown : Shows value text)
    (shown' : Shows value text') :
    text = text' :=
  (shows_iff.mp shown).1.symm.trans (shows_iff.mp shown').1

theorem spells_integer
    (n : Int64) :
    Text.SpellsInteger (String.ofList (Json.Value.integerChars n.toInt)).toList n.toInt := by
  rw [String.toList_ofList]
  exact Text.spellsInteger_integerChars n.toInt

/-- Two integers are not written alike. -/
theorem eq_of_integerChars
    {n m : Int64}
    (same : String.ofList (Json.Value.integerChars n.toInt) =
      String.ofList (Json.Value.integerChars m.toInt)) :
    n = m := by
  have hn := Text.readInt64_eq_ok_iff.mpr (spells_integer n)
  rw [same, Text.readInt64_eq_ok_iff.mpr (spells_integer m)] at hn
  exact (Except.ok.inj hn).symm

namespace OrderQuery.Written

variable {q : OrderQuery} {fields : List (String × String)} (written : q.Written fields)

include written

theorem eq_some
    {p : Parameter} {value : String}
    (field : (p.name, value) ∈ fields) :
    p.written? q = some value := by
  obtain ⟨p', hname, hvalue⟩ := written.given p.name value field
  rw [Parameter.name_inj.mp hname]
  exact hvalue

/-- A field that is left out has its default. -/
theorem default_of_absent
    {p : Parameter} {value : String}
    (absent : ∀ value, (p.name, value) ∉ fields)
    (hvalue : p.written? q = some value) :
    p.written? {} = some value :=
  Decidable.byContradiction fun other => absent value (written.whole p value hvalue other)

variable (trimmed : ∀ code ∈ q.code, code ≠ "" ∧ Text.trimmed code = code)

theorem acceptable : Acceptable fields := by
  constructor
  · intro p
    exact List.nodup_iff_count_le_one.mp written.distinct p.name
  · intro p value field
    have hvalue := written.eq_some field
    cases p with
    | code => trivial
    | status =>
        obtain ⟨s, -, rfl⟩ := Option.map_eq_some_iff.mp hvalue
        exact Or.inr ⟨s, shows_text s⟩
    | orderBy =>
        cases hvalue
        exact Or.inr ⟨q.orderBy, shows_column q.orderBy⟩
    | descending =>
        cases hvalue
        cases q.descending with
        | true => exact Or.inl rfl
        | false => exact Or.inr rfl
    | page =>
        cases hvalue
        exact ⟨_, spells_integer q.page⟩
    | limit =>
        cases hvalue
        exact ⟨_, spells_integer q.limit⟩

include trimmed

theorem boundFrom : q.BoundFrom fields := by
  have present : ∀ p : Parameter,
      (∃ value, (p.name, value) ∈ fields) ∨ ∀ value, (p.name, value) ∉ fields := fun p => by
    simpa only [not_exists] using Classical.em (∃ value, (p.name, value) ∈ fields)
  constructor
  case code =>
    intro text
    constructor
    · intro hcode
      have hshows : Shows text text := by
        obtain ⟨visible, htrimmed⟩ := trimmed text hcode
        exact shows_iff.mpr ⟨htrimmed, visible⟩
      exact ⟨text, written.whole .code text hcode nofun, hshows⟩
    · rintro ⟨value, field, shown⟩
      have hcode : q.code = some value := written.eq_some (p := .code) field
      have hsame := (shows_iff.mp shown).1
      rw [(trimmed value hcode).2] at hsame
      rw [hcode, hsame]
  case status =>
    intro s
    constructor
    · intro hstatus
      have hvalue : Parameter.status.written? q = some s.text := by
        rw [Parameter.written?, hstatus]
        rfl
      exact ⟨s.text, written.whole .status s.text hvalue nofun, shows_text s⟩
    · rintro ⟨value, field, shown⟩
      obtain ⟨t, ht, rfl⟩ := Option.map_eq_some_iff.mp (written.eq_some (p := .status) field)
      have hsame := text_eq_of_shows (shows_text t) shown
      have hparse := OrderStatus.parse?_text t
      rw [hsame, OrderStatus.parse?_text] at hparse
      rw [ht, Option.some.inj hparse]
  case orderBy =>
    rcases present .orderBy with ⟨value, field⟩ | absent
    · cases written.eq_some field
      exact Or.inl ⟨_, field, shows_column q.orderBy⟩
    · refine Or.inr ⟨fun value field => absurd field (absent value), ?_⟩
      have hdefault := Option.some.inj (written.default_of_absent absent rfl)
      have hparse := SortColumn.parse?_text q.orderBy
      rw [← hdefault, SortColumn.parse?_text] at hparse
      exact (Option.some.inj hparse).symm
  case descending =>
    rcases present .descending with ⟨value, field⟩ | absent
    · cases written.eq_some field
      exact Or.inl field
    · refine Or.inr ⟨absent, ?_⟩
      have hdefault := Option.some.inj (written.default_of_absent absent rfl)
      cases hq : q.descending with
      | true => simp [hq] at hdefault
      | false => rfl
  case page =>
    rcases present .page with ⟨value, field⟩ | absent
    · cases written.eq_some field
      exact Or.inl ⟨_, field, spells_integer q.page⟩
    · refine Or.inr ⟨absent, ?_⟩
      exact (eq_of_integerChars (Option.some.inj (written.default_of_absent absent rfl))).symm
  case limit =>
    rcases present .limit with ⟨value, field⟩ | absent
    · cases written.eq_some field
      exact Or.inl ⟨_, field, spells_integer q.limit⟩
    · refine Or.inr ⟨absent, ?_⟩
      exact (eq_of_integerChars (Option.some.inj (written.default_of_absent absent rfl))).symm

end OrderQuery.Written

/-- **Listing query strings bind exactly.**  For every query string, taken as its pairs:

* it binds exactly if its pairs are acceptable, and then to the query whose fields they
  give, or else the defaults;
* otherwise what is reported is the first pair that is at fault behind those before it;
* pairs with unknown names do not matter, and neither does the order of pairs that bind;
* what is written for the fields of a query binds back to it, whatever their order and the
  octets that are escaped, if its code is trimmed and not empty. -/
theorem listing_query_strings_bind_exactly
    (text : List UInt8) :
    ((∃ q, OrderQuery.ofQueryString text = .ok q) ↔ Acceptable (Form.pairs text)) ∧
    (∀ q, OrderQuery.ofQueryString text = .ok q →
      q.BoundFrom (Form.pairs text) ∧
      ∀ q', q'.BoundFrom (Form.pairs text) → q' = q) ∧
    (∀ e, OrderQuery.ofQueryString text = .error e ↔
      ∃ before pair after, Form.pairs text = before ++ pair :: after ∧ Acceptable before ∧
        Offends before pair e e.message) ∧
    (∀ text', (Form.pairs text').filter Known = (Form.pairs text).filter Known →
      OrderQuery.ofQueryString text' = OrderQuery.ofQueryString text) ∧
    (∀ text', (Form.pairs text').Perm (Form.pairs text) →
      ∀ q, OrderQuery.ofQueryString text = .ok q → OrderQuery.ofQueryString text' = .ok q) ∧
    ∀ (q : OrderQuery) (fields : List (String × String)),
      (∀ code ∈ q.code, code ≠ "" ∧ Text.trimmed code = code) →
      q.Written fields → Form.Writes text fields →
      OrderQuery.ofQueryString text = .ok q := by
  have bound_unique : ∀ {q q' : OrderQuery}, OrderQuery.ofQueryString text = .ok q →
      q'.BoundFrom (Form.pairs text) → q' = q := by
    intro q q' read bound
    have read' := ofQueryString_eq_ok_iff.mpr ⟨(ofQueryString_eq_ok_iff.mp read).1, bound⟩
    exact Except.ok.inj (read'.symm.trans read)
  refine ⟨⟨?_, ?_⟩, ?_, fun e => ofQueryString_eq_error_iff, ?_, ?_, ?_⟩
  · rintro ⟨q, read⟩
    exact (ofQueryString_eq_ok_iff.mp read).1
  · intro acceptable
    obtain ⟨ps, read, -⟩ := ofPairs_eq_ok acceptable
    exact ⟨ps.query, Text.map_eq_ok_iff.mpr ⟨ps, read, rfl⟩⟩
  · intro q read
    exact ⟨(ofQueryString_eq_ok_iff.mp read).2, fun q' => bound_unique read⟩
  · intro text' same
    rw [OrderQuery.ofQueryString, OrderQuery.ofQueryString, ← ofPairs_filter_known, same,
      ofPairs_filter_known]
  · intro text' perm q read
    obtain ⟨acceptable, bound⟩ := ofQueryString_eq_ok_iff.mp read
    exact ofQueryString_eq_ok_iff.mpr ⟨acceptable.perm perm.symm, bound.perm perm.symm⟩
  · intro q fields trimmed written writes
    rw [ofQueryString_eq_ok_iff, Form.pairs_of_writes writes]
    exact ⟨written.acceptable, written.boundFrom trimmed⟩

/-- A query with some fields in another order, and with a code that needs escapes. -/
theorem listing_query_strings_bind_exactly_of_escaped_code :
    let q : OrderQuery := { code := some "SO 1&é", descending := true, page := -2 }
    let fields := [("page", "-2"), ("code", "SO 1&é"), ("order_desc", "true")]
    let text := Form.encoded fields
    text = Utf8.ofString "page=-2&code=SO+1%26%c3%a9&order_desc=true" ∧
      OrderQuery.ofQueryString text = .ok q := by
  intro q fields text
  have trimmed : ∀ code ∈ q.code, code ≠ "" ∧ Text.trimmed code = code := by
    intro code hcode
    cases hcode
    decide +kernel
  have written : q.Written fields := by
    refine ⟨by decide, ?_, ?_⟩
    · intro name value field
      simp only [fields, List.mem_cons, Prod.mk.injEq, List.not_mem_nil, or_false] at field
      rcases field with ⟨rfl, rfl⟩ | ⟨rfl, rfl⟩ | ⟨rfl, rfl⟩
      · exact ⟨.page, rfl, by decide +kernel⟩
      · exact ⟨.code, rfl, rfl⟩
      · exact ⟨.descending, rfl, rfl⟩
    · intro p value hvalue other
      cases p with
      | code => cases hvalue; simp [fields, Parameter.name]
      | status => cases hvalue
      | orderBy => exact absurd hvalue other
      | descending => cases hvalue; simp [fields, Parameter.name, q]
      | page =>
          have hpage : value = "-2" := by
            rw [← Option.some_inj, ← hvalue]
            decide +kernel
          simp [fields, Parameter.name, hpage]
      | limit => exact absurd hvalue other
  obtain ⟨_, _, _, _, _, binds_back⟩ := listing_query_strings_bind_exactly text
  exact ⟨by decide +kernel, binds_back q fields trimmed written (Form.writes_encoded fields)⟩

end OrderDesk
