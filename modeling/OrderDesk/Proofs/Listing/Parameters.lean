import Mathlib.Data.List.Count
import OrderDesk.Proofs.Listing.Settings

/-!
# Which pairs make a listing query

Pairs are read from the left, up to the first that is at fault behind those before it.

* `Acceptable`: pairs that name no known parameter twice and give each a value that it takes.
* `OrderQuery.BoundFrom`: a query whose fields are those that the pairs give, or defaults.
* `Offends`: a pair that is at fault behind others, with the error and its wording.
* `Parameters.Hold`: parameters that are set as pairs say.  It is kept pair by pair, and
  `Parameters.Hold.foldlM` follows by induction.
* `ofQueryString_eq_ok_iff`, `ofQueryString_eq_error_iff`: what is bound from a query string,
  and what is reported.
-/

namespace OrderDesk

open Parameters (Shows Blank)

/-! ## Pairs -/

/-- Pairs that name no known parameter twice, and give each a value that it takes. -/
structure Parameters.Acceptable (pairs : List (String × String)) : Prop where
  once : ∀ p : Parameter, (pairs.map (·.1)).count p.name ≤ 1
  accepted : ∀ (p : Parameter) (value : String), (p.name, value) ∈ pairs → p.Accepts value

/-- A pair that is at fault behind others, with the error and its wording.  That it names a
parameter again comes before its value. -/
inductive Parameters.Offends (before : List (String × String)) :
    String × String → ParameterError → String → Prop where
  | duplicate {p : Parameter} {value : String}
      (again : p.name ∈ before.map (·.1)) :
      Offends before (p.name, value) (.duplicate p.name) ("duplicate field `" ++ p.name ++ "`")
  | refused {p : Parameter} {value wording : String} {e : ParameterError}
      (first : p.name ∉ before.map (·.1))
      (refuses : p.Refuses value e wording) :
      Offends before (p.name, value) e wording

/-- A query whose fields are those that the pairs give, or else the defaults. -/
structure OrderQuery.BoundFrom (pairs : List (String × String)) (q : OrderQuery) : Prop where
  code : ∀ text, q.code = some text ↔ ∃ value, ("code", value) ∈ pairs ∧ Shows value text
  status : ∀ s, q.status = some s ↔ ∃ value, ("status", value) ∈ pairs ∧ Shows value s.text
  orderBy :
    (∃ value, ("order_by", value) ∈ pairs ∧ Shows value q.orderBy.text) ∨
      (∀ value, ("order_by", value) ∈ pairs → Blank value) ∧ q.orderBy = .createdAt
  descending :
    ("order_desc", if q.descending then "true" else "false") ∈ pairs ∨
      (∀ value, ("order_desc", value) ∉ pairs) ∧ q.descending = false
  page :
    (∃ value, ("page", value) ∈ pairs ∧ Text.SpellsInteger value.toList q.page.toInt) ∨
      (∀ value, ("page", value) ∉ pairs) ∧ q.page = 0
  limit :
    (∃ value, ("limit", value) ∈ pairs ∧ Text.SpellsInteger value.toList q.limit.toInt) ∨
      (∀ value, ("limit", value) ∉ pairs) ∧ q.limit = 0

open Parameters (Acceptable Offends)

theorem known_or_unknown
    (name : String) :
    (∃ p : Parameter, name = p.name) ∨ ∀ p : Parameter, name ≠ p.name := by
  simpa only [not_exists] using Classical.em (∃ p : Parameter, name = p.name)

theorem acceptable_nil : Acceptable [] :=
  ⟨fun _ => Nat.zero_le 1, fun _ _ h => absurd h List.not_mem_nil⟩

section Behind

variable {before after : List (String × String)} {pair : String × String}

theorem acceptable_concat_iff
    (acceptable : Acceptable before)
    {name value : String} :
    Acceptable (before ++ [(name, value)]) ↔
      ∀ p : Parameter, name = p.name → p.name ∉ before.map (·.1) ∧ p.Accepts value := by
  constructor
  · rintro ⟨once, accepted⟩ p rfl
    refine ⟨?_, accepted p value (by simp)⟩
    have honce := once p
    rw [List.map_append, List.count_append, List.map_singleton, List.count_singleton_self] at honce
    exact List.count_eq_zero.mp (by omega)
  · intro known
    constructor
    · intro p
      have honce := acceptable.once p
      rw [List.map_append, List.count_append, List.map_singleton, List.count_singleton]
      split
      · next h =>
        have habsent := List.count_eq_zero.mpr (known p (by simpa using h)).1
        omega
      · omega
    · intro p value' h
      rcases List.mem_append.mp h with h | h
      · exact acceptable.accepted p value' h
      · obtain ⟨hname, rfl⟩ : p.name = name ∧ value' = value := by simpa using h
        exact (known p hname.symm).2

theorem Parameters.Acceptable.of_append
    (acceptable : Acceptable (before ++ after)) :
    Acceptable before := by
  constructor
  · intro p
    have honce := acceptable.once p
    rw [List.map_append, List.count_append] at honce
    omega
  · intro p value h
    exact acceptable.accepted p value (List.mem_append_left _ h)

end Behind

namespace Parameters

variable {before after pairs : List (String × String)} {pair : String × String}
  {ps ps' : Parameters} {e : ParameterError}

/-- Parameters that are set as pairs say. -/
def Hold (pairs : List (String × String)) (ps : Parameters) : Prop :=
  ∀ p s, ps.get p = some s ↔ ∃ value, (p.name, value) ∈ pairs ∧ p.read value = .ok s

theorem hold_nil : Hold [] {} := by
  intro p s
  cases p <;> simp [get]

/-- A parameter is set exactly if a pair names it. -/
theorem Hold.isSome_get_iff
    (hold : Hold pairs ps)
    (acceptable : Acceptable pairs)
    (p : Parameter) :
    (ps.get p).isSome = true ↔ p.name ∈ pairs.map (·.1) := by
  rw [Option.isSome_iff_exists]
  constructor
  · rintro ⟨s, hs⟩
    obtain ⟨value, h, -⟩ := (hold p s).mp hs
    exact List.mem_map_of_mem h
  · intro named
    obtain ⟨⟨_, value⟩, h, rfl⟩ := List.mem_map.mp named
    obtain ⟨s, reads⟩ := Parameter.accepts_iff.mp (acceptable.accepted p value h)
    exact ⟨s, (hold p s).mpr ⟨value, h, reads⟩⟩

/-- A pair that is added is acceptable behind the others, and sets what it says. -/
theorem Hold.add_ok
    (hold : Hold before ps)
    (acceptable : Acceptable before)
    (added : ps.add pair = .ok ps') :
    Acceptable (before ++ [pair]) ∧ Hold (before ++ [pair]) ps' := by
  obtain ⟨name, value⟩ := pair
  rw [acceptable_concat_iff acceptable]
  rcases known_or_unknown name with ⟨p, rfl⟩ | unknown
  · rw [add_known] at added
    split at added
    · cases added
    · next absent =>
      rw [hold.isSome_get_iff acceptable] at absent
      obtain ⟨s, reads, rfl⟩ := Text.map_eq_ok_iff.mp added
      constructor
      · intro q same
        obtain rfl := Parameter.name_inj.mp same
        exact ⟨absent, Parameter.accepts_iff.mpr ⟨s, reads⟩⟩
      · intro q t
        rw [get_set, Parameter.parameter_of_read reads]
        split
        · next same =>
          subst same
          have none_before : ∀ v, (p.name, v) ∉ before := fun v h =>
            absent (List.mem_map_of_mem (f := Prod.fst) h)
          simp [none_before, reads]
        · next other =>
          have hname : q.name ≠ p.name := fun h => other (Parameter.name_inj.mp h).symm
          rw [hold q t]
          simp [hname]
  · rw [add_unknown unknown] at added
    cases added
    constructor
    · intro p same
      exact absurd same (unknown p)
    · intro p s
      rw [hold p s]
      simp [(unknown p).symm]

/-- A pair is refused exactly if it is at fault behind the others. -/
theorem Hold.add_eq_error_iff
    (hold : Hold before ps)
    (acceptable : Acceptable before) :
    ps.add pair = .error e ↔ Offends before pair e e.message := by
  obtain ⟨name, value⟩ := pair
  constructor
  · intro refused
    rcases known_or_unknown name with ⟨p, rfl⟩ | unknown
    · rw [add_known] at refused
      split at refused
      · next again =>
        cases refused
        exact .duplicate ((hold.isSome_get_iff acceptable p).mp again)
      · next absent =>
        exact .refused (mt (hold.isSome_get_iff acceptable p).mpr absent)
          (Parameter.read_eq_error_iff.mp (Text.map_eq_error_iff.mp refused))
    · rw [add_unknown unknown] at refused
      cases refused
  · intro offends
    generalize hwording : e.message = wording at offends
    cases offends with
    | duplicate again =>
        rw [add_known, if_pos ((hold.isSome_get_iff acceptable _).mpr again)]
    | refused first refuses =>
        rw [add_known, if_neg (mt (hold.isSome_get_iff acceptable _).mp first),
          Text.map_eq_error_iff, Parameter.read_eq_error_iff, hwording]
        exact refuses

/-- Pairs are read up to the first that is at fault behind those before it. -/
theorem Hold.foldlM
    (hold : Hold before ps)
    (acceptable : Acceptable before)
    (pairs : List (String × String)) :
    (∃ ps', pairs.foldlM add ps = .ok ps' ∧ Acceptable (before ++ pairs) ∧
      Hold (before ++ pairs) ps') ∨
    (∃ e, pairs.foldlM add ps = .error e ∧
      ∃ middle pair after, pairs = middle ++ pair :: after ∧ Acceptable (before ++ middle) ∧
        Offends (before ++ middle) pair e e.message) := by
  induction pairs generalizing before ps with
  | nil =>
      refine Or.inl ⟨ps, rfl, ?_⟩
      rw [List.append_nil]
      exact ⟨acceptable, hold⟩
  | cons pair pairs ih =>
      rw [List.foldlM_cons]
      cases added : ps.add pair with
      | error e =>
          refine Or.inr ⟨e, rfl, [], pair, pairs, rfl, ?_⟩
          rw [List.append_nil]
          exact ⟨acceptable, (hold.add_eq_error_iff acceptable).mp added⟩
      | ok ps' =>
          obtain ⟨acceptable', hold'⟩ := hold.add_ok acceptable added
          rcases ih hold' acceptable' with ⟨ps'', read, acceptable'', hold''⟩ |
            ⟨e, read, middle, pair', after, rfl, acceptable'', offends⟩
          · rw [← List.append_cons] at acceptable'' hold''
            exact Or.inl ⟨ps'', read, acceptable'', hold''⟩
          · rw [← List.append_cons] at acceptable'' offends
            exact Or.inr ⟨e, read, pair :: middle, pair', after, rfl, acceptable'', offends⟩

end Parameters

section Binding

open Parameters

variable {pairs before after : List (String × String)} {pair : String × String}
  {ps : Parameters} {e : ParameterError} {q : OrderQuery}

/-- Behind others, pairs with one that is at fault are not acceptable. -/
theorem not_acceptable_of_offends
    (offends : Offends before pair e e.message) :
    ¬ Acceptable (before ++ pair :: after) := by
  rw [List.append_cons]
  intro acceptable
  have acceptable := acceptable.of_append
  have known := (@acceptable_concat_iff _ acceptable.of_append pair.1 pair.2).mp acceptable
  generalize hwording : e.message = wording at offends
  cases offends with
  | duplicate again => exact (known _ rfl).1 again
  | refused first refuses =>
      obtain ⟨s, reads⟩ := Parameter.accepts_iff.mp (known _ rfl).2
      rw [Parameter.read_eq_error_iff.mpr (hwording ▸ refuses)] at reads
      cases reads

theorem ofPairs_cases
    (pairs : List (String × String)) :
    (∃ ps, ofPairs pairs = .ok ps ∧ Acceptable pairs ∧ Hold pairs ps) ∨
    (∃ e, ofPairs pairs = .error e ∧
      ∃ before pair after, pairs = before ++ pair :: after ∧ Acceptable before ∧
        Offends before pair e e.message) :=
  hold_nil.foldlM acceptable_nil pairs

/-- Acceptable pairs are read to their end. -/
theorem ofPairs_eq_ok
    (acceptable : Acceptable pairs) :
    ∃ ps, ofPairs pairs = .ok ps ∧ Hold pairs ps := by
  rcases ofPairs_cases pairs with ⟨ps, read, -, hold⟩ | ⟨e, -, before, pair, after, rfl, -, offends⟩
  · exact ⟨ps, read, hold⟩
  · exact absurd acceptable (not_acceptable_of_offends offends)

theorem hold_of_ofPairs
    (read : ofPairs pairs = .ok ps) :
    Acceptable pairs ∧ Hold pairs ps := by
  rcases ofPairs_cases pairs with ⟨ps', read', acceptable, hold⟩ | ⟨e, read', -⟩
  · rw [read] at read'
    cases read'
    exact ⟨acceptable, hold⟩
  · rw [read] at read'
    cases read'

/-- What is reported is the first pair that is at fault behind those before it. -/
theorem ofPairs_eq_error_iff :
    ofPairs pairs = .error e ↔
      ∃ before pair after, pairs = before ++ pair :: after ∧ Acceptable before ∧
        Offends before pair e e.message := by
  constructor
  · intro refused
    rcases ofPairs_cases pairs with ⟨ps, read, -⟩ | ⟨e', read, split⟩
    · rw [refused] at read
      cases read
    · rw [refused] at read
      cases read
      exact split
  · rintro ⟨before, pair, after, rfl, acceptable, offends⟩
    obtain ⟨ps, read, hold⟩ := ofPairs_eq_ok acceptable
    have refused := (hold.add_eq_error_iff acceptable).mpr offends
    rw [ofPairs, List.foldlM_append, ← ofPairs, read]
    show (pair :: after).foldlM add ps = _
    rw [List.foldlM_cons, refused]
    rfl

/-! ## The fields of the query -/

section Fields

variable (hold : Hold pairs ps) (acceptable : Acceptable pairs)

include hold

theorem code_eq_some_iff
    {text : String} :
    ps.query.code = some text ↔ ∃ value, ("code", value) ∈ pairs ∧ Shows value text := by
  have h := hold .code (.code (some text))
  simp only [Parameter.read_code_iff, Parameter.name] at h
  rw [← h, Parameters.query, Parameters.get]
  cases ps.code <;> simp

theorem status_eq_some_iff
    {s : OrderStatus} :
    ps.query.status = some s ↔ ∃ value, ("status", value) ∈ pairs ∧ Shows value s.text := by
  have h := hold .status (.status (some s))
  simp only [Parameter.read_status_iff, Parameter.name] at h
  rw [← h, Parameters.query, Parameters.get]
  cases ps.status <;> simp

theorem orderBy_eq_some_iff
    {c : SortColumn} :
    ps.orderBy.join = some c ↔ ∃ value, ("order_by", value) ∈ pairs ∧ Shows value c.text := by
  have h := hold .orderBy (.orderBy (some c))
  simp only [Parameter.read_orderBy_iff, Parameter.name] at h
  rw [← h, Parameters.get]
  cases ps.orderBy <;> simp

theorem descending_eq_some_iff
    {b : Bool} :
    ps.descending = some b ↔ ("order_desc", if b then "true" else "false") ∈ pairs := by
  have h := hold .descending (.descending b)
  simp only [Parameter.read_descending_iff, Parameter.name, exists_eq_right] at h
  rw [← h, Parameters.get]
  simp

theorem page_eq_some_iff
    {n : Int64} :
    ps.page = some n ↔
      ∃ value, ("page", value) ∈ pairs ∧ Text.SpellsInteger value.toList n.toInt := by
  have h := hold .page (.page n)
  simp only [Parameter.read_page_iff, Parameter.name] at h
  rw [← h, Parameters.get]
  simp

theorem limit_eq_some_iff
    {n : Int64} :
    ps.limit = some n ↔
      ∃ value, ("limit", value) ∈ pairs ∧ Text.SpellsInteger value.toList n.toInt := by
  have h := hold .limit (.limit n)
  simp only [Parameter.read_limit_iff, Parameter.name] at h
  rw [← h, Parameters.get]
  simp

include acceptable

theorem get_eq_none_iff
    {p : Parameter} :
    ps.get p = none ↔ ∀ value, (p.name, value) ∉ pairs := by
  rw [← Option.not_isSome_iff_eq_none, hold.isSome_get_iff acceptable]
  simp

/-- No column is given exactly if only blanks are given for it. -/
theorem orderBy_eq_none_iff :
    ps.orderBy.join = none ↔ ∀ value, ("order_by", value) ∈ pairs → Blank value := by
  constructor
  · intro none value h
    obtain ⟨s, reads⟩ := Parameter.accepts_iff.mp (acceptable.accepted .orderBy value h)
    have hget := (hold .orderBy s).mpr ⟨value, h, reads⟩
    rw [Parameters.get, Option.map_eq_some_iff] at hget
    obtain ⟨x, hx, rfl⟩ := hget
    rw [hx, Option.join_some] at none
    subst none
    exact Parameter.read_orderBy_none_iff.mp reads
  · intro blank
    rw [Option.eq_none_iff_forall_ne_some]
    intro c hc
    obtain ⟨value, h, shown⟩ := (orderBy_eq_some_iff hold).mp hc
    exact shown.visible ((shows_iff.mp shown).1.symm.trans (blank_iff.mp (blank value h)))

end Fields

theorem given_or_default_iff
    {α : Type} {field : Option α} {given : α → Prop} {absent : Prop}
    (default a : α)
    (present : ∀ a, field = some a ↔ given a)
    (missing : field = none ↔ absent) :
    given a ∨ absent ∧ a = default ↔ a = field.getD default := by
  rw [← present, ← missing]
  cases field <;> simp [eq_comm]

/-- A query is bound from acceptable pairs exactly if it is that of their parameters. -/
theorem boundFrom_iff
    (acceptable : Acceptable pairs)
    (hold : Hold pairs ps) :
    q.BoundFrom pairs ↔ q = ps.query := by
  have orderBy := given_or_default_iff SortColumn.createdAt q.orderBy
    (fun c => orderBy_eq_some_iff hold (c := c)) (orderBy_eq_none_iff hold acceptable)
  have descending := given_or_default_iff false q.descending
    (fun b => descending_eq_some_iff hold (b := b))
    (Option.map_eq_none_iff.symm.trans (get_eq_none_iff hold acceptable (p := .descending)))
  have page := given_or_default_iff 0 q.page
    (fun n => page_eq_some_iff hold (n := n))
    (Option.map_eq_none_iff.symm.trans (get_eq_none_iff hold acceptable (p := .page)))
  have limit := given_or_default_iff 0 q.limit
    (fun n => limit_eq_some_iff hold (n := n))
    (Option.map_eq_none_iff.symm.trans (get_eq_none_iff hold acceptable (p := .limit)))
  constructor
  · intro bound
    have code : q.code = ps.query.code :=
      Option.ext fun text => (bound.code text).trans (code_eq_some_iff hold).symm
    have status : q.status = ps.query.status :=
      Option.ext fun s => (bound.status s).trans (status_eq_some_iff hold).symm
    have orderBy := orderBy.mp bound.orderBy
    have descending := descending.mp bound.descending
    have page := page.mp bound.page
    have limit := limit.mp bound.limit
    cases q
    rw [Parameters.query, OrderQuery.mk.injEq]
    exact ⟨code, status, orderBy, descending, page, limit⟩
  · rintro rfl
    exact
      { code := fun _ => code_eq_some_iff hold
        status := fun _ => status_eq_some_iff hold
        orderBy := orderBy.mpr rfl
        descending := descending.mpr rfl
        page := page.mpr rfl
        limit := limit.mpr rfl }

/-! ## Query strings -/

theorem ofQueryString_eq_ok_iff
    {text : List UInt8} :
    OrderQuery.ofQueryString text = .ok q ↔
      Acceptable (Form.pairs text) ∧ q.BoundFrom (Form.pairs text) := by
  rw [OrderQuery.ofQueryString, Text.map_eq_ok_iff]
  constructor
  · rintro ⟨ps, read, rfl⟩
    obtain ⟨acceptable, hold⟩ := hold_of_ofPairs read
    exact ⟨acceptable, (boundFrom_iff acceptable hold).mpr rfl⟩
  · rintro ⟨acceptable, bound⟩
    obtain ⟨ps, read, hold⟩ := ofPairs_eq_ok acceptable
    exact ⟨ps, read, ((boundFrom_iff acceptable hold).mp bound).symm⟩

theorem ofQueryString_eq_error_iff
    {text : List UInt8} :
    OrderQuery.ofQueryString text = .error e ↔
      ∃ before pair after, Form.pairs text = before ++ pair :: after ∧ Acceptable before ∧
        Offends before pair e e.message := by
  rw [OrderQuery.ofQueryString, Text.map_eq_error_iff, ofPairs_eq_error_iff]

end Binding

/-- Acceptable pairs stay so in any order. -/
theorem Parameters.Acceptable.perm
    {pairs pairs' : List (String × String)}
    (acceptable : Acceptable pairs)
    (perm : pairs.Perm pairs') :
    Acceptable pairs' := by
  constructor
  · intro p
    rw [← (perm.map (·.1)).count_eq]
    exact acceptable.once p
  · intro p value h
    exact acceptable.accepted p value (perm.mem_iff.mpr h)

/-- What pairs say does not depend on their order. -/
theorem OrderQuery.BoundFrom.perm
    {pairs pairs' : List (String × String)} {q : OrderQuery}
    (bound : q.BoundFrom pairs)
    (perm : pairs.Perm pairs') :
    q.BoundFrom pairs' := by
  have same : ∀ pair, pair ∈ pairs ↔ pair ∈ pairs' := fun _ => perm.mem_iff
  obtain ⟨code, status, orderBy, descending, page, limit⟩ := bound
  simp only [same] at code status orderBy descending page limit
  exact ⟨code, status, orderBy, descending, page, limit⟩

/-- Whether a pair names a known parameter. -/
def Parameters.Known (pair : String × String) : Bool :=
  Parameter.all.any (·.name == pair.1)

open Parameters (Known)

theorem known_iff
    {pair : String × String} :
    Known pair = true ↔ ∃ p : Parameter, pair.1 = p.name := by
  rw [Known, List.any_eq_true]
  constructor
  · rintro ⟨p, -, h⟩
    exact ⟨p, (beq_iff_eq.mp h).symm⟩
  · rintro ⟨p, h⟩
    exact ⟨p, by cases p <;> simp [Parameter.all], beq_iff_eq.mpr h.symm⟩

/-- Pairs that name no known parameter have no effect. -/
theorem ofPairs_filter_known
    (pairs : List (String × String)) :
    Parameters.ofPairs (pairs.filter Known) = Parameters.ofPairs pairs := by
  rw [Parameters.ofPairs, Parameters.ofPairs]
  generalize ({} : Parameters) = ps
  induction pairs generalizing ps with
  | nil => rfl
  | cons pair pairs ih =>
      rw [List.filter_cons]
      split
      · rw [List.foldlM_cons, List.foldlM_cons]
        exact congrArg _ (funext ih)
      · next h =>
        have unknown : ∀ p : Parameter, pair.1 ≠ p.name := by
          simpa only [known_iff, not_exists] using h
        rw [List.foldlM_cons, show ps.add pair = .ok ps from Parameters.add_unknown unknown]
        exact ih ps

end OrderDesk
