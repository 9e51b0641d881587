import OrderDesk.Listing.Parameters
import OrderDesk.Proofs.Text.Blank
import OrderDesk.Proofs.Text.Numeral

/-!
# What the parameters of a listing take

Six parameters are known, and each is set by a value of its own kind.

* `Shows`, `Blank`: the trimmed text of a value, and a value that has none.
* `Parameter`, `Setting`: the known parameters, and what they are set to.
* `Parameter.Accepts`, `Parameter.Refuses`: the values that a parameter takes, and those that
  it does not, with the error and its wording (`accepts_iff`, `read_eq_error_iff`).
* `Parameters.add_known`, `Parameters.add_unknown`: a pair sets the parameter that it names,
  and has no effect if it names none.
-/

namespace OrderDesk

/-! ## Values -/

/-- A value whose trimmed text is the given one, which is not empty. -/
structure Parameters.Shows (value text : String) : Prop where
  trims : Text.Trims value.toList text.toList
  visible : text ≠ ""

/-- A value of blanks only. -/
def Parameters.Blank (value : String) : Prop := ∀ c ∈ value.toList, Text.isBlank c = true

open Parameters (Shows Blank)

theorem trimmed_eq_iff
    {value text : String} :
    Text.trimmed value = text ↔ Text.Trims value.toList text.toList := by
  rw [Text.trimmed, ← Text.trim_eq_iff]
  constructor
  · rintro rfl
    exact (String.toList_ofList).symm
  · intro h
    rw [h, String.ofList_toList]

theorem shows_iff
    {value text : String} :
    Shows value text ↔ Text.trimmed value = text ∧ text ≠ "" := by
  rw [trimmed_eq_iff]
  exact ⟨fun h => ⟨h.trims, h.visible⟩, fun h => ⟨h.1, h.2⟩⟩

theorem blank_iff
    {value : String} :
    Blank value ↔ Text.trimmed value = "" := by
  rw [Blank, ← Text.trim_eq_nil_iff, Text.trimmed, ← String.toList_inj, String.toList_ofList]
  rfl

theorem OrderStatus.parse?_eq_some_iff
    {text : String} {s : OrderStatus} :
    parse? text = some s ↔ text = s.text :=
  ⟨fun h => (text_of_parse? h).symm, fun h => h ▸ parse?_text s⟩

theorem SortColumn.parse?_eq_some_iff
    {text : String} {c : SortColumn} :
    parse? text = some c ↔ text = c.text :=
  ⟨fun h => (by simpa using List.find?_some h : c.text = text).symm, fun h => h ▸ parse?_text c⟩

theorem blank_or_shows
    (value : String) :
    Blank value ∨ ∃ text, Shows value text := by
  simp only [blank_iff, shows_iff, exists_eq_left']
  exact Decidable.em _

namespace Parameters

section Visible

variable {α : Type} {read : String → Except ParameterError α} {value : String}

theorem visible_eq_none_iff :
    visible read value = .ok none ↔ Blank value := by
  rw [visible, blank_iff]
  split
  · next h => simpa using h
  · next h =>
    rw [Text.map_eq_ok_iff]
    simpa using h

theorem visible_eq_some_iff
    {a : α} :
    visible read value = .ok (some a) ↔ ∃ text, Shows value text ∧ read text = .ok a := by
  rw [visible]
  simp only [shows_iff]
  split
  · next h =>
    have hempty : Text.trimmed value = "" := by simpa using h
    simp [hempty]
  · next h =>
    have hvisible : Text.trimmed value ≠ "" := by simpa using h
    rw [Text.map_eq_ok_iff]
    constructor
    · rintro ⟨b, hb, hba⟩
      cases hba
      exact ⟨_, ⟨rfl, hvisible⟩, hb⟩
    · rintro ⟨text, ⟨rfl, -⟩, ha⟩
      exact ⟨a, ha, rfl⟩

theorem visible_eq_error_iff
    {e : ParameterError} :
    visible read value = .error e ↔ ∃ text, Shows value text ∧ read text = .error e := by
  rw [visible]
  simp only [shows_iff]
  split
  · next h =>
    have hempty : Text.trimmed value = "" := by simpa using h
    simp [hempty]
  · next h =>
    have hvisible : Text.trimmed value ≠ "" := by simpa using h
    rw [Text.map_eq_error_iff]
    constructor
    · intro he
      exact ⟨_, ⟨rfl, hvisible⟩, he⟩
    · rintro ⟨text, ⟨rfl, -⟩, he⟩
      exact he

theorem exists_visible_iff :
    (∃ x, visible read value = .ok x) ↔
      Blank value ∨ ∃ text a, Shows value text ∧ read text = .ok a := by
  simp only [Option.exists, visible_eq_none_iff, visible_eq_some_iff]
  rw [exists_comm]

end Visible

theorem status?_eq_ok_iff
    {text : String} {s : OrderStatus} :
    status? text = .ok s ↔ text = s.text := by
  rw [← OrderStatus.parse?_eq_some_iff, status?]
  cases OrderStatus.parse? text <;> simp

theorem status?_eq_error_iff
    {text : String} {e : ParameterError} :
    status? text = .error e ↔ (∀ s : OrderStatus, text ≠ s.text) ∧ e = .unknownStatus text := by
  simp only [ne_eq, ← OrderStatus.parse?_eq_some_iff, status?]
  cases OrderStatus.parse? text <;> simp [eq_comm]

theorem column?_eq_ok_iff
    {text : String} {c : SortColumn} :
    column? text = .ok c ↔ text = c.text := by
  rw [← SortColumn.parse?_eq_some_iff, column?]
  cases SortColumn.parse? text <;> simp

theorem column?_eq_error_iff
    {text : String} {e : ParameterError} :
    column? text = .error e ↔ (∀ c : SortColumn, text ≠ c.text) ∧ e = .unknownColumn text := by
  simp only [ne_eq, ← SortColumn.parse?_eq_some_iff, column?]
  cases SortColumn.parse? text <;> simp [eq_comm]

theorem truth?_eq_ok_iff
    {value : String} {b : Bool} :
    truth? value = .ok b ↔ value = if b then "true" else "false" := by
  rw [truth?]
  split
  · next h => cases b <;> simp [h]
  · split
    · next h => cases b <;> simp [h]
    · cases b <;> simp_all

theorem truth?_eq_error_iff
    {value : String} {e : ParameterError} :
    truth? value = .error e ↔ value ≠ "true" ∧ value ≠ "false" ∧ e = .notTruthValue := by
  rw [truth?]
  split
  · next h => simp [h]
  · next hfirst =>
    split
    · next h => simp [h]
    · next hsecond => simp [hfirst, hsecond, eq_comm]

theorem integer?_eq_ok_iff
    {value : String} {n : Int64} :
    integer? value = .ok n ↔ Text.SpellsInteger value.toList n.toInt := by
  rw [integer?, ← Text.readInt64_eq_ok_iff]
  cases Text.readInt64 value.toList <;> simp [Except.mapError]

theorem integer?_eq_error_iff
    {value : String} {e : ParameterError} :
    integer? value = .error e ↔
      ∃ why, Text.FailsAsInteger 0x7FFFFFFFFFFFFFFF value.toList why ∧ e = .notInteger why := by
  simp only [integer?, ← Text.readInt64_eq_error_iff]
  cases Text.readInt64 value.toList <;> simp [Except.mapError, eq_comm]

end Parameters

/-! ## Parameters -/

/-- The known parameters. -/
inductive Parameter where
  | code
  | status
  | orderBy
  | descending
  | page
  | limit
deriving DecidableEq

/-- A parameter with what it is set to. -/
inductive Setting where
  | code (text : Option String)
  | status (s : Option OrderStatus)
  | orderBy (c : Option SortColumn)
  | descending (b : Bool)
  | page (n : Int64)
  | limit (n : Int64)

def Setting.parameter : Setting → Parameter
  | code _ => .code
  | status _ => .status
  | orderBy _ => .orderBy
  | descending _ => .descending
  | page _ => .page
  | limit _ => .limit

namespace Parameter

def all : List Parameter := [code, status, orderBy, descending, page, limit]

def name : Parameter → String
  | code => "code"
  | status => "status"
  | orderBy => "order_by"
  | descending => "order_desc"
  | page => "page"
  | limit => "limit"

theorem name_inj
    {p q : Parameter} :
    p.name = q.name ↔ p = q := by
  cases p <;> cases q <;> decide

/-- The values that a parameter takes. -/
def Accepts : Parameter → String → Prop
  | code, _ => True
  | status, value => Blank value ∨ ∃ s : OrderStatus, Shows value s.text
  | orderBy, value => Blank value ∨ ∃ c : SortColumn, Shows value c.text
  | descending, value => value = "true" ∨ value = "false"
  | page, value | limit, value =>
    ∃ n : Int64, Text.SpellsInteger value.toList n.toInt

/-- The values that a parameter does not take, each with its error and the wording. -/
inductive Refuses : Parameter → String → ParameterError → String → Prop where
  | status {value text : String}
      (shown : Shows value text)
      (unknown : ∀ s : OrderStatus, text ≠ s.text) :
      Refuses status value (.unknownStatus text) ("Unknown order status: " ++ text)
  | orderBy {value text : String}
      (shown : Shows value text)
      (unknown : ∀ c : SortColumn, text ≠ c.text) :
      Refuses orderBy value (.unknownColumn text) ("Unknown sort column: " ++ text)
  | descending {value : String} :
      value ≠ "true" → value ≠ "false" →
      Refuses descending value .notTruthValue "provided string was not `true` or `false`"
  | page {value : String} {why : NumeralError} :
      Text.FailsAsInteger 0x7FFFFFFFFFFFFFFF value.toList why →
      Refuses page value (.notInteger why) why.message
  | limit {value : String} {why : NumeralError} :
      Text.FailsAsInteger 0x7FFFFFFFFFFFFFFF value.toList why →
      Refuses limit value (.notInteger why) why.message

/-- Reads the value of a parameter. -/
def read : Parameter → String → Except ParameterError Setting
  | code, value => (Parameters.visible .ok value).map .code
  | status, value => (Parameters.visible Parameters.status? value).map .status
  | orderBy, value => (Parameters.visible Parameters.column? value).map .orderBy
  | descending, value => (Parameters.truth? value).map .descending
  | page, value => (Parameters.integer? value).map .page
  | limit, value => (Parameters.integer? value).map .limit

variable {p : Parameter} {value : String}

theorem parameter_of_read
    {s : Setting}
    (reads : p.read value = .ok s) :
    s.parameter = p := by
  cases p <;>
    · rw [read, Text.map_eq_ok_iff] at reads
      obtain ⟨_, -, rfl⟩ := reads
      rfl

theorem read_eq_error_iff
    {e : ParameterError} :
    p.read value = .error e ↔ p.Refuses value e e.message := by
  constructor
  · intro h
    cases p with
    | code =>
        rw [read, Text.map_eq_error_iff, Parameters.visible_eq_error_iff] at h
        obtain ⟨_, _, h⟩ := h
        cases h
    | status =>
        rw [read, Text.map_eq_error_iff, Parameters.visible_eq_error_iff] at h
        obtain ⟨text, shown, h⟩ := h
        obtain ⟨unknown, rfl⟩ := Parameters.status?_eq_error_iff.mp h
        exact .status shown unknown
    | orderBy =>
        rw [read, Text.map_eq_error_iff, Parameters.visible_eq_error_iff] at h
        obtain ⟨text, shown, h⟩ := h
        obtain ⟨unknown, rfl⟩ := Parameters.column?_eq_error_iff.mp h
        exact .orderBy shown unknown
    | descending =>
        rw [read, Text.map_eq_error_iff, Parameters.truth?_eq_error_iff] at h
        obtain ⟨notTrue, notFalse, rfl⟩ := h
        exact .descending notTrue notFalse
    | page =>
        rw [read, Text.map_eq_error_iff, Parameters.integer?_eq_error_iff] at h
        obtain ⟨why, fails, rfl⟩ := h
        exact .page fails
    | limit =>
        rw [read, Text.map_eq_error_iff, Parameters.integer?_eq_error_iff] at h
        obtain ⟨why, fails, rfl⟩ := h
        exact .limit fails
  · intro refuses
    generalize e.message = wording at refuses
    cases refuses with
    | status shown unknown =>
        rw [read, Text.map_eq_error_iff, Parameters.visible_eq_error_iff]
        exact ⟨_, shown, Parameters.status?_eq_error_iff.mpr ⟨unknown, rfl⟩⟩
    | orderBy shown unknown =>
        rw [read, Text.map_eq_error_iff, Parameters.visible_eq_error_iff]
        exact ⟨_, shown, Parameters.column?_eq_error_iff.mpr ⟨unknown, rfl⟩⟩
    | descending notTrue notFalse =>
        rw [read, Text.map_eq_error_iff, Parameters.truth?_eq_error_iff]
        exact ⟨notTrue, notFalse, rfl⟩
    | page fails | limit fails =>
        rw [read, Text.map_eq_error_iff, Parameters.integer?_eq_error_iff]
        exact ⟨_, fails, rfl⟩

/-- The values that a parameter takes are those that are read. -/
theorem accepts_iff :
    p.Accepts value ↔ ∃ s, p.read value = .ok s := by
  cases p with
  | code =>
      rw [read, Text.exists_map_eq_ok_iff, Parameters.exists_visible_iff, Accepts, true_iff]
      exact (blank_or_shows value).imp_right fun ⟨text, shown⟩ => ⟨text, text, shown, rfl⟩
  | status =>
      rw [read, Text.exists_map_eq_ok_iff, Parameters.exists_visible_iff, Accepts]
      simp only [Parameters.status?_eq_ok_iff]
      exact or_congr Iff.rfl
        ⟨fun ⟨s, shown⟩ => ⟨_, s, shown, rfl⟩, fun ⟨_, s, shown, same⟩ => ⟨s, same ▸ shown⟩⟩
  | orderBy =>
      rw [read, Text.exists_map_eq_ok_iff, Parameters.exists_visible_iff, Accepts]
      simp only [Parameters.column?_eq_ok_iff]
      exact or_congr Iff.rfl
        ⟨fun ⟨c, shown⟩ => ⟨_, c, shown, rfl⟩, fun ⟨_, c, shown, same⟩ => ⟨c, same ▸ shown⟩⟩
  | descending =>
      simp only [read, Text.exists_map_eq_ok_iff, Parameters.truth?_eq_ok_iff, Accepts,
        Bool.exists_bool]
      exact or_comm
  | page | limit =>
      simp only [read, Text.exists_map_eq_ok_iff, Parameters.integer?_eq_ok_iff, Accepts]

end Parameter

/-! ## Parameters read so far -/

namespace Parameters

/-- What a parameter is set to, if it is. -/
def get (ps : Parameters) : Parameter → Option Setting
  | .code => ps.code.map .code
  | .status => ps.status.map .status
  | .orderBy => ps.orderBy.map .orderBy
  | .descending => ps.descending.map .descending
  | .page => ps.page.map .page
  | .limit => ps.limit.map .limit

def set (ps : Parameters) : Setting → Parameters
  | .code x => { ps with code := some x }
  | .status x => { ps with status := some x }
  | .orderBy x => { ps with orderBy := some x }
  | .descending x => { ps with descending := some x }
  | .page x => { ps with page := some x }
  | .limit x => { ps with limit := some x }

variable {ps : Parameters} {p : Parameter} {name value : String}

theorem get_set
    (ps : Parameters)
    (s : Setting)
    (p : Parameter) :
    (ps.set s).get p = if s.parameter = p then some s else ps.get p := by
  cases s <;> cases p <;> rfl

theorem map_once
    {α β : Type} (name : String) (known : Option α) (value : Except ParameterError α)
    (f : Option α → β) :
    (once name known value).map f =
      if known.isSome then .error (.duplicate name) else value.map fun a => f (some a) := by
  cases known with
  | none => cases value <;> rfl
  | some a => rfl

theorem map_map
    {ε α β γ : Type} (x : Except ε α) (f : α → β) (g : β → γ) :
    (x.map f).map g = x.map fun a => g (f a) := by
  cases x <;> rfl

/-- A pair with a known name sets the parameter, unless it is set already. -/
theorem add_known :
    ps.add (p.name, value) =
      if (ps.get p).isSome then .error (.duplicate p.name) else (p.read value).map ps.set := by
  cases p <;>
    · rw [get, Option.isSome_map, Parameter.read, map_map]
      exact map_once ..

theorem add_unknown
    (unknown : ∀ p : Parameter, name ≠ p.name) :
    ps.add (name, value) = .ok ps := by
  rw [add]
  exacts [unknown .code, unknown .status, unknown .orderBy, unknown .descending, unknown .page,
    unknown .limit]

end Parameters

/-! ## What a value says -/

namespace Parameter

variable {value : String}

theorem read_code_iff
    {text : String} :
    code.read value = .ok (.code (some text)) ↔ Shows value text := by
  rw [read, Text.map_eq_ok_iff]
  simp [Parameters.visible_eq_some_iff]

theorem read_status_iff
    {s : OrderStatus} :
    status.read value = .ok (.status (some s)) ↔ Shows value s.text := by
  rw [read, Text.map_eq_ok_iff]
  simp [Parameters.visible_eq_some_iff, Parameters.status?_eq_ok_iff]

theorem read_orderBy_iff
    {c : SortColumn} :
    orderBy.read value = .ok (.orderBy (some c)) ↔ Shows value c.text := by
  rw [read, Text.map_eq_ok_iff]
  simp [Parameters.visible_eq_some_iff, Parameters.column?_eq_ok_iff]

theorem read_orderBy_none_iff :
    orderBy.read value = .ok (.orderBy none) ↔ Blank value := by
  rw [read, Text.map_eq_ok_iff]
  simp [Parameters.visible_eq_none_iff]

theorem read_descending_iff
    {b : Bool} :
    descending.read value = .ok (.descending b) ↔ value = if b then "true" else "false" := by
  rw [read, Text.map_eq_ok_iff]
  simp [Parameters.truth?_eq_ok_iff]

theorem read_page_iff
    {n : Int64} :
    page.read value = .ok (.page n) ↔ Text.SpellsInteger value.toList n.toInt := by
  rw [read, Text.map_eq_ok_iff]
  simp [Parameters.integer?_eq_ok_iff]

theorem read_limit_iff
    {n : Int64} :
    limit.read value = .ok (.limit n) ↔ Text.SpellsInteger value.toList n.toInt := by
  rw [read, Text.map_eq_ok_iff]
  simp [Parameters.integer?_eq_ok_iff]

end Parameter

end OrderDesk
