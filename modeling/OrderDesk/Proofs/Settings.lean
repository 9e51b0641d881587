import Mathlib.Algebra.Group.Nat.Defs
import OrderDesk.Proofs.Text.Blank
import OrderDesk.Proofs.Text.Numeral
import OrderDesk.Proofs.Traversal
import OrderDesk.Settings

/-!
# Which texts are settings

Four settings are numbers, and each of them is set by a text or has a default.  Only the
address of the database has none.

* `NumericSetting`: the numbers, with their names, ranges and defaults, in the order in
  which they are read.
* `NumericSetting.Denotes`, `NumericSetting.Is`: the number that a text denotes, and the one
  that is set.
* `Settings.Given`, `Settings.Blames`: the settings that named texts give, and what is wrong
  with texts that give none.
* `settings_load_exactly_from_valid_texts`: loading gives these settings, or reports this
  fault.
-/

namespace OrderDesk

open Settings (number positive load)

/-- The settings that are numbers. -/
inductive NumericSetting where
  | databaseMaxConnections
  | port
  | orderMaxLines
  | storeTimeoutMillis
deriving DecidableEq, Repr

namespace NumericSetting

/-- All numbers, in the order in which they are read. -/
def inOrder : List NumericSetting :=
  [databaseMaxConnections, port, orderMaxLines, storeTimeoutMillis]

/-- The name of a number. -/
def name : NumericSetting → String
  | databaseMaxConnections => "DATABASE_MAX_CONNECTIONS"
  | port => "PORT"
  | orderMaxLines => "ORDER_MAX_LINES"
  | storeTimeoutMillis => "STORE_TIMEOUT_MS"

/-- The number of bits that a number has to fit. -/
def width : NumericSetting → Nat
  | databaseMaxConnections => 32
  | port => 16
  | orderMaxLines | storeTimeoutMillis => 64

/-- The least value of a number. -/
def least : NumericSetting → Nat
  | databaseMaxConnections | port => 0
  | orderMaxLines | storeTimeoutMillis => 1

/-- The value of a number that is not set. -/
def default : NumericSetting → Nat
  | databaseMaxConnections => 10
  | port => 3000
  | orderMaxLines => 5
  | storeTimeoutMillis => 5000

/-- The value of a number in settings. -/
def valueIn (s : Settings) : NumericSetting → Nat
  | databaseMaxConnections => s.databaseMaxConnections
  | port => s.port
  | orderMaxLines => s.orderMaxLines
  | storeTimeoutMillis => s.storeTimeoutMillis

/-- A text denotes a number: between blanks it spells the number, which fits the width and is
not too small. -/
structure Denotes (q : NumericSetting) (text : String) (n : Nat) : Prop where
  spells : ∃ numeral, Text.Trims text.toList numeral ∧ Text.SpellsNatural numeral n
  fits : n < 2 ^ q.width
  least : q.least ≤ n

/-- The value that a number is set to, or has because it is not set. -/
def Is (q : NumericSetting) (lookUp : String → Option String) (n : Nat) : Prop :=
  (lookUp q.name = none ∧ n = q.default) ∨ ∃ text, lookUp q.name = some text ∧ q.Denotes text n

/-- A number is set to a text that denotes none. -/
def Offends (q : NumericSetting) (lookUp : String → Option String) : Prop :=
  ∃ text, lookUp q.name = some text ∧ ∀ n, ¬ q.Denotes text n

/-- Reads one number. -/
def read (lookUp : String → Option String) : NumericSetting → Except SettingsError Nat
  | databaseMaxConnections => number lookUp "DATABASE_MAX_CONNECTIONS" 0xFFFFFFFF 10
  | port => number lookUp "PORT" 0xFFFF 3000
  | orderMaxLines => positive lookUp "ORDER_MAX_LINES" 0xFFFFFFFFFFFFFFFF 5
  | storeTimeoutMillis => positive lookUp "STORE_TIMEOUT_MS" 0xFFFFFFFFFFFFFFFF 5000

end NumericSetting

namespace Settings

/-- The settings that named texts give. -/
structure Given (s : Settings) (lookUp : String → Option String) : Prop where
  databaseUrl : lookUp "DATABASE_URL" = some s.databaseUrl
  numbers : ∀ q : NumericSetting, q.Is lookUp (q.valueIn s)
  host : s.host = (lookUp "HOST").getD "127.0.0.1"
  environment : s.environment = (lookUp "ENVIRONMENT").getD "development"
  logFormat : s.logFormat = (lookUp "LOG_FORMAT").getD "text"

/-- What is wrong with named texts: the address of the database is missing, or a number
offends and those that are read before it do not. -/
inductive Blames (lookUp : String → Option String) : SettingsError → Prop where
  | missing
      (absent : lookUp "DATABASE_URL" = none) :
      Blames lookUp (.missing "DATABASE_URL")
  | invalid
      {before after : List NumericSetting} {q : NumericSetting}
      (present : lookUp "DATABASE_URL" ≠ none)
      (split : NumericSetting.inOrder = before ++ q :: after)
      (earlier : ∀ p ∈ before, ¬ p.Offends lookUp)
      (offends : q.Offends lookUp) :
      Blames lookUp (.invalid q.name)

/-! ## One number -/

section Number

variable {lookUp : String → Option String} {name : String} {most default n : Nat}

theorem number_of_none
    (absent : lookUp name = none) :
    number lookUp name most default = .ok default := by
  rw [number, absent]

theorem number_of_some
    {text : String}
    (present : lookUp name = some text) :
    number lookUp name most default = .ok n ↔
      (∃ numeral, Text.Trims text.toList numeral ∧ Text.SpellsNatural numeral n) ∧ n ≤ most := by
  have hread : number lookUp name most default = .ok n ↔
      Text.readNat most (Text.trim text.toList) = .ok n := by
    rw [number, present]
    dsimp only
    cases Text.readNat most (Text.trim text.toList) <;> simp [Except.mapError]
  rw [hread, Text.readNat_eq_ok_iff]
  constructor
  · rintro ⟨spells, hle⟩
    exact ⟨⟨_, Text.trims_trim _, spells⟩, hle⟩
  · rintro ⟨⟨numeral, trims, spells⟩, hle⟩
    rw [Text.trim_eq_iff.mpr trims]
    exact ⟨spells, hle⟩

theorem error_of_number
    {e : SettingsError}
    (fails : number lookUp name most default = .error e) :
    e = .invalid name := by
  rw [number] at fails
  split at fails
  · cases fails
  · cases hread : Text.readNat most (Text.trim _) with
    | ok n =>
        rw [hread] at fails
        cases fails
    | error e =>
        rw [hread] at fails
        cases fails
        rfl

theorem positive_eq_ok_iff :
    positive lookUp name most default = .ok n ↔
      number lookUp name most default = .ok n ∧ 1 ≤ n := by
  rw [positive]
  cases number lookUp name most default with
  | error e => simp
  | ok m =>
      cases m with
      | zero => simp; omega
      | succ m => simp; omega

theorem error_of_positive
    {e : SettingsError}
    (fails : positive lookUp name most default = .error e) :
    e = .invalid name := by
  rw [positive] at fails
  split at fails
  · cases fails
    rfl
  · exact error_of_number fails

end Number

end Settings

namespace NumericSetting

open Settings

variable {lookUp : String → Option String}

/-- Every default is in its range. -/
theorem least_le_default (q : NumericSetting) : q.least ≤ q.default := by
  cases q <;> decide

theorem Is.least_le
    {q : NumericSetting} {n : Nat}
    (is : q.Is lookUp n) :
    q.least ≤ n := by
  obtain ⟨-, rfl⟩ | ⟨text, -, denotes⟩ := is
  · exact q.least_le_default
  · exact denotes.least

/-- A number is read exactly as what it is. -/
theorem read_eq_ok_iff
    {q : NumericSetting} {n : Nat} :
    q.read lookUp = .ok n ↔ q.Is lookUp n := by
  have hnumber : q.read lookUp = .ok n ↔
      number lookUp q.name (2 ^ q.width - 1) q.default = .ok n ∧ q.least ≤ n := by
    cases q with
    | databaseMaxConnections => simp [read, name, width, default, least]
    | port => simp [read, name, width, default, least]
    | orderMaxLines => exact positive_eq_ok_iff
    | storeTimeoutMillis => exact positive_eq_ok_iff
  have hwidth : n ≤ 2 ^ q.width - 1 ↔ n < 2 ^ q.width :=
    Nat.le_sub_one_iff_lt (Nat.two_pow_pos q.width)
  rw [hnumber, Is]
  cases hset : lookUp q.name with
  | none =>
      rw [number_of_none hset]
      simp only [Except.ok.injEq, true_and, reduceCtorEq, false_and, exists_const, or_false]
      constructor
      · rintro ⟨rfl, -⟩
        rfl
      · rintro rfl
        exact ⟨rfl, q.least_le_default⟩
  | some text =>
      rw [number_of_some hset, hwidth]
      simp only [reduceCtorEq, false_and, Option.some.injEq, exists_eq_left', false_or]
      exact ⟨fun h => ⟨h.1.1, h.1.2, h.2⟩, fun h => ⟨⟨h.spells, h.fits⟩, h.least⟩⟩

theorem error_of_read
    {q : NumericSetting} {e : SettingsError}
    (fails : q.read lookUp = .error e) :
    e = .invalid q.name := by
  cases q with
  | databaseMaxConnections => exact error_of_number fails
  | port => exact error_of_number fails
  | orderMaxLines => exact error_of_positive fails
  | storeTimeoutMillis => exact error_of_positive fails

/-- A number is set to something, or left to its default, or it offends. -/
theorem exists_is_iff
    {q : NumericSetting} :
    (∃ n, q.Is lookUp n) ↔ ¬ q.Offends lookUp := by
  rw [Offends]
  cases hset : lookUp q.name with
  | none => simp [Is, hset]
  | some text => simp [Is, hset]

theorem read_eq_error_iff
    {q : NumericSetting} {e : SettingsError} :
    q.read lookUp = .error e ↔ q.Offends lookUp ∧ e = .invalid q.name := by
  have hoffends : q.Offends lookUp ↔ ∀ n, q.read lookUp ≠ .ok n := by
    simp only [ne_eq, read_eq_ok_iff, ← not_exists, exists_is_iff, not_not]
  rw [hoffends]
  constructor
  · intro fails
    refine ⟨?_, error_of_read fails⟩
    rw [fails]
    nofun
  · rintro ⟨fails, rfl⟩
    cases hread : q.read lookUp with
    | ok n => exact absurd hread (fails n)
    | error e => rw [error_of_read hread]

theorem mem_inOrder (q : NumericSetting) : q ∈ inOrder := by
  cases q <;> decide

end NumericSetting

namespace Settings

open NumericSetting (inOrder)

variable {lookUp : String → Option String}

/-! ## All settings -/

theorem load_of_absent
    (absent : lookUp "DATABASE_URL" = none) :
    load lookUp = .error (.missing "DATABASE_URL") := by
  simp only [load, absent]
  rfl

/-- Texts whose numbers are all read are loaded. -/
theorem load_of_read
    {url : String} {numbers : NumericSetting → Nat}
    (present : lookUp "DATABASE_URL" = some url)
    (reads : ∀ q : NumericSetting, q.read lookUp = .ok (numbers q)) :
    load lookUp = .ok
      { databaseUrl := url
        databaseMaxConnections := numbers .databaseMaxConnections
        host := (lookUp "HOST").getD "127.0.0.1"
        port := numbers .port
        environment := (lookUp "ENVIRONMENT").getD "development"
        orderMaxLines := numbers .orderMaxLines
        storeTimeoutMillis := numbers .storeTimeoutMillis
        logFormat := (lookUp "LOG_FORMAT").getD "text" } := by
  have hconnections := reads .databaseMaxConnections
  have hport := reads .port
  have hlines := reads .orderMaxLines
  have htimeout := reads .storeTimeoutMillis
  simp only [NumericSetting.read] at hconnections hport hlines htimeout
  simp only [load, present, hconnections, hport, hlines, htimeout]
  rfl

/-- A number that is not read is what loading fails with, if those before it are read. -/
theorem load_of_unread
    {e : SettingsError}
    (present : lookUp "DATABASE_URL" ≠ none)
    (fails : inOrder.mapM (NumericSetting.read lookUp) = .error e) :
    load lookUp = .error e := by
  obtain ⟨url, hurl⟩ := Option.ne_none_iff_exists'.mp present
  simp only [inOrder, List.mapM_cons, List.mapM_nil, NumericSetting.read] at fails
  simp only [load, hurl]
  -- Both sides bind the four numbers in turn, so each stops where the other does.
  cases hconnections : number lookUp "DATABASE_MAX_CONNECTIONS" 0xFFFFFFFF 10 with
  | error e' =>
      rw [hconnections] at fails
      cases fails
      rfl
  | ok connections =>
  cases hport : number lookUp "PORT" 0xFFFF 3000 with
  | error e' =>
      rw [hconnections, hport] at fails
      cases fails
      rfl
  | ok port =>
  cases hlines : positive lookUp "ORDER_MAX_LINES" 0xFFFFFFFFFFFFFFFF 5 with
  | error e' =>
      rw [hconnections, hport, hlines] at fails
      cases fails
      rfl
  | ok lines =>
  cases htimeout : positive lookUp "STORE_TIMEOUT_MS" 0xFFFFFFFFFFFFFFFF 5000 with
  | error e' =>
      rw [hconnections, hport, hlines, htimeout] at fails
      cases fails
      rfl
  | ok millis =>
      rw [hconnections, hport, hlines, htimeout] at fails
      cases fails

/-- All numbers are read, or reading them in order fails. -/
theorem read_or_unread
    (lookUp : String → Option String) :
    (∃ numbers : NumericSetting → Nat, ∀ q : NumericSetting, q.read lookUp = .ok (numbers q)) ∨
      ∃ e, inOrder.mapM (NumericSetting.read lookUp) = .error e := by
  cases hnumbers : inOrder.mapM (NumericSetting.read lookUp) with
  | error e =>
      exact Or.inr ⟨e, rfl⟩
  | ok ns =>
      have reads : ∀ q : NumericSetting, ∃ n, q.read lookUp = .ok n := by
        intro q
        have read := List.Forall₂.flip (mapM_eq_ok_iff.mp hnumbers)
        obtain ⟨n, _, hread⟩ := exists_mem_of_forall₂ read q.mem_inOrder
        exact ⟨n, hread⟩
      exact Or.inl ⟨fun q => (reads q).choose, fun q => (reads q).choose_spec⟩

/-- Loading gives exactly the settings that the texts give. -/
theorem load_eq_ok_iff
    {s : Settings} :
    load lookUp = .ok s ↔ s.Given lookUp := by
  constructor
  · intro loads
    cases hurl : lookUp "DATABASE_URL" with
    | none =>
        rw [load_of_absent hurl] at loads
        cases loads
    | some url =>
        rcases read_or_unread lookUp with ⟨numbers, reads⟩ | ⟨e, fails⟩
        · rw [load_of_read hurl reads] at loads
          cases loads
          refine ⟨hurl, fun q => NumericSetting.read_eq_ok_iff.mp ?_, rfl, rfl, rfl⟩
          cases q <;> exact reads _
        · rw [load_of_unread (by simp [hurl]) fails] at loads
          cases loads
  · intro given
    rw [load_of_read given.databaseUrl fun q =>
      NumericSetting.read_eq_ok_iff.mpr (given.numbers q)]
    cases s
    simp only [← given.host, ← given.environment, ← given.logFormat, NumericSetting.valueIn]

/-- Loading reports exactly what is wrong with the texts. -/
theorem load_eq_error_iff
    {e : SettingsError} :
    load lookUp = .error e ↔ Blames lookUp e := by
  constructor
  · intro fails
    cases hurl : lookUp "DATABASE_URL" with
    | none =>
        rw [load_of_absent hurl] at fails
        cases fails
        exact .missing hurl
    | some url =>
        have present : lookUp "DATABASE_URL" ≠ none := by simp [hurl]
        rcases read_or_unread lookUp with ⟨numbers, reads⟩ | ⟨e', unread⟩
        · rw [load_of_read hurl reads] at fails
          cases fails
        · rw [load_of_unread present unread] at fails
          cases fails
          obtain ⟨before, q, after, split, earlier, fails⟩ := mapM_eq_error_iff.mp unread
          obtain ⟨offends, rfl⟩ := NumericSetting.read_eq_error_iff.mp fails
          refine .invalid present split (fun p hp => ?_) offends
          obtain ⟨n, hread⟩ := earlier p hp
          exact NumericSetting.exists_is_iff.mp ⟨n, NumericSetting.read_eq_ok_iff.mp hread⟩
  · intro blames
    cases blames with
    | missing absent => exact load_of_absent absent
    | @invalid before after q present split earlier offends =>
        refine load_of_unread present (mapM_eq_error_iff.mpr ⟨before, q, after, split, ?_, ?_⟩)
        · intro p hp
          obtain ⟨n, hn⟩ := NumericSetting.exists_is_iff.mpr (earlier p hp)
          exact ⟨n, NumericSetting.read_eq_ok_iff.mpr hn⟩
        · exact NumericSetting.read_eq_error_iff.mpr ⟨offends, rfl⟩

end Settings

/-- **Settings are loaded exactly from valid texts.**  Loading succeeds exactly if the address
of the database is given and every number that is set denotes one: between blanks it is an
optional plus and one or more digits, its value fits the width, and the last two are not zero.

* What is loaded is what the texts give: each number or its default, and the other texts as
  they are.
* The last two numbers are at least 1, and the parts of the time limit make up exactly its
  milliseconds.
* Otherwise the missing address is reported, and else the first number that offends. -/
theorem settings_load_exactly_from_valid_texts
    (lookUp : String → Option String) :
    ((∃ s, load lookUp = .ok s) ↔
      lookUp "DATABASE_URL" ≠ none ∧
        ∀ q : NumericSetting, ∀ text, lookUp q.name = some text → ∃ n, q.Denotes text n) ∧
    (∀ s, load lookUp = .ok s ↔ s.Given lookUp) ∧
    (∀ s, load lookUp = .ok s →
      1 ≤ s.orderMaxLines ∧ 1 ≤ s.storeTimeoutMillis ∧
        s.storeTimeout.subsecNanos < 1000000000 ∧
        s.storeTimeout.seconds * 1000000000 + s.storeTimeout.subsecNanos =
          s.storeTimeoutMillis * 1000000) ∧
    (∀ e, load lookUp = .error e ↔ Settings.Blames lookUp e) := by
  refine ⟨⟨?_, ?_⟩, fun s => Settings.load_eq_ok_iff, ?_, fun e => Settings.load_eq_error_iff⟩
  · rintro ⟨s, loads⟩
    have given := Settings.load_eq_ok_iff.mp loads
    refine ⟨by simp [given.databaseUrl], ?_⟩
    intro q text set
    by_contra unread
    exact NumericSetting.exists_is_iff.mp ⟨_, given.numbers q⟩
      ⟨text, set, fun n denotes => unread ⟨n, denotes⟩⟩
  · rintro ⟨present, denote⟩
    obtain ⟨url, hurl⟩ := Option.ne_none_iff_exists'.mp present
    rcases Settings.read_or_unread lookUp with ⟨numbers, reads⟩ | ⟨e, unread⟩
    · exact ⟨_, Settings.load_of_read hurl reads⟩
    · obtain ⟨before, q, after, -, -, fails⟩ := mapM_eq_error_iff.mp unread
      obtain ⟨text, set, none⟩ := (NumericSetting.read_eq_error_iff.mp fails).1
      obtain ⟨n, denotes⟩ := denote q text set
      exact absurd denotes (none n)
  · intro s loads
    have given := Settings.load_eq_ok_iff.mp loads
    refine ⟨(given.numbers .orderMaxLines).least_le, (given.numbers .storeTimeoutMillis).least_le,
      Nat.mod_lt _ (by decide), s.storeTimeout.seconds_subsecNanos⟩

end OrderDesk
