import OrderDesk.Proofs.Identifier
import OrderDesk.Proofs.Placement
import OrderDesk.Proofs.Service.Failures
import OrderDesk.Proofs.Text.Blank

/-!
# What validation accepts and what it blames

A request is read line by line, and the first line that is not well-formed is blamed.  The
number of lines is looked at before any of them.

* `LineRequest.Names`: a well-formed line, and what it names.
* `LineRequest.Fault`: what is wrong with a line, as a cause and in words.
* `OrderPolicy.Rejection`: what is wrong with a request: the number of its lines, or the
  first of them that has a fault.
* `validation_accepts_the_well_formed_and_blames_the_first_fault`: validation accepts and
  rejects exactly so.
-/

namespace OrderDesk
namespace LineRequest

/-- A well-formed line and what it names: between blanks it spells the identifier of a
product, and its quantity is positive. -/
structure Names (line : LineRequest) (valid : ValidLine) : Prop where
  productId : ∃ text,
    Text.Trims line.productId.toList text ∧ valid.productId.Spelling text
  quantity : valid.quantity = line.quantity
  positive : 0 < line.quantity

/-- What is wrong with a line at a position: the cause and its wording.  The product comes
before the quantity. -/
inductive Fault (index : Nat) (line : LineRequest) : InputError → String → Prop where
  /-- The product is blank. -/
  | required
      (blank : ∀ c ∈ line.productId.toList, Text.isBlank c = true) :
      Fault index line (.productRequired index)
        ("line " ++ toString index ++ ": product_id is required")
  /-- What stands between the blanks spells no identifier. -/
  | invalid
      {text : List Char}
      (visible : text ≠ [])
      (trims : Text.Trims line.productId.toList text)
      (unspelled : ∀ id : Identifier, ¬ id.Spelling text) :
      Fault index line (.productInvalid index (String.ofList text))
        ("line " ++ toString index ++ ": product_id '" ++ String.ofList text ++
          "' is not a valid id")
  /-- The product is spelled well, but the quantity is not positive. -/
  | quantity
      {text : List Char} {id : Identifier}
      (trims : Text.Trims line.productId.toList text)
      (spelled : id.Spelling text)
      (low : line.quantity ≤ 0) :
      Fault index line (.quantityNotPositive index)
        ("line " ++ toString index ++ ": quantity must be positive")

theorem names_iff_readsAs
    {line : LineRequest} {valid : ValidLine} :
    line.Names valid ↔ line.ReadsAs valid := by
  constructor
  · rintro ⟨⟨text, trims, spelled⟩, quantity, positive⟩
    refine ⟨?_, quantity, positive⟩
    rw [Text.trim_eq_iff.mpr trims]
    exact spelled.parse?_eq
  · rintro ⟨productId, quantity, positive⟩
    exact ⟨⟨_, Text.trims_trim _, Identifier.spelling_of_parse? productId⟩, quantity, positive⟩

theorem validate_eq_error_iff
    {index : Nat} {line : LineRequest} {e : InputError} :
    line.validate index = .error e ↔ line.Fault index e e.message := by
  constructor
  · intro rejects
    rw [validate] at rejects
    split at rejects
    · rename_i blank
      cases rejects
      exact .required (Text.trim_eq_nil_iff.mp (List.isEmpty_iff.mp blank))
    · rename_i visible
      split at rejects
      · rename_i unread
        cases rejects
        refine .invalid (mt List.isEmpty_iff.mpr visible) (Text.trims_trim _) ?_
        intro id spelled
        rw [spelled.parse?_eq] at unread
        cases unread
      · rename_i id read
        split at rejects
        · rename_i low
          cases rejects
          exact .quantity (Text.trims_trim _) (Identifier.spelling_of_parse? read) low
        · cases rejects
  · intro fault
    generalize e.message = wording at fault
    rw [validate]
    cases fault with
    | required blank =>
        rw [Text.trim_eq_nil_iff.mpr blank]
        rfl
    | @invalid text visible trims unspelled =>
        have unread : Identifier.parse? text = none := by
          cases read : Identifier.parse? text with
          | none => rfl
          | some id => exact absurd (Identifier.spelling_of_parse? read) (unspelled id)
        simp [Text.trim_eq_iff.mpr trims, visible, unread]
    | @quantity text id trims spelled low =>
        have visible : text ≠ [] := by
          rintro rfl
          cases spelled.parse?_eq
        simp [Text.trim_eq_iff.mpr trims, visible, spelled.parse?_eq, low]

theorem exists_names_iff
    {request : List LineRequest} :
    (∃ valid, List.Forall₂ Names request valid) ↔
      ∀ line ∈ request, ∃ valid, line.Names valid := by
  induction request with
  | nil => simp
  | cons line request ih => simp [List.forall₂_cons_left_iff, ← ih]

theorem validate_eq_ok_iff_names
    (index : Nat)
    {line : LineRequest} {valid : ValidLine} :
    line.validate index = .ok valid ↔ line.Names valid :=
  (validate_eq_ok_iff index).trans names_iff_readsAs.symm

theorem validateFrom_cons_eq_error_iff
    {index : Nat} {line : LineRequest} {lines : List LineRequest} {e : InputError} :
    validateFrom index (line :: lines) = .error e ↔
      line.Fault index e e.message ∨
        (∃ valid, line.Names valid) ∧ validateFrom (index + 1) lines = .error e := by
  rw [validateFrom, ← validate_eq_error_iff]
  simp only [← validate_eq_ok_iff_names index]
  cases hline : line.validate index with
  | error e =>
      simp [bind, Except.bind]
  | ok first =>
      cases hrest : validateFrom (index + 1) lines <;>
        simp [bind, Except.bind, pure, Except.pure]

/-- Of several lines the first that has a fault is blamed. -/
theorem validateFrom_eq_error_iff
    {index : Nat} {lines : List LineRequest} {e : InputError} :
    validateFrom index lines = .error e ↔
      ∃ before line after,
        lines = before ++ line :: after ∧
        (∀ l ∈ before, ∃ valid, l.Names valid) ∧
        line.Fault (index + before.length) e e.message := by
  induction lines generalizing index with
  | nil =>
      simp [validateFrom]
  | cons first rest ih =>
      rw [validateFrom_cons_eq_error_iff, ih]
      constructor
      · rintro (fault | ⟨passed, before, line, after, rfl, earlier, fault⟩)
        · exact ⟨[], first, rest, rfl, List.forall_mem_nil _, fault⟩
        · refine ⟨first :: before, line, after, rfl,
            List.forall_mem_cons.mpr ⟨passed, earlier⟩, ?_⟩
          rwa [List.length_cons, Nat.add_comm before.length 1, ← Nat.add_assoc]
      · rintro ⟨before, line, after, split, earlier, fault⟩
        cases before with
        | nil =>
            cases split
            exact Or.inl fault
        | cons b before =>
            cases split
            obtain ⟨passed, earlier⟩ := List.forall_mem_cons.mp earlier
            refine Or.inr ⟨passed, before, line, after, rfl, earlier, ?_⟩
            rwa [List.length_cons, Nat.add_comm before.length 1, ← Nat.add_assoc] at fault

end LineRequest

namespace OrderPolicy

variable {policy : OrderPolicy} {request : List LineRequest}

/-- What is wrong with a request: the cause and its wording.  The number of lines comes
before the lines, and an earlier line before a later one. -/
inductive Rejection (policy : OrderPolicy) (request : List LineRequest) :
    InputError → String → Prop where
  | noLines
      (empty : request = []) :
      Rejection policy request .noLines "order must contain at least one line"
  | tooManyLines
      (most : policy.maxLines < request.length)
      (some : request ≠ []) :
      Rejection policy request (.tooManyLines policy.maxLines request.length)
        ("order may contain at most " ++ toString policy.maxLines ++ " lines, got " ++
          toString request.length)
  | line
      {before after : List LineRequest} {line : LineRequest} {e : InputError} {wording : String}
      (most : request.length ≤ policy.maxLines)
      (split : request = before ++ line :: after)
      (earlier : ∀ l ∈ before, ∃ valid, l.Names valid)
      (fault : line.Fault before.length e wording) :
      Rejection policy request e wording

theorem validate_eq_ok_iff
    {valid : List ValidLine} :
    policy.validate request = .ok valid ↔
      1 ≤ request.length ∧ request.length ≤ policy.maxLines ∧
        List.Forall₂ LineRequest.Names request valid := by
  have hnames : LineRequest.validateFrom 0 request = .ok valid ↔
      List.Forall₂ LineRequest.Names request valid :=
    (LineRequest.validateFrom_eq_ok_iff 0).trans
      ⟨.imp fun _ _ => LineRequest.names_iff_readsAs.mpr,
        .imp fun _ _ => LineRequest.names_iff_readsAs.mp⟩
  rw [← hnames, validate]
  split
  · rename_i empty
    simp [List.isEmpty_iff.mp empty]
  · rename_i some
    have positive : 1 ≤ request.length :=
      List.length_pos_iff.mpr (mt List.isEmpty_iff.mpr some)
    split <;> simp [positive] <;> omega

theorem validate_eq_error_iff
    {e : InputError} :
    policy.validate request = .error e ↔ Rejection policy request e e.message := by
  constructor
  · intro rejects
    rw [validate] at rejects
    split at rejects
    · rename_i empty
      cases rejects
      exact .noLines (List.isEmpty_iff.mp empty)
    · rename_i some
      split at rejects
      · rename_i most
        cases rejects
        exact .tooManyLines most (mt List.isEmpty_iff.mpr some)
      · rename_i most
        obtain ⟨before, line, after, split, earlier, fault⟩ :=
          LineRequest.validateFrom_eq_error_iff.mp rejects
        exact .line (Nat.le_of_not_lt most) split earlier (Nat.zero_add before.length ▸ fault)
  · intro rejection
    generalize hwording : e.message = wording at rejection
    rw [validate]
    cases rejection with
    | noLines empty => simp [empty]
    | tooManyLines most some => simp [some, most]
    | @line before after line _ _ most split earlier fault =>
        have some : request ≠ [] := by simp [split]
        have rejects : LineRequest.validateFrom 0 request = .error e := by
          refine LineRequest.validateFrom_eq_error_iff.mpr
            ⟨before, line, after, split, earlier, ?_⟩
          rw [Nat.zero_add, hwording]
          exact fault
        simp [some, Nat.not_lt.mpr most, rejects]

end OrderPolicy

/-- **Validation accepts exactly the well-formed requests and blames the first fault.**  A
request is accepted exactly if it has at least one line and at most as many as the policy
allows, and each line names, between blanks, the identifier of a product in one of its
spellings, and a positive quantity; line by line these are what is accepted.  Any other
request is rejected for the first thing that is wrong with it: that there is no line, or
that there are too many, or the first line that has a fault, where a product that is missing
comes before one that is no identifier, and that before a quantity that is not positive. -/
theorem validation_accepts_the_well_formed_and_blames_the_first_fault
    (policy : OrderPolicy)
    (request : List LineRequest) :
    (∀ valid, policy.validate request = .ok valid ↔
      1 ≤ request.length ∧ request.length ≤ policy.maxLines ∧
        List.Forall₂ LineRequest.Names request valid) ∧
    ((∃ valid, policy.validate request = .ok valid) ↔
      1 ≤ request.length ∧ request.length ≤ policy.maxLines ∧
        ∀ line ∈ request, ∃ valid, line.Names valid) ∧
    (∀ e, policy.validate request = .error e ↔
      OrderPolicy.Rejection policy request e e.message) := by
  refine ⟨fun valid => OrderPolicy.validate_eq_ok_iff, ?_,
    fun e => OrderPolicy.validate_eq_error_iff⟩
  simp only [OrderPolicy.validate_eq_ok_iff, exists_and_left, LineRequest.exists_names_iff]

end OrderDesk
