import Mathlib.Data.List.Forall2
import OrderDesk.Proofs.Memory.Faults
import OrderDesk.Proofs.Service
import OrderDesk.Proofs.Traversal

/-!
# Failed operations

An operation that fails leaves no trace, whatever has made it fail: a business
rule, an amount that is too large, the store itself, or a call that is made to
fail.  What it reports is the first thing that goes wrong.

* `quoted`, `price`: what a line costs, or why that cannot be told, by any answers to
  lookups, and by those that the catalog gives.
* `run_priceLines`: lines are priced in order, and a product that is already known
  needs no second lookup.
* `PlacementFailure`: how a placement may fail, in the order of its steps.
* `failed_operations_are_atomic`: the failures of all operations, side by side.
-/

namespace OrderDesk

namespace Service

variable {fault : Option Fault} {o : Occasion} {m : Memory}

/-! ## Lines -/

/-- The answer to the lookup of a product. -/
def lookUp (fault : Option Fault) (o : Occasion) (m : Memory) (id : Identifier) :
    Except StoreError Product :=
  (m.answerUnder fault o (.product id)).1

/-- What a placement reports of a failed lookup. -/
def lookupFailure (id : Identifier) (e : StoreError) : Failure :=
  if e.isNotFound then refused (.productNotFound id.text) else passed e

/-- What a line costs by the answers to lookups, or why it cannot be priced. -/
def quoted (answers : Identifier → Except StoreError Product) (line : ValidLine) :
    Except Failure PricedLine :=
  match answers line.productId with
  | .error e => .error (lookupFailure line.productId e)
  | .ok product =>
    (PricedLine.of line.productId line.quantity product.price).mapError .overflow

/-- What a line costs by the answers of the catalog, or why it cannot be priced. -/
def price (fault : Option Fault) (o : Occasion) (m : Memory) (line : ValidLine) :
    Except Failure PricedLine :=
  quoted (lookUp fault o m) line

/-- The products known so far are those that a lookup would give. -/
def Consistent (fault : Option Fault) (o : Occasion) (m : Memory) (known : Known) : Prop :=
  ∀ id product, known.lookup id = some product → lookUp fault o m id = .ok product

/-- What is known stays known. -/
def Kept (known known' : Known) : Prop :=
  ∀ id product, known.lookup id = some product → known'.lookup id = some product

theorem answerUnder_product
    (fault : Option Fault)
    (o : Occasion)
    (m : Memory)
    (id : Identifier) :
    m.answerUnder fault o (.product id) = (lookUp fault o m id, m) :=
  Prod.ext rfl (Memory.answerUnder_of_reading (Or.inl rfl) fault o m)

theorem consistent_nil
    (fault : Option Fault)
    (o : Occasion)
    (m : Memory) :
    Consistent fault o m [] :=
  nofun

/-- A product that was looked up may be kept. -/
theorem Consistent.concat
    {known : Known} {id : Identifier} {product : Product}
    (consistent : Consistent fault o m known)
    (found : lookUp fault o m id = .ok product) :
    Consistent fault o m (known ++ [(id, product)]) := by
  intro id' product' hknown
  rw [List.lookup_append] at hknown
  cases hbefore : known.lookup id' with
  | some before =>
      rw [hbefore] at hknown
      cases hknown
      exact consistent id' _ hbefore
  | none =>
      rw [hbefore, Option.none_or] at hknown
      by_cases h : id' = id
      · subst h
        rw [List.lookup_cons_self] at hknown
        cases hknown
        exact found
      · rw [List.lookup_cons, beq_false_of_ne h] at hknown
        cases hknown

theorem kept_append (known more : Known) : Kept known (known ++ more) := by
  intro id product hknown
  rw [List.lookup_append, hknown, Option.some_or]

theorem run_productFor
    {known : Known}
    (consistent : Consistent fault o m known)
    (id : Identifier) :
    ∃ known',
      Consistent fault o m known' ∧
      Kept known known' ∧
      (∀ product, lookUp fault o m id = .ok product → known'.lookup id = some product) ∧
      (productFor known id).run (Memory.answerUnder fault o) m =
        (match lookUp fault o m id with
          | .ok product => .ok (product, known')
          | .error e => .error (lookupFailure id e), m) := by
  rw [productFor]
  cases hknown : known.lookup id with
  | some product =>
      refine ⟨known, consistent, fun _ _ h => h, ?_, ?_⟩
      · intro product' hlookup
        rw [consistent id product hknown] at hlookup
        cases hlookup
        exact hknown
      · rw [consistent id product hknown]
        rfl
  | none =>
      cases hlookup : lookUp fault o m id with
      | error e =>
          refine ⟨known, consistent, fun _ _ h => h, ?_, ?_⟩
          · intro product hok
            cases hok
          · simp only [resolve, Dialogue.monad_bind_eq, Dialogue.ask_bind, Dialogue.run,
              answerUnder_product, hlookup, lookupFailure]
            split <;> rfl
      | ok product =>
          refine ⟨known ++ [(id, product)], consistent.concat hlookup,
            kept_append known _, ?_, ?_⟩
          · intro product' hsame
            cases hsame
            rw [List.lookup_append, hknown, Option.none_or, List.lookup_cons_self]
          · simp [resolve, Dialogue.run, answerUnder_product, hlookup]

/-- Lines are priced in order, and nothing is changed.  Afterwards the product of every
line is known. -/
theorem run_priceLines
    (lines : List ValidLine)
    {known : Known}
    (consistent : Consistent fault o m known) :
    ∃ known',
      Consistent fault o m known' ∧
      Kept known known' ∧
      (∀ priced, lines.mapM (price fault o m) = .ok priced →
        ∀ line ∈ lines, ∃ product, known'.lookup line.productId = some product) ∧
      (priceLines lines known).run (Memory.answerUnder fault o) m =
        ((lines.mapM (price fault o m)).map fun priced => (priced, known'), m) := by
  induction lines generalizing known with
  | nil =>
      exact ⟨known, consistent, fun _ _ h => h, nofun, rfl⟩
  | cons line lines ih =>
      obtain ⟨known₁, consistent₁, kept₁, first, hproduct⟩ :=
        run_productFor consistent line.productId
      rw [List.mapM_cons, price, quoted]
      simp only [priceLines, Dialogue.monad_bind_eq, Dialogue.run_bind, hproduct]
      cases hlookup : lookUp fault o m line.productId with
      | error e =>
          exact ⟨known₁, consistent₁, kept₁, nofun, rfl⟩
      | ok product =>
          simp only []
          cases hof : PricedLine.of line.productId line.quantity product.price with
          | error overflow =>
              exact ⟨known₁, consistent₁, kept₁, nofun, rfl⟩
          | ok priced =>
              obtain ⟨known₂, consistent₂, kept₂, others, hrest⟩ := ih consistent₁
              refine ⟨known₂, consistent₂,
                fun id p hknown => kept₂ id p (kept₁ id p hknown), ?_, ?_⟩
              · intro all hall l hl
                rcases List.mem_cons.mp hl with rfl | hl
                · exact ⟨product, kept₂ _ _ (first product hlookup)⟩
                · cases hmapM : lines.mapM (price fault o m) with
                  | error failure =>
                      rw [hmapM] at hall
                      cases hall
                  | ok rest =>
                      exact others rest hmapM l hl
              · simp only [Except.mapError, Dialogue.ofExcept, Dialogue.run, hrest]
                cases lines.mapM (price fault o m) <;> rfl

/-! ## Placing -/

/-- What a placement reports if the order cannot be stored. -/
def creationFailure : Interruption StoreError → Failure
  | .error e => passed e
  | .overflow x => .overflow x

/-- How a placement fails.  Each step is reached only if all earlier ones succeed. -/
inductive PlacementFailure
    (fault : Option Fault)
    (o : Occasion)
    (m : Memory)
    (policy : OrderPolicy)
    (userId : Identifier)
    (request : List LineRequest) :
    Failure → Prop where
  /-- The request is not well-formed. -/
  | invalid
      {e : InputError}
      (invalid : policy.validate request = .error e) :
      PlacementFailure fault o m policy userId request (refused (.invalidInput e))
  /-- The product of a line does not exist. -/
  | missing
      {before after : List ValidLine} {line : ValidLine} {e : StoreError}
      (valid : policy.validate request = .ok (before ++ line :: after))
      (priced : ∀ l ∈ before, ∃ p, price fault o m l = .ok p)
      (lookup : (m.answerUnder fault o (.product line.productId)).1 = .error e)
      (missing : e.isNotFound = true) :
      PlacementFailure fault o m policy userId request
        (refused (.productNotFound line.productId.text))
  /-- The product of a line cannot be looked up. -/
  | unanswered
      {before after : List ValidLine} {line : ValidLine} {e : StoreError}
      (valid : policy.validate request = .ok (before ++ line :: after))
      (priced : ∀ l ∈ before, ∃ p, price fault o m l = .ok p)
      (lookup : (m.answerUnder fault o (.product line.productId)).1 = .error e)
      (other : e.isNotFound = false) :
      PlacementFailure fault o m policy userId request (passed e)
  /-- The price of a line is too large. -/
  | tooLarge
      {before after : List ValidLine} {line : ValidLine} {product : Product} {x : Overflow}
      (valid : policy.validate request = .ok (before ++ line :: after))
      (priced : ∀ l ∈ before, ∃ p, price fault o m l = .ok p)
      (lookup : (m.answerUnder fault o (.product line.productId)).1 = .ok product)
      (tooLarge : product.price.mul (Decimal.ofInt32 line.quantity) = .error x) :
      PlacementFailure fault o m policy userId request (.overflow x)
  /-- The order is not stored. -/
  | unstored
      {all : List ValidLine} {lines : List PricedLine} {e : Interruption StoreError}
      (valid : policy.validate request = .ok all)
      (priced : List.Forall₂ (fun l p => price fault o m l = .ok p) all lines)
      (creates : (m.answerUnder fault o (.create userId lines)).1 = .error e) :
      PlacementFailure fault o m policy userId request (creationFailure e)

section Quoted

variable {answers : Identifier → Except StoreError Product} {line : ValidLine}

theorem quoted_eq_error_iff
    {failure : Failure} :
    quoted answers line = .error failure ↔
      (∃ e, answers line.productId = .error e ∧
        failure = lookupFailure line.productId e) ∨
      (∃ product x, answers line.productId = .ok product ∧
        product.price.mul (Decimal.ofInt32 line.quantity) = .error x ∧
        failure = .overflow x) := by
  rw [quoted]
  cases hanswer : answers line.productId with
  | error e =>
      simp [eq_comm]
  | ok product =>
      cases hmul : product.price.mul (Decimal.ofInt32 line.quantity) with
      | error x =>
          simp [PricedLine.of, hmul, bind, Except.bind, Except.mapError, eq_comm]
      | ok total =>
          simp [PricedLine.of, hmul, bind, Except.bind, pure, Except.pure, Except.mapError]

theorem quoted_eq_ok_iff
    {priced : PricedLine} :
    quoted answers line = .ok priced ↔
      ∃ product,
        answers line.productId = .ok product ∧
        product.price.mul (Decimal.ofInt32 line.quantity) = .ok priced.price ∧
        priced.productId = line.productId ∧
        priced.quantity = line.quantity := by
  obtain ⟨productId, quantity, total⟩ := priced
  rw [quoted]
  cases hanswer : answers line.productId with
  | error e =>
      simp
  | ok product =>
      cases hmul : product.price.mul (Decimal.ofInt32 line.quantity) with
      | error x =>
          simp [PricedLine.of, hmul, bind, Except.bind, Except.mapError]
      | ok total' =>
          simp [PricedLine.of, hmul, bind, Except.bind, pure, Except.pure, Except.mapError,
            eq_comm, and_comm, and_assoc]

end Quoted

section Place

variable {policy : OrderPolicy} {userId : Identifier} {request : List LineRequest}

theorem place_of_invalid
    {e : InputError}
    (invalid : policy.validate request = .error e) :
    place policy userId request = .fail (refused (.invalidInput e)) := by
  simp only [place, invalid]
  rfl

theorem run_place_of_unpriced
    {valid : List ValidLine} {failure : Failure}
    (hvalid : policy.validate request = .ok valid)
    (unpriced : valid.mapM (price fault o m) = .error failure) :
    (place policy userId request).run (Memory.answerUnder fault o) m =
      (.error failure, m) := by
  obtain ⟨known, _, _, _, hrun⟩ := run_priceLines valid (consistent_nil fault o m)
  simp only [place, hvalid, Except.mapError, Dialogue.ofExcept, Dialogue.monad_bind_eq,
    Dialogue.done_bind, Dialogue.run_bind, hrun, unpriced, Except.map]

theorem run_place_of_unstored
    {valid : List ValidLine} {lines : List PricedLine} {e : Interruption StoreError}
    (hvalid : policy.validate request = .ok valid)
    (priced : valid.mapM (price fault o m) = .ok lines)
    (unstored : (m.answerUnder fault o (.create userId lines)).1 = .error e) :
    (place policy userId request).run (Memory.answerUnder fault o) m =
      (.error (creationFailure e), m) := by
  obtain ⟨known, _, _, _, hrun⟩ := run_priceLines valid (consistent_nil fault o m)
  simp only [place, hvalid, Except.mapError, Dialogue.ofExcept, Dialogue.monad_bind_eq,
    Dialogue.done_bind, Dialogue.run_bind, hrun, priced, Except.map, store, Dialogue.run,
    Memory.answerUnder_create_of_error unstored]
  cases e <;> rfl

/-- A stored order is answered with the products that its lines were priced from. -/
theorem run_place_of_stored
    {valid : List ValidLine} {lines : List PricedLine} {order : Order}
    (hvalid : policy.validate request = .ok valid)
    (priced : valid.mapM (price fault o m) = .ok lines)
    (stored : (m.answerUnder fault o (.create userId lines)).1 = .ok order) :
    ∃ known : Known,
      Consistent fault o m known ∧
      (∀ line ∈ valid, ∃ product, known.lookup line.productId = some product) ∧
      (place policy userId request).run (Memory.answerUnder fault o) m =
        (.ok (order.withProducts fun id => (known.lookup id).map (·.summary)),
          (m.answerUnder fault o (.create userId lines)).2) := by
  obtain ⟨known, consistent, _, covers, hrun⟩ :=
    run_priceLines valid (consistent_nil fault o m)
  refine ⟨known, consistent, covers lines priced, ?_⟩
  simp only [place, hvalid, Except.mapError, Dialogue.ofExcept, Dialogue.monad_bind_eq,
    Dialogue.done_bind, Dialogue.run_bind, hrun, priced, Except.map, store, Dialogue.run,
    stored]
  rfl

theorem run_place_of_line
    {before after : List ValidLine} {line : ValidLine} {failure : Failure}
    (hvalid : policy.validate request = .ok (before ++ line :: after))
    (earlier : ∀ l ∈ before, ∃ p, price fault o m l = .ok p)
    (fails : price fault o m line = .error failure) :
    (place policy userId request).run (Memory.answerUnder fault o) m =
      (.error failure, m) := by
  have unpriced := mapM_eq_error_iff.mpr ⟨before, line, after, rfl, earlier, fails⟩
  exact run_place_of_unpriced hvalid unpriced

/-- A line that cannot be priced makes the placement fail accordingly. -/
theorem placementFailure_of_line
    {before after : List ValidLine} {line : ValidLine} {failure : Failure}
    (hvalid : policy.validate request = .ok (before ++ line :: after))
    (earlier : ∀ l ∈ before, ∃ p, price fault o m l = .ok p)
    (fails : price fault o m line = .error failure) :
    PlacementFailure fault o m policy userId request failure := by
  rcases quoted_eq_error_iff.mp fails with
    ⟨e, hlookup, rfl⟩ | ⟨product, x, hlookup, hmul, rfl⟩
  · cases hmissing : e.isNotFound with
    | true =>
        rw [lookupFailure, if_pos hmissing]
        exact .missing hvalid earlier hlookup hmissing
    | false =>
        rw [lookupFailure, if_neg (by simp [hmissing])]
        exact .unanswered hvalid earlier hlookup hmissing
  · exact .tooLarge hvalid earlier hlookup hmul

/-- A placement fails in one of the known ways and changes nothing, or all its lines are
priced and the order is stored. -/
theorem place_cases
    (fault : Option Fault)
    (o : Occasion)
    (m : Memory)
    (policy : OrderPolicy)
    (userId : Identifier)
    (request : List LineRequest) :
    (∃ failure,
      (place policy userId request).run (Memory.answerUnder fault o) m =
        (.error failure, m) ∧
      PlacementFailure fault o m policy userId request failure) ∨
    (∃ valid lines order,
      policy.validate request = .ok valid ∧
      valid.mapM (price fault o m) = .ok lines ∧
      (m.answerUnder fault o (.create userId lines)).1 = .ok order) := by
  cases hvalid : policy.validate request with
  | error e =>
      left
      rw [place_of_invalid hvalid]
      exact ⟨_, rfl, .invalid hvalid⟩
  | ok valid =>
      cases hpriced : valid.mapM (price fault o m) with
      | error failure =>
          left
          obtain ⟨before, line, after, rfl, earlier, fails⟩ := mapM_eq_error_iff.mp hpriced
          exact ⟨failure, run_place_of_line hvalid earlier fails,
            placementFailure_of_line hvalid earlier fails⟩
      | ok lines =>
          cases hcreate : (m.answerUnder fault o (.create userId lines)).1 with
          | error e =>
              left
              exact ⟨_, run_place_of_unstored hvalid hpriced hcreate,
                .unstored hvalid (mapM_eq_ok_iff.mp hpriced) hcreate⟩
          | ok order =>
              exact Or.inr ⟨valid, lines, order, rfl, hpriced, hcreate⟩

/-- What a placement that succeeds has gone through: the request is valid, its lines are
priced, and the new order is stored behind all others.  It is answered with the products
that the lines were priced from. -/
theorem place_eq_ok
    {m' : Memory} {order : Order}
    (placed : (place policy userId request).run (Memory.answerUnder fault o) m =
      (.ok order, m')) :
    ∃ valid lines totalPrice known,
      policy.validate request = .ok valid ∧
      valid.mapM (price fault o m) = .ok lines ∧
      Order.totalOf lines = .ok totalPrice ∧
      Consistent fault o m known ∧
      (∀ line ∈ valid, ∃ product, known.lookup line.productId = some product) ∧
      order = (Memory.newOrder o userId lines totalPrice).withProducts
        (fun id => (known.lookup id).map (·.summary)) ∧
      m' = { m with orders := m.orders ++ [Memory.newOrder o userId lines totalPrice] } := by
  rcases place_cases fault o m policy userId request with
    ⟨failure, hrun, _⟩ | ⟨valid, lines, stored, hvalid, hpriced, hcreate⟩
  · rw [hrun] at placed
    cases placed
  · obtain ⟨known, consistent, covers, hrun⟩ := run_place_of_stored hvalid hpriced hcreate
    obtain ⟨totalPrice, htotal, rfl, hstate⟩ := Memory.answerUnder_create_of_ok hcreate
    rw [hrun, hstate, Prod.mk.injEq, Except.ok.injEq] at placed
    obtain ⟨rfl, rfl⟩ := placed
    exact ⟨valid, lines, totalPrice, known, hvalid, hpriced, htotal, consistent, covers,
      rfl, rfl⟩

/-- In each of these ways a placement does fail. -/
theorem PlacementFailure.run
    {failure : Failure}
    (fails : PlacementFailure fault o m policy userId request failure) :
    (place policy userId request).run (Memory.answerUnder fault o) m =
      (.error failure, m) := by
  cases fails with
  | invalid hvalid =>
      rw [place_of_invalid hvalid]
      rfl
  | missing hvalid earlier hlookup hmissing =>
      refine run_place_of_line hvalid earlier (quoted_eq_error_iff.mpr ?_)
      exact Or.inl ⟨_, hlookup, by rw [lookupFailure, if_pos hmissing]⟩
  | unanswered hvalid earlier hlookup hother =>
      refine run_place_of_line hvalid earlier (quoted_eq_error_iff.mpr ?_)
      exact Or.inl ⟨_, hlookup, by rw [lookupFailure, if_neg (by simp [hother])]⟩
  | tooLarge hvalid earlier hlookup hmul =>
      refine run_place_of_line hvalid earlier (quoted_eq_error_iff.mpr ?_)
      exact Or.inr ⟨_, _, hlookup, hmul, rfl⟩
  | unstored hvalid hpriced hcreate =>
      exact run_place_of_unstored hvalid (mapM_eq_ok_iff.mpr hpriced) hcreate

theorem place_fails_iff
    {failure : Failure} :
    ((place policy userId request).run (Memory.answerUnder fault o) m).1 = .error failure ↔
      PlacementFailure fault o m policy userId request failure := by
  constructor
  · intro fails
    rcases place_cases fault o m policy userId request with
      ⟨first, hrun, known⟩ | ⟨valid, lines, order, hvalid, hpriced, hcreate⟩
    · rw [hrun] at fails
      cases fails
      exact known
    · obtain ⟨known, _, _, hrun⟩ := run_place_of_stored hvalid hpriced hcreate
      rw [hrun] at fails
      cases fails
  · intro fails
    rw [fails.run]

end Place

/-! ## All operations -/

/-- An operation that fails leaves the whole state as it was. -/
def FailsAtomically
    {α : Type}
    (fault : Option Fault)
    (o : Occasion)
    (m : Memory)
    (task : Task Failure α) :
    Prop :=
  ∀ failure,
    (task.run (Memory.answerUnder fault o) m).1 = .error failure →
    (task.run (Memory.answerUnder fault o) m).2 = m

theorem place_fails_atomically
    (policy : OrderPolicy)
    (userId : Identifier)
    (request : List LineRequest) :
    FailsAtomically fault o m (place policy userId request) := by
  intro failure fails
  rw [(place_fails_iff.mp fails).run]

theorem run_get
    (id : Identifier) :
    (get id).run (Memory.answerUnder fault o) m =
      ((m.answerUnder fault o (.load id true)).1.mapError passed, m) := by
  have unchanged := Memory.answerUnder_of_reading
    (c := .load id true) (Or.inr (Or.inl rfl)) fault o m
  rw [get, Dialogue.run]
  cases h : (m.answerUnder fault o (.load id true)).1 <;>
    simp [unchanged, h, Dialogue.run, Except.mapError]

theorem run_list
    (userId : Identifier)
    (query : OrderQuery) :
    (list userId query).run (Memory.answerUnder fault o) m =
      ((m.answerUnder fault o (.page userId query)).1.mapError passed, m) := by
  have unchanged := Memory.answerUnder_of_reading
    (c := .page userId query) (Or.inr (Or.inr rfl)) fault o m
  rw [list, Dialogue.run]
  cases h : (m.answerUnder fault o (.page userId query)).1 <;>
    simp [unchanged, h, Dialogue.run, Except.mapError]

theorem run_cancel
    (id userId : Identifier) :
    (cancel id userId).run (Memory.answerUnder fault o) m =
      match (m.answerUnder fault o (.load id false)).1 with
      | .error e => (.error (passed e), m)
      | .ok order =>
        match decideCancel id userId order with
        | .error failure => (.error failure, m)
        | .ok copy => (writing copy).run (Memory.answerUnder fault o) m := by
  have unchanged := Memory.answerUnder_of_reading
    (c := .load id false) (Or.inr (Or.inl rfl)) fault o m
  cases hload : (m.answerUnder fault o (.load id false)).1 with
  | error e =>
      simp only [cancel, Dialogue.run, unchanged, hload]
  | ok order =>
      cases hdecide : decideCancel id userId order with
      | error failure =>
          simp only [cancel, Dialogue.run, unchanged, hload, hdecide]
      | ok copy =>
          simp only [cancel, Dialogue.run, unchanged, hload, hdecide]
          rfl

theorem run_writing_of_error
    {copy : Order} {e : StoreError}
    (fails : (m.answerUnder fault o (.save copy)).1 = .error e) :
    (writing copy).run (Memory.answerUnder fault o) m = (.error (passed e), m) := by
  simp only [writing, Dialogue.run, Memory.answerUnder_save_of_error fails]

theorem run_writing_of_ok
    {copy : Order} {stamp : Stamp}
    (saved : (m.answerUnder fault o (.save copy)).1 = .ok stamp) :
    ((writing copy).run (Memory.answerUnder fault o) m).1 = .ok (copy.stamped stamp) := by
  simp only [writing, Dialogue.run, saved]

theorem cancel_fails_iff
    {id userId : Identifier} {failure : Failure} :
    ((cancel id userId).run (Memory.answerUnder fault o) m).1 = .error failure ↔
      (∃ e, (m.answerUnder fault o (.load id false)).1 = .error e ∧ failure = passed e) ∨
      (∃ order, (m.answerUnder fault o (.load id false)).1 = .ok order ∧
        decideCancel id userId order = .error failure) ∨
      (∃ order copy e, (m.answerUnder fault o (.load id false)).1 = .ok order ∧
        decideCancel id userId order = .ok copy ∧
        (m.answerUnder fault o (.save copy)).1 = .error e ∧ failure = passed e) := by
  rw [run_cancel]
  cases hload : (m.answerUnder fault o (.load id false)).1 with
  | error e =>
      simp [eq_comm]
  | ok order =>
      cases hdecide : decideCancel id userId order with
      | error refusal =>
          simp [hdecide, eq_comm]
      | ok copy =>
          cases hsave : (m.answerUnder fault o (.save copy)).1 with
          | error e =>
              simp [hdecide, hsave, run_writing_of_error hsave, eq_comm]
          | ok stamp =>
              simp [hdecide, hsave, run_writing_of_ok hsave]

theorem cancel_fails_atomically
    (id userId : Identifier) :
    FailsAtomically fault o m (cancel id userId) := by
  intro failure fails
  rw [run_cancel] at fails ⊢
  cases hload : (m.answerUnder fault o (.load id false)).1 with
  | error e =>
      rfl
  | ok order =>
      rw [hload] at fails
      simp only [] at fails ⊢
      cases hdecide : decideCancel id userId order with
      | error refusal =>
          rfl
      | ok copy =>
          rw [hdecide] at fails
          simp only [] at fails ⊢
          cases hsave : (m.answerUnder fault o (.save copy)).1 with
          | error e =>
              rw [run_writing_of_error hsave]
          | ok stamp =>
              rw [run_writing_of_ok hsave] at fails
              cases fails

/-- **Every failed operation is atomic and reports the right error**, in every state
and whichever kind of call is made to fail:

* it leaves the whole state as it was;
* a placement fails exactly by the first thing that goes wrong, and an invalid request
  is refused before anything is asked;
* otherwise an error of the store is passed on unchanged. -/
theorem failed_operations_are_atomic
    (fault : Option Fault)
    (o : Occasion)
    (m : Memory) :
    (∀ policy userId request, FailsAtomically fault o m (place policy userId request)) ∧
    (∀ id, FailsAtomically fault o m (get id)) ∧
    (∀ userId query, FailsAtomically fault o m (list userId query)) ∧
    (∀ id userId, FailsAtomically fault o m (cancel id userId)) ∧
    (∀ policy userId request failure,
      ((place policy userId request).run (Memory.answerUnder fault o) m).1 =
          .error failure ↔
        PlacementFailure fault o m policy userId request failure) ∧
    (∀ policy userId request e,
      policy.validate request = .error e →
      (place policy userId request).transcript (Memory.answerUnder fault o) m =
        (.error (refused (.invalidInput e)), m, [])) ∧
    (∀ id failure,
      ((get id).run (Memory.answerUnder fault o) m).1 = .error failure ↔
        ∃ e, (m.answerUnder fault o (.load id true)).1 = .error e ∧ failure = passed e) ∧
    (∀ userId query failure,
      ((list userId query).run (Memory.answerUnder fault o) m).1 = .error failure ↔
        ∃ e, (m.answerUnder fault o (.page userId query)).1 = .error e ∧
          failure = passed e) ∧
    (∀ id userId failure,
      ((cancel id userId).run (Memory.answerUnder fault o) m).1 = .error failure ↔
        (∃ e, (m.answerUnder fault o (.load id false)).1 = .error e ∧
          failure = passed e) ∨
        (∃ order, (m.answerUnder fault o (.load id false)).1 = .ok order ∧
          decideCancel id userId order = .error failure) ∨
        (∃ order copy e, (m.answerUnder fault o (.load id false)).1 = .ok order ∧
          decideCancel id userId order = .ok copy ∧
          (m.answerUnder fault o (.save copy)).1 = .error e ∧ failure = passed e)) := by
  refine ⟨place_fails_atomically, ?_, ?_, cancel_fails_atomically, ?_, ?_, ?_, ?_, ?_⟩
  · intro id failure _
    rw [run_get]
  · intro userId query failure _
    rw [run_list]
  · intro policy userId request failure
    exact place_fails_iff
  · intro policy userId request e invalid
    rw [place_of_invalid invalid]
    rfl
  · intro id failure
    rw [run_get]
    cases (m.answerUnder fault o (.load id true)).1 <;> simp [Except.mapError, eq_comm]
  · intro userId query failure
    rw [run_list]
    cases (m.answerUnder fault o (.page userId query)).1 <;> simp [Except.mapError, eq_comm]
  · intro id userId failure
    exact cancel_fails_iff

/-- The overflow of a first line hides that the product of a second one is missing. -/
theorem failed_operations_are_atomic_of_two_faulty_lines :
    let price : Decimal := ⟨false, 79228162514264337593543950335, 0, by decide, by decide⟩
    let m : Memory := { catalog := .ofList [⟨.ofNat 1, "P-1", "Diamond", "", price⟩] }
    let request : List LineRequest :=
      [⟨"00000000-0000-0000-0000-000000000001", 2⟩,
        ⟨"00000000-0000-0000-0000-000000000002", 1⟩]
    (place {} .nil request).run (Memory.answerUnder none (.numbered 1)) m =
      (.error (.overflow .multiplication), m) := by
  intro price m request
  have valid : ({} : OrderPolicy).validate request =
      .ok ([] ++ ⟨.ofNat 1, 2⟩ :: [⟨.ofNat 2, 1⟩]) := rfl
  have tooLarge : price.mul (Decimal.ofInt32 2) = .error .multiplication := by
    decide +kernel
  obtain ⟨atomic, _, _, _, reported, _⟩ :=
    failed_operations_are_atomic none (.numbered 1) m
  have fails := (reported {} .nil request _).mpr
    (.tooLarge valid nofun rfl tooLarge)
  exact Prod.ext fails (atomic {} .nil request _ fails)

end Service
end OrderDesk
