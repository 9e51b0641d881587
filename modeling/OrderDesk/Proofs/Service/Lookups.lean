import Mathlib.Data.List.Nodup
import OrderDesk.Proofs.Dialogue.Conversation
import OrderDesk.Proofs.Service.Placing
import OrderDesk.Proofs.Sql.Placement

/-!
# One lookup for each product

A placement asks the catalog for every product of the request once, in the order of first
mention.  What the catalog answers may change from one lookup to the next; each line goes
by the one answer for its product.

* `wanted`, `mentioned`: the products that lines mention, each once, with or without those
  that are known already.
* `conversation_productFor`, `conversation_priceLines`: one step of the pricing, and all
  of it.  What is known is what was answered, and what is wanted is still to be asked.
* `holds_of_memory`, `holds_of_database`: both stores store the lines that they are given.
* `PlacedBy`: how a placement goes by the answers of the catalog.
* `placements_take_one_answer_for_each_product`: every placement of an accepted request
  goes so.
-/

namespace OrderDesk

/-- An order has the lines that it was created with. -/
def Order.Holds (order : Order) (lines : List PricedLine) : Prop :=
  ∃ orderId, List.Forall₂ (PricedLine.StoredAs orderId) lines order.lines

namespace Service

open Dialogue

/-- What the catalog answers to the lookup of each product. -/
abbrev Answers := Identifier → Except StoreError Product

/-- The lookups of products with their answers. -/
def lookups (answers : Answers) (ids : List Identifier) : List (Exchanged Call.Answer) :=
  ids.map fun id => ⟨.product id, answers id⟩

/-- The products of lines, each once, in the order of first mention. -/
def mentioned (lines : List ValidLine) : List Identifier :=
  (lines.map (·.productId)).eraseDups

/-- The products of lines that are not known yet, each once, in the order of first
mention. -/
def wanted (known : Known) (lines : List ValidLine) : List Identifier :=
  ((lines.map (·.productId)).filter fun id => (known.lookup id).isNone).eraseDups

/-- The answers that have made products known, with the given failure for all others. -/
def answersOf (known : Known) (e : StoreError) : Answers := fun id =>
  (known.lookup id).elim (.error e) .ok

variable {answers : Answers} {known known' : Known} {line : ValidLine} {lines : List ValidLine}
  {log : List (Exchanged Call.Answer)}

/-! ## What is still to be asked -/

theorem agrees_answersOf
    (known : Known)
    (e : StoreError) :
    Agrees (answersOf known e) known := by
  intro id product h
  rw [answersOf, h]
  rfl

theorem Agrees.of_kept
    (agrees : Agrees answers known')
    (kept : Kept known known') :
    Agrees answers known :=
  fun id product h => agrees id product (kept id product h)

theorem wanted_nil_known
    (lines : List ValidLine) :
    wanted [] lines = mentioned lines := by
  simp [wanted, mentioned]

theorem wanted_cons_of_known
    {product : Product}
    (hknown : known.lookup line.productId = some product) :
    wanted known (line :: lines) = wanted known lines := by
  simp [wanted, hknown]

theorem wanted_cons_of_new
    (hnew : known.lookup line.productId = none)
    (product : Product) :
    wanted known (line :: lines) =
      line.productId :: wanted (known ++ [(line.productId, product)]) lines := by
  have hlookup : ∀ id, ((known ++ [(line.productId, product)]).lookup id).isNone =
      (!(id == line.productId) && (known.lookup id).isNone) := by
    intro id
    rw [List.lookup_append, List.lookup_cons, List.lookup_nil]
    cases known.lookup id <;> cases id == line.productId <;> rfl
  simp [wanted, hnew, List.eraseDups_cons, List.filter_filter, hlookup]

/-- What keeps only first occurrences holds nothing twice. -/
theorem nodup_eraseDups :
    (ids : List Identifier) → ids.eraseDups.Nodup
  | [] => by simp
  | id :: ids => by
      rw [List.eraseDups_cons, List.nodup_cons]
      exact ⟨by simp, nodup_eraseDups _⟩
termination_by ids => ids.length
decreasing_by exact Nat.lt_succ_of_le (List.length_filter_le ..)

/-! ## Pricing -/

/-- One step: a product is known, or it is asked for, and then it is known. -/
theorem conversation_productFor
    {x : Except Failure (Product × Known)}
    (talk : Conversation (productFor known line.productId) log x) :
    (∃ e, known.lookup line.productId = none ∧ log = [⟨.product line.productId, .error e⟩] ∧
      x = .error (lookupFailure line.productId e)) ∨
    (∃ product known',
      x = .ok (product, known') ∧ known'.lookup line.productId = some product ∧
        Kept known known' ∧
        ∀ answers, Agrees answers known' → ∀ lines,
          lookups answers (wanted known (line :: lines)) =
            log ++ lookups answers (wanted known' lines)) := by
  rw [productFor] at talk
  cases hknown : known.lookup line.productId with
  | some product =>
      rw [hknown] at talk
      obtain ⟨rfl, rfl⟩ := conversation_done talk
      refine Or.inr ⟨product, known, rfl, hknown, fun _ _ h => h, ?_⟩
      intro answers _ lines
      rw [wanted_cons_of_known hknown, List.nil_append]
  | none =>
      rw [hknown] at talk
      obtain ⟨r, rest, rfl, later⟩ := conversation_ask talk
      cases r with
      | error e =>
          refine Or.inl ⟨e, rfl, ?_⟩
          rw [lookupFailure]
          cases missing : e.isNotFound with
          | true =>
              simp only [missing, if_true] at later
              obtain ⟨rfl, rfl⟩ := conversation_fail later
              exact ⟨rfl, rfl⟩
          | false =>
              simp only [missing] at later
              obtain ⟨rfl, rfl⟩ := conversation_fail later
              exact ⟨rfl, rfl⟩
      | ok product =>
          obtain ⟨rfl, rfl⟩ := conversation_done later
          have hlookup :
              (known ++ [(line.productId, product)]).lookup line.productId = some product := by
            rw [List.lookup_append, hknown, Option.none_or, List.lookup_cons_self]
          refine Or.inr ⟨product, _, rfl, hlookup, kept_append known _, ?_⟩
          intro answers agrees lines
          rw [wanted_cons_of_new hknown product, lookups, List.map_cons,
            agrees _ _ hlookup]
          rfl

/-- How lines are priced by the answers of the catalog. -/
inductive PricedBy (answers : Answers) (known : Known) (lines : List ValidLine) :
    List (Exchanged Call.Answer) → Except Failure (List PricedLine × Known) → Prop where
  /-- A line cannot be priced, and nothing behind it is looked up. -/
  | stopped
      {before after : List ValidLine} {line : ValidLine} {failure : Failure}
      (split : lines = before ++ line :: after)
      (earlier : ∀ l ∈ before, ∃ p, quoted answers l = .ok p)
      (fails : quoted answers line = .error failure) :
      PricedBy answers known lines
        (lookups answers (wanted known (before ++ [line]))) (.error failure)
  /-- All lines are priced, and their products are known. -/
  | finished
      {priced : List PricedLine} {known' : Known}
      (all : List.Forall₂ (fun l p => quoted answers l = .ok p) lines priced)
      (agrees : Agrees answers known')
      (kept : Kept known known')
      (covers : ∀ l ∈ lines, ∃ product, known'.lookup l.productId = some product) :
      PricedBy answers known lines
        (lookups answers (wanted known lines)) (.ok (priced, known'))

theorem Agrees.quoted_eq
    {product : Product}
    (agrees : Agrees answers known)
    (hknown : known.lookup line.productId = some product) :
    quoted answers line =
      (PricedLine.of line.productId line.quantity product.price).mapError .overflow := by
  rw [quoted, agrees _ _ hknown]

/-- The first line cannot be priced. -/
theorem PricedBy.head
    {failure : Failure}
    (fails : quoted answers line = .error failure) :
    PricedBy answers known (line :: lines) (lookups answers (wanted known [line]))
      (.error failure) := by
  have split : line :: lines = [] ++ line :: lines := rfl
  exact .stopped split nofun fails

/-- Lines behind a priced one are priced from what is known then. -/
theorem PricedBy.cons
    {front rest : List (Exchanged Call.Answer)} {product : Product} {p : PricedLine}
    {x : Except Failure (List PricedLine × Known)}
    (kept : Kept known known')
    (hknown : known'.lookup line.productId = some product)
    (asked : ∀ lines, lookups answers (wanted known (line :: lines)) =
      front ++ lookups answers (wanted known' lines))
    (first : quoted answers line = .ok p)
    (later : PricedBy answers known' lines rest x) :
    PricedBy answers known (line :: lines) (front ++ rest)
      (x.map fun r => (p :: r.1, r.2)) := by
  cases later with
  | @stopped before after l failure split earlier fails =>
      have split' : line :: lines = (line :: before) ++ l :: after := by
        rw [split, List.cons_append]
      rw [← asked]
      exact .stopped split' (List.forall_mem_cons.mpr ⟨⟨p, first⟩, earlier⟩) fails
  | finished all agrees kept' covers =>
      rw [← asked]
      exact .finished (.cons first all) agrees (fun id q h => kept' id q (kept id q h))
        (List.forall_mem_cons.mpr ⟨⟨product, kept' _ _ hknown⟩, covers⟩)

theorem conversation_priceLines
    {x : Except Failure (List PricedLine × Known)}
    (talk : Conversation (priceLines lines known) log x) :
    ∃ answers, Agrees answers known ∧ PricedBy answers known lines log x := by
  -- The answers are fixed from the last line backwards: those behind a line agree with what
  -- is known after it, and so with what was known before.
  induction lines generalizing known log x with
  | nil =>
      obtain ⟨rfl, rfl⟩ := conversation_done talk
      have agrees := agrees_answersOf known (.notFound .product .nil)
      exact ⟨_, agrees, .finished .nil agrees (fun _ _ h => h) nofun⟩
  | cons line lines ih =>
      -- The product of the line is missing, or it is known now.
      rcases conversation_bind talk with ⟨failure, rfl, own⟩ | ⟨r, front, rest, rfl, own, talk⟩
      · rcases conversation_productFor own with ⟨e, hnew, rfl, h⟩ | ⟨_, _, h, _⟩
        · cases h
          have hanswer : answersOf known e line.productId = .error e := by
            rw [answersOf, hnew]
            rfl
          have hasked : lookups (answersOf known e) (wanted known [line]) =
              [⟨.product line.productId, .error e⟩] := by
            simp [wanted, hnew, lookups, hanswer, List.eraseDups_cons]
          have fails : quoted (answersOf known e) line =
              .error (lookupFailure line.productId e) := by
            rw [quoted, hanswer]
          rw [← hasked]
          exact ⟨_, agrees_answersOf known e, .head fails⟩
        · cases h
      · rcases conversation_productFor own with
          ⟨_, _, _, h⟩ | ⟨product, known', h, hknown, kept, asked⟩
        · cases h
        cases h
        cases hof : PricedLine.of line.productId line.quantity product.price with
        | error overflow =>
            simp only [hof] at talk
            obtain ⟨rfl, rfl⟩ := conversation_fail talk
            let answers := answersOf known' (.notFound .product line.productId)
            have agrees : Agrees answers known' := agrees_answersOf known' _
            have fails : quoted answers line = .error (.overflow overflow) := by
              rw [agrees.quoted_eq hknown, hof]
              rfl
            have hasked : lookups answers (wanted known [line]) = front ++ [] :=
              asked answers agrees []
            rw [← hasked]
            exact ⟨answers, agrees.of_kept kept, .head fails⟩
        | ok p =>
            simp only [hof] at talk
            have talk : Conversation
                ((priceLines lines known').bind fun r => .done (p :: r.1, r.2)) rest x := talk
            obtain ⟨y, rfl, own⟩ := conversation_map talk
            obtain ⟨answers, agrees, later⟩ := ih own
            have first : quoted answers line = .ok p := by
              rw [agrees.quoted_eq hknown, hof]
              rfl
            exact ⟨answers, agrees.of_kept kept,
              later.cons kept hknown (asked answers agrees) first⟩

/-! ## Storing -/

/-- The lines of an order that the database answers are those that were sent. -/
theorem storedAs_insertLines
    {orderId : Identifier} {lineId : Nat → Identifier} {position : Nat}
    {priced : List PricedLine} {stored : List OrderLine} {log : List Sql.Sent}
    (talk : Conversation (Sql.insertLines orderId lineId position priced) log (.ok stored)) :
    List.Forall₂ (PricedLine.StoredAs orderId) priced stored := by
  induction priced generalizing position stored log with
  | nil =>
      obtain ⟨_, h⟩ := conversation_done talk
      cases h
      exact .nil
  | cons line priced ih =>
      obtain ⟨_, _, _, _, _, behind⟩ := conversation_bind_ok talk
      obtain ⟨rest, rfl, own⟩ := conversation_map_ok behind
      exact .cons ⟨rfl, rfl, rfl, rfl, rfl⟩ (ih own)

theorem holds_of_insertOrder
    {o : Occasion} {userId : Identifier} {priced : List PricedLine} {totalPrice : Decimal}
    {stored : Order} {log : List Sql.Sent}
    (talk : Conversation (Sql.insertOrder o userId priced totalPrice) log (.ok stored)) :
    stored.Holds priced := by
  obtain ⟨_, body⟩ := Sql.conversation_inTransaction_ok talk
  obtain ⟨_, _, _, _, _, reading⟩ := conversation_bind_ok body
  obtain ⟨_, _, _, _, _, lining⟩ := conversation_bind_ok reading
  obtain ⟨_, rfl, inserted⟩ := conversation_map_ok lining
  exact ⟨_, storedAs_insertLines inserted⟩

/-- An order that is created in memory has the given lines. -/
theorem holds_of_memory
    {fault : Option Fault} {o : Occasion} {m : Memory} {userId : Identifier}
    {priced : List PricedLine} {stored : Order}
    (created : (m.answerUnder fault o (.create userId priced)).1 = .ok stored) :
    stored.Holds priced := by
  obtain ⟨_, _, rfl, _⟩ := Memory.answerUnder_create_of_ok created
  exact ⟨_, Memory.storedAs_newLines o priced⟩

/-- The same in the database, whatever it replies. -/
theorem holds_of_database
    {budget : Duration} {o : Occasion} {userId : Identifier}
    {priced : List PricedLine} {stored : Order} {log : List Sql.Sent}
    (talk : Conversation (Sql.answer budget o (.create userId priced)) log (.ok (.ok stored))) :
    stored.Holds priced := by
  rw [Sql.answer] at talk
  cases total : Order.totalOf priced with
  | error overflow =>
      simp only [total] at talk
      obtain ⟨_, h⟩ := conversation_done talk
      cases h
  | ok totalPrice =>
      simp only [total] at talk
      obtain ⟨_, h, attempted⟩ := conversation_attempt talk
      obtain ⟨_, rfl, bounded⟩ := conversation_mapError attempted
      obtain ⟨stop, rfl, own⟩ := conversation_mapError bounded
      cases stop <;> cases h
      exact holds_of_insertOrder own

/-! ## Placing -/

/-- How an order is placed by the answers of the catalog: what is asked, with its answers,
and what comes of it. -/
inductive PlacedBy (answers : Answers) (userId : Identifier) (valid : List ValidLine) :
    List (Exchanged Call.Answer) → Except Failure Order → Prop where
  /-- A line cannot be priced.  Nothing behind it is looked up, and nothing is stored. -/
  | unpriced
      {before after : List ValidLine} {line : ValidLine} {failure : Failure}
      (split : valid = before ++ line :: after)
      (earlier : ∀ l ∈ before, ∃ p, quoted answers l = .ok p)
      (fails : quoted answers line = .error failure) :
      PlacedBy answers userId valid
        (lookups answers (mentioned (before ++ [line]))) (.error failure)
  /-- All lines are priced, and then the order is not stored. -/
  | unstored
      {priced : List PricedLine} {e : Interruption StoreError}
      (all : List.Forall₂ (fun l p => quoted answers l = .ok p) valid priced) :
      PlacedBy answers userId valid
        (lookups answers (mentioned valid) ++ [⟨.create userId priced, .error e⟩])
        (.error (creationFailure e))
  /-- All lines are priced, and then the order is stored.  If it has the given lines, they
  all go by the answers. -/
  | stored
      {priced : List PricedLine} {stored order : Order}
      (all : List.Forall₂ (fun l p => quoted answers l = .ok p) valid priced)
      (same : order = { stored with lines := order.lines })
      (sold : stored.Holds priced → List.Forall₂ (SoldBy answers) valid order.lines) :
      PlacedBy answers userId valid
        (lookups answers (mentioned valid) ++ [⟨.create userId priced, .ok stored⟩])
        (.ok order)

/-- Lines that are shown with what is known are sold by the answers that have made it
known. -/
theorem soldBy_withProducts
    {valid : List ValidLine} {priced : List PricedLine} {stored : Order}
    (all : List.Forall₂ (fun l p => quoted answers l = .ok p) valid priced)
    (agrees : Agrees answers known)
    (covers : ∀ l ∈ valid, ∃ product, known.lookup l.productId = some product)
    (holds : stored.Holds priced) :
    List.Forall₂ (SoldBy answers) valid
      (stored.withProducts fun id => (known.lookup id).map (·.summary)).lines := by
  obtain ⟨orderId, holds⟩ := holds
  have hstored : List.Forall₂
      (fun v l => (∃ product, known.lookup v.productId = some product) ∧
        ∃ p, quoted answers v = .ok p ∧ p.StoredAs orderId l)
      valid stored.lines := by
    refine (List.forall₂_and_left ..).mpr ⟨covers, ?_⟩
    exact forall₂_comp all holds fun _ p _ _ hquoted stores => ⟨p, hquoted, stores⟩
  rw [Order.withProducts, List.forall₂_map_right_iff]
  refine hstored.imp ?_
  rintro v l ⟨covered, p, hquoted, stores⟩
  exact soldBy_of_storedAs agrees covered hquoted stores

theorem conversation_place
    {policy : OrderPolicy} {request : List LineRequest} {valid : List ValidLine}
    (accepted : policy.validate request = .ok valid)
    {userId : Identifier} {x : Except Failure Order}
    (talk : Conversation (place policy userId request) log x) :
    ∃ answers, PlacedBy answers userId valid log x := by
  rw [place, accepted] at talk
  have talk : Conversation
      ((priceLines valid []).bind fun r => (store userId r.1).bind fun order =>
        .done (order.withProducts fun id => (r.2.lookup id).map (·.summary))) log x := talk
  rcases conversation_bind talk with
    ⟨failure, rfl, own⟩ | ⟨⟨priced, known⟩, asked, rest, rfl, own, creation⟩
  · obtain ⟨answers, _, priced⟩ := conversation_priceLines own
    cases priced with
    | stopped split earlier fails =>
        rw [wanted_nil_known]
        exact ⟨answers, .unpriced split earlier fails⟩
  · obtain ⟨answers, _, pricing⟩ := conversation_priceLines own
    cases pricing with
    | finished all agrees _ covers =>
        rw [wanted_nil_known]
        obtain ⟨r, rest, rfl, later⟩ := conversation_ask creation
        cases r with
        | ok stored =>
            obtain ⟨rfl, rfl⟩ := conversation_done later
            exact ⟨answers, .stored all rfl (soldBy_withProducts all agrees covers)⟩
        | error e =>
            cases e <;>
              (obtain ⟨rfl, rfl⟩ := conversation_fail later
               exact ⟨answers, .unstored all⟩)

/-- Nothing is asked twice. -/
theorem PlacedBy.nodup
    {userId : Identifier} {valid : List ValidLine} {x : Except Failure Order}
    (placed : PlacedBy answers userId valid log x) :
    (log.map (·.1)).Nodup := by
  have hlookups : ∀ lines, (lookups answers (mentioned lines)).map (·.1) =
      (mentioned lines).map Call.product := by
    intro lines
    rw [lookups, List.map_map]
    rfl
  have hdistinct : ∀ lines, ((mentioned lines).map Call.product).Nodup := fun lines =>
    (nodup_eraseDups _).map fun _ _ h => Call.product.inj h
  cases placed with
  | unpriced =>
      rw [hlookups]
      exact hdistinct _
  | unstored | stored =>
      rw [List.map_append, hlookups]
      refine (hdistinct _).append (List.nodup_singleton _) ?_
      simp [List.disjoint_singleton]

/-- **A placement takes one answer for each product.**  Let a request be accepted, and let
the catalog and the store answer each question as they like, the same question differently
at each time.  Then a placement

* looks up the products of the request in the order of first mention, none of them twice;
* stops behind the first line whose product cannot be looked up, or whose price is too
  large, with this failure;
* calls the store once, behind all lookups, with the prices of all lines;
* answers an order all of whose lines go by the one answer for their product: the price, and
  the product that is shown.

For the last it takes a store that stores the given lines, as the one in memory and the
database both do. -/
theorem placements_take_one_answer_for_each_product
    {policy : OrderPolicy} {request : List LineRequest} {valid : List ValidLine}
    (accepted : policy.validate request = .ok valid)
    (userId : Identifier) :
    (∀ {σ : Type} (partner : (c : Call) → σ → c.Answer × σ) (s : σ),
      let talk := (place policy userId request).record partner s
      (∃ answers, PlacedBy answers userId valid talk.2 talk.1) ∧
        (talk.2.map (·.1)).Nodup) ∧
    (∀ (fault : Option Fault) (o : Occasion) (m : Memory) (priced : List PricedLine)
        (stored : Order),
      (m.answerUnder fault o (.create userId priced)).1 = .ok stored →
        stored.Holds priced) ∧
    (∀ {σ : Type} (database : (s : Sql.Statement) → σ → Sql.Reply s.Row × σ) (s : σ)
        (budget : Duration) (o : Occasion) (priced : List PricedLine) (stored : Order),
      ((Sql.answer budget o (.create userId priced)).run database s).1 = .ok (.ok stored) →
        stored.Holds priced) := by
  refine ⟨?_, fun _ _ _ _ _ => holds_of_memory, ?_⟩
  · intro σ partner s talk
    obtain ⟨answers, placed⟩ := conversation_place accepted (conversation_record partner _ s)
    exact ⟨⟨answers, placed⟩, placed.nodup⟩
  · intro σ database s budget o priced stored created
    have talk := conversation_record database (Sql.answer budget o (.create userId priced)) s
    rw [record_fst, created] at talk
    exact holds_of_database talk

/-- A catalog that names another price at each lookup, and an empty store. -/
def repricing : (c : Call) → Nat → c.Answer × Nat
  | .product id, n => (.ok ⟨id, "P", toString n, "", Decimal.ofInt32 (Int32.ofNat (n + 1))⟩, n + 1)
  | .create userId lines, n =>
    (((Memory.create (.numbered 7) userId lines { catalog := .ofList [] }).1), n)
  | c, n => (c.failed (.notFound .order .nil), n)

/-- Of three lines the first and the last have one product, spelled differently.  The catalog
has changed when the second is looked up, but the last goes by the first answer. -/
theorem placements_take_one_answer_for_each_product_of_changing_prices :
    let request : List LineRequest :=
      [⟨"00000000-0000-0000-0000-000000000001", 2⟩,
        ⟨"00000000-0000-0000-0000-000000000002", 1⟩,
        ⟨"00000000000000000000000000000001", 3⟩]
    let valid : List ValidLine := [⟨.ofNat 1, 2⟩, ⟨.ofNat 2, 1⟩, ⟨.ofNat 1, 3⟩]
    let talk := (place {} .nil request).record repricing 0
    ({} : OrderPolicy).validate request = .ok valid ∧
      talk.2.map (·.1.kind) = [.product, .product, .create] ∧
      (talk.1.toOption.map fun order =>
          order.lines.map fun l => (l.price.mantissa, l.product.map (·.name))) =
        some [(2, some "0"), (2, some "1"), (3, some "0")] ∧
      ∃ answers, PlacedBy answers .nil valid talk.2 talk.1 := by
  intro request valid talk
  have accepted : ({} : OrderPolicy).validate request = .ok valid := by decide +kernel
  obtain ⟨placed, _, _⟩ := placements_take_one_answer_for_each_product accepted .nil
  obtain ⟨answered, _⟩ := placed repricing 0
  exact ⟨accepted, by decide +kernel, by decide +kernel, answered⟩

end Service
end OrderDesk
