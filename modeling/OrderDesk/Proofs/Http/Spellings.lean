import OrderDesk.Proofs.Http.Identification
import OrderDesk.Proofs.Placement.Validation

/-!
# Spellings of identifiers in requests

Users and products are named by texts, and an identifier has many spellings.  Only the
identifiers matter: a request with other spellings of them is carried out alike.

* `LineRequest.Respelled`, `Headers.Respelled`, `Request.Respelled`: the same line, the same
  headers and the same request with other spellings.
* `OrderPolicy.validate_of_respelled`: validation does not tell spellings apart.
* `Service.transcript_place`: what a placement comes to, for all fresh identifiers, codes and
  times at once.
* `spelling_is_irrelevant_to_placement`: requests with other spellings are answered by one
  dialogue, and what they come to differs in fresh data only.
-/

namespace OrderDesk

/-! ## Lines -/

namespace LineRequest

/-- Between blanks the product of a line spells an identifier. -/
def SpellsProduct (line : LineRequest) (id : Identifier) : Prop :=
  ∃ text, Text.Trims line.productId.toList text ∧ id.Spelling text

/-- The same line, perhaps with another spelling of its product. -/
structure Respelled (line line' : LineRequest) : Prop where
  quantity : line'.quantity = line.quantity
  productId : line'.productId = line.productId ∨
    ∃ id, line.SpellsProduct id ∧ line'.SpellsProduct id

/-- A line whose product is spelled well is validated by its quantity. -/
theorem validate_of_spelled
    {line : LineRequest} {id : Identifier}
    (spelled : line.SpellsProduct id)
    (index : Nat) :
    line.validate index =
      if line.quantity ≤ 0 then .error (.quantityNotPositive index)
      else .ok ⟨id, line.quantity⟩ := by
  obtain ⟨text, trims, spelling⟩ := spelled
  have visible : text ≠ [] := by
    rintro rfl
    cases spelling.parse?_eq
  rw [validate, Text.trim_eq_iff.mpr trims]
  simp [visible, spelling.parse?_eq]

theorem Respelled.validate_eq
    {line line' : LineRequest}
    (respelled : line.Respelled line')
    (index : Nat) :
    line'.validate index = line.validate index := by
  obtain ⟨quantity, same | ⟨id, spelled, spelled'⟩⟩ := respelled
  · rw [show line' = line by cases line; cases line'; simp_all]
  · rw [validate_of_spelled spelled, validate_of_spelled spelled', quantity]

theorem validateFrom_of_respelled
    {lines lines' : List LineRequest}
    (respelled : List.Forall₂ Respelled lines lines')
    (index : Nat) :
    validateFrom index lines' = validateFrom index lines := by
  induction respelled generalizing index with
  | nil => rfl
  | cons first _ ih => rw [validateFrom, validateFrom, first.validate_eq, ih]

end LineRequest

/-- Validation does not tell spellings apart. -/
theorem OrderPolicy.validate_of_respelled
    {lines lines' : List LineRequest}
    (respelled : List.Forall₂ LineRequest.Respelled lines lines')
    (policy : OrderPolicy) :
    policy.validate lines' = policy.validate lines := by
  have hlength := respelled.length_eq
  have hempty : lines'.isEmpty = lines.isEmpty := by
    cases respelled <;> rfl
  rw [validate, validate, hempty, hlength, LineRequest.validateFrom_of_respelled respelled]

/-! ## Requests -/

theorem Headers.first?_cons_of_ne
    {h : Header} {hs : Headers} {key : String}
    (other : key ≠ h.key) :
    Headers.first? (h :: hs) key = Headers.first? hs key := by
  rw [first?, first?, List.find?_cons_of_neg (by simpa using other.symm)]

/-- Headers that name the same user, perhaps in another spelling, and agree in all others but
the length of the body. -/
structure Headers.Respelled (userId : Identifier) (hs hs' : Headers) : Prop where
  caller : ∃ value, hs.FirstIs Request.userHeader value ∧ Header.Denotes value userId
  caller' : ∃ value, hs'.FirstIs Request.userHeader value ∧ Header.Denotes value userId
  others : ∀ name : String, name.toLower ≠ Request.userHeader.toLower →
    name.toLower ≠ "content-length" → hs'.first? name.toLower = hs.first? name.toLower

/-- The same request, perhaps with another spelling of its user.  Nothing is said of the
body. -/
structure Request.Respelled (userId : Identifier) (r r' : Request) : Prop where
  method : r'.method = r.method
  target : r'.target = r.target
  headers : r.headers.Respelled userId r'.headers

namespace Request.Respelled

variable {userId : Identifier} {r r' : Request} (same : r.Respelled userId r')

include same

theorem asks
    {asked : Asked}
    (asks : r.Asks asked) :
    r'.Asks asked := by
  constructor
  · rw [← asks.path, path, path, located, located, same.target]
  · exact asks.part
  · rw [same.method, asks.method]

theorem callingUser_eq : Api.callingUser r = .ok userId := by
  obtain ⟨value, first, denotes⟩ := same.headers.caller
  exact Api.callingUser_of_denotes first denotes

theorem callingUser_eq' : Api.callingUser r' = .ok userId := by
  obtain ⟨value, first, denotes⟩ := same.headers.caller'
  exact Api.callingUser_of_denotes first denotes

theorem correlationId_eq
    (random : Identifier) :
    Api.correlationId r' random = Api.correlationId r random := by
  have hother := same.headers.others Request.correlationHeader (by decide +kernel)
    (by decide +kernel)
  rw [Api.correlationId, Api.correlationId, correlation?, correlation?, Headers.identifier?,
    Headers.identifier?, hother]

theorem queryString_eq : r'.queryString = r.queryString := by
  rw [queryString, queryString, located, located, same.target]

end Request.Respelled

namespace Api

open Request

variable {userId : Identifier} {r r' : Request} {asked : Asked}

/-- A request whose operation does the same is answered by the same dialogue. -/
theorem respond_eq_of_respelled
    (policy : OrderPolicy)
    (asks : r.Asks asked)
    (same : r.Respelled userId r')
    (operation : asked.answering policy userId r' = asked.answering policy userId r)
    (random : Identifier) :
    respond policy random r' = respond policy random r := by
  have hdispatch := dispatch_eq_answering policy userId asks
  have hdispatch' := dispatch_eq_answering policy userId (same.asks asks)
  simp only [respond, asks.route_eq, (same.asks asks).route_eq, answerCaller,
    same.callingUser_eq, same.callingUser_eq', hdispatch, hdispatch', operation,
    same.correlationId_eq, trimmedFor, same.method]

/-- Reading, listing and cancelling do not depend on the spelling of the user. -/
theorem answering_of_respelled
    (policy : OrderPolicy)
    (same : r.Respelled userId r')
    (other : asked ≠ .placing) :
    asked.answering policy userId r' = asked.answering policy userId r := by
  cases asked with
  | placing => exact absurd rfl other
  | listing =>
      rw [Asked.answering, Asked.answering, listOrders, listOrders, requestedListing,
        requestedListing, same.queryString_eq]
  | reading sent => rfl
  | cancelling sent => rfl

/-- Placing does not depend on the spelling of the products. -/
theorem answering_placing_of_respelled
    (policy : OrderPolicy)
    {lines lines' : List LineRequest}
    (carries : r.CarriesLines lines)
    (carries' : r'.CarriesLines lines')
    (respelled : List.Forall₂ LineRequest.Respelled lines lines') :
    Asked.placing.answering policy userId r' = Asked.placing.answering policy userId r := by
  rw [Asked.answering, Asked.answering, placeOrder, placeOrder,
    requestedLines_eq_ok_iff.mpr carries, requestedLines_eq_ok_iff.mpr carries']
  dsimp only
  rw [Service.place, Service.place, OrderPolicy.validate_of_respelled respelled]

end Api

/-! ## Fresh data -/

namespace Dialogue

variable {Q : Type} {A : Q → Type} {ε α σ : Type}

/-- What every answer keeps is kept by a run. -/
theorem All.run_keeps
    {P : Q → Prop} {I : σ → Prop}
    {d : Dialogue Q A ε α}
    (all : d.All P)
    (answer : (q : Q) → σ → A q × σ)
    (keeps : ∀ q s, P q → I s → I (answer q s).2)
    (s : σ)
    (start : I s) :
    I (d.run answer s).2 := by
  induction d generalizing s with
  | done a => exact start
  | fail e => exact start
  | ask q next ih => exact ih _ (all.2 _) _ (keeps q s all.1 start)

end Dialogue

namespace Memory

variable (fault : Option Fault) (m : Memory)

/-- Lookups of products do not depend on fresh data. -/
theorem answerUnder_of_product
    {c : Call}
    (product : c.kind = .product)
    (o o' : Occasion) :
    m.answerUnder fault o c = m.answerUnder fault o' c := by
  cases hfault : faultOn? fault c with
  | some e => rw [answerUnder_of_fault hfault, answerUnder_of_fault hfault]
  | none =>
      rw [answerUnder_of_no_fault hfault, answerUnder_of_no_fault hfault]
      cases c with
      | product id => rfl
      | create _ _ | load _ _ | page _ _ | save _ => cases product

/-- Whether an order is created does not depend on fresh data. -/
theorem answerUnder_create_cases
    (userId : Identifier)
    (lines : List PricedLine) :
    (∃ e, ∀ o, m.answerUnder fault o (.create userId lines) = (.error e, m)) ∨
    (∃ totalPrice, Order.totalOf lines = .ok totalPrice ∧
      ∀ o, m.answerUnder fault o (.create userId lines) =
        (.ok (newOrder o userId lines totalPrice),
          { m with orders := m.orders ++ [newOrder o userId lines totalPrice] })) := by
  cases hfault : faultOn? fault (.create userId lines) with
  | some e => exact Or.inl ⟨.error e, fun o => answerUnder_of_fault hfault o m⟩
  | none =>
      simp only [answerUnder_of_no_fault hfault, answer, create]
      cases htotal : Order.totalOf lines with
      | error overflow => exact Or.inl ⟨.overflow overflow, fun _ => rfl⟩
      | ok totalPrice =>
          cases hline : m.lineFailure? lines with
          | some e => exact Or.inl ⟨.error e, fun _ => rfl⟩
          | none => exact Or.inr ⟨totalPrice, rfl, fun _ => rfl⟩

end Memory

namespace Service

open Dialogue Memory

/-- Lines are priced from the same lookups, whatever is generated, and nothing is
changed. -/
theorem run_priceLines_noting
    (fault : Option Fault)
    (m : Memory)
    (valid : List ValidLine) :
    ∃ priced calls, ∀ o,
      (priceLines valid []).run (noting (answerUnder fault o)) (m, []) = (priced, m, calls) := by
  have asks := priceLines_asks valid []
  have alike : ∀ o, (priceLines valid []).run (noting (answerUnder fault o)) (m, []) =
      (priceLines valid []).run (noting (answerUnder fault (.numbered 0))) (m, []) := fun o =>
    asks.run_eq (fun c s product => by
      simp only [noting, answerUnder_of_product fault s.1 product o (.numbered 0)]) _
  obtain ⟨⟨priced, m', calls⟩, hrun⟩ :
      ∃ x, (priceLines valid []).run (noting (answerUnder fault (.numbered 0))) (m, []) = x :=
    ⟨_, rfl⟩
  have keeps := asks.run_keeps (I := fun s => s.1 = m)
    (noting (answerUnder fault (.numbered 0)))
    (fun c s product same => (answerUnder_of_reading (Or.inl product) fault _ s.1).trans same)
    (m, []) rfl
  rw [hrun] at keeps
  cases keeps
  exact ⟨priced, calls, fun o => (alike o).trans hrun⟩

/-- A placement fails in one way, whatever is generated, and changes nothing, or it stores
one order that differs in what is generated only. -/
theorem transcript_place
    (fault : Option Fault)
    (m : Memory)
    (policy : OrderPolicy)
    (userId : Identifier)
    (request : List LineRequest) :
    (∃ failure calls, ∀ o,
      (place policy userId request).transcript (answerUnder fault o) m =
        (.error failure, m, calls)) ∨
    (∃ lines totalPrice products calls, ∀ o,
      let stored := newOrder o userId lines totalPrice
      (place policy userId request).transcript (answerUnder fault o) m =
        (.ok (stored.withProducts products), { m with orders := m.orders ++ [stored] },
          calls)) := by
  cases hvalid : policy.validate request with
  | error e =>
      rw [place_of_invalid hvalid]
      exact Or.inl ⟨_, [], fun _ => rfl⟩
  | ok valid =>
      have hplace : place policy userId request = (priceLines valid []).bind fun priced =>
          (store userId priced.1).bind fun order =>
            .done (order.withProducts fun id => (priced.2.lookup id).map (·.summary)) := by
        rw [place, hvalid]
        rfl
      obtain ⟨priced, calls, hpriced⟩ := run_priceLines_noting fault m valid
      simp only [hplace, transcript, run_bind, hpriced]
      cases priced with
      | error failure => exact Or.inl ⟨failure, calls, fun _ => rfl⟩
      | ok priced =>
          obtain ⟨lines, known⟩ := priced
          rcases answerUnder_create_cases fault m userId lines with
            ⟨e, refused⟩ | ⟨totalPrice, _, created⟩
          · simp only [store, run, noting, refused]
            cases e with
            | error e => exact Or.inl ⟨passed e, _, fun _ => rfl⟩
            | overflow x => exact Or.inl ⟨.overflow x, _, fun _ => rfl⟩
          · simp only [store, run, noting, created]
            exact Or.inr ⟨lines, totalPrice, _, _, fun _ => rfl⟩

end Service

/-! ## Placements -/

namespace Api

open Memory

theorem carriesLines_of_read
    {r : Request} {lines : List LineRequest}
    (read : (requestedLines r).toOption = some lines) :
    r.CarriesLines lines := by
  cases hread : requestedLines r with
  | ok found =>
      rw [hread] at read
      cases read
      exact requestedLines_eq_ok_iff.mp hread
  | error e =>
      rw [hread] at read
      cases read

/-- A placement is refused, or cannot be answered, whatever is generated, and changes nothing,
or one order is stored and shown that differs in what is generated only. -/
theorem transcript_respond_placing
    (fault : Option Fault)
    (m : Memory)
    (policy : OrderPolicy)
    {r : Request} {userId : Identifier} {lines : List LineRequest}
    (asks : r.Asks .placing)
    (caller : callingUser r = .ok userId)
    (carries : r.CarriesLines lines) :
    (∃ (answered : Except Overflow Response) (calls : List Call), ∀ random o,
      (respond policy random r).transcript (answerUnder fault o) m =
        (answered.map (·.correlated (correlationId r random)), m, calls)) ∨
    (∃ priced totalPrice products calls, ∀ random o,
      let stored := newOrder o userId priced totalPrice
      (respond policy random r).transcript (answerUnder fault o) m =
        (.ok (.under (correlationId r random) .ok
            (orderDocument (stored.withProducts products))),
          { m with orders := m.orders ++ [stored] }, calls)) := by
  have hrun : ∀ random o, (respond policy random r).transcript (answerUnder fault o) m = _ :=
    fun random o => run_respond_of_asks (Dialogue.noting (answerUnder fault o)) (m, []) policy
      random asks caller
  simp only [hrun, dispatch_placing policy asks, placeOrder,
    requestedLines_eq_ok_iff.mpr carries, run_settle]
  rcases Service.transcript_place fault m policy userId lines with
    ⟨failure, calls, hplace⟩ | ⟨priced, totalPrice, products, calls, hplace⟩
  · have hfails : ∀ o, (Service.place policy userId lines).run
        (Dialogue.noting (answerUnder fault o)) (m, []) = _ := hplace
    simp only [hfails]
    cases failure with
    | error e => exact Or.inl ⟨.ok (refusal e), calls, fun _ _ => rfl⟩
    | overflow x => exact Or.inl ⟨.error x, calls, fun _ _ => rfl⟩
  · have hplaced : ∀ o, (Service.place policy userId lines).run
        (Dialogue.noting (answerUnder fault o)) (m, []) = _ := hplace
    simp only [hplaced]
    exact Or.inr ⟨priced, totalPrice, products, calls, fun _ _ => rfl⟩

/-- **Spelling is irrelevant to placement.**  Two requests place orders.  They agree but for
the spelling of the user and of products: letter case, hyphens, braces, the marker in front,
and blanks around.

* They are answered by one dialogue, whoever answers its calls.
* In every state of the store in memory, and under every disturbance, both come to the same:
  either one refusal and an unchanged state after the same calls, or after the same calls
  one new order of the one user that is stored and shown, with the same priced lines, total
  and products.  What is generated, and the name of a request without a name, is free.
* The user is the same afterwards: reading, listing and cancelling are answered by one
  dialogue too, in whatever spelling the user asks. -/
theorem spelling_is_irrelevant_to_placement
    (policy : OrderPolicy)
    {userId : Identifier} {r r' : Request} {lines lines' : List LineRequest}
    (asks : r.Asks .placing)
    (same : r.Respelled userId r')
    (carries : r.CarriesLines lines)
    (carries' : r'.CarriesLines lines')
    (respelled : List.Forall₂ LineRequest.Respelled lines lines') :
    (∀ random, respond policy random r' = respond policy random r) ∧
    (∀ fault m,
      (∃ (answered : Except Overflow Response) (calls : List Call),
        ∀ sent ∈ [r, r'], ∀ random o,
        (respond policy random sent).transcript (answerUnder fault o) m =
          (answered.map (·.correlated (correlationId r random)), m, calls)) ∨
      (∃ priced totalPrice products calls, ∀ sent ∈ [r, r'], ∀ random o,
        let stored := newOrder o userId priced totalPrice
        (respond policy random sent).transcript (answerUnder fault o) m =
          (.ok (.under (correlationId r random) .ok
              (orderDocument (stored.withProducts products))),
            { m with orders := m.orders ++ [stored] }, calls))) ∧
    (∀ asked later later', asked ≠ .placing → later.Asks asked →
      later.Respelled userId later' →
        ∀ random, respond policy random later' = respond policy random later) := by
  have alike : ∀ random, respond policy random r' = respond policy random r :=
    respond_eq_of_respelled policy asks same
      (answering_placing_of_respelled policy carries carries' respelled)
  refine ⟨alike, ?_, ?_⟩
  · intro fault m
    have both : ∀ sent ∈ [r, r'], ∀ random,
        respond policy random sent = respond policy random r := by
      simp [alike]
    rcases transcript_respond_placing fault m policy asks same.callingUser_eq carries with
      ⟨answered, calls, hrun⟩ | ⟨priced, totalPrice, products, calls, hrun⟩
    · refine Or.inl ⟨answered, calls, fun sent hsent random o => ?_⟩
      rw [both sent hsent, hrun]
    · refine Or.inr ⟨priced, totalPrice, products, calls, fun sent hsent random o => ?_⟩
      rw [both sent hsent, hrun]
  · intro asked later later' other laterAsks laterSame
    exact respond_eq_of_respelled policy laterAsks laterSame
      (answering_of_respelled policy laterSame other)

/-- One product in four spellings, for a user in two: it is looked up once. -/
theorem spelling_is_irrelevant_to_placement_of_braces_and_markers :
    let product : Product :=
      ⟨.ofNat 10, "P-10", "Pencil", "", ⟨false, 250, 2, by decide, by decide⟩⟩
    let m : Memory := { catalog := .ofList [product] }
    let answer := Memory.answerUnder none (.numbered 1)
    let request : String → String → Request := fun user body =>
      { method := .post
        target := Utf8.ofString "/api/v1/orders"
        headers :=
          [⟨"X-Request-User-Id", Utf8.ofString user⟩,
            ⟨"Content-Type", Utf8.ofString "application/json"⟩]
        body := Utf8.ofString body }
    let r := request "00000000-0000-0000-0000-00000000000b"
      "[[[\"00000000-0000-0000-0000-00000000000a\", 3], [\"0000000000000000000000000000000A\", 4]]]"
    let r' := request "\tURN:uuid:00000000-0000-0000-0000-00000000000B "
      "[[[\" \x7b00000000-0000-0000-0000-00000000000A\x7d\", 3], [\"urn:uuid:00000000-0000-0000-0000-00000000000a\\n\", 4]]]"
    let lines : List LineRequest :=
      [⟨"00000000-0000-0000-0000-00000000000a", 3⟩, ⟨"0000000000000000000000000000000A", 4⟩]
    let lines' : List LineRequest :=
      [⟨" \x7b00000000-0000-0000-0000-00000000000A\x7d", 3⟩,
        ⟨"urn:uuid:00000000-0000-0000-0000-00000000000a\n", 4⟩]
    r.Asks .placing ∧ r.Respelled (.ofNat 11) r' ∧ r.CarriesLines lines ∧
      r'.CarriesLines lines' ∧ List.Forall₂ LineRequest.Respelled lines lines' ∧
      ((respond {} .nil r').transcript answer m).2.2.map (·.kind) = [.product, .create] := by
  intro product m answer request r r' lines lines'
  have asks : r.Asks .placing := ⟨by decide +kernel, trivial, rfl⟩
  have names : ∀ user body, Header.Denotes (Utf8.ofString user) (.ofNat 11) →
      ∃ value, (request user body).headers.FirstIs Request.userHeader value ∧
        Header.Denotes value (.ofNat 11) := fun user body denotes =>
    ⟨_, ⟨[], _, _, rfl, nofun, rfl, rfl⟩, denotes⟩
  have same : r.Respelled (.ofNat 11) r' :=
    { method := rfl
      target := rfl
      headers :=
        { caller := names _ _ (Header.denotes_iff.mp (by decide +kernel))
          caller' := names _ _ (Header.denotes_iff.mp (by decide +kernel))
          others := fun _ other _ =>
            (Headers.first?_cons_of_ne other).trans (Headers.first?_cons_of_ne other).symm } }
  have carries : r.CarriesLines lines := carriesLines_of_read (by decide +kernel)
  have carries' : r'.CarriesLines lines' := carriesLines_of_read (by decide +kernel)
  have spells : ∀ {line : LineRequest},
      Identifier.parse? (Text.trim line.productId.toList) = some (.ofNat 10) →
        line.SpellsProduct (.ofNat 10) := fun hparse =>
    ⟨_, Text.trim_eq_iff.mp rfl, Identifier.parse?_eq_some_iff.mp hparse⟩
  have respelled : List.Forall₂ LineRequest.Respelled lines lines' :=
    .cons ⟨rfl, Or.inr ⟨_, spells (by decide +kernel), spells (by decide +kernel)⟩⟩
      (.cons ⟨rfl, Or.inr ⟨_, spells (by decide +kernel), spells (by decide +kernel)⟩⟩ .nil)
  have calls : ((respond {} .nil r).transcript answer m).2.2.map (·.kind) =
      [.product, .create] := by
    decide +kernel
  obtain ⟨alike, _, _⟩ :=
    spelling_is_irrelevant_to_placement {} asks same carries carries' respelled
  rw [← alike .nil] at calls
  exact ⟨asks, same, carries, carries', respelled, calls⟩

end Api
end OrderDesk
