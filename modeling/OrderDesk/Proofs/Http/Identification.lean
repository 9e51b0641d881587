import OrderDesk.Proofs.Dialogue.Steps
import OrderDesk.Proofs.Http.Conveyance
import OrderDesk.Proofs.Identifier

/-!
# For whom a request is carried out

The calling user is identified before anything else.  Who cannot be identified is refused,
whatever else the request carries, and nothing is called.  Who is identified is the only
user that the request is carried out for.

* `Headers.Lacks`, `Headers.FirstIs`: the values that the headers have under a name.
* `Header.Denotes`: the identifier that a value denotes.
* `Asked.answering`: what an operation does for a user.
* `Call.user?`: the user that a call is made for.
* `respond_identifies_the_caller`: the three cases, for every partner who answers the
  calls.
-/

namespace OrderDesk

/-! ## Headers -/

namespace Header

theorem isPrintable_iff
    (b : UInt8) :
    isPrintable b = true ↔ b = 9 ∨ 32 ≤ b ∧ b ≤ 126 := by
  simp [isPrintable]

/-- A value denotes an identifier: it consists of printable characters and tabs, and spells
the identifier between blanks. -/
def Denotes (value : List UInt8) (id : Identifier) : Prop :=
  (∀ b ∈ value, b = 9 ∨ 32 ≤ b ∧ b ≤ 126) ∧
    id.Spelling (Text.trim (value.map fun b => Char.ofNat b.toNat))

theorem denotes_iff
    {value : List UInt8} {id : Identifier} :
    ((textOf? value).bind fun text => Identifier.parse? (Text.trim text)) = some id ↔
      Denotes value id := by
  have hprintable : value.all isPrintable = true ↔ ∀ b ∈ value, b = 9 ∨ 32 ≤ b ∧ b ≤ 126 := by
    simp only [List.all_eq_true, isPrintable_iff]
  rw [textOf?, Denotes, ← Identifier.parse?_eq_some_iff, ← hprintable]
  cases value.all isPrintable <;> simp

end Header

namespace Headers

/-- There is no value under a name. -/
def Lacks (hs : Headers) (name : String) : Prop :=
  ∀ h ∈ hs, h.key ≠ name.toLower

/-- The first value under a name. -/
def FirstIs (hs : Headers) (name : String) (value : List UInt8) : Prop :=
  ∃ before h after,
    hs = before ++ h :: after ∧ Lacks before name ∧ h.key = name.toLower ∧ h.value = value

instance (hs : Headers) (name : String) : Decidable (hs.Lacks name) :=
  inferInstanceAs (Decidable (∀ h ∈ hs, h.key ≠ name.toLower))

theorem first?_eq_none_iff
    {hs : Headers} {name : String} :
    hs.first? name.toLower = none ↔ hs.Lacks name := by
  simp [first?, Lacks]

theorem first?_eq_some_iff
    {hs : Headers} {name : String} {value : List UInt8} :
    hs.first? name.toLower = some value ↔ hs.FirstIs name value := by
  simp only [first?, FirstIs, Lacks, Option.map_eq_some_iff, List.find?_eq_some_iff_append,
    beq_iff_eq, Bool.not_eq_true', beq_eq_false_iff_ne]
  constructor
  · rintro ⟨h, ⟨hkey, before, after, rfl, hbefore⟩, rfl⟩
    exact ⟨before, h, after, rfl, hbefore, hkey, rfl⟩
  · rintro ⟨before, h, after, rfl, hbefore, hkey, rfl⟩
    exact ⟨h, ⟨hkey, before, after, rfl, hbefore⟩, rfl⟩

theorem FirstIs.unique
    {hs : Headers} {name : String} {value value' : List UInt8}
    (first : hs.FirstIs name value)
    (first' : hs.FirstIs name value') :
    value = value' :=
  Option.some.inj ((first?_eq_some_iff.mpr first).symm.trans (first?_eq_some_iff.mpr first'))

/-- The identifier under a name is the one that the first value there denotes. -/
theorem identifier?_eq_some_iff_denotes
    {hs : Headers} {name : String} {id : Identifier} :
    hs.identifier? name.toLower = some id ↔
      ∃ value, hs.FirstIs name value ∧ Header.Denotes value id := by
  simp only [← first?_eq_some_iff, ← Header.denotes_iff]
  exact Option.bind_eq_some_iff

end Headers

/-! ## Callers -/

namespace Api

section Caller

variable {r : Request}

theorem callingUser_of_lacks
    (lacks : r.headers.Lacks Request.userHeader) :
    callingUser r = .error (.missingHeader Request.userHeader) := by
  rw [callingUser, Headers.first?_eq_none_iff.mpr lacks]

variable {value : List UInt8} (first : r.headers.FirstIs Request.userHeader value)

include first

theorem identifier?_eq_some_iff
    {userId : Identifier} :
    r.headers.identifier? Request.userHeader.toLower = some userId ↔
      Header.Denotes value userId := by
  rw [Headers.identifier?_eq_some_iff_denotes]
  constructor
  · rintro ⟨value', first', denotes⟩
    rwa [first.unique first']
  · exact fun denotes => ⟨value, first, denotes⟩

theorem callingUser_of_denotes
    {userId : Identifier}
    (denotes : Header.Denotes value userId) :
    callingUser r = .ok userId := by
  simp only [callingUser, Headers.first?_eq_some_iff.mpr first,
    (identifier?_eq_some_iff first).mpr denotes]

theorem callingUser_of_not_denotes
    (malformed : ∀ userId, ¬ Header.Denotes value userId) :
    callingUser r = .error .invalidUserId := by
  have hnone : r.headers.identifier? Request.userHeader.toLower = none := by
    cases h : r.headers.identifier? Request.userHeader.toLower with
    | none =>
        rfl
    | some userId =>
        exact absurd ((identifier?_eq_some_iff first).mp h) (malformed userId)
  simp only [callingUser, Headers.first?_eq_some_iff.mpr first, hnone]

end Caller

end Api

/-! ## What is done for a user -/

/-- What an operation does for a user. -/
def Asked.answering
    (policy : OrderPolicy)
    (userId : Identifier)
    (r : Request) :
    Asked → Api.Answering
  | placing => Api.placeOrder policy userId r
  | listing => Api.listOrders userId r
  | reading sent => Api.withOrder sent (Api.getOrder userId)
  | cancelling sent => Api.withOrder sent (Api.cancelOrder userId)

/-- The user that a call is made for.  Single orders and products are looked up for
nobody. -/
def Call.user? : Call → Option Identifier
  | product _ => none
  | create userId _ => some userId
  | load .. => none
  | page userId _ => some userId
  | save _ => none

/-- A call is made for a user, or for nobody. -/
def Call.IsFor (userId : Identifier) (c : Call) : Prop :=
  ∀ user, c.user? = some user → user = userId

namespace Service

theorem isFor_of_kind
    {userId : Identifier} {c : Call}
    (kind : c.kind ≠ .create ∧ c.kind ≠ .page) :
    c.IsFor userId := by
  intro user huser
  cases c with
  | product id => cases huser
  | create _ _ => exact absurd rfl kind.1
  | load _ _ => cases huser
  | page _ _ => exact absurd rfl kind.2
  | save _ => cases huser

theorem place_isFor
    (policy : OrderPolicy)
    (userId : Identifier)
    (request : List LineRequest) :
    (place policy userId request).All (Call.IsFor userId) := by
  refine Dialogue.all_bind (Dialogue.all_ofExcept _ _) ?_
  intro valid
  refine Dialogue.all_bind ((priceLines_asks valid []).mono ?_) ?_
  · intro c kind
    exact isFor_of_kind (by simp [kind])
  · rintro ⟨lines, known⟩
    refine Dialogue.all_bind ?_ fun _ => trivial
    refine ⟨fun user huser => (Option.some.inj huser).symm, ?_⟩
    intro answered
    cases answered with
    | ok order => trivial
    | error e => cases e <;> trivial

theorem get_isFor
    (userId id : Identifier) :
    (get id).All (Call.IsFor userId) := by
  refine ⟨isFor_of_kind (by simp [Call.kind]), ?_⟩
  intro answered
  cases answered <;> trivial

theorem list_isFor
    (userId : Identifier)
    (query : OrderQuery) :
    (list userId query).All (Call.IsFor userId) := by
  refine ⟨fun user huser => (Option.some.inj huser).symm, ?_⟩
  intro answered
  cases answered <;> trivial

theorem cancel_isFor
    (userId id : Identifier) :
    (cancel id userId).All (Call.IsFor userId) := by
  refine ⟨isFor_of_kind (by simp [Call.kind]), ?_⟩
  intro loaded
  cases loaded with
  | error e =>
      trivial
  | ok order =>
      cases hdecide : decideCancel id userId order with
      | error failure =>
          simp only [hdecide]
          trivial
      | ok copy =>
          simp only [hdecide]
          refine ⟨isFor_of_kind (by simp [Call.kind]), ?_⟩
          intro saved
          cases saved <;> trivial

end Service

namespace Api

theorem all_settle
    {α : Type} {P : Call → Prop} {task : Task Service.Failure α}
    (respond : α → Response)
    (all : task.All P) :
    (settle respond task).All P := by
  rw [settle, Dialogue.monad_bind_eq]
  refine Dialogue.all_bind (Dialogue.all_attempt all) ?_
  intro outcome
  cases outcome with
  | ok a => trivial
  | error failure => cases failure <;> trivial

theorem all_withOrder
    {P : Call → Prop} {answer : Identifier → Answering}
    (sent : List UInt8)
    (all : ∀ id, (answer id).All P) :
    (withOrder sent answer).All P := by
  rw [withOrder]
  split
  · exact all _
  · trivial

/-- An operation is carried out for its user and nobody else. -/
theorem answering_isFor
    (policy : OrderPolicy)
    (userId : Identifier)
    (r : Request)
    (asked : Asked) :
    (asked.answering policy userId r).All (Call.IsFor userId) := by
  cases asked with
  | placing =>
      rw [Asked.answering, placeOrder]
      split
      · exact all_settle _ (Service.place_isFor policy userId _)
      · trivial
  | listing =>
      rw [Asked.answering, listOrders]
      split
      · exact all_settle _ (Service.list_isFor userId _)
      · trivial
  | reading sent =>
      exact all_withOrder sent fun id => all_settle _ (Service.get_isFor userId id)
  | cancelling sent =>
      exact all_withOrder sent fun id => all_settle _ (Service.cancel_isFor userId id)

theorem dispatch_eq_answering
    (policy : OrderPolicy)
    (userId : Identifier)
    {r : Request} {asked : Asked}
    (asks : r.Asks asked) :
    dispatch policy userId r asked.route = asked.answering policy userId r := by
  cases asked with
  | placing => exact dispatch_placing policy asks userId
  | listing => exact dispatch_listing policy asks userId
  | reading sent => exact dispatch_reading policy asks userId
  | cancelling sent => exact dispatch_cancelling policy asks userId

/-- The document for whoever does not say who is calling. -/
def unauthenticated : Json.Value :=
  .object
    [("error", .text "Missing required header: X-Request-User-Id"),
      ("error_code", .text "unauthenticated"),
      ("details", .text "X-Request-User-Id")]

/-- The document for whoever says so in no spelling of an identifier. -/
def misidentified : Json.Value :=
  .object
    [("error", .text "Invalid user id header"),
      ("error_code", .text "invalid_user_id")]

/-- **Nothing happens for an unidentified caller.**  A request asks for one of the four
operations, whatever else it carries, and whoever answers the calls:

* without a user it is answered as unauthenticated, and nothing is called;
* if the first value for the user denotes no identifier, it is answered as misidentified,
  and nothing is called;
* if that value denotes one, the operation is carried out for exactly this user: no call is
  made for another one. -/
theorem respond_identifies_the_caller
    {σ : Type}
    (answer : (c : Call) → σ → c.Answer × σ)
    (s : σ)
    (policy : OrderPolicy)
    (random : Identifier)
    {r : Request} {asked : Asked}
    (asks : r.Asks asked) :
    let name := correlationId r random
    let run := (respond policy random r).transcript answer s
    (r.headers.Lacks Request.userHeader →
      run = (.ok (.under name .unauthorized unauthenticated), s, [])) ∧
    (∀ value, r.headers.FirstIs Request.userHeader value →
      (∀ userId, ¬ Header.Denotes value userId) →
        run = (.ok (.under name .badRequest misidentified), s, [])) ∧
    (∀ value userId, r.headers.FirstIs Request.userHeader value →
      Header.Denotes value userId →
        let operation := (asked.answering policy userId r).transcript answer s
        run = (operation.1.map (·.correlated name), operation.2) ∧
        ∀ c ∈ run.2.2, c.IsFor userId) := by
  intro name run
  refine ⟨?_, ?_, ?_⟩
  · intro lacks
    exact run_respond_of_stranger _ _ policy random asks (callingUser_of_lacks lacks)
  · intro value first malformed
    exact run_respond_of_stranger _ _ policy random asks
      (callingUser_of_not_denotes first malformed)
  · intro value userId first denotes
    have hrun : run = _ := run_respond_of_asks (Dialogue.noting answer) (s, []) policy random
      asks (callingUser_of_denotes first denotes)
    rw [dispatch_eq_answering policy userId asks] at hrun
    refine ⟨hrun, ?_⟩
    rw [hrun]
    exact (answering_isFor policy userId r asked).transcript answer s

/-- Listings for nobody, for a user whose first name is none, and for a user who is named
twice, first in braces and between blanks. -/
theorem respond_identifies_the_caller_of_two_names :
    let m : Memory := {}
    let request : Headers → Request := fun headers =>
      { method := .get, target := Utf8.ofString "/api/v1/orders", headers, body := [] }
    let header : List Char → Header := fun value =>
      ⟨"x-request-USER-id", Utf8.encode value⟩
    let second : Header := header "00000000-0000-0000-0000-00000000000b".toList
    let anonymous := request [⟨"accept", []⟩]
    let misnamed := request [header "7".toList, second]
    let spelling := " \t\x7b00000000-0000-0000-0000-00000000000A\x7d ".toList
    let named := request [⟨"accept", []⟩, header spelling, second]
    let answer := Memory.answerUnder none (.numbered 1)
    let calls := ((respond {} .nil named).transcript answer m).2.2
    anonymous.Asks .listing ∧ misnamed.Asks .listing ∧ named.Asks .listing ∧
      (respond {} .nil anonymous).transcript answer m =
        (.ok (.under (correlationId anonymous .nil) .unauthorized unauthenticated), m, []) ∧
      (respond {} .nil misnamed).transcript answer m =
        (.ok (.under (correlationId misnamed .nil) .badRequest misidentified), m, []) ∧
      calls = [.page (.ofNat 10) {}] ∧
      ∀ c ∈ calls, c.IsFor (.ofNat 10) := by
  intro m request header second anonymous misnamed spelling named answer calls
  have path : (request []).path = Asked.listing.route.path := by decide +kernel
  have asks : ∀ headers, (request headers).Asks .listing := fun _ => ⟨path, trivial, rfl⟩
  have key : "x-request-USER-id".toLower = Request.userHeader.toLower :=
    calc "x-request-USER-id".toLower
        = "x-request-user-id" := by decide +kernel
      _ = Request.userHeader.toLower := by decide +kernel
  have lacks : anonymous.headers.Lacks Request.userHeader := by decide +kernel
  have misnames : misnamed.headers.FirstIs Request.userHeader (Utf8.encode "7".toList) :=
    ⟨[], header "7".toList, [second], rfl, by decide, key, rfl⟩
  have malformed : ∀ userId, ¬ Header.Denotes (Utf8.encode "7".toList) userId := by
    intro userId denotes
    have hnone : ((Header.textOf? (Utf8.encode "7".toList)).bind fun text =>
        Identifier.parse? (Text.trim text)) = none := by
      decide +kernel
    rw [Header.denotes_iff.mpr denotes] at hnone
    cases hnone
  have names : named.headers.FirstIs Request.userHeader (header spelling).value :=
    ⟨[⟨"accept", []⟩], header spelling, [second], rfl, by decide +kernel, key, rfl⟩
  have denotes : Header.Denotes (header spelling).value (.ofNat 10) :=
    Header.denotes_iff.mp (by decide +kernel)
  have called : ((Asked.listing.answering {} (.ofNat 10) named).transcript answer m).2.2 =
      [.page (.ofNat 10) {}] := by
    decide +kernel
  have anonymousAsks : anonymous.Asks .listing := asks _
  have misnamedAsks : misnamed.Asks .listing := asks _
  have namedAsks : named.Asks .listing := asks _
  obtain ⟨whole, isFor⟩ :=
    (respond_identifies_the_caller answer m {} .nil namedAsks).2.2 _ _ names denotes
  refine ⟨anonymousAsks, misnamedAsks, namedAsks, ?_, ?_, ?_, isFor⟩
  · exact (respond_identifies_the_caller answer m {} .nil anonymousAsks).1 lacks
  · exact (respond_identifies_the_caller answer m {} .nil misnamedAsks).2.1 _ misnames malformed
  · rw [← called]
    exact congrArg (·.2.2) whole

end Api
end OrderDesk
