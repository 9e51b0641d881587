import OrderDesk.Proofs.Desk.Later
import OrderDesk.Proofs.Service.Cancelling

/-!
# Stored orders

Orders are stored for good.  Whatever is going on around the store, an order that was
stored once keeps its place, and all of it stays as it was but for the status, the version
and the time of the last write.  In particular the prices of its lines are those of the
day, and they add up to what the order costs.

* `Activity`, `performed`: the events of a desk, and listings beside them.
* `later_performed`: what stands at a place of the store is later than what stood there at
  any time before.
* `get_of_later`: whoever reads an order at a later time gets what was settled then.
* `Coherent`: lines that belong to their order and add up to its price.
* `save_changes_one`, `cancel_changes_one`, `setStatus_changes_one`: a write changes one
  order, in its place.
* `stored_orders_are_append_only_and_frozen`: all of this for every run.
-/

namespace OrderDesk

/-! ## Places -/

/-- Whoever changes the one member with a key changes one place of the list. -/
theorem map_ite_eq_set
    {α κ : Type} [DecidableEq κ]
    {key : α → κ} {f : α → α} {l : List α} {i : Nat} {a : α}
    (nodup : (l.map key).Nodup)
    (at_i : l[i]? = some a) :
    (l.map fun b => if key b = key a then f b else b) = l.set i (f a) := by
  obtain ⟨hi, hget⟩ := List.getElem?_eq_some_iff.mp at_i
  apply List.ext_getElem
  · simp
  · intro j hj hj'
    rw [List.getElem_map, List.getElem_set]
    have hj : j < l.length := by simpa using hj
    by_cases hij : i = j
    · subst hij
      simp [hget]
    · have hne : key l[j] ≠ key a := by
        intro hsame
        have hi' : i < (l.map key).length := by simpa using hi
        have hj' : j < (l.map key).length := by simpa using hj
        have hkeys : (l.map key)[i] = (l.map key)[j] := by
          rw [List.getElem_map, List.getElem_map, hget, hsame]
        exact hij (nodup.getElem_inj_iff.mp hkeys)
      simp [hij, hne]

/-- What stands at a place after a deed is later than what stood there before. -/
theorem Deed.getElem?_apply
    (deed : Deed)
    {orders : List Order} {i : Nat} {o : Order}
    (stands : orders[i]? = some o) :
    ∃ p, (deed.apply orders)[i]? = some p ∧ Order.Later o p := by
  cases deed with
  | nothing =>
      exact ⟨o, stands, .refl o⟩
  | creation order =>
      obtain ⟨hi, _⟩ := List.getElem?_eq_some_iff.mp stands
      refine ⟨o, ?_, .refl o⟩
      rw [apply, List.getElem?_append_left hi]
      exact stands
  | writing id status now =>
      refine ⟨if o.id = id then Memory.written o status now else o, ?_, ?_⟩
      · rw [apply, List.getElem?_map, stands, Option.map_some]
      · split
        · exact .written o status now
        · exact .refl o

namespace Memory

variable {m : Memory}

theorem modify_eq_set
    (distinct : m.Distinct)
    {id : Identifier} {stored : Order}
    (found : m.find? id = some stored)
    (f : Order → Order) :
    ∃ i, m.orders[i]? = some stored ∧
      m.modify id f = { m with orders := m.orders.set i (f stored) } := by
  obtain ⟨i, stands⟩ := List.getElem?_of_mem (mem_of_find? found)
  refine ⟨i, stands, ?_⟩
  rw [modify, ← id_of_find? found, map_ite_eq_set distinct stands]

/-- One order has got a status, in its place, and nothing else has changed. -/
def ChangesOne
    (m m' : Memory)
    (id : Identifier)
    (status : OrderStatus)
    (now : Instant) :
    Prop :=
  ∃ i stored,
    m.orders[i]? = some stored ∧
    stored.id = id ∧
    m' = { m with orders := m.orders.set i (written stored status now) }

theorem changesOne_modify
    (distinct : m.Distinct)
    {id : Identifier} {stored : Order}
    (found : m.find? id = some stored)
    (status : OrderStatus)
    (now : Instant) :
    m.ChangesOne (m.modify id fun o => written o status now) id status now := by
  obtain ⟨i, stands, hset⟩ := modify_eq_set distinct found fun o => written o status now
  exact ⟨i, stored, stands, id_of_find? found, hset⟩

theorem save_changes_one
    (distinct : m.Distinct)
    {now : Instant} {copy : Order} {stamp : Stamp}
    (saves : (m.save now copy).1 = .ok stamp) :
    m.ChangesOne (m.save now copy).2 copy.id copy.status now := by
  obtain ⟨stored, found, current, _⟩ := save_eq_ok_iff.mp saves
  rw [save_of_current now found current]
  exact changesOne_modify distinct found copy.status now

theorem answerUnder_save_changes_one
    (distinct : m.Distinct)
    {fault : Option Fault} {o : Occasion} {copy : Order} {stamp : Stamp}
    (saves : (m.answerUnder fault o (.save copy)).1 = .ok stamp) :
    m.ChangesOne (m.answerUnder fault o (.save copy)).2 copy.id copy.status o.now := by
  have hanswer := answerUnder_save_of_ok saves
  rw [hanswer] at saves ⊢
  exact save_changes_one distinct saves

theorem setStatus_changes_one
    (distinct : m.Distinct)
    {m' : Memory} {now : Instant} {id : Identifier} {status : OrderStatus}
    (sets : m.setStatus? now id status = some m') :
    m.ChangesOne m' id status now := by
  rw [setStatus?, Option.map_eq_some_iff] at sets
  obtain ⟨stored, found, rfl⟩ := sets
  exact changesOne_modify distinct found status now

end Memory

namespace Service

variable {fault : Option Fault} {o : Occasion} {m : Memory}

theorem cancel_changes_one
    (distinct : m.Distinct)
    {id userId : Identifier} {order : Order}
    (cancels : ((cancel id userId).run (Memory.answerUnder fault o) m).1 = .ok order) :
    m.ChangesOne ((cancel id userId).run (Memory.answerUnder fault o) m).2
      id .cancelled o.now := by
  have hrun : (cancel id userId).run (Memory.answerUnder fault o) m =
      (.ok order, ((cancel id userId).run (Memory.answerUnder fault o) m).2) :=
    Prod.ext cancels rfl
  obtain ⟨stored, found, _, _, _, hstate⟩ := cancel_eq_ok hrun
  rw [hstate]
  exact Memory.changesOne_modify distinct found .cancelled o.now

end Service

/-! ## Prices -/

/-- The part of a stored line that it was priced by. -/
def OrderLine.priced (l : OrderLine) : PricedLine where
  productId := l.productId
  quantity := l.quantity
  price := l.price

/-- The lines of an order belong to it and add up to its price. -/
structure Order.Coherent (o : Order) : Prop where
  total : Order.totalOf (o.lines.map (·.priced)) = .ok o.totalPrice
  own : ∀ l ∈ o.lines, l.orderId = o.id

theorem Memory.coherent_newOrder
    {o : Occasion} {userId : Identifier} {lines : List PricedLine} {totalPrice : Decimal}
    (total : Order.totalOf lines = .ok totalPrice) :
    (newOrder o userId lines totalPrice).Coherent := by
  constructor
  · have hpriced : (newLines o lines).map (·.priced) = lines := by
      apply List.ext_getElem
      · simp [newLines]
      · intro i _ _
        simp [newLines, OrderLine.priced]
    rw [newOrder, hpriced]
    exact total
  · intro l hl
    rw [newOrder, newLines, List.mem_mapIdx] at hl
    obtain ⟨i, _, rfl⟩ := hl
    rfl

theorem Memory.coherent_written
    {o : Order}
    (coherent : o.Coherent)
    (status : OrderStatus)
    (now : Instant) :
    (written o status now).Coherent :=
  ⟨coherent.total, coherent.own⟩

/-- Two views of one order, at different times or with other products shown: they agree
in all that is settled when the order is stored. -/
structure Order.SameAggregate (o p : Order) : Prop where
  id : p.id = o.id
  code : p.code = o.code
  userId : p.userId = o.userId
  createdAt : p.createdAt = o.createdAt
  totalPrice : p.totalPrice = o.totalPrice
  lines : p.lines.map (fun l => { l with product := none }) =
    o.lines.map fun l => { l with product := none }

theorem Order.Later.sameAggregate
    {o p : Order}
    (later : Order.Later o p) :
    o.SameAggregate p := by
  rw [later.eq_with]
  exact ⟨rfl, rfl, rfl, rfl, rfl, rfl⟩

theorem Memory.sameAggregate_shown
    (m : Memory)
    {o p : Order}
    (same : o.SameAggregate p) :
    o.SameAggregate (m.shown p) := by
  rw [shown]
  split
  · refine ⟨same.id, same.code, same.userId, same.createdAt, same.totalPrice, ?_⟩
    rw [Order.withProducts, List.map_map, ← same.lines]
    rfl
  · exact same

namespace Desk

/-! ## Runs with listings -/

/-- An event of the desk, or what else may go on around it. -/
inductive Activity where
  | event (e : Event)
  /-- The service lists orders. -/
  | list (userId : Identifier) (query : OrderQuery) (o : Occasion) (fault : Option Fault)
  /-- Somebody calls the store or the catalog directly, and the call may be made to fail. -/
  | call (c : Call) (o : Occasion) (fault : Option Fault)

/-- The desk after an activity. -/
def perform (d : Desk) : Activity → Desk
  | .event e => d.step e
  | .list userId query o fault =>
    { d with
      memory := ((Service.list userId query).run (Memory.answerUnder fault o) d.memory).2 }
  | .call c o fault => { d with memory := (d.memory.answerUnder fault o c).2 }

/-- The desk after a list of activities. -/
def performed (d : Desk) (as : List Activity) : Desk :=
  as.foldl perform d

/-- An activity changes the stored orders by one deed. -/
theorem orders_perform
    (d : Desk)
    (a : Activity) :
    ∃ deed : Deed,
      (d.perform a).memory.orders = deed.apply d.memory.orders ∧
      ∀ order ∈ deed.created?, order.Coherent := by
  cases a with
  | event e =>
      refine ⟨d.deed e, orders_step d e, ?_⟩
      intro order created
      obtain ⟨o, userId, lines, totalPrice, _, htotal, rfl⟩ :=
        deed_eq_creation (Deed.created?_eq_some_iff.mp created)
      exact Memory.coherent_newOrder htotal
  | list userId query o fault =>
      refine ⟨.nothing, ?_, nofun⟩
      rw [perform, Service.run_list]
      rfl
  | call c o fault =>
      rcases Memory.answerUnder_cases fault o c d.memory with ⟨e, h⟩ | h
      · refine ⟨.nothing, ?_, nofun⟩
        rw [perform, h]
        rfl
      · refine ⟨d.memory.deed o c, ?_, ?_⟩
        · rw [perform, h]
          exact Memory.orders_answer d.memory o c
        · intro order created
          obtain ⟨userId, lines, totalPrice, _, htotal, rfl⟩ :=
            Memory.deed_eq_creation (Deed.created?_eq_some_iff.mp created)
          exact Memory.coherent_newOrder htotal

theorem later_performed
    {d : Desk} {i : Nat} {o : Order}
    (stands : d.memory.orders[i]? = some o)
    (as : List Activity) :
    ∃ p, (d.performed as).memory.orders[i]? = some p ∧ Order.Later o p := by
  induction as generalizing d o with
  | nil =>
      exact ⟨o, stands, .refl o⟩
  | cons a as ih =>
      obtain ⟨deed, horders, _⟩ := orders_perform d a
      obtain ⟨p, hp, hop⟩ := deed.getElem?_apply stands
      rw [← horders] at hp
      obtain ⟨q, hq, hpq⟩ := ih hp
      exact ⟨q, hq, hop.trans hpq⟩

theorem coherent_perform
    {d : Desk}
    (coherent : ∀ o ∈ d.memory.orders, o.Coherent)
    (a : Activity) :
    ∀ o ∈ (d.perform a).memory.orders, o.Coherent := by
  obtain ⟨deed, horders, hcreated⟩ := orders_perform d a
  rw [horders]
  intro o ho
  cases deed with
  | nothing =>
      exact coherent o ho
  | creation order =>
      rcases List.mem_append.mp ho with ho | ho
      · exact coherent o ho
      · rw [List.mem_singleton] at ho
        subst ho
        exact hcreated o rfl
  | writing id status now =>
      obtain ⟨stored, hstored, rfl⟩ := List.mem_map.mp ho
      split
      · exact Memory.coherent_written (coherent stored hstored) status now
      · exact coherent stored hstored

theorem coherent_performed
    {d : Desk}
    (coherent : ∀ o ∈ d.memory.orders, o.Coherent)
    (as : List Activity) :
    ∀ o ∈ (d.performed as).memory.orders, o.Coherent := by
  induction as generalizing d with
  | nil =>
      exact coherent
  | cons a as ih =>
      exact ih (coherent_perform coherent a)

/-- Whoever reads an order later gets all that was settled when it was stored, and the
status, the version and the time of the last write as they are then. -/
theorem get_of_later
    {m : Memory} {i : Nat} {o p : Order}
    (distinct : m.Distinct)
    (stands : m.orders[i]? = some p)
    (later : Order.Later o p)
    (occasion : Occasion) :
    ∃ r, (Service.get o.id).run (Memory.answerUnder none occasion) m = (.ok r, m) ∧
      o.SameAggregate r ∧
      r.status = p.status ∧ r.version = p.version ∧ r.updatedAt = p.updatedAt := by
  have same := later.sameAggregate
  have hfind : m.find? o.id = some p := by
    rw [← same.id]
    exact Memory.find?_of_mem distinct (List.mem_of_getElem? stands)
  refine ⟨m.shown p, ?_, m.sameAggregate_shown same, ?_⟩
  · rw [Service.run_get, Memory.answerUnder_none, Memory.answer, Memory.load, hfind]
    rfl
  · rw [Memory.shown]
    split <;> exact ⟨rfl, rfl, rfl⟩

theorem Opened.coherent
    {d : Desk}
    (opened : d.Opened) :
    ∀ o ∈ d.memory.orders, o.Coherent := by
  rw [opened.no_orders]
  intro o ho
  cases ho

/-- With distinct identifiers an activity leaves the orders alone, appends one, or writes
into one, in its place. -/
theorem perform_cases
    {d : Desk}
    (distinct : d.memory.Distinct)
    (a : Activity) :
    (d.perform a).memory.orders = d.memory.orders ∨
    (∃ order, (d.perform a).memory.orders = d.memory.orders ++ [order]) ∨
    (∃ i stored status now,
      d.memory.orders[i]? = some stored ∧
      (d.perform a).memory.orders =
        d.memory.orders.set i (Memory.written stored status now)) := by
  obtain ⟨deed, horders, _⟩ := orders_perform d a
  rw [horders]
  cases deed with
  | nothing =>
      exact Or.inl rfl
  | creation order =>
      exact Or.inr (Or.inl ⟨order, rfl⟩)
  | writing id status now =>
      cases hfound : d.memory.find? id with
      | none =>
          left
          rw [Memory.find?, List.find?_eq_none] at hfound
          have hsame : ∀ o ∈ d.memory.orders,
              (if o.id = id then Memory.written o status now else o) = o := by
            intro o ho
            rw [if_neg (by simpa using hfound o ho)]
          rw [Deed.apply, List.map_congr_left hsame, List.map_id']
      | some stored =>
          obtain ⟨i, stands, hset⟩ := Memory.modify_eq_set distinct hfound
            fun o => Memory.written o status now
          exact Or.inr (Or.inr ⟨i, stored, status, now, stands,
            congrArg Memory.orders hset⟩)

/-- **Stored orders are append-only, and what they cost is frozen.**  Whatever has been
going on since the desk was opened, and whatever goes on from then:

* an order that was stored keeps its place, and only its status, its version and the time
  of its last write may change; whoever reads it gets it so;
* the lines of every stored order belong to it and add up to its price;
* reading and listing, and all operations that fail, leave the whole state as it was;
* a successful cancellation, update or status from outside writes into the one order that
  it names, and no activity does more than append one order or write into one. -/
theorem stored_orders_are_append_only_and_frozen
    {start : Desk}
    (opened : start.Opened)
    (as bs : List Activity) :
    let d := start.performed as
    let d' := d.performed bs
    let m := d'.memory
    (∀ (i : Nat) (o : Order), d.memory.orders[i]? = some o →
      ∃ p : Order, m.orders[i]? = some p ∧
        p = { o with
          status := p.status, version := p.version, updatedAt := p.updatedAt } ∧
        (m.Distinct → ∀ occasion,
          ∃ r, (Service.get o.id).run (Memory.answerUnder none occasion) m = (.ok r, m) ∧
            o.SameAggregate r ∧
            r.status = p.status ∧ r.version = p.version ∧ r.updatedAt = p.updatedAt)) ∧
    (∀ o ∈ m.orders, o.Coherent) ∧
    (∀ fault occasion,
      let answer := Memory.answerUnder fault occasion
      (∀ id, ((Service.get id).run answer m).2 = m) ∧
      (∀ userId query, ((Service.list userId query).run answer m).2 = m) ∧
      (∀ policy userId request,
        Service.FailsAtomically fault occasion m (Service.place policy userId request)) ∧
      (∀ id userId, Service.FailsAtomically fault occasion m (Service.cancel id userId)) ∧
      (∀ userId lines e,
        (answer (.create userId lines) m).1 = .error e →
          (answer (.create userId lines) m).2 = m) ∧
      (∀ copy e, (answer (.save copy) m).1 = .error e → (answer (.save copy) m).2 = m)) ∧
    (m.Distinct →
      (∀ fault occasion id userId order,
        let run := (Service.cancel id userId).run (Memory.answerUnder fault occasion) m
        run.1 = .ok order → m.ChangesOne run.2 id .cancelled occasion.now) ∧
      (∀ fault occasion copy stamp,
        let answer := m.answerUnder fault occasion (.save copy)
        answer.1 = .ok stamp →
          m.ChangesOne answer.2 copy.id copy.status occasion.now) ∧
      (∀ now id status m',
        m.setStatus? now id status = some m' → m.ChangesOne m' id status now) ∧
      (∀ a,
        (d'.perform a).memory.orders = m.orders ∨
        (∃ order, (d'.perform a).memory.orders = m.orders ++ [order]) ∨
        (∃ i stored status now,
          m.orders[i]? = some stored ∧
          (d'.perform a).memory.orders =
            m.orders.set i (Memory.written stored status now)))) := by
  intro d d' m
  refine ⟨?_, coherent_performed (coherent_performed opened.coherent as) bs, ?_, ?_⟩
  · intro i o stands
    obtain ⟨p, hp, later⟩ := later_performed stands bs
    exact ⟨p, hp, later.eq_with, fun distinct => get_of_later distinct hp later⟩
  · intro fault occasion answer
    refine ⟨?_, ?_, Service.place_fails_atomically, Service.cancel_fails_atomically, ?_, ?_⟩
    · intro id
      rw [Service.run_get]
    · intro userId query
      rw [Service.run_list]
    · intro userId lines e fails
      exact congrArg Prod.snd (Memory.answerUnder_create_of_error fails)
    · intro copy e fails
      exact congrArg Prod.snd (Memory.answerUnder_save_of_error fails)
  · intro distinct
    refine ⟨?_, ?_, ?_, perform_cases distinct⟩
    · intro fault occasion id userId order run cancels
      exact Service.cancel_changes_one distinct cancels
    · intro fault occasion copy stamp answer saves
      exact Memory.answerUnder_save_changes_one distinct saves
    · intro now id status m' sets
      exact Memory.setStatus_changes_one distinct sets

/-- A copy without lines is written back, and the line that was stored keeps its price. -/
theorem stored_orders_are_append_only_and_frozen_of_stripped_copy :
    let start : Desk := { memory := {} }
    let line : PricedLine := ⟨.ofNat 1, 2, ⟨false, 500, 2, by decide, by decide⟩⟩
    let as : List Activity := [.event (.create (.numbered 1) .nil [line])]
    let bs : List Activity :=
      [.event (.read (Occasion.numbered 1).orderId false),
        .event (.update 1 (.numbered 2)),
        .list .nil {} (.numbered 3) none]
    let m := ((start.performed as).performed bs).memory
    start.Opened ∧ m.Distinct ∧
      ∃ o p, (start.performed as).memory.orders[0]? = some o ∧
        m.orders[0]? = some p ∧
        p.version = 2 ∧
        p.lines = o.lines ∧
        p.lines.map (·.priced) = [line] ∧
        p.Coherent := by
  intro start line as bs m
  have opened : start.Opened := ⟨rfl, rfl, rfl⟩
  have distinct : m.Distinct := by
    show (m.orders.map (·.id)).Nodup
    decide
  obtain ⟨stays, coherent, _⟩ := stored_orders_are_append_only_and_frozen opened as bs
  have stands : (start.performed as).memory.orders[0]? =
      some (Memory.newOrder (.numbered 1) .nil [line] line.price) := rfl
  obtain ⟨p, hp, hkept, _⟩ := stays 0 _ stands
  have hversion : m.orders[0]?.map (·.version) = some 2 := by decide
  rw [hp, Option.map_some, Option.some.injEq] at hversion
  have hlines : p.lines = Memory.newLines (.numbered 1) [line] := by
    rw [hkept]
    rfl
  refine ⟨opened, distinct, _, p, stands, hp, hversion, hlines, ?_,
    coherent p (List.mem_of_getElem? hp)⟩
  rw [hlines]
  rfl

end Desk
end OrderDesk
