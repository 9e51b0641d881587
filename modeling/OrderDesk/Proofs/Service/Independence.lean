import OrderDesk.Proofs.Desk.Steps
import OrderDesk.Proofs.Service.Cancelling

/-!
# Users do not interfere

What other users do is not to be seen by a user: not in the listings, not in the orders
that are read alone, and not in what becomes of a cancellation.  The argument goes along
the operations of the others.

* **One operation** changes the stored orders by a deed that is foreign to the user
  (`deed_of_execution`): it creates an order of somebody else, or it writes where an order
  of somebody else is found.
* **One deed** that is foreign to the user leaves the user's orders as they are, and each
  of them is found as before (`Unseen.apply`).
* **All observations** of the user depend on these orders and on the catalog
  (`Unseen.page`, `Unseen.find?`).

`users_do_not_interfere` puts them together for every sequence of operations.
-/

namespace OrderDesk

/-- What a client has the service do. -/
inductive Undertaking where
  | request (r : OrderRequest)
  | list (userId : Identifier) (query : OrderQuery)

/-- The user that an undertaking acts for.  Whoever reads one order is not named to the
service. -/
def Undertaking.caller? : Undertaking → Option Identifier
  | request (.place _ userId _) => some userId
  | request (.get _) => none
  | request (.cancel _ userId) => some userId
  | list userId _ => some userId

/-- An undertaking with what it takes from outside and the kind of call that is made to
fail. -/
structure Execution where
  undertaking : Undertaking
  occasion : Occasion
  fault : Option Fault

/-- The state after an operation, whether it succeeds or fails. -/
def Execution.after (x : Execution) (m : Memory) : Memory :=
  let answer := Memory.answerUnder x.fault x.occasion
  match x.undertaking with
  | .request r => (r.task.run answer m).2
  | .list userId query => ((Service.list userId query).run answer m).2

namespace Memory

/-- The state after a list of operations. -/
def executed (m : Memory) (xs : List Execution) : Memory :=
  xs.foldl (fun m x => x.after m) m

/-- The orders of a user, in the order of their creation. -/
def ownOrders (m : Memory) (userId : Identifier) : List Order :=
  m.orders.filter (·.isOwnedBy userId)

/-- Every order of a user is found under its identifier. -/
def FindsOwn (userId : Identifier) (m : Memory) : Prop :=
  ∀ o ∈ m.ownOrders userId, m.find? o.id = some o

/-- Whatever has led from one state to another is not to be seen by a user. -/
structure Unseen (userId : Identifier) (m m' : Memory) : Prop where
  own : m'.ownOrders userId = m.ownOrders userId
  finds : m'.FindsOwn userId
  catalog : m'.catalog = m.catalog
  showsProducts : m'.showsProducts = m.showsProducts

end Memory

/-- A deed that has nothing to do with a user: the order that it creates, or that is found
where it writes, belongs to somebody else. -/
inductive Deed.ForeignTo (userId : Identifier) (m : Memory) : Deed → Prop where
  | nothing :
      Deed.ForeignTo userId m .nothing
  | creation
      {order : Order}
      (other : order.userId ≠ userId) :
      Deed.ForeignTo userId m (.creation order)
  | writing
      {id : Identifier} {stored : Order}
      (found : m.find? id = some stored)
      (other : stored.userId ≠ userId)
      (status : OrderStatus)
      (now : Instant) :
      Deed.ForeignTo userId m (.writing id status now)

namespace Memory

variable {userId : Identifier} {m m' m'' : Memory}

theorem mem_ownOrders
    {o : Order} :
    o ∈ m.ownOrders userId ↔ o ∈ m.orders ∧ o.userId = userId := by
  simp [ownOrders, Order.isOwnedBy]

theorem Distinct.findsOwn
    (distinct : m.Distinct)
    (userId : Identifier) :
    m.FindsOwn userId := by
  intro o ho
  exact find?_of_mem distinct (mem_ownOrders.mp ho).1

theorem FindsOwn.unseen
    (finds : m.FindsOwn userId) :
    Unseen userId m m :=
  ⟨rfl, finds, rfl, rfl⟩

theorem Unseen.trans
    (first : Unseen userId m m')
    (second : Unseen userId m' m'') :
    Unseen userId m m'' where
  own := second.own.trans first.own
  finds := second.finds
  catalog := second.catalog.trans first.catalog
  showsProducts := second.showsProducts.trans first.showsProducts

/-! ## One deed -/

/-- Where the order of somebody else is found, no order of the user is. -/
theorem FindsOwn.id_ne
    (finds : m.FindsOwn userId)
    {id : Identifier} {stored o : Order}
    (found : m.find? id = some stored)
    (other : stored.userId ≠ userId)
    (own : o ∈ m.ownOrders userId) :
    o.id ≠ id := by
  rintro rfl
  have hsame := finds o own
  rw [found] at hsame
  cases hsame
  exact other (mem_ownOrders.mp own).2

/-- A foreign deed leaves the list of the user's orders as it is. -/
theorem ownOrders_apply
    (finds : m.FindsOwn userId)
    {deed : Deed}
    (foreign : deed.ForeignTo userId m) :
    (deed.apply m.orders).filter (·.isOwnedBy userId) = m.ownOrders userId := by
  cases foreign with
  | nothing =>
      rfl
  | creation other =>
      simp [Deed.apply, ownOrders, Order.isOwnedBy, other]
  | @writing id stored found other status now =>
      have owner : ∀ o : Order,
          (if o.id = id then written o status now else o).isOwnedBy userId =
            o.isOwnedBy userId := by
        intro o
        split <;> rfl
      have untouched : ∀ o ∈ m.ownOrders userId,
          (if o.id = id then written o status now else o) = o := by
        intro o own
        rw [if_neg (finds.id_ne found other own)]
      rw [Deed.apply, List.filter_map]
      simp only [Function.comp_def, owner]
      rw [← ownOrders, List.map_congr_left untouched, List.map_id']

/-- A foreign deed is not to be seen by the user. -/
theorem Unseen.apply
    (finds : m.FindsOwn userId)
    {deed : Deed}
    (foreign : deed.ForeignTo userId m) :
    Unseen userId m { m with orders := deed.apply m.orders } := by
  have own := ownOrders_apply finds foreign
  refine ⟨own, ?_, rfl, rfl⟩
  intro o ho
  have before : o ∈ m.ownOrders userId := own ▸ ho
  have hfind := finds o before
  rw [find?] at hfind ⊢
  rw [Deed.find?_apply, hfind]
  cases foreign with
  | nothing =>
      rfl
  | creation other =>
      rfl
  | writing found other status now =>
      exact Deed.on?_writing_of_ne (finds.id_ne found other before).symm status now _

/-! ## One operation -/

/-- An operation of somebody else changes the orders by a foreign deed, and nothing else. -/
theorem deed_of_execution
    (m : Memory)
    {x : Execution}
    (other : x.undertaking.caller? ≠ some userId) :
    ∃ deed : Deed,
      deed.ForeignTo userId m ∧ x.after m = { m with orders := deed.apply m.orders } := by
  obtain ⟨undertaking, occasion, fault⟩ := x
  cases undertaking with
  | list caller query =>
      refine ⟨.nothing, .nothing, ?_⟩
      simp only [Execution.after, Service.run_list]
      rfl
  | request r =>
      cases r with
      | get id =>
          refine ⟨.nothing, .nothing, ?_⟩
          simp only [Execution.after, OrderRequest.task, Service.run_get]
          rfl
      | place policy caller lines =>
          cases hrun : (Service.place policy caller lines).run
              (answerUnder fault occasion) m with
          | mk result m' =>
              cases result with
              | error failure =>
                  have unchanged := Service.place_fails_atomically policy caller lines failure
                    (congrArg Prod.fst hrun)
                  exact ⟨.nothing, .nothing, unchanged⟩
              | ok order =>
                  obtain ⟨_, priced, totalPrice, _, _, _, _, _, _, _, hstate⟩ :=
                    Service.place_eq_ok hrun
                  have foreign : (newOrder occasion caller priced totalPrice).userId ≠ userId :=
                    fun same => other (congrArg some same)
                  refine ⟨_, .creation foreign, ?_⟩
                  simp only [Execution.after, OrderRequest.task, hrun, hstate]
                  rfl
      | cancel id caller =>
          cases hrun : (Service.cancel id caller).run (answerUnder fault occasion) m with
          | mk result m' =>
              cases result with
              | error failure =>
                  have unchanged := Service.cancel_fails_atomically id caller failure
                    (congrArg Prod.fst hrun)
                  exact ⟨.nothing, .nothing, unchanged⟩
              | ok order =>
                  obtain ⟨stored, found, own, _, _, hstate⟩ := Service.cancel_eq_ok hrun
                  have foreign : stored.userId ≠ userId :=
                    fun same => other (congrArg some (own.symm.trans same))
                  refine ⟨_, .writing found foreign .cancelled occasion.now, ?_⟩
                  simp only [Execution.after, OrderRequest.task, hrun, hstate]
                  rfl

/-- Whatever others do, one operation after the other, the user does not see it. -/
theorem unseen_executed
    (finds : m.FindsOwn userId)
    {xs : List Execution}
    (others : ∀ x ∈ xs, x.undertaking.caller? ≠ some userId) :
    Unseen userId m (m.executed xs) := by
  induction xs generalizing m with
  | nil =>
      exact finds.unseen
  | cons x xs ih =>
      obtain ⟨deed, foreign, hafter⟩ := deed_of_execution m (others x (List.mem_cons_self ..))
      have step : Unseen userId m (x.after m) := by
        rw [hafter]
        exact .apply finds foreign
      exact step.trans (ih step.finds fun y hy => others y (List.mem_cons_of_mem _ hy))

/-! ## What a user sees -/

/-- A listing of a user depends only on the user's orders. -/
theorem arrange_ownOrders
    (q : OrderQuery)
    (userId : Identifier)
    (m : Memory) :
    q.arrange userId (m.ownOrders userId) = q.arrange userId m.orders := by
  have both : ∀ o : Order,
      (q.selects userId o && o.isOwnedBy userId) = q.selects userId o := by
    intro o
    cases hown : o.userId == userId <;> simp [OrderQuery.selects, Order.isOwnedBy, hown]
  rw [OrderQuery.arrange, ownOrders, List.filter_filter]
  simp only [both]
  rfl

namespace Unseen

variable (unseen : Unseen userId m m')
include unseen

theorem shown :
    m'.shown = m.shown := by
  funext o
  rw [Memory.shown, Memory.shown, unseen.showsProducts, unseen.catalog]

theorem page
    (q : OrderQuery) :
    m'.page userId q = m.page userId q := by
  have harrange : q.arrange userId m'.orders = q.arrange userId m.orders := by
    rw [← arrange_ownOrders, unseen.own, arrange_ownOrders]
  simp only [Memory.page, harrange, unseen.shown]

theorem find?
    {o : Order}
    (own : o ∈ m.ownOrders userId) :
    m'.find? o.id = some o := by
  refine unseen.finds o ?_
  rw [unseen.own]
  exact own

end Unseen
end Memory

namespace Service

open Memory

variable {m m' : Memory} {id userId : Identifier} {stored : Order}

/-- What a listing answers is what its page is. -/
theorem answer_page
    (fault : Option Fault)
    (o : Occasion)
    (m : Memory)
    (q : OrderQuery) :
    ((list userId q).run (answerUnder fault o) m).1 =
      match faultOn? fault (.page userId q) with
      | some e => .error (passed e)
      | none => .ok (m.page userId q) := by
  rw [run_list]
  cases hfault : faultOn? fault (.page userId q) with
  | some e =>
      rw [answerUnder_of_fault hfault]
      rfl
  | none =>
      rw [answerUnder_of_no_fault hfault]
      rfl

/-- What reading a stored order answers is how it is shown. -/
theorem answer_get_of_found
    (found : m.find? id = some stored)
    (fault : Option Fault)
    (o : Occasion) :
    ((get id).run (answerUnder fault o) m).1 =
      match faultOn? fault (.load id true) with
      | some e => .error (passed e)
      | none => .ok (m.shown stored) := by
  rw [run_get]
  cases hfault : faultOn? fault (.load id true) with
  | some e =>
      rw [answerUnder_of_fault hfault]
      rfl
  | none =>
      rw [answerUnder_of_no_fault hfault, Memory.answer, load, found]
      rfl

/-- Two cancellations of one stored order end alike, but for the time of the write. -/
theorem answer_cancel_of_found
    (found : m.find? id = some stored)
    (found' : m'.find? id = some stored)
    (fault : Option Fault)
    (o o' : Occasion) :
    ((cancel id userId).run (answerUnder fault o') m').1 =
      ((cancel id userId).run (answerUnder fault o) m).1.map
        fun order => { order with updatedAt := o'.now } := by
  rw [run_cancel_of_found found, run_cancel_of_found found']
  cases faultOn? fault (.load id false) with
  | some e =>
      rfl
  | none =>
      cases decideCancel id userId stored.withoutLines with
      | error failure =>
          rfl
      | ok copy =>
          simp only []
          cases faultOn? fault (.save copy) <;> rfl

/-- **Users do not interfere.**  In every state that a run with fresh identifiers reaches,
whatever others place, read, list and cancel from then on, with any arguments and whatever
may fail, a user finds all as it was:

* the same orders of the user are stored, in the same order;
* every listing answers the same page;
* every order of the user reads the same, alone or with its lines;
* every cancellation of such an order ends the same, but for the time of the write. -/
theorem users_do_not_interfere
    {desk : Desk} {es : List Desk.Event}
    (opened : desk.Opened)
    (fresh : desk.Along Desk.Fresh es)
    {userId : Identifier} {xs : List Execution}
    (others : ∀ x ∈ xs, x.undertaking.caller? ≠ some userId) :
    let m := (desk.after es).memory
    let m' := m.executed xs
    m'.orders.filter (·.isOwnedBy userId) = m.orders.filter (·.isOwnedBy userId) ∧
    (∀ q fault o o',
      ((list userId q).run (answerUnder fault o') m').1 =
        ((list userId q).run (answerUnder fault o) m).1) ∧
    (∀ stored ∈ m.orders, stored.userId = userId →
      (∀ withLines, m'.load stored.id withLines = m.load stored.id withLines) ∧
      (∀ fault o o',
        ((get stored.id).run (answerUnder fault o') m').1 =
          ((get stored.id).run (answerUnder fault o) m).1) ∧
      (∀ fault o o',
        ((cancel stored.id userId).run (answerUnder fault o') m').1 =
          ((cancel stored.id userId).run (answerUnder fault o) m).1.map
            fun order => { order with updatedAt := o'.now })) := by
  intro m m'
  have distinct : m.Distinct := Desk.distinct_after opened.distinct fresh
  have unseen : Unseen userId m m' := unseen_executed (distinct.findsOwn userId) others
  refine ⟨unseen.own, ?_, ?_⟩
  · intro q fault o o'
    rw [answer_page, answer_page, unseen.page]
  · intro stored hstored own
    have found : m.find? stored.id = some stored := find?_of_mem distinct hstored
    have found' : m'.find? stored.id = some stored :=
      unseen.find? (mem_ownOrders.mpr ⟨hstored, own⟩)
    refine ⟨?_, ?_, answer_cancel_of_found found found'⟩
    · intro withLines
      simp only [load, found, found', unseen.shown]
    · intro fault o o'
      rw [answer_get_of_found found, answer_get_of_found found', unseen.shown]

/-- Others place an order and try in vain to cancel one of the user, who can still cancel it
as if nothing had happened. -/
theorem users_do_not_interfere_of_foreign_cancellation :
    let product : Product := ⟨.ofNat 7, "P-7", "Pencil", "", ⟨false, 250, 2, by decide, by decide⟩⟩
    let desk : Desk := { memory := { catalog := .ofList [product] } }
    let es : List Desk.Event := [.create (.numbered 1) (.ofNat 1) []]
    let line : LineRequest := ⟨"00000000-0000-0000-0000-000000000007", 3⟩
    let xs : List Execution :=
      [⟨.request (.place {} (.ofNat 2) [line]), .numbered 2, none⟩,
        ⟨.request (.cancel (Occasion.numbered 1).orderId (.ofNat 2)), .numbered 3, none⟩,
        ⟨.list (.ofNat 3) {}, .numbered 4, some ⟨.page, .timeout (.ofMillis 5000)⟩⟩]
    let m := (desk.after es).memory
    let m' := m.executed xs
    desk.Opened ∧ desk.Along Desk.Fresh es ∧
      (∀ x ∈ xs, x.undertaking.caller? ≠ some (.ofNat 1)) ∧
      m.orders.length = 1 ∧ m'.orders.length = 2 ∧
      ∃ stored ∈ m.orders, stored.userId = .ofNat 1 ∧
        ((cancel stored.id (.ofNat 1)).run (answerUnder none (.numbered 5)) m').1 =
          ((cancel stored.id (.ofNat 1)).run (answerUnder none (.numbered 2)) m).1.map
            fun order => { order with updatedAt := (Occasion.numbered 5).now } := by
  intro product desk es line xs m m'
  have opened : desk.Opened := ⟨rfl, rfl, rfl⟩
  have fresh : desk.Along Desk.Fresh es := by decide
  have others : ∀ x ∈ xs, x.undertaking.caller? ≠ some (.ofNat 1) := by decide
  have two : m'.orders.length = 2 := by decide +kernel
  obtain ⟨_, _, own⟩ := users_do_not_interfere opened fresh others
  have hstored : newOrder (.numbered 1) (.ofNat 1) [] .zero ∈ m.orders :=
    List.mem_singleton.mpr rfl
  obtain ⟨_, _, cancels⟩ := own _ hstored rfl
  exact ⟨opened, fresh, others, rfl, two, _, hstored, rfl,
    cancels none (.numbered 2) (.numbered 5)⟩

end Service
end OrderDesk
