import Mathlib.Tactic.Common
import OrderDesk.Proofs.Database.Tables
import OrderDesk.Proofs.Memory.Deeds
import OrderDesk.Proofs.Sql.Placement

/-!
# The calls of the order store against the database

What the exchanges of single orders come to when the database answers them.

* `run_insertLines`, `run_insertOrder`: a new order that the tables accept is stored
  with its lines, and nothing of the transaction remains.
* `run_fetchOrder_of_found`, `run_fetchOrder_of_absent`: reading an order.
* `run_writeStatus_of_written`, `run_writeStatus_of_none`: writing a status, and telling
  apart why no row was written.
-/

namespace OrderDesk

namespace Dialogue

variable {Q : Type} {A : Q → Type} {ε δ α β σ : Type}

theorem run_mapError
    (answer : (q : Q) → σ → A q × σ)
    (f : ε → δ)
    (d : Dialogue Q A ε α)
    (s : σ) :
    (d.mapError f).run answer s = ((d.run answer s).1.mapError f, (d.run answer s).2) := by
  induction d generalizing s with
  | done a => rfl
  | fail e => rfl
  | ask q next ih => exact ih _ _

theorem run_bind_of_ok
    {answer : (q : Q) → σ → A q × σ}
    {d : Dialogue Q A ε α} {f : α → Dialogue Q A ε β}
    {s t : σ} {a : α}
    (first : d.run answer s = (.ok a, t)) :
    (d.bind f).run answer s = (f a).run answer t := by
  rw [run_bind, first]

end Dialogue

namespace Memory

/-- A line of a new order, stored at a position. -/
def newLine (o : Occasion) (i : Nat) (l : PricedLine) : OrderLine :=
  { id := o.lineId i
    orderId := o.orderId
    productId := l.productId
    quantity := l.quantity
    price := l.price
    product := none
    createdAt := o.now
    updatedAt := o.now }

theorem newLines_eq
    (o : Occasion)
    (lines : List PricedLine) :
    newLines o lines = lines.mapIdx (newLine o) := rfl

end Memory

namespace Sql

/-- The row of a new order. -/
def OrderRecord.new (o : Occasion) (userId : Identifier) (totalPrice : Decimal) : OrderRecord where
  id := o.orderId
  code := OrderCode.generate o.now o.draws
  userId
  totalPrice := totalPrice.withoutZeroPlaces.asMoney
  status := OrderStatus.new.text
  version := 1
  createdAt := o.now
  updatedAt := o.now

/-- The row of a line of a new order, at a position. -/
def LineRecord.new (o : Occasion) (i : Nat) (l : PricedLine) : LineRecord where
  id := o.lineId i
  orderId := o.orderId
  productId := l.productId
  position := Int32.ofNat i
  quantity := l.quantity
  price := l.price.withoutZeroPlaces.asMoney
  createdAt := o.now
  updatedAt := o.now

/-- A line that the tables accept, if its identifier is new. -/
structure Acceptable (products : List ProductRecord) (l : PricedLine) : Prop where
  quantity : 0 < l.quantity
  product : products.any (·.id == l.productId)
  price : l.price.IsMoney

theorem keptAmount_of_isMoney
    {d : Decimal}
    (money : d.IsMoney) :
    keptAmount d = .ok d.withoutZeroPlaces.asMoney := by
  rw [keptAmount, (Decimal.isMoney_withoutZeroPlaces.mpr money).money?_eq.1]

namespace Tables

variable {t : Tables} {o : Occasion}

theorem insertLine_of_acceptable
    {i : Nat} {l : PricedLine}
    (acceptable : Acceptable t.products l)
    (fresh : ∀ r ∈ t.lines, r.id ≠ o.lineId i)
    (order : ∃ r ∈ t.orders, r.id = o.orderId) :
    t.insertLine o.now (o.lineId i) o.orderId (Int32.ofNat i) l =
      .ok ([(o.now, o.now)], { t with lines := t.lines ++ [LineRecord.new o i l] }) := by
  have hfresh : t.lines.all (·.id != o.lineId i) = true := by simpa using fresh
  have horder : t.orders.any (·.id == o.orderId) = true := by simpa using order
  rw [insertLine, keptAmount_of_isMoney acceptable.price]
  simp only [require, acceptable.quantity, acceptable.product, hfresh, horder]
  rfl

theorem insertOrder_of_money
    {userId : Identifier} {totalPrice : Decimal}
    (money : totalPrice.IsMoney)
    (covered : Instant.coversDay o.now.dayNumber)
    (fresh : ∀ r ∈ t.orders, r.id ≠ o.orderId) :
    t.insertOrder o.now o.orderId (OrderCode.generate o.now o.draws) userId totalPrice .new =
      .ok ([(OrderRecord.new o userId totalPrice).toOrderRow],
        { t with orders := t.orders ++ [OrderRecord.new o userId totalPrice] }) := by
  have hfresh : t.orders.all (·.id != o.orderId) = true := by simpa using fresh
  rw [insertOrder, keptAmount_of_isMoney money]
  simp only [require, OrderCode.fits_generate covered, hfresh]
  rfl

end Tables

open Dialogue

section Statements

variable (now : Instant) {s : Statement}

theorem Database.perform_running
    {saved draft t : Tables} {rs : List s.Row}
    (executed : draft.execute now s = .ok (rs, t)) :
    perform now s { stored := saved, transaction := .running draft } =
      (.rows rs, { stored := saved, transaction := .running t }) := by
  simp only [perform, executed]

theorem Database.perform_none
    {saved t : Tables} {rs : List s.Row}
    (executed : saved.execute now s = .ok (rs, t)) :
    perform now s { stored := saved } = (.rows rs, { stored := t }) := by
  simp only [perform, executed]

variable {now : Instant} {db after : Database}

theorem run_rows
    {rs : List s.Row}
    (answered : Database.answer now s db = (.rows rs, after)) :
    (stored (rows s)).run (Database.answer now) db = (.ok rs, after) := by
  rw [stored, run_mapError, rows, run, answered]
  rfl

theorem run_firstRow?
    {rs : List s.Row}
    (answered : Database.answer now s db = (.rows rs, after)) :
    (stored (firstRow? s)).run (Database.answer now) db = (.ok rs.head?, after) := by
  rw [stored, run_mapError, firstRow?, rows, monad_bind_eq, ask_bind, run, answered]
  rfl

theorem run_firstRow
    {r : s.Row} {rs : List s.Row}
    (answered : Database.answer now s db = (.rows (r :: rs), after)) :
    (stored (firstRow s)).run (Database.answer now) db = (.ok r, after) := by
  rw [stored, run_mapError, firstRow, firstRow?, rows, monad_bind_eq, monad_bind_eq, ask_bind,
    ask_bind, run, answered]
  rfl

theorem run_send
    {rs : List s.Row}
    (answered : Database.answer now s db = (.rows rs, after)) :
    (stored (send s)).run (Database.answer now) db = (.ok (), after) := by
  rw [stored, run_mapError, send, rows, monad_bind_eq, ask_bind, run, answered]
  rfl

end Statements

/-- A transaction whose body succeeds is committed with what the body left as draft. -/
theorem run_inTransaction
    {α : Type} {body : Exchange StoreError α} {a : α}
    {now : Instant} {t draft : Tables}
    (done : body.run (Database.answer now) { stored := t, transaction := .running t } =
      (.ok a, { stored := t, transaction := .running draft })) :
    (inTransaction body).run (Database.answer now) { stored := t } =
      (.ok a, { stored := draft }) := by
  have begun : Database.answer now .begin { stored := t } =
      (.rows [], { stored := t, transaction := .running t }) := rfl
  have committed : Database.answer now .commit { stored := t, transaction := .running draft } =
      (.rows [], { stored := draft }) := rfl
  rw [inTransaction, monad_bind_eq, run_bind_of_ok (run_send begun), monad_bind_eq,
    run_bind_of_ok (a := .ok a) (t := { stored := draft })]
  · rfl
  · rw [run_attempt, run_bind_of_ok done, run_bind_of_ok (run_send committed)]
    rfl

/-- The lines of a new order are stored behind those that are there. -/
theorem run_insertLines
    {o : Occasion} {saved t : Tables} {k : Nat} {lines : List PricedLine}
    (acceptable : ∀ l ∈ lines, Acceptable t.products l)
    (order : ∃ r ∈ t.orders, r.id = o.orderId)
    (fresh : (t.lines.map (·.id) ++ (List.range' k lines.length).map o.lineId).Nodup) :
    (insertLines o.orderId o.lineId k lines).run (Database.answer o.now)
        { stored := saved, transaction := .running t } =
      (.ok (lines.mapIdx fun i => Memory.newLine o (k + i)),
        { stored := saved
          transaction := .running
            { t with lines := t.lines ++ lines.mapIdx fun i => LineRecord.new o (k + i) } }) := by
  induction lines generalizing k t with
  | nil =>
      simp [insertLines, run]
  | cons l lines ih =>
      rw [List.length_cons, List.range'_succ, List.map_cons] at fresh
      have hfresh : ∀ r ∈ t.lines, r.id ≠ o.lineId k := by
        intro r hr same
        exact List.disjoint_of_nodup_append fresh (List.mem_map_of_mem hr) (by simp [same])
      have answered : Database.answer o.now
          (.insertLine (o.lineId k) o.orderId (Int32.ofNat k) l)
          { stored := saved, transaction := .running t } =
          (.rows [(o.now, o.now)],
            { stored := saved
              transaction := .running { t with lines := t.lines ++ [LineRecord.new o k l] } }) :=
        Database.perform_running o.now
          (Tables.insertLine_of_acceptable (acceptable l (by simp)) hfresh order)
      have later := @ih { t with lines := t.lines ++ [LineRecord.new o k l] } (k + 1)
        (fun l' hl => acceptable l' (List.mem_cons_of_mem l hl)) order
        (by simpa [LineRecord.new] using fresh)
      rw [insertLines, monad_bind_eq, run_bind_of_ok (run_firstRow answered)]
      dsimp only
      rw [monad_bind_eq, run_bind_of_ok later]
      simp [run, List.mapIdx_cons, Memory.newLine, Nat.add_assoc, Nat.add_comm 1]

/-- The order that a row is read as, if it has the given status. -/
def OrderRow.readAs (r : OrderRow) (status : OrderStatus) : Order where
  id := r.id
  code := r.code
  userId := r.userId
  lines := []
  totalPrice := r.totalPrice.withoutZeroPlaces
  status
  version := r.version
  createdAt := r.createdAt
  updatedAt := r.updatedAt

theorem orderOf_eq_ok
    {r : OrderRow} {status : OrderStatus}
    (known : r.status = status.text) :
    orderOf r = .ok (r.readAs status) := by
  rw [orderOf, OrderRow.order, known, OrderStatus.parse?_text]
  rfl

/-- What the caller gets for a new order. -/
def createdOrder
    (o : Occasion) (userId : Identifier) (lines : List PricedLine) (totalPrice : Decimal) :
    Order :=
  { (OrderRecord.new o userId totalPrice).readAs .new with lines := Memory.newLines o lines }

theorem run_insertOrder
    {o : Occasion} {t : Tables} {lines : List PricedLine} {totalPrice : Decimal}
    (userId : Identifier)
    (money : totalPrice.IsMoney)
    (covered : Instant.coversDay o.now.dayNumber)
    (acceptable : ∀ l ∈ lines, Acceptable t.products l)
    (freshOrder : ∀ r ∈ t.orders, r.id ≠ o.orderId)
    (freshLines : (t.lines.map (·.id) ++ (List.range lines.length).map o.lineId).Nodup) :
    (insertOrder o userId lines totalPrice).run (Database.answer o.now) { stored := t } =
      (.ok (createdOrder o userId lines totalPrice),
        { stored :=
            { t with
              orders := t.orders ++ [OrderRecord.new o userId totalPrice]
              lines := t.lines ++ lines.mapIdx (LineRecord.new o) } }) := by
  have inserted : Database.answer o.now
      (.insertOrder o.orderId (OrderCode.generate o.now o.draws) userId totalPrice .new)
      { stored := t, transaction := .running t } =
      (.rows [(OrderRecord.new o userId totalPrice).toOrderRow],
        { stored := t
          transaction := .running
            { t with orders := t.orders ++ [OrderRecord.new o userId totalPrice] } }) :=
    Database.perform_running o.now (Tables.insertOrder_of_money money covered freshOrder)
  have read : orderOf (OrderRecord.new o userId totalPrice).toOrderRow =
      .ok ((OrderRecord.new o userId totalPrice).readAs .new) := orderOf_eq_ok rfl
  rw [List.range_eq_range'] at freshLines
  have followed := @run_insertLines o t
    { t with orders := t.orders ++ [OrderRecord.new o userId totalPrice] } 0 lines acceptable
    ⟨OrderRecord.new o userId totalPrice, by simp, rfl⟩ freshLines
  simp only [Nat.zero_add] at followed
  rw [insertOrder]
  apply run_inTransaction
  rw [monad_bind_eq, run_bind_of_ok (run_firstRow inserted), monad_bind_eq, read]
  show run _ (insertLines _ _ _ _ >>= _) _ = _
  rw [monad_bind_eq, run_bind_of_ok followed]
  rfl

section Reading

variable {now : Instant} {t : Tables} {id : Identifier}

theorem run_fetchOrder_of_absent
    (withLines : Bool)
    (absent : t.ordersWithId id = []) :
    (fetchOrder id withLines).run (Database.answer now) { stored := t } =
      (.error (.error (.notFound .order id)), { stored := t }) := by
  have answered : Database.answer now (.orderById id) { stored := t } =
      (.rows [], { stored := t }) :=
    Database.perform_none now (by rw [Tables.execute, absent, List.map_nil])
  rw [fetchOrder, monad_bind_eq, run_bind_of_ok (run_firstRow? answered)]
  rfl

theorem run_fetchOrder_of_found
    {r : OrderRecord} {rs : List OrderRecord} {status : OrderStatus}
    (withLines : Bool)
    (found : t.ordersWithId id = r :: rs)
    (known : r.status = status.text) :
    (fetchOrder id withLines).run (Database.answer now) { stored := t } =
      (.ok { r.readAs status with
          lines :=
            if withLines then
              ((t.linesOf [r.id]).map LineRow.line).filter (·.orderId == r.id)
            else [] },
        { stored := t }) := by
  have answered : Database.answer now (.orderById id) { stored := t } =
      (.rows (r.toOrderRow :: rs.map (·.toOrderRow)), { stored := t }) :=
    Database.perform_none now (by rw [Tables.execute, found, List.map_cons])
  have read : orderOf r.toOrderRow = .ok (r.readAs status) := orderOf_eq_ok known
  rw [fetchOrder, monad_bind_eq, run_bind_of_ok (run_firstRow? answered), List.head?_cons]
  dsimp only
  rw [read]
  cases withLines with
  | false => rfl
  | true =>
      have listed : Database.answer now (.linesOf [r.id]) { stored := t } =
          (.rows (t.linesOf [r.id]), { stored := t }) :=
        Database.perform_none now rfl
      show run _ ((linesOf [r.id]).bind _) _ = _
      rw [linesOf, if_neg (by simp), monad_bind_eq, bind_assoc,
        run_bind_of_ok (run_rows listed)]
      rfl

end Reading

section Writing

variable {now : Instant} {t : Tables} {copy : Order}

theorem Tables.writeStatus_of_none
    {id : Identifier} {status : OrderStatus} {version : Int}
    (none : t.orders.filter (writable id version) = []) :
    t.writeStatus now id status version = ([], t) := by
  have hsame : (t.orders.map fun r =>
      if writable id version r then
        { r with status := status.text, version := r.version + 1, updatedAt := now }
      else r) = t.orders.map fun r => r :=
    List.map_congr_left fun r hr => if_neg (List.filter_eq_nil_iff.mp none r hr)
  simp only [writeStatus, none, hsame, List.map_nil, List.map_id']

theorem run_writeStatus_of_written
    {r : OrderRecord} {rs : List OrderRecord}
    (written : t.orders.filter (Tables.writable copy.id copy.version) = r :: rs) :
    (writeStatus copy).run (Database.answer now) { stored := t } =
      (.ok ⟨copy.version + 1, now⟩,
        { stored := (t.writeStatus now copy.id copy.status copy.version).2 }) := by
  have hmem : r ∈ t.orders.filter (Tables.writable copy.id copy.version) :=
    written ▸ List.mem_cons_self
  have hversion : r.version = copy.version := by
    have := (List.mem_filter.mp hmem).2
    rw [Tables.writable, Bool.and_eq_true, Bool.and_eq_true, beq_iff_eq, beq_iff_eq] at this
    exact this.1.2
  have hrows : (t.writeStatus now copy.id copy.status copy.version).1 =
      ⟨copy.version + 1, now⟩ :: rs.map fun r => ⟨r.version + 1, now⟩ := by
    rw [Tables.writeStatus, written, List.map_cons, hversion]
  have answered : Database.answer now (.writeStatus copy.id copy.status copy.version)
      { stored := t } =
      (.rows (⟨copy.version + 1, now⟩ :: rs.map fun r => ⟨r.version + 1, now⟩),
        { stored := (t.writeStatus now copy.id copy.status copy.version).2 }) :=
    Database.perform_none now (by rw [Tables.execute, ← hrows])
  rw [writeStatus, monad_bind_eq, run_bind_of_ok (run_firstRow? answered)]
  rfl

theorem run_writeStatus_of_none
    (none : t.orders.filter (Tables.writable copy.id copy.version) = []) :
    (writeStatus copy).run (Database.answer now) { stored := t } =
      (.error (.error
          (if (t.ordersWithId copy.id).isEmpty then .notFound .order copy.id
          else .versionConflict copy.id copy.version)),
        { stored := t }) := by
  have answered : Database.answer now (.writeStatus copy.id copy.status copy.version)
      { stored := t } = (.rows [], { stored := t }) :=
    Database.perform_none now (by rw [Tables.execute, Tables.writeStatus_of_none none])
  have looked : Database.answer now (.orderExists copy.id) { stored := t } =
      (.rows [!(t.ordersWithId copy.id).isEmpty], { stored := t }) :=
    Database.perform_none now rfl
  rw [writeStatus, monad_bind_eq, run_bind_of_ok (run_firstRow? answered), List.head?_nil]
  dsimp only
  rw [monad_bind_eq, run_bind_of_ok (run_firstRow looked)]
  cases (t.ordersWithId copy.id).isEmpty <;> rfl

end Writing

/-! ## Calls -/

namespace Database

variable (budget : Duration) {o : Occasion} {db after : Database}

theorem call_create_of_overflow
    {userId : Identifier} {lines : List PricedLine} {overflow : Overflow}
    (total : Order.totalOf lines = .error overflow) :
    db.call budget o (.create userId lines) = (.error (.overflow overflow), db) := by
  rw [call, Sql.answer, total]
  rfl

theorem call_create
    {userId : Identifier} {lines : List PricedLine} {totalPrice : Decimal}
    {outcome : Except (Stop StoreError) Order}
    (total : Order.totalOf lines = .ok totalPrice)
    (ran : (insertOrder o userId lines totalPrice).run (answer o.now) db = (outcome, after)) :
    db.call budget o (.create userId lines) =
      ((outcome.mapError (Stop.report budget)).mapError .error, after) := by
  rw [call, Sql.answer, total]
  dsimp only
  rw [run_attempt, run_mapError, bounded, run_mapError, ran]
  rfl

theorem call_load
    {id : Identifier} {withLines : Bool} {outcome : Except (Stop StoreError) Order}
    (ran : (fetchOrder id withLines).run (answer o.now) db = (outcome, after)) :
    db.call budget o (.load id withLines) = (outcome.mapError (Stop.report budget), after) := by
  rw [call, Sql.answer, run_attempt, bounded, run_mapError, ran]
  rfl

theorem call_save
    {copy : Order} {outcome : Except (Stop StoreError) Stamp}
    (ran : (writeStatus copy).run (answer o.now) db = (outcome, after)) :
    db.call budget o (.save copy) = (outcome.mapError (Stop.report budget), after) := by
  rw [call, Sql.answer, run_attempt, bounded, run_mapError, ran]
  rfl

end Database

end Sql
end OrderDesk
