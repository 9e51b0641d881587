import Mathlib.Data.List.Nodup
import OrderDesk.Proofs.Database.Calls
import OrderDesk.Proofs.Service.Failures

/-!
# Orders with their lines

The database sends the rows of orders and the rows of their lines in separate replies, and
orders are assembled from both.

* `OrderRow.AssembledAs`: an order that is assembled from its row and from those rows of
  lines that are its own.
* `distribute_eq_map`: where no two orders have one identifier, each gets all of its lines.
* `record_page`, `record_load`: what a listing and a single read come to, and what they
  send, by the rows that they get.
* `reads_assemble_every_line_under_its_own_order`: both read paths assemble alike, and no
  line is lost, doubled or given to another order.
-/

namespace OrderDesk
namespace Sql

open Dialogue

/-- A line as it is read from its row.  It has a product exactly if the row has a code and a
name. -/
structure LineRow.ReadsAs (r : LineRow) (line : OrderLine) : Prop where
  id : line.id = r.id
  orderId : line.orderId = r.orderId
  productId : line.productId = r.productId
  quantity : line.quantity = r.quantity
  price : line.price = r.price.withoutZeroPlaces
  createdAt : line.createdAt = r.createdAt
  updatedAt : line.updatedAt = r.updatedAt
  product : ∀ p, line.product = some p ↔
    ∃ code name, r.productCode = some code ∧ r.productName = some name ∧
      p = { id := line.productId, code, name, description := r.productDescription.getD "" }

/-- A row whose status is one of the four. -/
def OrderRow.Known (r : OrderRow) : Prop :=
  r.status ∈ ["new", "in_progress", "done", "cancelled"]

/-- An order that is assembled from its row and from those of the given rows that name it,
in their order. -/
structure OrderRow.AssembledAs (lines : List LineRow) (r : OrderRow) (order : Order) : Prop where
  status : r.status = order.status.text
  same : order = { r.readAs order.status with lines := order.lines }
  lines : List.Forall₂ LineRow.ReadsAs (lines.filter (·.orderId == r.id)) order.lines

/-- The order of a row with those of the given rows that name it. -/
def OrderRow.assembled (lines : List LineRow) (r : OrderRow) (status : OrderStatus) : Order :=
  { r.readAs status with lines := (lines.filter (·.orderId == r.id)).map LineRow.line }

/-- A single read of the order of a row gives the same order, if the lines that it gets have
the same of them for this order: with its lines, in two statements, or without them, in
one. -/
def OrderRow.ReadsSinglyAs (lines : List LineRow) (r : OrderRow) (order : Order) : Prop :=
  ∀ {σ : Type} (server : (s : Statement) → σ → Reply s.Row × σ) (state : σ)
    (budget : Duration) (o : Occasion) (more : List OrderRow),
    (server (.orderById r.id) state).1 = .rows (r :: more) →
      (∀ own, (server (.linesOf [r.id]) (server (.orderById r.id) state).2).1 = .rows own →
        own.filter (·.orderId == r.id) = lines.filter (·.orderId == r.id) →
          (answer budget o (.load r.id true)).record server state =
            (.ok (.ok order),
              [⟨.orderById r.id, .rows (r :: more)⟩, ⟨.linesOf [r.id], .rows own⟩])) ∧
      (answer budget o (.load r.id false)).record server state =
        (.ok (.ok order.withoutLines), [⟨.orderById r.id, .rows (r :: more)⟩])

/-! ## Rows -/

theorem LineRow.product_eq_some_iff
    {r : LineRow} {p : ProductSummary} :
    r.product = some p ↔
      ∃ code name, r.productCode = some code ∧ r.productName = some name ∧
        p = { id := r.productId, code, name, description := r.productDescription.getD "" } := by
  rw [product]
  cases r.productCode <;> cases r.productName <;> simp [eq_comm]

theorem LineRow.readsAs_iff
    {r : LineRow} {line : OrderLine} :
    r.ReadsAs line ↔ line = r.line := by
  constructor
  · intro reads
    have hproduct : line.product = r.product := by
      apply Option.ext
      intro p
      rw [reads.product, LineRow.product_eq_some_iff, reads.productId]
    obtain ⟨id, orderId, productId, quantity, price, createdAt, updatedAt, _⟩ := reads
    obtain ⟨⟩ := line
    subst id orderId productId quantity price createdAt updatedAt hproduct
    rfl
  · rintro rfl
    exact ⟨rfl, rfl, rfl, rfl, rfl, rfl, rfl, fun _ => LineRow.product_eq_some_iff⟩

theorem LineRow.forall₂_readsAs_iff
    {rows : List LineRow} {lines : List OrderLine} :
    List.Forall₂ ReadsAs rows lines ↔ lines = rows.map line := by
  have heq : List.Forall₂ ReadsAs rows lines ↔
      List.Forall₂ (· = ·) (rows.map line) lines := by
    rw [List.forall₂_map_left_iff]
    exact ⟨.imp fun _ _ h => (readsAs_iff.mp h).symm, .imp fun _ _ h => readsAs_iff.mpr h.symm⟩
  rw [heq, List.forall₂_eq_eq_eq, eq_comm]

theorem OrderRow.assembledAs_iff
    {lines : List LineRow} {r : OrderRow} {order : Order} :
    r.AssembledAs lines order ↔
      ∃ status : OrderStatus, r.status = status.text ∧ order = r.assembled lines status := by
  constructor
  · rintro ⟨status, same, own⟩
    refine ⟨order.status, status, ?_⟩
    rw [assembled, ← LineRow.forall₂_readsAs_iff.mp own]
    exact same
  · rintro ⟨status, known, rfl⟩
    exact ⟨known, rfl, LineRow.forall₂_readsAs_iff.mpr rfl⟩

/-- Whether lines are selected as rows or as what they are read as. -/
theorem OrderRow.assembled_eq
    (lines : List LineRow)
    (r : OrderRow)
    (status : OrderStatus) :
    r.assembled lines status =
      { r.readAs status with lines := (lines.map LineRow.line).filter (·.orderId == r.id) } := by
  rw [assembled, List.filter_map]
  rfl

theorem OrderRow.known_iff
    {r : OrderRow} :
    r.Known ↔ ∃ status : OrderStatus, r.status = status.text := by
  constructor
  · intro known
    obtain ⟨status, _, spelled⟩ := List.mem_map.mp
      (show r.status ∈ OrderStatus.all.map OrderStatus.text from known)
    exact ⟨status, spelled.symm⟩
  · rintro ⟨status, spelled⟩
    rw [Known, spelled]
    cases status <;> decide

theorem orderOf_eq_error
    {r : OrderRow}
    (unknown : ¬ r.Known) :
    orderOf r = .error (.error (.invalidRow
      s!"order {r.id}: {OrderStatus.unknownMessage r.status}")) := by
  apply orderOf_of_unknown
  cases hstatus : OrderStatus.parse? r.status with
  | none => rfl
  | some status =>
      exact absurd (OrderRow.known_iff.mpr ⟨status, (OrderStatus.text_of_parse? hstatus).symm⟩)
        unknown

theorem OrderRow.known_of_orderOf
    {r : OrderRow} {order : Order}
    (read : orderOf r = .ok order) :
    r.Known := by
  by_contra unknown
  rw [orderOf_eq_error unknown] at read
  cases read

/-- Rows of known status are read as orders with their identifiers. -/
theorem mapM_orderOf_of_known
    {found : List OrderRow}
    (known : ∀ row ∈ found, row.Known) :
    ∃ bare, found.mapM orderOf = .ok bare ∧
      bare.map (·.id) = found.map (·.id) ∧
      List.Forall₂ (fun row order => ∃ status : OrderStatus,
        row.status = status.text ∧ order = row.readAs status) found bare := by
  induction found with
  | nil => exact ⟨[], rfl, rfl, .nil⟩
  | cons row found ih =>
      obtain ⟨first, others⟩ := List.forall_mem_cons.mp known
      obtain ⟨status, spelled⟩ := OrderRow.known_iff.mp first
      obtain ⟨bare, read, ids, reads⟩ := ih others
      refine ⟨row.readAs status :: bare, ?_, ?_, .cons ⟨status, spelled, rfl⟩ reads⟩
      · rw [List.mapM_cons, orderOf_eq_ok spelled, read]
        rfl
      · rw [List.map_cons, List.map_cons, ids]
        rfl

/-! ## Lines -/

/-- Where no two orders have one identifier, each gets all the lines that name it. -/
theorem distribute_eq_map
    {orders : List Order}
    (distinct : (orders.map (·.id)).Nodup)
    (lines : List OrderLine) :
    distribute orders lines =
      orders.map fun o => { o with lines := lines.filter (·.orderId == o.id) } := by
  induction orders generalizing lines with
  | nil => rfl
  | cons o orders ih =>
      rw [List.map_cons, List.nodup_cons] at distinct
      rw [distribute, List.map_cons, ih distinct.2]
      congr 1
      refine List.map_congr_left ?_
      intro other hother
      have hne : other.id ≠ o.id := by
        rintro h
        exact distinct.1 (h ▸ List.mem_map_of_mem hother)
      have hown : ∀ l : OrderLine,
          (l.orderId == other.id && l.orderId != o.id) = (l.orderId == other.id) := by
        intro l
        by_cases h : l.orderId = other.id <;> simp [h, hne]
      simp only [List.filter_filter, hown]

theorem assembledAs_distribute
    {found : List OrderRow} {bare : List Order}
    (distinct : (bare.map (·.id)).Nodup)
    (reads : List.Forall₂ (fun row order => ∃ status : OrderStatus,
      row.status = status.text ∧ order = row.readAs status) found bare)
    (lines : List LineRow) :
    List.Forall₂ (OrderRow.AssembledAs lines) found
      (distribute bare (lines.map LineRow.line)) := by
  rw [distribute_eq_map distinct, List.forall₂_map_right_iff]
  refine reads.imp ?_
  rintro row _ ⟨status, spelled, rfl⟩
  exact OrderRow.assembledAs_iff.mpr ⟨status, spelled, (row.assembled_eq lines status).symm⟩

/-- The lines of different orders, one order after the other, are all the lines that name
one of them. -/
theorem flatMap_filter_perm
    {ids : List Identifier}
    (distinct : ids.Nodup)
    (lines : List LineRow) :
    (ids.flatMap fun id => lines.filter (·.orderId == id)).Perm
      (lines.filter (·.orderId ∈ ids)) := by
  induction ids with
  | nil => simp
  | cons id ids ih =>
      rw [List.nodup_cons] at distinct
      have hsplit := List.filter_append_perm (fun l : LineRow => l.orderId == id)
        (lines.filter (·.orderId ∈ id :: ids))
      have hfirst : ∀ l : LineRow,
          (l.orderId == id && decide (l.orderId ∈ id :: ids)) = (l.orderId == id) := by
        intro l
        by_cases h : l.orderId = id <;> simp [h]
      have hothers : ∀ l : LineRow,
          (!(l.orderId == id) && decide (l.orderId ∈ id :: ids)) = decide (l.orderId ∈ ids) := by
        intro l
        by_cases h : l.orderId = id <;> simp [h, distinct.1]
      simp only [List.filter_filter, hfirst, hothers] at hsplit
      rw [List.flatMap_cons]
      exact ((ih distinct.2).append_left _).trans hsplit

/-! ## What is sent, and what comes of it -/

/-- The statement of a listing that counts. -/
abbrev counting (userId : Identifier) (q : OrderQuery) : Statement :=
  .countOrders (Filter.of userId q)

/-- The statement that reads a page of so many orders. -/
abbrev paging (userId : Identifier) (q : OrderQuery) (total : Int64) : Statement :=
  .ordersOf (Filter.of userId q) q.orderBy q.descending
    (Page.ofRequest q.page q.limit total).limit (Page.ofRequest q.page q.limit total).skip

section Record

variable {σ : Type} {server : (s : Statement) → σ → Reply s.Row × σ} {state : σ}

/-- The lines of some orders, in one statement. -/
theorem record_linesOf_bind
    {α : Type} {ids : List Identifier} {lines : List LineRow}
    {f : List OrderLine → Exchange StoreError α}
    (some : ids ≠ [])
    (answered : (server (.linesOf ids) state).1 = .rows lines) :
    ((linesOf ids).bind f).record server state =
      (((f (lines.map LineRow.line)).record server (server (.linesOf ids) state).2).1,
        ⟨.linesOf ids, .rows lines⟩ ::
          ((f (lines.map LineRow.line)).record server (server (.linesOf ids) state).2).2) := by
  rw [linesOf, if_neg (by simpa using some), monad_bind_eq, bind_assoc, record_rows_bind answered]
  rfl

/-- The lines of a page, in one statement, or in none if there are no orders. -/
theorem record_distribute
    {bare : List Order} {lines : List LineRow}
    (lined : (server (.linesOf (bare.map (·.id))) state).1 = .rows lines)
    (page : Page) :
    record server ((linesOf (bare.map (·.id))).bind fun lines =>
        .done (distribute bare lines, page)) state =
      (.ok (distribute bare (lines.map LineRow.line), page),
        if bare = [] then [] else [⟨.linesOf (bare.map (·.id)), .rows lines⟩]) := by
  cases bare with
  | nil => rfl
  | cons o bare => exact record_linesOf_bind (by simp) lined

section Listing

variable {userId : Identifier} {q : OrderQuery} {total : Int64} {totals : List Int64}
  {found : List OrderRow}
  (counted : (server (counting userId q) state).1 = .rows (total :: totals))
  (selected : (server (paging userId q total) (server (counting userId q) state).2).1 =
    .rows found)

include counted selected

/-- What a listing does behind its two first replies. -/
theorem record_page
    (budget : Duration)
    (o : Occasion) :
    let behind := (server (paging userId q total) (server (counting userId q) state).2).2
    let rest : Exchange StoreError (List Order × Page) :=
      (ofExcept (found.mapM orderOf)).bind fun orders =>
        (linesOf (orders.map (·.id))).bind fun lines =>
          .done (distribute orders lines, Page.ofRequest q.page q.limit total)
    (answer budget o (.page userId q)).record server state =
      (.ok ((rest.record server behind).1.mapError (Stop.report budget)),
        ⟨counting userId q, .rows (total :: totals)⟩ ::
          ⟨paging userId q total, .rows found⟩ :: (rest.record server behind).2) := by
  intro behind rest
  rw [answer, record_attempt, record_bounded, fetchPage, monad_bind_eq,
    record_firstRow_bind counted]
  dsimp only
  rw [monad_bind_eq, record_rows_bind selected]
  rfl

theorem record_page_of_known
    {lines : List LineRow}
    (lined : (server (.linesOf (found.map (·.id)))
      (server (paging userId q total) (server (counting userId q) state).2).2).1 = .rows lines)
    (known : ∀ row ∈ found, row.Known)
    (distinct : (found.map (·.id)).Nodup)
    (budget : Duration)
    (o : Occasion) :
    ∃ orders,
      (answer budget o (.page userId q)).record server state =
        (.ok (.ok (orders, Page.ofRequest q.page q.limit total)),
          ⟨counting userId q, .rows (total :: totals)⟩ :: ⟨paging userId q total, .rows found⟩ ::
            if found = [] then [] else [⟨.linesOf (found.map (·.id)), .rows lines⟩]) ∧
      List.Forall₂ (OrderRow.AssembledAs lines) found orders := by
  obtain ⟨bare, read, hids, reads⟩ := mapM_orderOf_of_known known
  have hempty : bare = [] ↔ found = [] := by
    rw [← List.map_eq_nil_iff (f := (·.id)), hids, List.map_eq_nil_iff]
  rw [← hids] at lined distinct ⊢
  have hrest := record_distribute lined (Page.ofRequest q.page q.limit total)
  refine ⟨_, ?_, assembledAs_distribute distinct reads lines⟩
  simp only [← hempty]
  rw [record_page counted selected, read]
  exact congrArg (fun r => (Except.ok (r.1.mapError (Stop.report budget)), _ :: _ :: r.2)) hrest

theorem known_of_record_page
    {budget : Duration} {o : Occasion} {listed : List Order × Page}
    (succeeds : ((answer budget o (.page userId q)).record server state).1 = .ok (.ok listed)) :
    ∀ row ∈ found, row.Known := by
  cases hread : found.mapM orderOf with
  | error stop =>
      rw [record_page counted selected, hread] at succeeds
      cases succeeds
  | ok bare =>
      have hboth : List.Forall₂ (fun row order => row.Known ∧ orderOf row = .ok order)
          found bare :=
        (mapM_eq_ok_iff.mp hread).imp fun _ _ read => ⟨OrderRow.known_of_orderOf read, read⟩
      exact ((List.forall₂_and_left ..).mp hboth).1

theorem record_page_of_unknown
    {before after : List OrderRow} {row : OrderRow}
    (split : found = before ++ row :: after)
    (earlier : ∀ r ∈ before, r.Known)
    (unknown : ¬ row.Known)
    (budget : Duration)
    (o : Occasion) :
    (answer budget o (.page userId q)).record server state =
      (.ok (.error (.invalidRow s!"order {row.id}: {OrderStatus.unknownMessage row.status}")),
        [⟨counting userId q, .rows (total :: totals)⟩, ⟨paging userId q total, .rows found⟩]) := by
  have unread : found.mapM orderOf = .error (.error (.invalidRow
      s!"order {row.id}: {OrderStatus.unknownMessage row.status}")) := by
    refine mapM_eq_error_iff.mpr ⟨before, row, after, split, ?_, orderOf_eq_error unknown⟩
    intro r hr
    obtain ⟨status, spelled⟩ := OrderRow.known_iff.mp (earlier r hr)
    exact ⟨_, orderOf_eq_ok spelled⟩
  rw [record_page counted selected, unread]
  rfl

end Listing

section SingleRead

variable {row : OrderRow} {more : List OrderRow} {status : OrderStatus}
  (answered : (server (.orderById row.id) state).1 = .rows (row :: more))
  (spelled : row.status = status.text)

include answered spelled

/-- What a single read does behind its first reply. -/
theorem record_load
    (withLines : Bool)
    (budget : Duration)
    (o : Occasion) :
    let behind := (server (.orderById row.id) state).2
    let rest : Exchange StoreError Order :=
      if withLines then
        (linesOf [row.id]).bind fun lines =>
          .done { row.readAs status with lines := lines.filter (·.orderId == row.id) }
      else .done (row.readAs status)
    (answer budget o (.load row.id withLines)).record server state =
      (.ok ((rest.record server behind).1.mapError (Stop.report budget)),
        ⟨.orderById row.id, .rows (row :: more)⟩ :: (rest.record server behind).2) := by
  intro behind rest
  rw [answer, record_attempt, record_bounded, fetchOrder, monad_bind_eq,
    record_firstRow?_bind answered, List.head?_cons]
  dsimp only
  rw [orderOf_eq_ok spelled]
  rfl

theorem record_load_bare
    (budget : Duration)
    (o : Occasion) :
    (answer budget o (.load row.id false)).record server state =
      (.ok (.ok (row.readAs status)), [⟨.orderById row.id, .rows (row :: more)⟩]) :=
  record_load answered spelled false budget o

theorem record_load_whole
    {own : List LineRow}
    (lined : (server (.linesOf [row.id]) (server (.orderById row.id) state).2).1 = .rows own)
    (budget : Duration)
    (o : Occasion) :
    (answer budget o (.load row.id true)).record server state =
      (.ok (.ok (row.assembled own status)),
        [⟨.orderById row.id, .rows (row :: more)⟩, ⟨.linesOf [row.id], .rows own⟩]) := by
  have hlines := record_linesOf_bind (by simp) lined
    (f := fun lines => .done
      { row.readAs status with lines := lines.filter (·.orderId == row.id) })
  rw [record_load answered spelled, OrderRow.assembled_eq]
  exact congrArg (fun r => (Except.ok (r.1.mapError (Stop.report budget)), _ :: r.2)) hlines

end SingleRead

/-- A single read without lines sends one statement, whatever it is replied. -/
theorem record_load_statements
    (budget : Duration)
    (o : Occasion)
    (id : Identifier) :
    ((answer budget o (.load id false)).record server state).2.map (·.1) = [.orderById id] := by
  have talk := conversation_record server (answer budget o (.load id false)) state
  obtain ⟨_, _, bounded⟩ := conversation_attempt talk
  obtain ⟨_, _, own⟩ := conversation_mapError bounded
  obtain ⟨r, rest, hlog, later⟩ := conversation_ask own
  rw [hlog]
  cases r with
  | rows rs =>
      cases rs with
      | nil =>
          obtain ⟨rfl, _⟩ := conversation_fail later
          rfl
      | cons row rs =>
          have later : Conversation
              ((ofExcept (orderOf row)).bind fun order => .done order) rest _ := later
          cases hread : orderOf row with
          | ok order =>
              rw [hread] at later
              obtain ⟨rfl, _⟩ := conversation_done later
              rfl
          | error stop =>
              rw [hread] at later
              obtain ⟨rfl, _⟩ := conversation_fail later
              rfl
  | refused message =>
      obtain ⟨rfl, _⟩ := conversation_fail later
      rfl
  | silent =>
      obtain ⟨rfl, _⟩ := conversation_fail later
      rfl

end Record

theorem OrderRow.AssembledAs.readsSinglyAs
    {lines : List LineRow} {r : OrderRow} {order : Order}
    (assembled : r.AssembledAs lines order) :
    r.ReadsSinglyAs lines order := by
  obtain ⟨status, spelled, rfl⟩ := assembledAs_iff.mp assembled
  intro σ server state budget o more answered
  refine ⟨?_, record_load_bare answered spelled budget o⟩
  intro own lined same
  have hassembled : r.assembled lines status = r.assembled own status := by
    rw [OrderRow.assembled, OrderRow.assembled, same]
  rw [hassembled]
  exact record_load_whole answered spelled lined budget o

/-- The lines of all assembled orders are all that name one of them. -/
theorem perm_lines_of_assembledAs
    {found : List OrderRow} {lines : List LineRow} {orders : List Order}
    (distinct : (found.map (·.id)).Nodup)
    (assembled : List.Forall₂ (OrderRow.AssembledAs lines) found orders) :
    ∃ placed : List LineRow,
      placed.Perm (lines.filter (·.orderId ∈ found.map (·.id))) ∧
      List.Forall₂ LineRow.ReadsAs placed (orders.flatMap (·.lines)) := by
  refine ⟨_, flatMap_filter_perm distinct lines, ?_⟩
  rw [List.flatMap_map]
  exact List.rel_flatMap assembled fun _ _ h => h.lines

/-- **Reads assemble every line under its own order.**  Let the database reply to a listing
with the rows of a page, no two of one order, and with rows of lines, in any order and for
any orders.

* The listing succeeds exactly if every row has one of the four statuses.  Then it has one
  order for each row, in their order, with exactly the lines that name it, in their order;
  each has a product exactly if its code and its name are there.  All lines of these orders
  are listed, each once.
* Otherwise it fails for the first row that has none of them, and the lines are not asked
  for.  Nor are they if there are no rows.
* A single read of the order of a row assembles the same order, and without its lines it
  sends no second statement. -/
theorem reads_assemble_every_line_under_its_own_order
    {σ : Type} {server : (s : Statement) → σ → Reply s.Row × σ} {state : σ}
    {userId : Identifier} {q : OrderQuery}
    {total : Int64} {totals : List Int64} {found : List OrderRow}
    (counted : (server (counting userId q) state).1 = .rows (total :: totals))
    (selected : (server (paging userId q total) (server (counting userId q) state).2).1 =
      .rows found)
    (distinct : (found.map (·.id)).Nodup)
    (budget : Duration)
    (o : Occasion) :
    let call := (answer budget o (.page userId q)).record server state
    let behind := (server (paging userId q total) (server (counting userId q) state).2).2
    let sent : List Sent :=
      [⟨counting userId q, .rows (total :: totals)⟩, ⟨paging userId q total, .rows found⟩]
    (∀ lines, (server (.linesOf (found.map (·.id))) behind).1 = .rows lines →
      ((∃ listed, call.1 = .ok (.ok listed)) ↔ ∀ row ∈ found, row.Known) ∧
      ∀ orders page, call.1 = .ok (.ok (orders, page)) →
        page = Page.ofRequest q.page q.limit total ∧
        call.2 = sent ++
          (if found = [] then [] else [⟨.linesOf (found.map (·.id)), .rows lines⟩]) ∧
        List.Forall₂ (fun row order =>
          row.AssembledAs lines order ∧ row.ReadsSinglyAs lines order) found orders ∧
        ∃ placed : List LineRow,
          placed.Perm (lines.filter (·.orderId ∈ found.map (·.id))) ∧
          List.Forall₂ LineRow.ReadsAs placed (orders.flatMap (·.lines))) ∧
    (∀ before row after,
      found = before ++ row :: after → (∀ r ∈ before, r.Known) → ¬ row.Known →
        call = (.ok (.error (.invalidRow
          s!"order {row.id}: {OrderStatus.unknownMessage row.status}")), sent)) ∧
    (found = [] → call = (.ok (.ok ([], Page.ofRequest q.page q.limit total)), sent)) ∧
    (∀ {τ : Type} (reader : (s : Statement) → τ → Reply s.Row × τ) (t : τ) (id : Identifier),
      ((answer budget o (.load id false)).record reader t).2.map (·.1) = [.orderById id]) := by
  intro call behind sent
  refine ⟨?_, ?_, ?_, fun reader t id => record_load_statements budget o id⟩
  · intro lines lined
    have hknown : (∃ listed, call.1 = .ok (.ok listed)) → ∀ row ∈ found, row.Known :=
      fun ⟨_, h⟩ => known_of_record_page counted selected h
    refine ⟨⟨hknown, ?_⟩, ?_⟩
    · intro known
      obtain ⟨orders, hcall, _⟩ :=
        record_page_of_known counted selected lined known distinct budget o
      exact ⟨_, congrArg Prod.fst hcall⟩
    · intro orders page listed
      obtain ⟨orders', hcall, assembled⟩ :=
        record_page_of_known counted selected lined (hknown ⟨_, listed⟩) distinct budget o
      have hsame := listed.symm.trans (congrArg Prod.fst hcall)
      obtain ⟨rfl, rfl⟩ : orders = orders' ∧ page = _ := by simpa using hsame
      exact ⟨rfl, congrArg Prod.snd hcall,
        assembled.imp fun _ _ h => ⟨h, h.readsSinglyAs⟩,
        perm_lines_of_assembledAs distinct assembled⟩
  · intro before row after split earlier unknown
    exact record_page_of_unknown counted selected split earlier unknown budget o
  · rintro rfl
    exact record_page counted selected budget o

/-- A row of an order. -/
def orderRow (id : Nat) (status : String) : OrderRow :=
  ⟨.ofNat id, "O", .nil, .zero, status, 1, .ofSeconds 0, .ofSeconds 0⟩

/-- A row of a line, with a product that has a code, and a name if one is given. -/
def lineRow (id orderId : Nat) (name : Option String) : LineRow :=
  ⟨.ofNat id, .ofNat orderId, .ofNat 9, 1, .zero, .ofSeconds 0, .ofSeconds 0, some "P", name, none⟩

/-- A database with two orders, whose lines stand in turn. -/
def alternating : (s : Statement) → Unit → Reply s.Row × Unit
  | .countOrders _, _ => (.rows [2], ())
  | .ordersOf .., _ => (.rows [orderRow 1 "new", orderRow 2 "done"], ())
  | .linesOf _, _ =>
    (.rows [lineRow 11 2 (some "Pen"), lineRow 12 1 (some "Pen"), lineRow 13 2 none], ())
  | _, _ => (.rows [], ())

/-- The lines of both orders stand in turn, and the last has lost the name of its product. -/
theorem reads_assemble_every_line_under_its_own_order_of_alternating_lines :
    let found := [orderRow 1 "new", orderRow 2 "done"]
    let lines := [lineRow 11 2 (some "Pen"), lineRow 12 1 (some "Pen"), lineRow 13 2 none]
    let call := (answer ⟨0⟩ (.numbered 1) (.page .nil {})).record alternating ()
    (found.map (·.id)).Nodup ∧
      ∃ orders page, call.1 = .ok (.ok (orders, page)) ∧
        (orders.map fun order => order.lines.map fun l => (l.id, l.product.map (·.name))) =
          [[(.ofNat 12, some "Pen")], [(.ofNat 11, some "Pen"), (.ofNat 13, none)]] ∧
        List.Forall₂ (fun row order =>
          row.AssembledAs lines order ∧ row.ReadsSinglyAs lines order) found orders := by
  intro found lines call
  have counted : (alternating (counting .nil {}) ()).1 = .rows [2] := rfl
  have selected : (alternating (paging .nil {} 2) (alternating (counting .nil {}) ()).2).1 =
      .rows found := rfl
  have distinct : (found.map (·.id)).Nodup := by decide
  obtain ⟨assembles, _, _, _⟩ := reads_assemble_every_line_under_its_own_order
    counted selected distinct ⟨0⟩ (.numbered 1)
  obtain ⟨succeeds, listing⟩ := assembles lines rfl
  have known : ∀ row ∈ found, row.Known := by
    simp [found, orderRow, OrderRow.Known]
  obtain ⟨⟨orders, page⟩, listed⟩ := succeeds.mpr known
  obtain ⟨_, _, assembled, _⟩ := listing orders page listed
  have values : ((call.1.toOption.bind Except.toOption).map fun r =>
      r.1.map fun order => order.lines.map fun l => (l.id, l.product.map (·.name))) =
        some [[(.ofNat 12, some "Pen")], [(.ofNat 11, some "Pen"), (.ofNat 13, none)]] := by
    decide +kernel
  rw [show call.1 = .ok (.ok (orders, page)) from listed] at values
  exact ⟨distinct, orders, page, listed, Option.some.inj values, assembled⟩

end Sql
end OrderDesk
