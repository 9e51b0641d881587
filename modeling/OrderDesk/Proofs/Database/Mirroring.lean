import OrderDesk.Proofs.Database.Operations

/-!
# The store in memory mirrors the store in the database

* `Mirrors`: the orders in memory are those of the tables, and their lines are the lines
  of the tables in the order of creation.
* `Mirrors.turn`: one turn keeps the stores mirrored and leaves both callers with
  outcomes that agree.
* `memory_mirrors_the_database`: so does every run.
-/

namespace OrderDesk

namespace Sql

/-- The row keeps the order. -/
structure OrderRecord.Keeps (o : Order) (r : OrderRecord) : Prop where
  id : o.id = r.id
  code : o.code = r.code
  userId : o.userId = r.userId
  totalPrice : o.totalPrice.value = r.totalPrice.value
  status : o.status.text = r.status
  version : o.version = r.version
  createdAt : o.createdAt = r.createdAt
  updatedAt : o.updatedAt = r.updatedAt
  present : r.deletedAt = none

/-- The row keeps the line that stands at a position of an order. -/
structure LineRecord.Keeps (l : OrderLine × Nat) (r : LineRecord) : Prop where
  id : l.1.id = r.id
  orderId : l.1.orderId = r.orderId
  productId : l.1.productId = r.productId
  position : l.2 = r.position.toInt
  quantity : l.1.quantity = r.quantity
  price : l.1.price.value = r.price.value
  createdAt : l.1.createdAt = r.createdAt
  updatedAt : l.1.updatedAt = r.updatedAt
  present : r.deletedAt = none

end Sql

open Sql

/-- The lines of orders, each with its position in its order. -/
def placedLines (orders : List Order) : List (OrderLine × Nat) :=
  orders.flatMap fun o => o.lines.zipIdx

/-- The orders of the store in memory are those of the tables, and both stores show the
given products. -/
structure Mirrors (products : List ProductRecord) (m : Memory) (db : Database) : Prop where
  idle : db.transaction = .none
  stocked : db.stored.products = products
  orders : List.Forall₂ OrderRecord.Keeps m.orders db.stored.orders
  lines : List.Forall₂ LineRecord.Keeps (placedLines m.orders) db.stored.lines
  distinct : m.Distinct
  own : ∀ o ∈ m.orders, ∀ l ∈ o.lines, l.orderId = o.id
  resolves : ∀ id, m.catalog.summary? id =
    (products.find? (·.id == id)).map (·.toProduct.summary)
  shown : m.showsProducts = true
  unfailing : m.failingLine = none

/-! ## Rows that keep orders and lines -/

/-- In tables that mirror the orders in memory, the row of an order is found exactly if
the order is. -/
theorem Mirrors.find?
    {products : List ProductRecord} {m : Memory} {t : Tables}
    (mirrors : Mirrors products m { stored := t })
    (id : Identifier) :
    (m.find? id = none ∧ t.ordersWithId id = []) ∨
    ∃ o r rest, m.find? id = some o ∧ t.ordersWithId id = r :: rest ∧ r.Keeps o := by
  have related : List.Forall₂ OrderRecord.Keeps (m.orders.filter (·.id == id))
      (t.ordersWithId id) := by
    refine List.rel_filter ?_ mirrors.orders
    intro o r keeps
    simp [keeps.id, keeps.present]
  rw [Memory.find?, ← List.head?_filter]
  generalize m.orders.filter (·.id == id) = found at *
  generalize t.ordersWithId id = rows at *
  cases related with
  | nil => exact Or.inl ⟨rfl, rfl⟩
  | cons keeps _ => exact Or.inr ⟨_, _, _, rfl, rfl, keeps⟩

theorem keeps_newOrder
    (o : Occasion)
    (userId : Identifier)
    (lines : List PricedLine)
    {totalPrice : Decimal}
    (money : totalPrice.IsMoney) :
    (OrderRecord.new o userId totalPrice).Keeps (Memory.newOrder o userId lines totalPrice) where
  id := rfl
  code := rfl
  userId := rfl
  totalPrice := money.value_kept.symm
  status := rfl
  version := rfl
  createdAt := rfl
  updatedAt := rfl
  present := rfl

theorem keeps_newLine
    {o : Occasion} {i : Nat} {l : PricedLine}
    (few : i < 2 ^ 31)
    (money : l.price.IsMoney) :
    (LineRecord.new o i l).Keeps (Memory.newLine o i l, i) where
  id := rfl
  orderId := rfl
  productId := rfl
  position := (Int32.toInt_ofNat_of_lt few).symm
  quantity := rfl
  price := money.value_kept.symm
  createdAt := rfl
  updatedAt := rfl
  present := rfl

theorem keeps_newLines
    {o : Occasion} {lines : List PricedLine}
    (few : lines.length < 2 ^ 31)
    (money : ∀ l ∈ lines, l.price.IsMoney) :
    List.Forall₂ (fun l r => LineRecord.Keeps l r) (Memory.newLines o lines).zipIdx
      (lines.mapIdx (LineRecord.new o)) := by
  rw [List.forall₂_iff_get]
  refine ⟨by simp [Memory.newLines], ?_⟩
  intro i hi _
  have hlength : i < lines.length := by simpa [Memory.newLines] using hi
  simp only [Memory.newLines_eq, List.get_eq_getElem, List.getElem_zipIdx,
    List.getElem_mapIdx, Nat.zero_add]
  exact keeps_newLine (hlength.trans few) (money _ (List.getElem_mem _))

/-! ## The lines of one order -/

theorem filter_placedLines
    {orders : List Order} {o : Order}
    (distinct : (orders.map (·.id)).Nodup)
    (own : ∀ p ∈ orders, ∀ l ∈ p.lines, l.orderId = p.id)
    (stored : o ∈ orders) :
    (placedLines orders).filter (fun l => l.1.orderId == o.id) = o.lines.zipIdx := by
  -- The lines of an order are kept by the filter for it and dropped by that for another.
  have hown : ∀ p ∈ orders, p.id = o.id →
      p.lines.zipIdx.filter (fun l => l.1.orderId == o.id) = p.lines.zipIdx := by
    intro p hp same
    refine List.filter_eq_self.mpr ?_
    intro l hl
    simp [own p hp l.1 (List.fst_mem_of_mem_zipIdx hl), same]
  have hother : ∀ p ∈ orders, p.id ≠ o.id →
      p.lines.zipIdx.filter (fun l => l.1.orderId == o.id) = [] := by
    intro p hp different
    refine List.filter_eq_nil_iff.mpr ?_
    intro l hl
    simp [own p hp l.1 (List.fst_mem_of_mem_zipIdx hl), different]
  induction orders with
  | nil =>
      cases stored
  | cons p orders ih =>
      obtain ⟨hp, hrest⟩ := List.nodup_cons.mp distinct
      rw [placedLines, List.flatMap_cons, List.filter_append]
      rcases List.mem_cons.mp stored with rfl | hstored
      · have hnone : (orders.flatMap fun p => p.lines.zipIdx).filter
            (fun l => l.1.orderId == o.id) = [] := by
          rw [List.filter_flatMap, List.flatMap_eq_nil_iff]
          intro q hq
          refine hother q (List.mem_cons_of_mem _ hq) ?_
          intro same
          exact hp (List.mem_map.mpr ⟨q, hq, same⟩)
        rw [hown o List.mem_cons_self rfl, hnone, List.append_nil]
      · have hne : p.id ≠ o.id := fun same =>
          hp (List.mem_map.mpr ⟨o, hstored, same.symm⟩)
        rw [hother p List.mem_cons_self hne, List.nil_append]
        exact ih hrest (fun q hq => own q (List.mem_cons_of_mem _ hq)) hstored
          (fun q hq => hown q (List.mem_cons_of_mem _ hq))
          (fun q hq => hother q (List.mem_cons_of_mem _ hq))

/-- Lines that are kept in the order of their positions need no sorting. -/
theorem mergeSort_of_keeps
    {o : Order} {rs : List LineRecord}
    (keeps : List.Forall₂ LineRecord.Keeps o.lines.zipIdx rs)
    (own : ∀ l ∈ o.lines, l.orderId = o.id) :
    rs.mergeSort (fun a b => (a.compare b).isLE) = rs := by
  refine List.mergeSort_of_pairwise (List.pairwise_iff_getElem.mpr ?_)
  intro i j hi hj before
  have hlength := keeps.length_eq
  have hat : ∀ (k : Nat) (hk : k < rs.length),
      rs[k].orderId = o.id ∧ rs[k].position.toInt = k := by
    intro k hk
    have h := keeps.get (hlength ▸ hk) hk
    simp only [List.get_eq_getElem, List.getElem_zipIdx, Nat.zero_add] at h
    exact ⟨h.orderId.symm.trans (own _ (List.getElem_mem _)), h.position.symm⟩
  rw [LineRecord.compare, (hat i hi).1, (hat j hj).1, (hat i hi).2, (hat j hj).2,
    compare_eq_iff_eq.mpr rfl]
  show (compare (i : ℤ) (j : ℤ)).isLE = true
  rw [compare_lt_iff_lt.mpr (by omega)]
  rfl

/-- The line that is read from a row and its product. -/
theorem agrees_joined
    {products : List ProductRecord} {m : Memory} {t : Tables}
    (mirrors : Mirrors products m { stored := t })
    {l : OrderLine × Nat} {r : LineRecord}
    (keeps : r.Keeps l) :
    OrderLine.Agrees { l.1 with product := m.catalog.summary? l.1.productId }
      (t.joined r).line where
  id := keeps.id
  orderId := keeps.orderId
  productId := keeps.productId
  quantity := keeps.quantity
  price := by
    rw [LineRow.line, Decimal.value_withoutZeroPlaces]
    exact keeps.price
  product := by
    rw [mirrors.resolves, keeps.productId, ← mirrors.stocked]
    show _ = (t.joined r).product
    rw [LineRow.product, Tables.joined]
    dsimp only
    cases hfound : t.products.find? (·.id == r.productId) with
    | none => rfl
    | some p =>
        have hid : p.id = r.productId := by simpa using List.find?_some hfound
        simp [Product.summary, hid]
  createdAt := keeps.createdAt
  updatedAt := keeps.updatedAt

theorem orderId_of_mem_linesOf
    {t : Tables} {orderIds : List Identifier} {r : LineRow}
    (listed : r ∈ t.linesOf orderIds) :
    r.orderId ∈ orderIds := by
  obtain ⟨l, hl, rfl⟩ := List.mem_map.mp listed
  rw [List.mem_mergeSort, List.mem_filter, Bool.and_eq_true, List.contains_iff_mem] at hl
  exact hl.2.1

/-- The lines of a stored order, as they are read from the tables. -/
theorem agrees_linesOf
    {products : List ProductRecord} {m : Memory} {t : Tables}
    (mirrors : Mirrors products m { stored := t })
    {o : Order}
    (stored : o ∈ m.orders) :
    List.Forall₂ OrderLine.Agrees (m.shown o).lines
      (((t.linesOf [o.id]).map LineRow.line).filter (·.orderId == o.id)) := by
  have own := mirrors.own o stored
  have keeps : List.Forall₂ LineRecord.Keeps o.lines.zipIdx
      (t.lines.filter fun r => [o.id].contains r.orderId && r.deletedAt.isNone) := by
    rw [← filter_placedLines mirrors.distinct mirrors.own stored]
    refine List.rel_filter ?_ mirrors.lines
    intro l r keeps
    simp [keeps.orderId, keeps.present]
  have agrees : List.Forall₂ OrderLine.Agrees (m.shown o).lines
      ((t.linesOf [o.id]).map LineRow.line) := by
    rw [Tables.linesOf, mergeSort_of_keeps keeps own, List.map_map, Memory.shown,
      if_pos mirrors.shown, Order.withProducts]
    rw [List.forall₂_map_left_iff, List.forall₂_map_right_iff, ← List.zipIdx_map_fst 0 o.lines,
      List.forall₂_map_left_iff]
    exact keeps.imp fun l r hl => agrees_joined mirrors hl
  rw [List.filter_eq_self.mpr]
  · exact agrees
  · intro l hl
    obtain ⟨r, hr, rfl⟩ := List.mem_map.mp hl
    show (r.orderId == o.id) = true
    simpa using orderId_of_mem_linesOf hr

/-! ## What is read -/

theorem agrees_readAs
    {o : Order} {r : OrderRecord} {lines rows : List OrderLine}
    (keeps : r.Keeps o)
    (agrees : List.Forall₂ OrderLine.Agrees lines rows) :
    Order.Agrees { o with lines } { r.readAs o.status with lines := rows } where
  id := keeps.id
  code := keeps.code
  userId := keeps.userId
  lines := agrees
  totalPrice := by
    rw [OrderRow.readAs, Decimal.value_withoutZeroPlaces]
    exact keeps.totalPrice
  status := rfl
  version := keeps.version
  createdAt := keeps.createdAt
  updatedAt := keeps.updatedAt

theorem agrees_createdOrder
    (o : Occasion)
    (userId : Identifier)
    (lines : List PricedLine)
    {totalPrice : Decimal}
    (money : totalPrice.IsMoney) :
    (Memory.newOrder o userId lines totalPrice).Agrees
      (createdOrder o userId lines totalPrice) where
  id := rfl
  code := rfl
  userId := rfl
  lines := List.forall₂_same.mpr fun l _ => .refl l
  totalPrice := by
    show totalPrice.value = totalPrice.withoutZeroPlaces.asMoney.withoutZeroPlaces.value
    rw [Decimal.value_withoutZeroPlaces, money.value_kept]
  status := rfl
  version := rfl
  createdAt := rfl
  updatedAt := rfl

section Turn

variable {products : List ProductRecord} {m : Memory} {t : Tables}

/-- The identifiers of all lines of orders. -/
def lineIds (orders : List Order) : List Identifier :=
  (placedLines orders).map (·.1.id)

theorem Mirrors.ids_eq
    (mirrors : Mirrors products m { stored := t }) :
    t.orders.map (·.id) = m.orders.map (·.id) := by
  rw [← List.forall₂_eq_eq_eq, List.forall₂_map_left_iff, List.forall₂_map_right_iff]
  exact mirrors.orders.flip.imp fun r o keeps => keeps.id.symm

theorem Mirrors.lineIds_eq
    (mirrors : Mirrors products m { stored := t }) :
    t.lines.map (·.id) = lineIds m.orders := by
  rw [lineIds, ← List.forall₂_eq_eq_eq, List.forall₂_map_left_iff, List.forall₂_map_right_iff]
  exact mirrors.lines.flip.imp fun r l keeps => keeps.id.symm

theorem Mirrors.concat
    (mirrors : Mirrors products m { stored := t })
    {o : Occasion} {userId : Identifier} {lines : List PricedLine} {totalPrice : Decimal}
    (few : lines.length < 2 ^ 31)
    (prices : ∀ l ∈ lines, l.price.IsMoney)
    (money : totalPrice.IsMoney)
    (fresh : (m.orders.map (·.id) ++ [o.orderId]).Nodup) :
    Mirrors products
      { m with orders := m.orders ++ [Memory.newOrder o userId lines totalPrice] }
      { stored :=
          { t with
            orders := t.orders ++ [OrderRecord.new o userId totalPrice]
            lines := t.lines ++ lines.mapIdx (LineRecord.new o) } } where
  idle := rfl
  stocked := mirrors.stocked
  orders :=
    List.rel_append mirrors.orders (.cons (keeps_newOrder o userId lines money) .nil)
  lines := by
    rw [placedLines, List.flatMap_append, List.flatMap_singleton]
    exact List.rel_append mirrors.lines (keeps_newLines few prices)
  distinct := by
    rw [Memory.Distinct, List.map_append]
    exact fresh
  own := by
    intro p hp l hl
    rcases List.mem_append.mp hp with hp | hp
    · exact mirrors.own p hp l hl
    · rw [List.mem_singleton] at hp
      subst hp
      rw [Memory.newOrder, Memory.newLines, List.mem_mapIdx] at hl
      obtain ⟨i, _, rfl⟩ := hl
      rfl
  resolves := mirrors.resolves
  shown := mirrors.shown
  unfailing := mirrors.unfailing

theorem writable_of_keeps
    {o : Order} {r : OrderRecord}
    (keeps : r.Keeps o)
    (id : Identifier)
    (version : Int) :
    Tables.writable id version r = (o.id == id && o.version == version) := by
  rw [Tables.writable, keeps.id, keeps.version, keeps.present, Option.isNone_none, Bool.and_true]

/-- The rows that a status is written into are those of the orders that have the
identifier and the version. -/
theorem Mirrors.writable
    (mirrors : Mirrors products m { stored := t })
    (id : Identifier)
    (version : Int) :
    List.Forall₂ OrderRecord.Keeps
      (m.orders.filter fun o => o.id == id && o.version == version)
      (t.orders.filter (Tables.writable id version)) := by
  refine List.rel_filter ?_ mirrors.orders
  intro o r keeps
  simp [writable_of_keeps keeps]

theorem Mirrors.writable_eq_nil
    (mirrors : Mirrors products m { stored := t })
    {id : Identifier} {version : Int}
    (none : ∀ stored, m.find? id = some stored → stored.version ≠ version) :
    t.orders.filter (Tables.writable id version) = [] := by
  have hnone : (m.orders.filter fun o => o.id == id && o.version == version) = [] := by
    refine List.filter_eq_nil_iff.mpr ?_
    intro o ho hwritable
    rw [Bool.and_eq_true, beq_iff_eq, beq_iff_eq] at hwritable
    obtain ⟨rfl, hversion⟩ := hwritable
    exact none o (Memory.find?_of_mem mirrors.distinct ho) hversion
  have related := mirrors.writable id version
  rw [hnone] at related
  exact List.forall₂_nil_left_iff.mp related

theorem Mirrors.writable_eq_cons
    (mirrors : Mirrors products m { stored := t })
    {id : Identifier} {stored : Order}
    (found : m.find? id = some stored) :
    ∃ r rs, t.orders.filter (Tables.writable id stored.version) = r :: rs := by
  refine List.exists_cons_of_ne_nil ?_
  intro hnil
  have related := mirrors.writable id stored.version
  rw [hnil] at related
  have hnone := List.forall₂_nil_right_iff.mp related
  have hstored := List.filter_eq_nil_iff.mp hnone stored (Memory.mem_of_find? found)
  simp [Memory.id_of_find? found] at hstored

theorem placedLines_modify_written
    (m : Memory)
    (id : Identifier)
    (status : OrderStatus)
    (now : Instant) :
    placedLines (m.modify id fun o => Memory.written o status now).orders =
      placedLines m.orders := by
  rw [placedLines, Memory.modify, List.flatMap_map]
  refine List.flatMap_congr ?_
  intro o _
  split <;> rfl

theorem Mirrors.written
    (mirrors : Mirrors products m { stored := t })
    {id : Identifier} {stored : Order}
    (found : m.find? id = some stored)
    (status : OrderStatus)
    (now : Instant) :
    Mirrors products (m.modify id fun o => Memory.written o status now)
      { stored := (t.writeStatus now id status stored.version).2 } where
  idle := rfl
  stocked := mirrors.stocked
  orders := by
    have both := (List.forall₂_and_left m.orders t.orders).mpr
      ⟨fun o (ho : o ∈ m.orders) => ho, mirrors.orders⟩
    show List.Forall₂ OrderRecord.Keeps (m.orders.map _) (t.orders.map _)
    rw [List.forall₂_map_left_iff, List.forall₂_map_right_iff]
    refine both.imp ?_
    intro o r ⟨ho, keeps⟩
    by_cases hid : o.id = id
    · have hsame : o = stored := by
        have := Memory.find?_of_mem mirrors.distinct ho
        rw [hid, found] at this
        exact (Option.some.inj this).symm
      have hwritable : Tables.writable id stored.version r = true := by
        rw [writable_of_keeps keeps, hsame]
        simpa [hsame] using hid
      rw [if_pos hid, if_pos hwritable]
      exact { keeps with
        status := rfl
        version := congrArg (· + 1) keeps.version
        updatedAt := rfl }
    · have hwritable : ¬ Tables.writable id stored.version r = true := by
        simp [writable_of_keeps keeps, hid]
      rw [if_neg hid, if_neg hwritable]
      exact keeps
  lines := by
    rw [placedLines_modify_written]
    exact mirrors.lines
  distinct := by
    rw [Memory.Distinct, Memory.map_id_modify_written]
    exact mirrors.distinct
  own := by
    intro p hp l hl
    obtain ⟨o, ho, rfl⟩ := List.mem_map.mp hp
    have hown := mirrors.own o ho
    by_cases hid : o.id = id
    · rw [if_pos hid] at hl ⊢
      exact hown l hl
    · rw [if_neg hid] at hl ⊢
      exact hown l hl
  resolves := mirrors.resolves
  shown := mirrors.shown
  unfailing := mirrors.unfailing

/-! ## One turn -/

variable (budget : Duration) (o : Occasion)

theorem mirrors_create
    (mirrors : Mirrors products m { stored := t })
    (userId : Identifier)
    {lines : List PricedLine}
    (few : lines.length < 2 ^ 31)
    (acceptable : ∀ l ∈ lines, Acceptable products l)
    (money : ∀ totalPrice, Order.totalOf lines = .ok totalPrice → totalPrice.IsMoney)
    (covered : Instant.coversDay o.now.dayNumber)
    (freshOrder : (m.orders.map (·.id) ++ [o.orderId]).Nodup)
    (freshLines : (lineIds m.orders ++ (List.range lines.length).map o.lineId).Nodup) :
    let left := m.create o userId lines
    let right := Database.call budget o (.create userId lines) { stored := t }
    Outcome.Agrees (.order left.1) (.order right.1) ∧ Mirrors products left.2 right.2 := by
  intro left right
  cases htotal : Order.totalOf lines with
  | error overflow =>
      have hleft : left = (.error (.overflow overflow), m) := by
        simp only [left, Memory.create, htotal]
      have hright : right = (.error (.overflow overflow), { stored := t }) :=
        Database.call_create_of_overflow budget htotal
      rw [hleft, hright]
      exact ⟨.failed _, mirrors⟩
  | ok totalPrice =>
      have hleft : left = (.ok (Memory.newOrder o userId lines totalPrice),
          { m with orders := m.orders ++ [Memory.newOrder o userId lines totalPrice] }) := by
        simp only [left, Memory.create, htotal, Memory.lineFailure?, mirrors.unfailing]
        rfl
      have hfresh : ∀ r ∈ t.orders, r.id ≠ o.orderId := by
        intro r hr same
        rw [← mirrors.ids_eq] at freshOrder
        exact List.disjoint_of_nodup_append freshOrder (List.mem_map_of_mem hr) (by simp [same])
      have ran := run_insertOrder userId (money totalPrice htotal) covered
        (mirrors.stocked ▸ acceptable) hfresh (mirrors.lineIds_eq ▸ freshLines)
      have hright : right = _ := Database.call_create budget htotal ran
      rw [hleft, hright]
      exact ⟨.order (agrees_createdOrder o userId lines (money totalPrice htotal)),
        mirrors.concat few (fun l hl => (acceptable l hl).price) (money totalPrice htotal)
          freshOrder⟩

theorem mirrors_load
    (mirrors : Mirrors products m { stored := t })
    (id : Identifier)
    (withLines : Bool) :
    let left := m.load id withLines
    let right := Database.call budget o (.load id withLines) { stored := t }
    Outcome.Agrees (.order (left.mapError .error)) (.order (right.1.mapError .error)) ∧
      right.2 = { stored := t } := by
  intro left right
  rcases mirrors.find? id with ⟨hnone, habsent⟩ | ⟨order, r, rest, hfound, hrows, keeps⟩
  · have hleft : left = .error (.notFound .order id) := by
      simp only [left, Memory.load, hnone]
    have hright : right = (.error (.notFound .order id), { stored := t }) :=
      Database.call_load budget (run_fetchOrder_of_absent withLines habsent)
    rw [hleft, hright]
    exact ⟨.failed _, rfl⟩
  · have hleft : left = .ok (if withLines then m.shown order else order.withoutLines) := by
      simp only [left, Memory.load, hfound]
    have hright : right = _ :=
      Database.call_load budget (run_fetchOrder_of_found withLines hrows keeps.status.symm)
    rw [hleft, hright]
    refine ⟨.order ?_, rfl⟩
    cases withLines with
    | false => exact agrees_readAs keeps .nil
    | true =>
        have hlines := agrees_linesOf mirrors (Memory.mem_of_find? hfound)
        rw [keeps.id] at hlines
        have hshown : m.shown order = { order with lines := (m.shown order).lines } := by
          rw [Memory.shown, if_pos mirrors.shown]
          rfl
        rw [if_pos rfl, hshown]
        exact agrees_readAs keeps hlines

theorem mirrors_save
    (mirrors : Mirrors products m { stored := t })
    {a b : Order}
    (agrees : a.Agrees b) :
    let left := m.save o.now a
    let right := Database.call budget o (.save b) { stored := t }
    left.1 = right.1 ∧ Mirrors products left.2 right.2 := by
  intro left right
  rcases mirrors.find? a.id with ⟨hnone, habsent⟩ | ⟨stored, r, rest, hfound, hrows, keeps⟩
  · have hleft : left = (.error (.notFound .order a.id), m) :=
      Memory.save_of_absent o.now hnone
    have hstays : t.orders.filter (Tables.writable b.id b.version) = [] := by
      refine mirrors.writable_eq_nil ?_
      simp [← agrees.id, hnone]
    have hright : right = _ := Database.call_save budget (run_writeStatus_of_none hstays)
    rw [hleft, hright, ← agrees.id, habsent]
    exact ⟨rfl, mirrors⟩
  · by_cases hversion : stored.version = a.version
    · have hleft : left = _ := Memory.save_of_current o.now hfound hversion
      obtain ⟨r', rs', hwritten⟩ := mirrors.writable_eq_cons hfound
      rw [hversion, agrees.id, agrees.version] at hwritten
      have hright : right = _ := Database.call_save budget (run_writeStatus_of_written hwritten)
      rw [hleft, hright, ← agrees.id, ← agrees.status, ← agrees.version, ← hversion]
      exact ⟨rfl, mirrors.written hfound a.status o.now⟩
    · have hleft : left = _ := Memory.save_of_stale o.now hfound hversion
      have hstays : t.orders.filter (Tables.writable b.id b.version) = [] := by
        refine mirrors.writable_eq_nil ?_
        rw [← agrees.id, ← agrees.version, hfound]
        rintro _ ⟨⟩
        exact hversion
      have hright : right = _ := Database.call_save budget (run_writeStatus_of_none hstays)
      rw [hleft, hright, ← agrees.id, ← agrees.version, hrows]
      exact ⟨rfl, mirrors⟩

end Turn

/-! ## Runs -/

section Run

variable {products : List ProductRecord}

/-- One turn keeps the stores mirrored, and leaves outcomes that agree. -/
theorem Mirrors.turn
    {m : Memory} {db : Database}
    (budget : Duration)
    (mirrors : Mirrors products m db)
    {turn : Turn}
    (sound : turn.Sound products)
    (freshOrders : (m.orders.map (·.id) ++ turn.orderIds).Nodup)
    (freshLines : (lineIds m.orders ++ turn.lineIds).Nodup) :
    (turn.memory m).1.Agrees (turn.database budget db).1 ∧
      Mirrors products (turn.memory m).2 (turn.database budget db).2 := by
  obtain ⟨t, transaction⟩ := db
  obtain rfl : transaction = .none := mirrors.idle
  obtain ⟨o, left, right⟩ := turn
  obtain ⟨alike, covered, creation⟩ := sound
  cases alike with
  | create userId lines =>
      obtain ⟨few, acceptable, money⟩ := creation userId lines rfl
      exact mirrors_create budget o mirrors userId few acceptable money covered freshOrders
        freshLines
  | load id withLines =>
      obtain ⟨agrees, same⟩ := mirrors_load budget o mirrors id withLines
      refine ⟨agrees, ?_⟩
      show Mirrors products m (Database.call budget o (.load id withLines) { stored := t }).2
      rw [same]
      exact mirrors
  | @update a b agrees =>
      obtain ⟨same, after⟩ := mirrors_save budget o mirrors agrees
      refine ⟨?_, after⟩
      show Outcome.Agrees (Operation.outcome (.update a) (m.save o.now a).1)
        (Operation.outcome (.update b) (Database.call budget o (.save b) { stored := t }).1)
      rw [← same]
      cases (m.save o.now a).1 with
      | ok stamp => exact .updated _ (agrees.stamped stamp)
      | error e => exact .updated _ agrees

theorem lineIds_concat_newOrder
    (orders : List Order)
    (o : Occasion)
    (userId : Identifier)
    (lines : List PricedLine)
    (totalPrice : Decimal) :
    lineIds (orders ++ [Memory.newOrder o userId lines totalPrice]) =
      lineIds orders ++ (List.range lines.length).map o.lineId := by
  rw [lineIds, placedLines, List.flatMap_append, List.map_append, List.flatMap_singleton]
  refine congrArg (lineIds orders ++ ·) (List.ext_getElem ?_ ?_)
  · simp [Memory.newOrder, Memory.newLines]
  · intro i _ _
    simp [Memory.newOrder, Memory.newLines]

/-- A turn adds no identifiers but those that are generated for it. -/
theorem ids_turn
    (turn : Turn)
    (m : Memory) :
    ((turn.memory m).2.orders.map (·.id)).Sublist (m.orders.map (·.id) ++ turn.orderIds) ∧
      (lineIds (turn.memory m).2.orders).Sublist (lineIds m.orders ++ turn.lineIds) := by
  obtain ⟨o, op, _⟩ := turn
  have hnothing : ∀ extra extra' : List Identifier,
      (m.orders.map (·.id)).Sublist (m.orders.map (·.id) ++ extra) ∧
        (lineIds m.orders).Sublist (lineIds m.orders ++ extra') :=
    fun _ _ => ⟨List.sublist_append_left _ _, List.sublist_append_left _ _⟩
  cases op with
  | create userId lines =>
      show ((m.create o userId lines).2.orders.map (·.id)).Sublist _ ∧
        (lineIds (m.create o userId lines).2.orders).Sublist _
      rcases m.create_cases o userId lines with ⟨e, hcreate⟩ | ⟨totalPrice, _, hcreate⟩
      · rw [hcreate]
        exact hnothing _ _
      · rw [hcreate, List.map_append, lineIds_concat_newOrder]
        exact ⟨.refl _, .refl _⟩
  | load id withLines =>
      exact hnothing _ _
  | update copy =>
      show ((m.save o.now copy).2.orders.map (·.id)).Sublist _ ∧
        (lineIds (m.save o.now copy).2.orders).Sublist _
      cases hfound : m.find? copy.id with
      | none =>
          rw [Memory.save_of_absent o.now hfound]
          exact hnothing _ _
      | some stored =>
          by_cases hversion : stored.version = copy.version
          · rw [Memory.save_of_current o.now hfound hversion, Memory.map_id_modify_written,
              lineIds, placedLines_modify_written]
            exact hnothing _ _
          · rw [Memory.save_of_stale o.now hfound hversion]
            exact hnothing _ _

theorem Mirrors.outcomes
    (budget : Duration)
    {m : Memory} {db : Database} {turns : List Turn}
    (mirrors : Mirrors products m db)
    (sound : ∀ turn ∈ turns, turn.Sound products)
    (freshOrders : (m.orders.map (·.id) ++ turns.flatMap (·.orderIds)).Nodup)
    (freshLines : (lineIds m.orders ++ turns.flatMap (·.lineIds)).Nodup) :
    let left := Turn.outcomes Turn.memory turns m
    let right := Turn.outcomes (Turn.database budget) turns db
    List.Forall₂ Outcome.Agrees left.1 right.1 ∧ Mirrors products left.2 right.2 := by
  induction turns generalizing m db with
  | nil =>
      exact ⟨.nil, mirrors⟩
  | cons turn turns ih =>
      rw [List.flatMap_cons, ← List.append_assoc] at freshOrders freshLines
      obtain ⟨agrees, after⟩ := mirrors.turn budget (sound turn List.mem_cons_self)
        (List.nodup_append.mp freshOrders).1 (List.nodup_append.mp freshLines).1
      obtain ⟨later, last⟩ := ih after (fun turn h => sound turn (List.mem_cons_of_mem _ h))
        (freshOrders.sublist ((ids_turn turn m).1.append_right _))
        (freshLines.sublist ((ids_turn turn m).2.append_right _))
      exact ⟨.cons agrees later, last⟩

end Run

/-- **The store in memory mirrors the store in the database.**  Both stores begin without
orders, and the store in memory resolves the products of the tables.  Then, in every run
of operations on single orders with generated identifiers that never repeat, where the
tables accept what is created and the clock shows days that instants cover:

* corresponding operations leave outcomes that agree: equal orders, amounts by value, or
  the same error, and equal copies with the caller of an update;
* after every operation the orders and lines in memory are those of the tables. -/
theorem memory_mirrors_the_database
    (budget : Duration)
    {catalog : Catalog} {products : List ProductRecord} {turns : List Turn}
    (resolves : ∀ id, catalog.summary? id =
      (products.find? (·.id == id)).map (·.toProduct.summary))
    (sound : ∀ turn ∈ turns, turn.Sound products)
    (orderIds : (turns.flatMap (·.orderIds)).Nodup)
    (lineIds : (turns.flatMap (·.lineIds)).Nodup)
    (n : Nat) :
    let left := Turn.outcomes Turn.memory (turns.take n) { catalog }
    let right := Turn.outcomes (Turn.database budget) (turns.take n) { stored := { products } }
    List.Forall₂ Outcome.Agrees left.1 right.1 ∧ Mirrors products left.2 right.2 := by
  rw [← List.take_append_drop n turns, List.flatMap_append, List.nodup_append] at orderIds lineIds
  have mirrors : Mirrors products { catalog } { stored := { products } } :=
    { idle := rfl
      stocked := rfl
      orders := .nil
      lines := .nil
      distinct := List.nodup_nil
      own := by simp
      resolves
      shown := rfl
      unfailing := rfl }
  exact mirrors.outcomes budget (fun turn h => sound turn (List.mem_of_mem_take h)) orderIds.1
    lineIds.1

/-- Of two updates with copies of the first version, the second comes too late in both
stores. -/
theorem memory_mirrors_the_database_of_two_updates :
    let price : Decimal := ⟨false, 250, 2, by decide, by decide⟩
    let product : Product := ⟨.ofNat 500, "P-1", "Pencil", "", price⟩
    let catalog : Catalog := { products := [product] }
    let products : List ProductRecord := [{ product with }]
    let lines : List PricedLine := [⟨.ofNat 500, 1, price⟩]
    let copy : Order :=
      { Memory.newOrder (.numbered 1) .nil lines price with status := .cancelled }
    let copy' : Order :=
      { createdOrder (.numbered 1) .nil lines price with status := .cancelled }
    let turns : List Turn :=
      [⟨.numbered 1, .create .nil lines, .create .nil lines⟩,
        ⟨.numbered 2, .update copy, .update copy'⟩,
        ⟨.numbered 3, .update copy, .update copy'⟩]
    let left := Turn.outcomes Turn.memory turns { catalog }
    let right := Turn.outcomes (Turn.database ⟨5⟩) turns { stored := { products } }
    (∀ id, catalog.summary? id = (products.find? (·.id == id)).map (·.toProduct.summary)) ∧
      (∀ turn ∈ turns, turn.Sound products) ∧
      (turns.flatMap (·.orderIds)).Nodup ∧
      (turns.flatMap (·.lineIds)).Nodup ∧
      left.1[1]? = some (.updated (.ok ()) (copy.stamped ⟨2, .ofSeconds 2⟩)) ∧
      left.1[2]? = some (.updated (.error (.versionConflict (.ofNat 1) 1)) copy) ∧
      List.Forall₂ Outcome.Agrees left.1 right.1 ∧
      Mirrors products left.2 right.2 := by
  intro price product catalog products lines copy copy' turns left right
  have money : price.IsMoney := by
    have hvalue : price.value = 25000 / 10 ^ 4 := by
      norm_num [Decimal.value, Decimal.coefficient, price]
    exact ⟨⟨25000, by rw [hvalue]; norm_num⟩, by norm_num [hvalue]⟩
  have resolves : ∀ id, catalog.summary? id =
      (products.find? (·.id == id)).map (·.toProduct.summary) := by
    intro id
    by_cases hid : product.id = id
    · simp [Catalog.summary?, Catalog.find?, catalog, products, hid]
    · simp [Catalog.summary?, Catalog.find?, catalog, products, hid]
  have agrees : copy.Agrees copy' :=
    { agrees_createdOrder (.numbered 1) .nil lines money with status := rfl }
  have acceptable : ∀ l ∈ lines, Acceptable products l := by
    intro l hl
    rw [List.mem_singleton] at hl
    subst hl
    exact ⟨by decide, by decide, money⟩
  have total : Order.totalOf lines = .ok price := by decide
  have sound : ∀ turn ∈ turns, turn.Sound products := by
    intro turn hturn
    simp only [turns, List.mem_cons, List.not_mem_nil, or_false] at hturn
    rcases hturn with rfl | rfl | rfl
    · refine ⟨.create .nil lines, by decide, ?_⟩
      rintro userId lines' ⟨⟩
      refine ⟨by decide, acceptable, ?_⟩
      rintro totalPrice htotal
      rw [total] at htotal
      cases htotal
      exact money
    · exact ⟨.update agrees, by decide, fun _ _ h => Operation.noConfusion h⟩
    · exact ⟨.update agrees, by decide, fun _ _ h => Operation.noConfusion h⟩
  have orderIds : (turns.flatMap (·.orderIds)).Nodup := by decide
  have lineIds : (turns.flatMap (·.lineIds)).Nodup := by decide
  obtain ⟨hagrees, hmirrors⟩ :=
    memory_mirrors_the_database ⟨5⟩ resolves sound orderIds lineIds 3
  exact ⟨resolves, sound, orderIds, lineIds, by rfl, by rfl, hagrees, hmirrors⟩

end OrderDesk
