import OrderDesk.Proofs.Database.Mirroring
import OrderDesk.Proofs.Listing.Pages
import OrderDesk.Proofs.Listing.Ties

/-!
# The listings of both stores

Both stores list the same orders, sorted by the same key, on pages with the same
descriptor.  Orders with equal keys stand in the order of their creation in memory, and
in the order of their identifiers in the database.

* `call_page`: a page of the database, in terms of the orders that the tables keep.
* `listings_agree_up_to_ties`: what both pages have in common, and when they are the
  same.
* `listings_differ_in_ties`: two orders that stand in different order.
-/

namespace OrderDesk

/-- Lists that are related entry by entry stay so when both are sorted. -/
theorem forall₂_mergeSort
    {α β : Type} {R : α → β → Prop} {le : α → α → Bool} {le' : β → β → Bool}
    {l₁ : List α} {l₂ : List β}
    (related : List.Forall₂ R l₁ l₂)
    (same : ∀ a b c d, R a c → R b d → le a b = le' c d) :
    List.Forall₂ R (l₁.mergeSort le) (l₂.mergeSort le') := by
  have hlength := related.length_eq
  have hR : ∀ p ∈ l₁.zip l₂, R p.1 p.2 := fun p hp => List.forall₂_zip related hp
  have hfst : ((l₁.zip l₂).mergeSort fun p q => le p.1 q.1).map Prod.fst =
      l₁.mergeSort le := by
    rw [List.map_mergeSort (s := le) fun _ _ _ _ => rfl, List.map_fst_zip hlength.le]
  have hsnd : ((l₁.zip l₂).mergeSort fun p q => le p.1 q.1).map Prod.snd =
      l₂.mergeSort le' := by
    rw [List.map_mergeSort (s := le') fun p hp q hq =>
      same p.1 q.1 p.2 q.2 (hR p hp) (hR q hq), List.map_snd_zip hlength.ge]
  rw [← hfst, ← hsnd, List.forall₂_map_left_iff, List.forall₂_map_right_iff, List.forall₂_same]
  intro p hp
  exact hR p (List.mem_mergeSort.mp hp)

namespace Sql

open Dialogue

/-- The rows of the tables that are not deleted keep the given orders, in some order. -/
def Tables.Keep (t : Tables) (orders : List Order) : Prop :=
  ∃ listed, listed.Perm orders ∧
    List.Forall₂ OrderRecord.Keeps listed (t.orders.filter (·.deletedAt.isNone))

theorem filter_present_of_keeps
    {orders : List Order} {rs : List OrderRecord}
    (keeps : List.Forall₂ OrderRecord.Keeps orders rs) :
    rs.filter (·.deletedAt.isNone) = rs := by
  induction keeps with
  | nil => rfl
  | cons kept _ ih => rw [List.filter_cons_of_pos (by simp [kept.present]), ih]

theorem keep_of_keeps
    {t : Tables} {orders : List Order}
    (keeps : List.Forall₂ OrderRecord.Keeps orders t.orders) :
    t.Keep orders :=
  ⟨orders, .refl _, (filter_present_of_keeps keeps).symm ▸ keeps⟩

/-- After operations on single orders, the listings of both stores are listings of the
same orders. -/
theorem keep_of_mirrors
    {products : List ProductRecord} {m : Memory} {db : Database}
    (mirrors : Mirrors products m db) :
    db.stored.Keep m.orders :=
  keep_of_keeps mirrors.orders

section Rows

variable {a b : Order} {r s : OrderRecord}

theorem text_inj
    {s t : OrderStatus} :
    s.text = t.text ↔ s = t := by
  constructor
  · intro same
    have := OrderStatus.parse?_text s
    rw [same, OrderStatus.parse?_text] at this
    exact (Option.some.inj this).symm
  · rintro rfl
    rfl

theorem selects_of_keeps
    (keeps : r.Keeps a)
    (userId : Identifier)
    (q : OrderQuery) :
    (Filter.of userId q).conditions.all (Condition.holds r) = q.selects userId a := by
  have huser : (r.userId == userId) = (a.userId == userId) := by rw [keeps.userId]
  have hcode : ∀ code, (r.code == code) = (a.code == code) := by simp [keeps.code]
  have hstatus : ∀ status : OrderStatus, (r.status == status.text) = (a.status == status) := by
    intro status
    rw [← keeps.status, Bool.eq_iff_iff, beq_iff_eq, beq_iff_eq, text_inj]
  rw [OrderQuery.selects]
  cases hc : q.code <;> cases hs : q.status <;>
    simp [Filter.of, Filter.conditions, Condition.holds, keeps.present, hc, hs, huser, hcode,
      hstatus, Bool.and_assoc]

theorem compareBy_of_keeps
    (first : r.Keeps a)
    (second : s.Keeps b)
    (column : SortColumn) :
    OrderRow.compareBy column r.toOrderRow s.toOrderRow = OrderQuery.compareBy column a b := by
  cases column with
  | createdAt =>
      rw [OrderRow.compareBy, OrderQuery.compareBy, first.createdAt, second.createdAt]
  | updatedAt =>
      rw [OrderRow.compareBy, OrderQuery.compareBy, first.updatedAt, second.updatedAt]
  | code =>
      rw [OrderRow.compareBy, OrderQuery.compareBy, first.code, second.code,
        Utf8.compareOctets_eq_compareText]
  | status =>
      rw [OrderRow.compareBy, OrderQuery.compareBy, first.status, second.status,
        Utf8.compareOctets_eq_compareText]
  | totalPrice =>
      rw [OrderRow.compareBy, OrderQuery.compareBy, Decimal.cmp_eq_compare_value,
        Decimal.cmp_eq_compare_value, first.totalPrice, second.totalPrice]

theorem compare_of_keeps
    (first : r.Keeps a)
    (second : s.Keeps b)
    (q : OrderQuery) :
    OrderRow.compare q.orderBy q.descending r.toOrderRow s.toOrderRow =
      (q.compare a b).then (Ord.compare a.id.toNat b.id.toNat) := by
  rw [OrderRow.compare, OrderQuery.compare, compareBy_of_keeps first second, first.id, second.id]

end Rows

section Sorted

variable {t : Tables} {orders : List Order} (userId : Identifier) (q : OrderQuery)

/-- The rows that a listing selects keep the matching orders. -/
theorem rows_of_keeps
    {listed : List Order}
    (keeps : List.Forall₂ OrderRecord.Keeps listed (t.orders.filter (·.deletedAt.isNone))) :
    List.Forall₂ OrderRecord.Keeps (listed.filter (q.selects userId))
      ((Filter.of userId q).rows t.orders) := by
  have hrows : (Filter.of userId q).rows t.orders =
      (t.orders.filter (·.deletedAt.isNone)).filter fun r =>
        (Filter.of userId q).conditions.all (Condition.holds r) := by
    rw [List.filter_filter]
    refine List.filter_congr ?_
    intro r _
    simp only [Filter.conditions, List.cons_append, List.nil_append, List.all_cons,
      Condition.holds]
    cases r.deletedAt.isNone <;> simp
  rw [hrows]
  refine List.rel_filter ?_ keeps
  intro o r kept
  simp only [selects_of_keeps kept]

theorem length_rows_of_keep
    (keep : t.Keep orders) :
    ((Filter.of userId q).rows t.orders).length = (q.arrange userId orders).length := by
  obtain ⟨listed, perm, keeps⟩ := keep
  rw [← (rows_of_keeps userId q keeps).length_eq, (perm.filter _).length_eq,
    OrderQuery.arrange, List.length_mergeSort]

/-- The sorted rows keep the matching orders in the order of their keys and, where keys
are equal, of their identifiers. -/
theorem sortedOrders_of_keep
    (keep : t.Keep orders)
    (distinct : (orders.map (·.id)).Nodup) :
    List.Forall₂ OrderRecord.Keeps (q.arrangeById userId orders)
      (t.sortedOrders (Filter.of userId q) q.orderBy q.descending) := by
  obtain ⟨listed, perm, keeps⟩ := keep
  rw [← q.arrangeById_perm userId distinct perm]
  refine forall₂_mergeSort (rows_of_keeps userId q keeps) ?_
  intro a b r s first second
  rw [compare_of_keeps first second]

end Sorted

section Page

variable {now : Instant} {t : Tables}

theorem distribute_ids
    (orders : List Order)
    (lines : List OrderLine) :
    (distribute orders lines).map (·.id) = orders.map (·.id) := by
  induction orders generalizing lines with
  | nil => rfl
  | cons o orders ih =>
      rw [distribute, List.map_cons, List.map_cons, ih]

theorem run_linesOf
    (orderIds : List Identifier) :
    ∃ lines, (linesOf orderIds).run (Database.answer now) { stored := t } =
      (.ok lines, { stored := t }) := by
  have answered : Database.answer now (.linesOf orderIds) { stored := t } =
      (.rows (t.linesOf orderIds), { stored := t }) := Database.perform_none now rfl
  rw [linesOf]
  split
  · exact ⟨[], rfl⟩
  · exact ⟨_, by rw [monad_bind_eq, run_bind_of_ok (run_rows answered)]; rfl⟩

/-- The rows of known status are read as orders with their identifiers. -/
theorem mapM_orderOf
    {listed : List Order} {rs : List OrderRecord}
    (keeps : List.Forall₂ OrderRecord.Keeps listed rs) :
    ∃ orders, (rs.map (·.toOrderRow)).mapM orderOf = .ok orders ∧
      orders.map (·.id) = listed.map (·.id) := by
  induction keeps with
  | nil =>
      exact ⟨[], rfl, rfl⟩
  | @cons o r _ rs kept _ ih =>
      obtain ⟨orders, read, ids⟩ := ih
      have first : orderOf r.toOrderRow = .ok (r.readAs o.status) :=
        orderOf_eq_ok kept.status.symm
      refine ⟨r.readAs o.status :: orders,
        mapM_eq_ok_iff.mpr (.cons first (mapM_eq_ok_iff.mp read)), ?_⟩
      rw [List.map_cons, List.map_cons, ids, kept.id]
      rfl

theorem run_fetchPage
    {userId : Identifier} {q : OrderQuery} {sorted : List Order}
    (keeps : List.Forall₂ OrderRecord.Keeps sorted
      (t.sortedOrders (Filter.of userId q) q.orderBy q.descending)) :
    let page := Page.ofRequest q.page q.limit
      (Int64.ofNat ((Filter.of userId q).rows t.orders).length)
    ∃ orders, (fetchPage userId q).run (Database.answer now) { stored := t } =
        (.ok (orders, page), { stored := t }) ∧
      orders.map (·.id) = (page.cut sorted).map (·.id) := by
  intro page
  have counted : Database.answer now (.countOrders (Filter.of userId q)) { stored := t } =
      (.rows [Int64.ofNat ((Filter.of userId q).rows t.orders).length], { stored := t }) :=
    Database.perform_none now rfl
  have hlimit : (0 : Int64) ≤ page.limit := by
    have hrange := (Page.effectiveLimit_range q.limit).1
    rw [Int64.le_iff_toInt_le, Int64.toInt_zero]
    show 0 ≤ (Page.effectiveLimit q.limit).toInt
    omega
  have hskip : (0 : Int64) ≤ page.skip := Page.skip_nonneg _ _ _
  have selected : Database.answer now
      (.ordersOf (Filter.of userId q) q.orderBy q.descending page.limit page.skip)
      { stored := t } =
      (.rows ((page.cut (t.sortedOrders (Filter.of userId q) q.orderBy q.descending)).map
        (·.toOrderRow)), { stored := t }) := by
    refine Database.perform_none now ?_
    rw [Tables.execute, Tables.ordersOf]
    simp only [require, hlimit, hskip]
    rfl
  have cut : List.Forall₂ OrderRecord.Keeps (page.cut sorted)
      (page.cut (t.sortedOrders (Filter.of userId q) q.orderBy q.descending)) :=
    List.forall₂_take _ (List.forall₂_drop _ keeps)
  obtain ⟨orders, read, ids⟩ := mapM_orderOf cut
  obtain ⟨lines, listed⟩ := @run_linesOf now t (orders.map (·.id))
  refine ⟨distribute orders lines, ?_, (distribute_ids orders lines).trans ids⟩
  rw [fetchPage, monad_bind_eq, run_bind_of_ok (run_firstRow counted)]
  dsimp only
  rw [monad_bind_eq, run_bind_of_ok (run_rows selected), monad_bind_eq, read]
  show run _ (linesOf _ >>= _) _ = _
  rw [monad_bind_eq, run_bind_of_ok listed]
  rfl

end Page

end Sql

open Sql

/-- A page of the database is a page of the orders that are sorted by identifiers where
keys are equal, and has the descriptor of the page in memory. -/
theorem call_page
    (budget : Duration)
    (o : Occasion)
    {m : Memory} {t : Tables}
    (keep : t.Keep m.orders)
    (distinct : m.Distinct)
    (userId : Identifier)
    (q : OrderQuery) :
    ∃ orders,
      Database.call budget o (.page userId q) { stored := t } =
        (.ok (orders, (m.page userId q).2), { stored := t }) ∧
      orders.map (·.id) =
        ((m.page userId q).2.cut (q.arrangeById userId m.orders)).map (·.id) := by
  obtain ⟨orders, ran, ids⟩ :=
    @run_fetchPage o.now t userId q _ (sortedOrders_of_keep userId q keep distinct)
  rw [length_rows_of_keep userId q keep] at ran ids
  refine ⟨orders, ?_, ids⟩
  rw [Database.call, Sql.answer, Dialogue.run_attempt, bounded, Dialogue.run_mapError, ran]
  rfl

theorem page_fst_ids
    (m : Memory)
    (userId : Identifier)
    (q : OrderQuery) :
    (m.page userId q).1.map (·.id) =
      ((m.page userId q).2.cut (q.arrange userId m.orders)).map (·.id) := by
  rw [Memory.page, List.map_map]
  refine List.map_congr_left ?_
  intro o _
  exact m.shown_id o

/-- **Listings agree up to ties.**  Where the tables keep the orders in memory, whatever
the order of the rows, a page of the database has the same descriptor as the page in
memory, and both are cut from the same matching orders, sorted by the same key.  Orders
with equal keys stand in the order of their creation in memory, and in the order of
their identifiers in the database.  Where these are the same, so are the pages. -/
theorem listings_agree_up_to_ties
    (budget : Duration)
    (o : Occasion)
    {m : Memory} {t : Tables}
    (keep : t.Keep m.orders)
    (distinct : m.Distinct)
    (userId : Identifier)
    (q : OrderQuery) :
    let inMemory := q.arrange userId m.orders
    let inDatabase := q.arrangeById userId m.orders
    let page := (m.page userId q).2
    ∃ orders,
      Database.call budget o (.page userId q) { stored := t } =
        (.ok (orders, page), { stored := t }) ∧
      (m.page userId q).1.map (·.id) = (page.cut inMemory).map (·.id) ∧
      orders.map (·.id) = (page.cut inDatabase).map (·.id) ∧
      inMemory.Perm inDatabase ∧
      inMemory.Pairwise (fun a b =>
        q.Before a b ∨ (q.Ties a b ∧ [a, b].Sublist m.orders)) ∧
      inDatabase.Pairwise (fun a b =>
        q.Before a b ∨ (q.Ties a b ∧ a.id.toNat ≤ b.id.toNat)) ∧
      (q.TiesAscend userId m.orders →
        (m.page userId q).1.map (·.id) = orders.map (·.id)) := by
  intro inMemory inDatabase page
  obtain ⟨orders, called, ids⟩ := call_page budget o keep distinct userId q
  refine ⟨orders, called, page_fst_ids m userId q, ids, ?_, ?_, ?_, ?_⟩
  · exact (q.perm_arrange userId).trans (q.perm_arrangeById userId).symm
  · exact q.pairwise_arrange userId distinct.nodup
  · exact q.pairwise_arrangeById userId
  · intro ascend
    rw [page_fst_ids, ids, q.arrange_eq_arrangeById userId distinct ascend]

theorem isMoney_zero : Decimal.zero.IsMoney :=
  ⟨⟨0, by simp [Decimal.value, Decimal.coefficient, Decimal.zero]⟩,
    by simp [Decimal.value, Decimal.coefficient, Decimal.zero]⟩

/-- Orders without lines, as they are created on the given occasions. -/
def emptyOrders (os : List Occasion) : List Order :=
  os.map fun o => Memory.newOrder o .nil [] .zero

/-- The tables after orders without lines have been created. -/
def tablesOf (os : List Occasion) : Tables :=
  { orders := os.map fun o => OrderRecord.new o .nil .zero }

theorem keep_emptyOrders
    (os : List Occasion) :
    (tablesOf os).Keep (emptyOrders os) := by
  refine keep_of_keeps ?_
  rw [emptyOrders, tablesOf, List.forall₂_map_left_iff, List.forall₂_map_right_iff,
    List.forall₂_same]
  intro o _
  exact keeps_newOrder o .nil [] isMoney_zero

/-- Two orders of one price that are created in the order of their identifiers are
listed in this order by both stores, even downwards. -/
theorem listings_agree_up_to_ties_of_ascending :
    let os : List Occasion := [.numbered 1, .numbered 2]
    let m : Memory := { orders := emptyOrders os }
    let q : OrderQuery := { orderBy := .totalPrice, descending := true }
    (tablesOf os).Keep m.orders ∧ m.Distinct ∧ q.TiesAscend .nil m.orders ∧
      ∃ orders,
        Database.call ⟨5⟩ (.numbered 3) (.page .nil q) { stored := tablesOf os } =
          (.ok (orders, (m.page .nil q).2), { stored := tablesOf os }) ∧
        (m.page .nil q).1.map (·.id) = orders.map (·.id) := by
  intro os m q
  have keep : (tablesOf os).Keep m.orders := keep_emptyOrders os
  have distinct : m.Distinct := by
    show ([.ofNat 1, .ofNat 2] : List Identifier).Nodup
    decide
  have ascend : q.TiesAscend .nil m.orders := by
    intro a b both _ _ _
    have hpair := both.eq_of_length rfl
    cases hpair
    decide
  obtain ⟨orders, called, _, _, _, _, _, same⟩ :=
    listings_agree_up_to_ties ⟨5⟩ (.numbered 3) keep distinct .nil q
  exact ⟨keep, distinct, ascend, orders, called, same ascend⟩

/-- Two orders of one price, the first of which has the greater identifier, stand in the
order of their creation in memory and the other way round in the database. -/
theorem listings_differ_in_ties :
    let os : List Occasion := [.numbered 2, .numbered 1]
    let m : Memory := { orders := emptyOrders os }
    let q : OrderQuery := { orderBy := .totalPrice }
    ∃ page listed,
      (tablesOf os).Keep m.orders ∧ m.Distinct ∧
      (m.page .nil q).1.map (·.id) = [.ofNat 2, .ofNat 1] ∧
      Database.call ⟨5⟩ (.numbered 3) (.page .nil q) { stored := tablesOf os } =
        (.ok (listed, page), { stored := tablesOf os }) ∧
      listed.map (·.id) = [.ofNat 1, .ofNat 2] := by
  intro os m q
  have keep : (tablesOf os).Keep m.orders := keep_emptyOrders os
  have distinct : m.Distinct := by
    show ([.ofNat 2, .ofNat 1] : List Identifier).Nodup
    decide
  have hselects : ∀ listed : List Order, listed.Perm m.orders →
      listed.filter (q.selects .nil) = listed := by
    intro listed perm
    refine List.filter_eq_self.mpr ?_
    intro o ho
    have hall : ∀ o ∈ m.orders, q.selects .nil o = true := by decide
    exact hall o (perm.mem_iff.mp ho)
  have hleft : q.arrange .nil m.orders = m.orders := by
    rw [OrderQuery.arrange, hselects m.orders (.refl _)]
    exact List.mergeSort_of_pairwise (by decide)
  have hright : q.arrangeById .nil m.orders = m.orders.reverse := by
    have perm : m.orders.reverse.Perm m.orders := m.orders.reverse_perm
    rw [← q.arrangeById_perm .nil distinct perm, OrderQuery.arrangeById, hselects _ perm]
    exact List.mergeSort_of_pairwise (by decide)
  have hpage : (m.page .nil q).2 = Page.ofRequest 0 0 2 := by
    show Page.ofRequest 0 0 (Int64.ofNat (q.arrange .nil m.orders).length) = _
    rw [hleft]
    rfl
  obtain ⟨listed, called, ids⟩ := call_page ⟨5⟩ (.numbered 3) keep distinct .nil q
  refine ⟨(m.page .nil q).2, listed, keep, distinct, ?_, called, ?_⟩
  · rw [page_fst_ids, hleft, hpage]
    decide
  · rw [ids, hright, hpage]
    decide

end OrderDesk
