import OrderDesk.Proofs.Listing.Pages
import OrderDesk.Proofs.Placement

/-!
# Placed orders

A placed order has one line for each requested line, in the order of the request, and
each line is priced from the product that the request names and shown with it
(`LineRequest.PlacedAs`).  What is stored is the same order without its products; they
are attached again on reading, and then the order is the one that was answered.
-/

namespace OrderDesk

/-- A requested line and the line that is placed for it: its product is the one that the
request spells, its price is that of the product times the quantity, and it is shown with
the product. -/
structure LineRequest.PlacedAs
    (catalog : Catalog)
    (orderId : Identifier)
    (request : LineRequest)
    (line : OrderLine) :
    Prop where
  productId : Identifier.parse? (Text.trim request.productId.toList) = some line.productId
  quantity : line.quantity = request.quantity
  orderId : line.orderId = orderId
  product : ∃ product,
    catalog.find? line.productId = some product ∧
    product.price.mul (Decimal.ofInt32 request.quantity) = .ok line.price ∧
    line.product = some product.summary

/-- A priced line and the line that is stored for it. -/
structure PricedLine.StoredAs
    (orderId : Identifier)
    (priced : PricedLine)
    (line : OrderLine) :
    Prop where
  productId : line.productId = priced.productId
  quantity : line.quantity = priced.quantity
  price : line.price = priced.price
  orderId : line.orderId = orderId
  product : line.product = none

/-- Two pointwise relations, one behind the other. -/
theorem forall₂_comp
    {α β γ : Type} {R : α → β → Prop} {S : β → γ → Prop} {T : α → γ → Prop}
    {as : List α} {bs : List β} {cs : List γ}
    (first : List.Forall₂ R as bs)
    (second : List.Forall₂ S bs cs)
    (compose : ∀ a b c, b ∈ bs → R a b → S b c → T a c) :
    List.Forall₂ T as cs := by
  induction first generalizing cs with
  | nil =>
      cases second
      exact .nil
  | cons hab _ ih =>
      cases second with
      | cons hbc second =>
          refine .cons (compose _ _ _ (List.mem_cons_self ..) hab hbc) (ih second ?_)
          intro a b c hb
          exact compose a b c (List.mem_cons_of_mem _ hb)

namespace Order

variable (order : Order) (f g : Identifier → Option ProductSummary)

/-- Choosing products anew forgets the earlier choice. -/
theorem withProducts_withProducts :
    (order.withProducts f).withProducts g = order.withProducts g := by
  simp [withProducts, Function.comp_def]

theorem withProducts_eq_self
    (shows : ∀ l ∈ order.lines, f l.productId = l.product) :
    order.withProducts f = order := by
  have hlines : (order.lines.map fun l => { l with product := f l.productId }) =
      order.lines := by
    rw [List.map_congr_left (g := fun l => l) ?_, List.map_id']
    intro l hl
    rw [shows l hl]
  rw [withProducts, hlines]

end Order

namespace Memory

theorem storedAs_newLines
    (o : Occasion)
    (lines : List PricedLine) :
    List.Forall₂ (PricedLine.StoredAs o.orderId) lines (newLines o lines) := by
  rw [List.forall₂_iff_get]
  refine ⟨by simp [newLines], ?_⟩
  intro i _ _
  simp only [newLines, List.get_eq_getElem, List.getElem_mapIdx]
  exact ⟨rfl, rfl, rfl, rfl, rfl⟩

theorem sum_prices_newOrder
    {o : Occasion} {userId : Identifier} {lines : List PricedLine} {totalPrice : Decimal}
    (total : Order.totalOf lines = .ok totalPrice) :
    Decimal.sum ((newOrder o userId lines totalPrice).lines.map (·.price)) =
      .ok totalPrice := by
  have hprices : List.Forall₂ (· = ·) ((newLines o lines).map (·.price))
      (lines.map (·.price)) := by
    rw [List.forall₂_map_left_iff, List.forall₂_map_right_iff]
    exact (storedAs_newLines o lines).flip.imp fun _ _ stored => stored.price
  rw [List.forall₂_eq_eq_eq] at hprices
  rw [newOrder, hprices]
  exact total

/-- A new order is stored without products. -/
theorem withProducts_none_newOrder
    (o : Occasion)
    (userId : Identifier)
    (lines : List PricedLine)
    (totalPrice : Decimal) :
    (newOrder o userId lines totalPrice).withProducts (fun _ => none) =
      newOrder o userId lines totalPrice := by
  apply Order.withProducts_eq_self
  intro l hl
  rw [newOrder, newLines, List.mem_mapIdx] at hl
  obtain ⟨i, _, rfl⟩ := hl
  rfl

/-- An order under a new identifier is read as it is shown. -/
theorem load_concat_of_new
    {m : Memory} {stored : Order}
    (new : m.find? stored.id = none) :
    ({ m with orders := m.orders ++ [stored] } : Memory).load stored.id true =
      .ok (({ m with orders := m.orders ++ [stored] } : Memory).shown stored) := by
  have hfind :
      ({ m with orders := m.orders ++ [stored] } : Memory).find? stored.id = some stored := by
    rw [find?] at new ⊢
    rw [List.find?_append, new, Option.none_or]
    simp
  rw [load, hfind]
  rfl

/-- An order under a new identifier is listed once among all orders of its user. -/
theorem count_allPages_of_new
    {m : Memory} {stored : Order}
    (new : m.find? stored.id = none)
    {q : OrderQuery}
    (anyCode : q.code = none)
    (anyStatus : q.status = none)
    (fits : (m.orders ++ [stored]).length < 2 ^ 63) :
    let m' := { m with orders := m.orders ++ [stored] }
    (m'.allPages stored.userId q).count (m'.shown stored) = 1 := by
  intro m'
  have hperm : (m'.allPages stored.userId q).Perm
      ((m'.orders.filter (q.selects stored.userId)).map m'.shown) := by
    rw [allPages_eq m' _ q fits]
    exact (List.mergeSort_perm _ _).map _
  have hselected : q.selects stored.userId stored = true := by
    simp [OrderQuery.selects, anyCode, anyStatus]
  have hothers : m'.shown stored ∉
      (m.orders.filter (q.selects stored.userId)).map m'.shown := by
    intro listed
    obtain ⟨other, hother, hsame⟩ := List.mem_map.mp listed
    have hid : other.id = stored.id := by
      have h := congrArg Order.id hsame
      rwa [shown_id, shown_id] at h
    have hnone := List.find?_eq_none.mp new other (List.mem_of_mem_filter hother)
    exact hnone (by simp [hid])
  rw [hperm.count_eq, List.filter_append, List.map_append, List.count_append,
    List.count_eq_zero_of_not_mem hothers]
  simp only [List.filter_cons_of_pos hselected, List.filter_nil, List.map_singleton,
    List.count_singleton_self]

end Memory

namespace Service

variable {fault : Option Fault} {o : Occasion} {m : Memory}

/-- What is known is what was answered. -/
def Agrees (answers : Identifier → Except StoreError Product) (known : Known) : Prop :=
  ∀ id product, known.lookup id = some product → answers id = .ok product

/-- A line goes by the answer for its product: its price is the one that was answered,
times the quantity, and it is shown with the product that was answered. -/
structure SoldBy
    (answers : Identifier → Except StoreError Product)
    (valid : ValidLine)
    (line : OrderLine) :
    Prop where
  productId : line.productId = valid.productId
  quantity : line.quantity = valid.quantity
  product : ∃ product,
    answers valid.productId = .ok product ∧
    product.price.mul (Decimal.ofInt32 valid.quantity) = .ok line.price ∧
    line.product = some product.summary

/-- A stored line that is shown with what is known goes by the answer that has made its
product known. -/
theorem soldBy_of_storedAs
    {answers : Identifier → Except StoreError Product} {known : Known} {orderId : Identifier}
    {v : ValidLine} {p : PricedLine} {l : OrderLine}
    (agrees : Agrees answers known)
    (covered : ∃ product, known.lookup v.productId = some product)
    (priced : quoted answers v = .ok p)
    (stores : p.StoredAs orderId l) :
    SoldBy answers v { l with product := (known.lookup l.productId).map (·.summary) } := by
  obtain ⟨product, hanswer, hmul, hid, hquantity⟩ := quoted_eq_ok_iff.mp priced
  obtain ⟨product', hknown⟩ := covered
  -- The product that is shown is the one that the price was taken from.
  have hsame : product' = product := by
    have h := agrees v.productId product' hknown
    rw [hanswer] at h
    cases h
    rfl
  subst hsame
  have hproductId : l.productId = v.productId := stores.productId.trans hid
  refine ⟨hproductId, stores.quantity.trans hquantity, product', hanswer, ?_, ?_⟩
  · rw [stores.price]
    exact hmul
  · rw [hproductId, hknown, Option.map_some]

/-- The lines of a placed order are those of the request. -/
theorem placedAs_lines
    {policy : OrderPolicy} {request : List LineRequest}
    {valid : List ValidLine} {lines : List PricedLine} {known : Known}
    (hvalid : policy.validate request = .ok valid)
    (priced : valid.mapM (price fault o m) = .ok lines)
    (consistent : Consistent fault o m known)
    (covers : ∀ line ∈ valid, ∃ product, known.lookup line.productId = some product)
    (userId : Identifier)
    (totalPrice : Decimal) :
    List.Forall₂ (LineRequest.PlacedAs m.catalog o.orderId) request
      ((Memory.newOrder o userId lines totalPrice).withProducts fun id =>
        (known.lookup id).map (·.summary)).lines := by
  have hread := OrderPolicy.readsAs_of_validate hvalid
  have hstored : List.Forall₂
      (fun v l => ∃ p, price fault o m v = .ok p ∧ p.StoredAs o.orderId l)
      valid (Memory.newLines o lines) :=
    forall₂_comp (mapM_eq_ok_iff.mp priced) (Memory.storedAs_newLines o lines)
      fun _ p _ _ hprice stores => ⟨p, hprice, stores⟩
  rw [Order.withProducts, List.forall₂_map_right_iff]
  refine forall₂_comp hread hstored ?_
  rintro line v l hv reads ⟨p, hprice, stores⟩
  obtain ⟨hproductId, hquantity, product, hlookup, hmul, hshown⟩ :=
    soldBy_of_storedAs consistent (covers v hv) hprice stores
  constructor
  · exact reads.productId.trans (congrArg some hproductId.symm)
  · exact hquantity.trans reads.quantity
  · exact stores.orderId
  · refine ⟨product, ?_, ?_, hshown⟩
    · exact hproductId ▸ Memory.answerUnder_product_of_ok hlookup
    · rw [← reads.quantity]
      exact hmul

/-- Lines that were placed from a catalog are shown as they are with its products. -/
theorem withProducts_of_placedAs
    {catalog : Catalog} {orderId : Identifier} {request : List LineRequest} {order : Order}
    (placed : List.Forall₂ (LineRequest.PlacedAs catalog orderId) request order.lines) :
    order.withProducts catalog.summary? = order := by
  apply Order.withProducts_eq_self
  have hshown : List.Forall₂
      (fun l line => catalog.summary? l.productId = l.product ∧
        LineRequest.PlacedAs catalog orderId line l) order.lines request := by
    refine placed.flip.imp ?_
    intro l line hplaced
    obtain ⟨product, hfind, _, hsummary⟩ := hplaced.product
    rw [Catalog.summary?, hfind, hsummary]
    exact ⟨rfl, hplaced⟩
  exact ((List.forall₂_and_left ..).mp hshown).1

/-- A placed order is shown as it was answered, if lines are shown with the products of the
catalog that they were placed from. -/
theorem shown_of_placedAs
    {orderId : Identifier} {request : List LineRequest} {stored : Order}
    {product : Identifier → Option ProductSummary}
    (placed : List.Forall₂ (LineRequest.PlacedAs m.catalog orderId) request
      (stored.withProducts product).lines)
    (shows : m.showsProducts = true) :
    ({ m with orders := m.orders ++ [stored] } : Memory).shown stored =
      stored.withProducts product := by
  have hshown := withProducts_of_placedAs placed
  rw [Order.withProducts_withProducts] at hshown
  rw [Memory.shown, if_pos shows]
  exact hshown

/-- **A placed order answers the request and reads back.**  In every state, whatever may
fail, an order that a placement answers

* is a new one of the user, in its first version;
* has one line for each requested line, in the order of the request, each with the
  product, the quantity and the price that the request and the catalog name;
* costs the sum of its lines;
* is stored behind all others, without its products, and nothing else changes.

If its identifier is a new one and lines are shown with their products, reading it then
gives what was answered, and it stands once among all orders of the user. -/
theorem placed_orders_answer_the_request_and_read_back
    {m' : Memory} {policy : OrderPolicy} {userId : Identifier}
    {request : List LineRequest} {order : Order}
    (placed : (place policy userId request).run (Memory.answerUnder fault o) m =
      (.ok order, m')) :
    (order.userId = userId ∧ order.status = .new ∧ order.version = 1) ∧
    List.Forall₂ (LineRequest.PlacedAs m.catalog order.id) request order.lines ∧
    Decimal.sum (order.lines.map (·.price)) = .ok order.totalPrice ∧
    m' = { m with orders := m.orders ++ [order.withProducts fun _ => none] } ∧
    (m.find? order.id = none → m.showsProducts = true →
      (∀ occasion,
        (get order.id).run (Memory.answerUnder none occasion) m' = (.ok order, m')) ∧
      (∀ q n occasion,
        (list userId { q with page := n }).run (Memory.answerUnder none occasion) m' =
          (.ok (m'.pageAt userId q n), m')) ∧
      (∀ q : OrderQuery,
        q.code = none → q.status = none → m'.orders.length < 2 ^ 63 →
          (m'.allPages userId q).count order = 1)) := by
  obtain ⟨valid, lines, totalPrice, known, hvalid, hpriced, htotal, consistent, covers,
    rfl, rfl⟩ := place_eq_ok placed
  have hlines := placedAs_lines hvalid hpriced consistent covers userId totalPrice
  refine ⟨⟨rfl, rfl, rfl⟩, hlines, ?_, ?_, ?_⟩
  · rw [Order.withProducts, List.map_map]
    exact Memory.sum_prices_newOrder htotal
  · rw [Order.withProducts_withProducts, Memory.withProducts_none_newOrder]
  · intro new shows
    have hnew : m.find? (Memory.newOrder o userId lines totalPrice).id = none := new
    have hshown := shown_of_placedAs hlines shows
    refine ⟨?_, ?_, ?_⟩
    · intro occasion
      have hload := Memory.load_concat_of_new hnew
      rw [hshown] at hload
      rw [run_get, Memory.answerUnder_none]
      exact congrArg (fun r => (Except.mapError passed r, _)) hload
    · intro q n occasion
      rw [run_list, Memory.answerUnder_none]
      rfl
    · intro q anyCode anyStatus fits
      rw [← hshown]
      exact Memory.count_allPages_of_new hnew anyCode anyStatus fits

/-- Two lines with the same product stay two lines, at the price of each quantity. -/
theorem placed_orders_answer_the_request_and_read_back_of_equal_products :
    let price : Decimal := ⟨false, 250, 2, by decide, by decide⟩
    let product : Product := ⟨.ofNat 1, "P-1", "Pencil", "", price⟩
    let m : Memory := { catalog := .ofList [product] }
    let request : List LineRequest :=
      [⟨"00000000-0000-0000-0000-000000000001", 2⟩,
        ⟨" 00000000-0000-0000-0000-000000000001", 3⟩]
    ∃ order m',
      (place {} .nil request).run (Memory.answerUnder none (.numbered 1)) m =
        (.ok order, m') ∧
      order.lines.map (·.quantity) = [2, 3] ∧
      order.lines.map (·.price.mantissa) = [500, 750] ∧
      order.totalPrice.mantissa = 1250 ∧
      m.find? order.id = none ∧
      (m'.allPages .nil {}).count order = 1 := by
  intro price product m request
  let run := (place {} .nil request).run (Memory.answerUnder none (.numbered 1)) m
  have values : run.1.toOption.map (fun order => (order.lines.map (·.quantity),
      order.lines.map (·.price.mantissa), order.totalPrice.mantissa)) =
        some ([2, 3], [500, 750], 1250) := by
    decide +kernel
  obtain ⟨order, hsome, hvalues⟩ := Option.map_eq_some_iff.mp values
  obtain ⟨hquantities, hprices, htotal⟩ := by
    simpa only [Prod.mk.injEq] using hvalues
  have placed : run = (.ok order, run.2) := by
    refine Prod.ext ?_ rfl
    cases hanswer : run.1 with
    | error failure =>
        rw [hanswer] at hsome
        cases hsome
    | ok order' =>
        rw [hanswer] at hsome
        cases hsome
        rfl
  have new : m.find? order.id = none := rfl
  obtain ⟨_, _, _, hstate, reads⟩ :=
    placed_orders_answer_the_request_and_read_back placed
  obtain ⟨_, _, once⟩ := reads new rfl
  have hlength : run.2.orders.length = 1 := by
    rw [hstate, List.length_append]
    rfl
  exact ⟨order, run.2, placed, hquantities, hprices, htotal, new,
    once {} rfl rfl (by omega)⟩

end Service
end OrderDesk
