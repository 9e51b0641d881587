import OrderDesk.Proofs.Desk.Steps
import OrderDesk.Proofs.Listing.Arrangement
import OrderDesk.Proofs.Listing.Page
import OrderDesk.Proofs.Service.Failures

/-!
# All pages of a listing

Whoever reads the pages of a listing from the first to the last sees every matching
order once, sorted as asked for, and each of them as it is read alone.

* `allPages_eq`: all pages one after the other are the arranged orders, as they are
  shown.
* `load_of_mem_pageAt`: what is on a page is what reading the order alone gives.
* `pages_partition_the_matching_orders`: the pages of every listing in every state that
  can be reached.
-/

namespace OrderDesk

namespace Memory

/-- The page of a listing with a number. -/
def pageAt (m : Memory) (userId : Identifier) (q : OrderQuery) (n : Int64) :
    List Order × Page :=
  m.page userId { q with page := n }

/-- The number of the last page of a listing. -/
def lastPage (m : Memory) (userId : Identifier) (q : OrderQuery) : Int64 :=
  (m.pageAt userId q 1).2.totalPage

/-- The orders on all pages of a listing, from the first page to the last one. -/
def allPages (m : Memory) (userId : Identifier) (q : OrderQuery) : List Order :=
  (Page.numbers (m.lastPage userId q)).flatMap fun n => (m.pageAt userId q n).1

@[simp] theorem shown_id
    (m : Memory)
    (o : Order) :
    (m.shown o).id = o.id := by
  rw [shown]
  split <;> rfl

@[simp] theorem shown_userId
    (m : Memory)
    (o : Order) :
    (m.shown o).userId = o.userId := by
  rw [shown]
  split <;> rfl

section Pages

variable (m : Memory) (userId : Identifier) (q : OrderQuery)

theorem pageAt_fst
    (n : Int64) :
    (m.pageAt userId q n).1 =
      (Page.entriesOn (q.arrange userId m.orders) q.limit n).map m.shown := rfl

theorem lastPage_eq :
    m.lastPage userId q = Page.last (q.arrange userId m.orders) q.limit := rfl

theorem length_arrange_lt
    {bound : Nat}
    (fits : m.orders.length < bound) :
    (q.arrange userId m.orders).length < bound := by
  have hle := List.length_filter_le (q.selects userId) m.orders
  rw [OrderQuery.arrange, List.length_mergeSort]
  omega

theorem allPages_eq
    (fits : m.orders.length < 2 ^ 63) :
    m.allPages userId q = (q.arrange userId m.orders).map m.shown := by
  have hall := Page.flatMap_entriesOn (q.arrange userId m.orders) q.limit
    (m.length_arrange_lt userId q fits)
  simp only [allPages, pageAt_fst, lastPage_eq]
  rw [← List.map_flatMap, hall]

/-- What is on a page is a stored order of the user that the filters admit. -/
theorem stored_of_mem_pageAt
    {n : Int64} {o : Order}
    (listed : o ∈ (m.pageAt userId q n).1) :
    ∃ stored ∈ m.orders, q.Admits userId stored ∧ o = m.shown stored := by
  rw [pageAt_fst, List.mem_map] at listed
  obtain ⟨stored, hentry, rfl⟩ := listed
  have harranged : stored ∈ q.arrange userId m.orders :=
    List.mem_of_mem_drop (List.mem_of_mem_take hentry)
  obtain ⟨hstored, hadmits⟩ := (q.mem_arrange userId).mp harranged
  exact ⟨stored, hstored, hadmits, rfl⟩

theorem load_of_mem_pageAt
    (distinct : m.Distinct)
    {n : Int64} {o : Order}
    (listed : o ∈ (m.pageAt userId q n).1) :
    m.load o.id true = .ok o := by
  obtain ⟨stored, hstored, _, rfl⟩ := m.stored_of_mem_pageAt userId q listed
  rw [load, shown_id, find?_of_mem distinct hstored]
  rfl

theorem Distinct.nodup
    {m : Memory}
    (distinct : m.Distinct) :
    m.orders.Nodup :=
  distinct.of_map _

end Pages

end Memory

open Memory

/-- **Pages partition the matching orders.**  In every state that a run with fresh
identifiers reaches, for every user, query and page size:

* the pages from 1 to the last one, one after the other, are the matching orders of the
  user, each once, sorted by the key of the query, and equal keys in the order of
  creation;
* every page but the last one is full, the last one is not empty, and every page states
  the number of matching orders;
* a page past the end is empty, and a page number below 1 is that of the first page;
* every order on a page is what reading it alone gives;
* this is what the service answers, without changing anything. -/
theorem Desk.pages_partition_the_matching_orders
    {d : Desk} {es : List Desk.Event}
    (opened : d.Opened)
    (fresh : d.Along Desk.Fresh es)
    (fits : (d.after es).memory.orders.length < 2 ^ 63)
    (userId : Identifier)
    (q : OrderQuery) :
    let m := (d.after es).memory
    let page := m.pageAt userId q
    let last := m.lastPage userId q
    (∃ entries : List Order,
      entries.Nodup ∧
      (∀ o, o ∈ entries ↔ o ∈ m.orders ∧ q.Admits userId o) ∧
      entries.Pairwise (fun a b =>
        q.Before a b ∨ (q.Ties a b ∧ [a, b].Sublist m.orders)) ∧
      m.allPages userId q = entries.map m.shown ∧
      (∀ n, (page n).2.total.toInt = entries.length)) ∧
    (∀ n, (page n).2.totalPage = last) ∧
    (∀ n, 1 ≤ n → n < last → (page n).1.length = Page.size q.limit) ∧
    (1 ≤ last → (page last).1 ≠ []) ∧
    (∀ n, last < n → (page n).1 = []) ∧
    (∀ n, n < 1 → page n = page 1) ∧
    (∀ n, ∀ o ∈ (page n).1, m.load o.id true = .ok o) ∧
    (∀ n occasion,
      (Service.list userId { q with page := n }).run (Memory.answerUnder none occasion) m =
        (.ok (page n), m)) := by
  intro m page last
  have distinct : m.Distinct := distinct_after opened.distinct fresh
  have harranged := m.length_arrange_lt userId q fits
  refine ⟨⟨q.arrange userId m.orders, q.nodup_arrange userId distinct.nodup,
      fun o => q.mem_arrange userId, q.pairwise_arrange userId distinct.nodup,
      m.allPages_eq userId q fits, ?_⟩, ?_, ?_, ?_, ?_, ?_, ?_, ?_⟩
  · intro n
    have htotal := Page.toInt_total n q.limit (Int64.ofNat (q.arrange userId m.orders).length)
    rw [Int64.toInt_ofNat_of_lt harranged, Int.toNat_natCast] at htotal
    exact htotal
  · intro n
    rfl
  · intro n first before
    rw [pageAt_fst, List.length_map]
    exact Page.length_entriesOn_of_lt_last _ _ harranged first before
  · intro some
    rw [pageAt_fst, ne_eq, List.map_eq_nil_iff]
    exact Page.entriesOn_last_ne_nil _ _ harranged some
  · intro n past
    rw [pageAt_fst, List.map_eq_nil_iff]
    exact Page.entriesOn_of_last_lt _ _ harranged past
  · intro n below
    simp only [page, pageAt, Memory.page, Page.ofRequest_of_lt_one below]
    rfl
  · intro n o listed
    exact m.load_of_mem_pageAt userId q distinct listed
  · intro n occasion
    rw [Service.run_list, Memory.answerUnder_none]
    rfl

/-- Three orders fill a page of two and begin a second one. -/
theorem Desk.pages_partition_the_matching_orders_of_three :
    let d : Desk := { memory := {} }
    let es : List Desk.Event :=
      [.create (.numbered 1) .nil [], .create (.numbered 2) .nil [],
        .create (.numbered 3) .nil []]
    let m := (d.after es).memory
    let q : OrderQuery := { limit := 2, descending := true }
    d.Opened ∧ d.Along Fresh es ∧ m.orders.length < 2 ^ 63 ∧
      m.lastPage .nil q = 2 ∧
      (m.pageAt .nil q 1).1.length = 2 ∧
      (m.pageAt .nil q 2).1 ≠ [] ∧
      (m.pageAt .nil q 3).1 = [] ∧
      ∀ n, ∀ o ∈ (m.pageAt .nil q n).1, m.load o.id true = .ok o := by
  intro d es m q
  have opened : d.Opened := ⟨rfl, rfl, rfl⟩
  have fresh : d.Along Fresh es := by decide
  have fits : m.orders.length < 2 ^ 63 := by decide
  have hlast : m.lastPage .nil q = 2 := by
    rw [lastPage_eq, Page.last, OrderQuery.arrange, List.length_mergeSort]
    decide
  obtain ⟨_, _, full, rest, past, _, loads, _⟩ :=
    pages_partition_the_matching_orders opened fresh fits .nil q
  rw [hlast] at full rest past
  exact ⟨opened, fresh, fits, hlast, full 1 (by decide) (by decide), rest (by decide),
    past 3 (by decide), loads⟩

end OrderDesk
