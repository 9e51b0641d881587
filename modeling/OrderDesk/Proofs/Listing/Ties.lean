import OrderDesk.Proofs.Listing.Arrangement
import OrderDesk.Proofs.Memory.Deeds

/-!
# Equal keys in a listing

Orders with equal keys may stand in the order of their creation, as in
`OrderQuery.arrange`, or in the order of their identifiers, as in
`OrderQuery.arrangeById`.

* `arrangeById_perm`: the latter does not depend on the order of creation.
* `arrange_eq_arrangeById`: both are the same where orders with equal keys are created
  with ascending identifiers.
-/

namespace OrderDesk

namespace Identifier

/-- Digits are read off a number, whatever stands before them. -/
theorem foldl_digits_inj
    {ds es : List (Fin 16)}
    (length : ds.length = es.length)
    {m n : Nat}
    (same : ds.foldl (fun n d => n * 16 + d.val) m = es.foldl (fun n d => n * 16 + d.val) n) :
    m = n ∧ ds = es := by
  induction ds generalizing es m n with
  | nil =>
      rw [List.length_nil, eq_comm, List.length_eq_zero_iff] at length
      subst length
      exact ⟨same, rfl⟩
  | cons d ds ih =>
      cases es with
      | nil =>
          cases length
      | cons e es =>
          rw [List.foldl_cons, List.foldl_cons] at same
          obtain ⟨hhead, htail⟩ := ih (Nat.succ.inj length) same
          have hd := d.isLt
          have he := e.isLt
          have hdigit : d = e := Fin.ext (by omega)
          exact ⟨by omega, by rw [hdigit, htail]⟩

theorem toNat_injective : Function.Injective toNat := by
  intro i j same
  obtain ⟨ds, hds⟩ := i
  obtain ⟨es, hes⟩ := j
  obtain ⟨_, rfl⟩ := foldl_digits_inj (hds.trans hes.symm) same
  rfl

end Identifier

namespace OrderQuery

/-- The matching orders, sorted; orders that compare equal stand in the order of their
identifiers, in both directions. -/
def arrangeById (q : OrderQuery) (userId : Identifier) (orders : List Order) : List Order :=
  (orders.filter (q.selects userId)).mergeSort fun a b =>
    ((q.compare a b).then (Ord.compare a.id.toNat b.id.toNat)).isLE

/-- One order has a lesser key than another, or the same key and no greater identifier. -/
def Precedes (q : OrderQuery) (a b : Order) : Prop :=
  q.Before a b ∨ (q.Ties a b ∧ a.id.toNat ≤ b.id.toNat)

section Order

variable (q : OrderQuery) (a b c : Order)

theorem compare_eq_lt_iff :
    q.compare a b = .lt ↔ q.Before a b := by
  rw [compare, Before, compareBy_eq_compare_key]
  by_cases h : q.descending = true
  · rw [if_pos h, if_pos h, Ordering.swap_eq_lt, compare_gt_iff_gt]
  · rw [if_neg h, if_neg h, compare_lt_iff_lt]

theorem compare_eq_eq_iff :
    q.compare a b = .eq ↔ q.Ties a b := by
  rw [compare, Ties, compareBy_eq_compare_key]
  by_cases h : q.descending = true
  · rw [if_pos h, Ordering.swap_eq_eq, compare_eq_iff_eq]
  · rw [if_neg h, compare_eq_iff_eq]

theorem isLE_then_iff :
    ((q.compare a b).then (Ord.compare a.id.toNat b.id.toNat)).isLE = true ↔
      q.Precedes a b := by
  rw [Ordering.isLE_then_iff_or, compare_eq_lt_iff, compare_eq_eq_iff, Nat.isLE_compare,
    Precedes]

theorem precedes_total :
    q.Precedes a b ∨ q.Precedes b a := by
  rcases q.before_trichotomy a b with h | h | h
  · exact Or.inl (Or.inl h)
  · rcases Nat.le_total a.id.toNat b.id.toNat with hid | hid
    · exact Or.inl (Or.inr ⟨h, hid⟩)
    · exact Or.inr (Or.inr ⟨h.symm, hid⟩)
  · exact Or.inr (Or.inl h)

variable {q a b c}

theorem before_congr_left
    (ties : q.Ties a b) :
    q.Before a c ↔ q.Before b c := by
  rw [Before, Before, ties]

theorem before_congr_right
    (ties : q.Ties b c) :
    q.Before a b ↔ q.Before a c := by
  rw [Before, Before, ties]

theorem before_trans
    (hab : q.Before a b)
    (hbc : q.Before b c) :
    q.Before a c := by
  rw [Before] at *
  by_cases h : q.descending = true
  · rw [if_pos h] at *
    exact hbc.trans hab
  · rw [if_neg h] at *
    exact hab.trans hbc

theorem precedes_trans
    (hab : q.Precedes a b)
    (hbc : q.Precedes b c) :
    q.Precedes a c := by
  rcases hab with hab | ⟨hab, hid⟩
  · rcases hbc with hbc | ⟨hbc, _⟩
    · exact Or.inl (before_trans hab hbc)
    · exact Or.inl ((before_congr_right hbc).mp hab)
  · rcases hbc with hbc | ⟨hbc, hid'⟩
    · exact Or.inl ((before_congr_left hab).mpr hbc)
    · exact Or.inr ⟨hab.trans hbc, hid.trans hid'⟩

theorem not_before_of_ties
    (ties : q.Ties a b) :
    ¬ q.Before a b := by
  intro before
  have := (before_congr_right ties.symm).mp before
  exact q.not_before_swap a a this this

theorem precedes_antisymm
    (hab : q.Precedes a b)
    (hba : q.Precedes b a) :
    a.id = b.id := by
  rcases hab with hab | ⟨ties, hid⟩
  · rcases hba with hba | ⟨ties, _⟩
    · exact absurd hba (q.not_before_swap a b hab)
    · exact absurd hab (not_before_of_ties ties.symm)
  · rcases hba with hba | ⟨_, hid'⟩
    · exact absurd hba (not_before_of_ties ties.symm)
    · exact Identifier.toNat_injective (Nat.le_antisymm hid hid')

end Order

section Arrange

variable (q : OrderQuery) (userId : Identifier) {orders : List Order}

theorem perm_arrange :
    (q.arrange userId orders).Perm (orders.filter (q.selects userId)) :=
  List.mergeSort_perm _ _

theorem perm_arrangeById :
    (q.arrangeById userId orders).Perm (orders.filter (q.selects userId)) :=
  List.mergeSort_perm _ _

theorem pairwise_arrangeById :
    (q.arrangeById userId orders).Pairwise q.Precedes := by
  let le (a b : Order) : Bool :=
    ((q.compare a b).then (Ord.compare a.id.toNat b.id.toNat)).isLE
  have htrans : ∀ a b c, le a b = true → le b c = true → le a c = true := by
    intro a b c hab hbc
    rw [isLE_then_iff] at *
    exact precedes_trans hab hbc
  have htotal : ∀ a b, (le a b || le b a) = true := by
    intro a b
    rw [Bool.or_eq_true, isLE_then_iff, isLE_then_iff]
    exact q.precedes_total a b
  exact (List.pairwise_mergeSort htrans htotal _).imp fun {a b} h => (q.isLE_then_iff a b).mp h

/-- Orders with distinct identifiers can be sorted in one way only. -/
theorem eq_of_precedes
    (distinct : (orders.map (·.id)).Nodup)
    {l₁ l₂ : List Order}
    (sorted₁ : l₁.Pairwise q.Precedes)
    (sorted₂ : l₂.Pairwise q.Precedes)
    (perm₁ : l₁.Perm (orders.filter (q.selects userId)))
    (perm₂ : l₂.Perm (orders.filter (q.selects userId))) :
    l₁ = l₂ := by
  refine List.Perm.eq_of_pairwise ?_ sorted₁ sorted₂ (perm₁.trans perm₂.symm)
  intro a b ha hb hab hba
  have hmem : ∀ {o : Order} {l : List Order}, l.Perm (orders.filter (q.selects userId)) →
      o ∈ l → o ∈ orders := fun perm ho => List.mem_of_mem_filter (perm.mem_iff.mp ho)
  exact List.inj_on_of_nodup_map distinct (hmem perm₁ ha) (hmem perm₂ hb)
    (precedes_antisymm hab hba)

theorem arrangeById_perm
    (distinct : (orders.map (·.id)).Nodup)
    {orders' : List Order}
    (perm : orders'.Perm orders) :
    q.arrangeById userId orders' = q.arrangeById userId orders :=
  q.eq_of_precedes userId distinct (q.pairwise_arrangeById userId)
    (q.pairwise_arrangeById userId)
    ((q.perm_arrangeById userId).trans (perm.filter _))
    (q.perm_arrangeById userId)

/-- Of orders with equal keys, the one with the lesser identifier is created first. -/
def TiesAscend (orders : List Order) : Prop :=
  ∀ a b, [a, b].Sublist orders → q.Admits userId a → q.Admits userId b → q.Ties a b →
    a.id.toNat ≤ b.id.toNat

theorem arrange_eq_arrangeById
    (distinct : (orders.map (·.id)).Nodup)
    (ascend : q.TiesAscend userId orders) :
    q.arrange userId orders = q.arrangeById userId orders := by
  have sorted : (q.arrange userId orders).Pairwise q.Precedes := by
    refine (q.pairwise_arrange userId distinct.of_map).imp_of_mem ?_
    rintro a b ha hb (before | ⟨ties, places⟩)
    · exact Or.inl before
    · exact Or.inr ⟨ties, ascend a b places ((q.mem_arrange userId).mp ha).2
        ((q.mem_arrange userId).mp hb).2 ties⟩
  exact q.eq_of_precedes userId distinct sorted (q.pairwise_arrangeById userId)
    (q.perm_arrange userId) (q.perm_arrangeById userId)

end Arrange

end OrderQuery
end OrderDesk
