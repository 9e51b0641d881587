import OrderDesk.Proofs.Decimal.Size
import OrderDesk.Proofs.Placement
import OrderDesk.Proofs.Service.Failures

/-!
# Prices that are small enough

The service computes amounts in one place only, where it places an order: the price of each
line, and the total.  Whether one of them may be too large is a matter of the prices in the
catalog and of the number of lines that are allowed.

* `Catalog.Affordable`: no amount of an order that is allowed is too large.
* `Catalog.affordable_of_small`: a bound on the prices is enough.
* `Service.place_fails`: then a placement fails only with an error.
-/

namespace OrderDesk

theorem OrderPolicy.length_le_of_validate
    {policy : OrderPolicy} {request : List LineRequest} {valid : List ValidLine}
    (passes : policy.validate request = .ok valid) :
    valid.length ≤ policy.maxLines := by
  rw [← (readsAs_of_validate passes).length_eq]
  rw [validate] at passes
  split at passes
  · cases passes
  · split at passes
    · cases passes
    · omega

/-- The lines of a request that passes name positive quantities. -/
theorem OrderPolicy.positive_of_validate
    {policy : OrderPolicy} {request : List LineRequest} {valid : List ValidLine}
    (passes : policy.validate request = .ok valid)
    {line : ValidLine}
    (mem : line ∈ valid) :
    0 < line.quantity := by
  obtain ⟨sent, _, reads⟩ := exists_mem_of_forall₂ (readsAs_of_validate passes) mem
  rw [reads.quantity]
  exact reads.positive

namespace Catalog

/-- A line has the price that the catalog gives it. -/
def Prices (c : Catalog) (line : PricedLine) : Prop :=
  0 < line.quantity ∧
  ∃ product,
    c.find? line.productId = some product ∧
    product.price.mul (Decimal.ofInt32 line.quantity) = .ok line.price

/-- No amount of an order that a policy allows is too large: neither the price of a line,
nor the total. -/
structure Affordable (c : Catalog) (policy : OrderPolicy) : Prop where
  line : ∀ id product (quantity : Int32),
    c.find? id = some product → 0 < quantity →
      ∃ price, product.price.mul (Decimal.ofInt32 quantity) = .ok price
  order : ∀ lines : List PricedLine,
    lines.length ≤ policy.maxLines → (∀ line ∈ lines, c.Prices line) →
      ∃ total, Order.totalOf lines = .ok total

section Small

variable {c : Catalog} {bound : Nat}

theorem priced_of_small
    (small : ∀ product ∈ c.products, product.price.AtMost bound)
    (fits : bound * 2 ^ 31 < Decimal.mantissaBound)
    {id : Identifier} {product : Product} {quantity : Int32}
    (found : c.find? id = some product)
    (positive : 0 < quantity) :
    ∃ price,
      product.price.mul (Decimal.ofInt32 quantity) = .ok price ∧
      price.AtMost (bound * 2 ^ 31) :=
  Decimal.mul_of_small (small product (List.mem_of_find?_eq_some found))
    (Decimal.atMost_ofInt32 positive) fits

/-- It is enough that all prices lie below a bound whose product with the largest quantity
and with the largest number of lines is a decimal. -/
theorem affordable_of_small
    (bound : Nat)
    {policy : OrderPolicy}
    (small : ∀ product ∈ c.products, product.price.AtMost bound)
    (allows : 0 < policy.maxLines)
    (fits : policy.maxLines * (bound * 2 ^ 31) < Decimal.mantissaBound) :
    c.Affordable policy := by
  have hline : bound * 2 ^ 31 < Decimal.mantissaBound :=
    Nat.lt_of_le_of_lt (Nat.le_mul_of_pos_left _ allows) fits
  constructor
  · intro id product quantity found positive
    obtain ⟨price, hprice, _⟩ := priced_of_small small hline found positive
    exact ⟨price, hprice⟩
  · intro lines hlength priced
    have hsmall : ∀ price ∈ lines.map (·.price), price.AtMost (bound * 2 ^ 31) := by
      intro price hmem
      obtain ⟨line, hline', rfl⟩ := List.mem_map.mp hmem
      obtain ⟨positive, product, found, hprice⟩ := priced line hline'
      obtain ⟨price, hsame, hsmall⟩ := priced_of_small small hline found positive
      rw [hprice] at hsame
      cases hsame
      exact hsmall
    have htotal : (lines.map (·.price)).length * (bound * 2 ^ 31) < Decimal.mantissaBound := by
      rw [List.length_map]
      exact Nat.lt_of_le_of_lt (Nat.mul_le_mul_right _ hlength) fits
    obtain ⟨total, hsum, _⟩ := Decimal.sum_of_small hsmall htotal
    exact ⟨total, hsum⟩

end Small

end Catalog

namespace Memory

/-- The one amount that the store computes is the total of a new order. -/
theorem totalOf_of_overflow
    {fault : Option Fault} {o : Occasion} {m : Memory}
    {userId : Identifier} {lines : List PricedLine} {x : Overflow}
    (overflows : (m.answerUnder fault o (.create userId lines)).1 = .error (.overflow x)) :
    Order.totalOf lines = .error x := by
  rcases answerUnder_cases fault o (.create userId lines) m with ⟨e, h⟩ | h
  · rw [h] at overflows
    cases overflows
  · rw [h, answer, create] at overflows
    split at overflows
    · rename_i overflow htotal
      cases overflows
      exact htotal
    · split at overflows
      · cases overflows
      · cases overflows

end Memory

namespace Service

variable {fault : Option Fault} {o : Occasion} {m : Memory}

theorem prices_of_price
    {line : ValidLine} {priced : PricedLine}
    (positive : 0 < line.quantity)
    (hprice : price fault o m line = .ok priced) :
    m.catalog.Prices priced := by
  obtain ⟨product, hlookup, hmul, hid, hquantity⟩ := quoted_eq_ok_iff.mp hprice
  rw [Catalog.Prices, hquantity, hid]
  exact ⟨positive, product, Memory.answerUnder_product_of_ok hlookup, hmul⟩

/-- With prices that are small enough, a placement fails only with an error. -/
theorem place_fails
    {policy : OrderPolicy}
    (affordable : m.catalog.Affordable policy)
    {userId : Identifier} {request : List LineRequest} {failure : Failure}
    (fails : ((place policy userId request).run (Memory.answerUnder fault o) m).1 =
      .error failure) :
    ∃ e, failure = .error e := by
  cases place_fails_iff.mp fails with
  | invalid _ =>
      exact ⟨_, rfl⟩
  | missing _ _ _ _ =>
      exact ⟨_, rfl⟩
  | unanswered _ _ _ _ =>
      exact ⟨_, rfl⟩
  | @tooLarge before after line product x valid _ lookup tooLarge =>
      have mem : line ∈ before ++ line :: after :=
        List.mem_append_right _ (List.mem_cons_self ..)
      obtain ⟨price, hprice⟩ := affordable.line line.productId product line.quantity
        (Memory.answerUnder_product_of_ok lookup) (OrderPolicy.positive_of_validate valid mem)
      rw [hprice] at tooLarge
      cases tooLarge
  | @unstored all lines e valid priced creates =>
      cases e with
      | error e =>
          exact ⟨_, rfl⟩
      | overflow x =>
          have hlength : lines.length ≤ policy.maxLines := by
            rw [← priced.length_eq]
            exact OrderPolicy.length_le_of_validate valid
          have hpriced : ∀ p ∈ lines, m.catalog.Prices p := by
            intro p hp
            obtain ⟨line, hline, hprice⟩ := exists_mem_of_forall₂ priced hp
            exact prices_of_price (OrderPolicy.positive_of_validate valid hline) hprice
          obtain ⟨total, htotal⟩ := affordable.order lines hlength hpriced
          rw [Memory.totalOf_of_overflow creates] at htotal
          cases htotal

end Service
end OrderDesk
