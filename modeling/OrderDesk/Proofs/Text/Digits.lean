import Mathlib.Data.List.Basic
import Mathlib.Data.List.TakeWhile
import Mathlib.Tactic.Common
import OrderDesk.Text.Numeral

/-!
# Decimal digits by value

Numbers are written digit by digit, and each digit is the character of a value below ten.

* `digitValues`, `paddedValues`: the values that are written for a number, without leading
  zeros or filled up with them (`digits_eq_map`, `paddedDigits_eq_map`).
* `ofDigitValues_digitValues`, `ofDigitValues_paddedValues`: they spell the number.
* `takeWhile_digits`, `filterMap_digit?`: digits are found again in front of a text.
* `length_paddedValues`: a number that is small enough fills its width exactly.
* `map_digitChar_append_lt`: in front of a text, as many digits of a greater number come later.
-/

namespace OrderDesk
namespace Text

/-- The values of the digits of a number, most significant first and without leading
zeros. -/
def digitValues (n : Nat) : List Nat :=
  if n < 10 then [n] else digitValues (n / 10) ++ [n % 10]

/-- The values of the digits of a number, filled up with zeros to a least width. -/
def paddedValues (width n : Nat) : List Nat :=
  List.replicate (width - (digitValues n).length) 0 ++ digitValues n

theorem digit?_digitChar
    {d : Nat}
    (small : d < 10) :
    digit? (digitChar d) = some d := by
  revert d
  decide

theorem digitChar_ne_sign
    {d : Nat}
    (small : d < 10) :
    digitChar d ≠ '-' ∧ digitChar d ≠ '+' := by
  revert d
  decide

theorem digits_eq_map
    (n : Nat) :
    digits n = (digitValues n).map digitChar := by
  induction n using Nat.strongRecOn with
  | ind n ih =>
      rw [digits, digitValues]
      split
      · rfl
      · rw [ih (n / 10) (by omega), List.map_append]
        rfl

theorem paddedDigits_eq_map
    (width n : Nat) :
    paddedDigits width n = (paddedValues width n).map digitChar := by
  have hzero : digitChar 0 = '0' := by decide
  simp only [paddedDigits, paddedValues, digits_eq_map, List.length_map, List.map_append,
    List.map_replicate, hzero]

theorem digitValues_ne_nil
    (n : Nat) :
    digitValues n ≠ [] := by
  rw [digitValues]
  split <;> simp

theorem digitValues_lt
    (n : Nat) :
    ∀ d ∈ digitValues n, d < 10 := by
  induction n using Nat.strongRecOn with
  | ind n ih =>
      rw [digitValues]
      split
      · simpa
      · rw [List.forall_mem_append, List.forall_mem_singleton]
        exact ⟨ih (n / 10) (by omega), by omega⟩

theorem paddedValues_lt
    (width n : Nat) :
    ∀ d ∈ paddedValues width n, d < 10 := by
  rw [paddedValues, List.forall_mem_append]
  refine ⟨?_, digitValues_lt n⟩
  intro d hd
  obtain ⟨_, rfl⟩ := List.mem_replicate.mp hd
  decide

/-- Only zero is written with a leading zero. -/
theorem eq_zero_of_digitValues
    {n : Nat} {ds : List Nat}
    (h : digitValues n = 0 :: ds) :
    n = 0 ∧ ds = [] := by
  induction n using Nat.strongRecOn generalizing ds with
  | ind n ih =>
      rw [digitValues] at h
      split at h
      · obtain ⟨rfl, rfl⟩ := List.cons.inj h
        exact ⟨rfl, rfl⟩
      · rename_i hten
        cases hinit : digitValues (n / 10) with
        | nil =>
            exact absurd hinit (digitValues_ne_nil _)
        | cons d init =>
            rw [hinit, List.cons_append] at h
            obtain ⟨rfl, -⟩ := List.cons.inj h
            have := (ih (n / 10) (by omega) hinit).1
            omega

/-! ## What digits spell -/

theorem le_foldl_digits
    (ds : List Nat)
    (m : Nat) :
    m ≤ ds.foldl (fun value d => value * 10 + d) m := by
  induction ds generalizing m with
  | nil =>
      exact Nat.le_refl m
  | cons d ds ih =>
      rw [List.foldl_cons]
      have := ih (m * 10 + d)
      omega

theorem ofDigitValues_concat
    (ds : List Nat)
    (d : Nat) :
    ofDigitValues (ds ++ [d]) = ofDigitValues ds * 10 + d := by
  simp [ofDigitValues]

@[simp] theorem ofDigitValues_digitValues
    (n : Nat) :
    ofDigitValues (digitValues n) = n := by
  induction n using Nat.strongRecOn with
  | ind n ih =>
      rw [digitValues]
      split
      · simp [ofDigitValues]
      · rw [ofDigitValues_concat, ih (n / 10) (by omega)]
        omega

theorem foldl_replicate_zero
    (k : Nat) :
    (List.replicate k 0).foldl (fun value d => value * 10 + d) 0 = 0 := by
  induction k with
  | zero =>
      rfl
  | succ k ih =>
      rw [List.replicate_succ, List.foldl_cons]
      exact ih

@[simp] theorem ofDigitValues_paddedValues
    (width n : Nat) :
    ofDigitValues (paddedValues width n) = n := by
  rw [ofDigitValues, paddedValues, List.foldl_append, foldl_replicate_zero]
  exact ofDigitValues_digitValues n

/-! ## Digits in front of a text -/

section Front

variable {ds : List Nat} (small : ∀ d ∈ ds, d < 10)

include small

theorem isSome_of_mem_map :
    ∀ c ∈ ds.map digitChar, (digit? c).isSome = true := by
  intro c hc
  obtain ⟨d, hd, rfl⟩ := List.mem_map.mp hc
  rw [digit?_digitChar (small d hd)]
  rfl

theorem takeWhile_digits
    (rest : List Char) :
    (ds.map digitChar ++ rest).takeWhile (fun c => (digit? c).isSome) =
      ds.map digitChar ++ rest.takeWhile fun c => (digit? c).isSome :=
  List.takeWhile_append_of_pos (isSome_of_mem_map small)

theorem filterMap_digit? : (ds.map digitChar).filterMap digit? = ds := by
  rw [List.filterMap_map]
  calc ds.filterMap (digit? ∘ digitChar)
      = ds.filterMap some :=
        List.filterMap_congr fun d hd => digit?_digitChar (small d hd)
    _ = ds := List.filterMap_some

end Front

/-! ## How many digits there are -/

theorem powerOfTen_succ (k : Nat) : powerOfTen (k + 1) = powerOfTen k * 10 := rfl

theorem length_digits_le
    {n k : Nat}
    (small : n < powerOfTen (k + 1)) :
    (digits n).length ≤ k + 1 := by
  induction k generalizing n with
  | zero =>
      have hn : n < 10 := small
      rw [digits, if_pos hn, List.length_singleton]
  | succ k ih =>
      rw [digits]
      split
      · simp
      · rw [powerOfTen_succ] at small
        have hrest : (digits (n / 10)).length ≤ k + 1 := ih (by omega)
        rw [List.length_append, List.length_singleton]
        omega

theorem length_paddedDigits_le
    {width k n : Nat}
    (enough : width ≤ k + 1)
    (small : n < powerOfTen (k + 1)) :
    (paddedDigits width n).length ≤ k + 1 := by
  have := length_digits_le small
  rw [paddedDigits, List.length_append, List.length_replicate]
  omega

/-- A number that is small enough fills its width exactly. -/
theorem length_paddedValues
    {k n : Nat}
    (small : n < powerOfTen (k + 1)) :
    (paddedValues (k + 1) n).length = k + 1 := by
  have hle := length_digits_le small
  rw [digits_eq_map, List.length_map] at hle
  rw [paddedValues, List.length_append, List.length_replicate]
  omega

theorem length_paddedDigits
    {k n : Nat}
    (small : n < powerOfTen (k + 1)) :
    (paddedDigits (k + 1) n).length = k + 1 := by
  rw [paddedDigits_eq_map, List.length_map, length_paddedValues small]

/-! ## Digits in order -/

theorem digitChar_lt
    {d e : Nat}
    (less : d < e)
    (small : e < 10) :
    digitChar d < digitChar e := by
  have hall : ∀ e < 10, ∀ d < e, digitChar d < digitChar e := by decide
  exact hall e small d less

theorem foldl_digits_eq
    (ds : List Nat)
    (m : Nat) :
    ds.foldl (fun value d => value * 10 + d) m =
      m * powerOfTen ds.length + ofDigitValues ds := by
  induction ds generalizing m with
  | nil =>
      simp [ofDigitValues, powerOfTen]
  | cons d ds ih =>
      rw [ofDigitValues, List.foldl_cons, List.foldl_cons, ih, ih (0 * 10 + d),
        List.length_cons, powerOfTen_succ, Nat.zero_mul, Nat.zero_add, Nat.add_mul,
        Nat.mul_assoc, Nat.mul_comm 10, Nat.add_assoc]

theorem ofDigitValues_append
    (ds es : List Nat) :
    ofDigitValues (ds ++ es) = ofDigitValues ds * powerOfTen es.length + ofDigitValues es := by
  rw [ofDigitValues, List.foldl_append, foldl_digits_eq]
  rfl

theorem ofDigitValues_cons
    (d : Nat)
    (ds : List Nat) :
    ofDigitValues (d :: ds) = d * powerOfTen ds.length + ofDigitValues ds := by
  rw [ofDigitValues, List.foldl_cons, foldl_digits_eq, Nat.zero_mul, Nat.zero_add]

theorem ofDigitValues_lt
    {ds : List Nat}
    (small : ∀ d ∈ ds, d < 10) :
    ofDigitValues ds < powerOfTen ds.length := by
  induction ds with
  | nil =>
      decide
  | cons d ds ih =>
      obtain ⟨hd, hrest⟩ := List.forall_mem_cons.mp small
      have hlt := ih hrest
      have hhead := Nat.mul_le_mul_right (powerOfTen ds.length) (Nat.le_of_lt_succ hd)
      rw [ofDigitValues_cons, List.length_cons, powerOfTen_succ]
      omega

/-- As many digits of a greater number come later, whatever follows. -/
theorem map_digitChar_append_lt
    {ds es : List Nat}
    (length : ds.length = es.length)
    (hds : ∀ d ∈ ds, d < 10)
    (hes : ∀ e ∈ es, e < 10)
    (less : ofDigitValues ds < ofDigitValues es)
    (xs ys : List Char) :
    ds.map digitChar ++ xs < es.map digitChar ++ ys := by
  induction ds generalizing es with
  | nil =>
      rw [List.length_nil, eq_comm, List.length_eq_zero_iff] at length
      subst length
      exact absurd less (Nat.lt_irrefl _)
  | cons d ds ih =>
      cases es with
      | nil =>
          cases length
      | cons e es =>
          rw [List.forall_mem_cons] at hds hes
          replace length : ds.length = es.length := Nat.succ.inj length
          rw [ofDigitValues_cons, ofDigitValues_cons, length] at less
          rw [List.map_cons, List.map_cons, List.cons_append, List.cons_append,
            List.cons_lt_cons_iff]
          rcases Nat.lt_trichotomy d e with h | rfl | h
          · exact Or.inl (digitChar_lt h hes.1)
          · exact Or.inr ⟨rfl, ih length hds.2 hes.2 (by omega)⟩
          · have hrest := ofDigitValues_lt hes.2
            have hhead := Nat.mul_le_mul_right (powerOfTen es.length) (Nat.succ_le_of_lt h)
            rw [Nat.succ_mul] at hhead
            omega

end Text
end OrderDesk
