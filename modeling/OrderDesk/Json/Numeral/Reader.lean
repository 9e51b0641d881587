import OrderDesk.Json.Numeral
import OrderDesk.Text.Octet

/-!
# Reading JSON numerals

A numeral is an optional minus sign, whole digits without superfluous leading
zeros, and optionally a point with places and an exponent with an optional sign.
Each part is read from the start of a text and gives back the rest, which is
shorter.
-/

namespace OrderDesk
namespace Json
namespace Numeral

open Text (octet)

/-- Whether an octet is a decimal digit. -/
def isDigit (b : UInt8) : Bool :=
  octet '0' ≤ b && b ≤ octet '9'

/-- The value of a decimal digit. -/
def digitValue (b : UInt8) : Nat := b.toNat - (octet '0').toNat

/-- The leading digits by value, and the rest. -/
def spanDigits (bs : List UInt8) : List Nat × List UInt8 :=
  ((bs.takeWhile isDigit).map digitValue, bs.dropWhile isDigit)

/-- At least one digit, and the rest. -/
def digits? (bs : List UInt8) : Option (List Nat × List UInt8) :=
  if (spanDigits bs).1.isEmpty then none else some (spanDigits bs)

/-- The whole digits of a numeral: a single zero, or digits that do not begin with one. -/
def whole? (bs : List UInt8) : Option (List Nat × List UInt8) :=
  match digits? bs with
  | some (0 :: _ :: _, _) => none
  | found => found

/-- The places behind a point, none without a point. -/
def places? : List UInt8 → Option (List Nat × List UInt8)
  | [] => some ([], [])
  | b :: bs => if b = octet '.' then digits? bs else some ([], b :: bs)

/-- The sign of an exponent, and the rest. -/
def exponentSign : List UInt8 → Int × List UInt8
  | [] => (1, [])
  | b :: bs =>
    if b = octet '-' then (-1, bs)
    else if b = octet '+' then (1, bs)
    else (1, b :: bs)

/-- The exponent of a numeral, none without an exponent mark. -/
def exponent? : List UInt8 → Option (Option Int × List UInt8)
  | [] => some (none, [])
  | b :: bs =>
    if b = octet 'e' ∨ b = octet 'E' then
      (digits? (exponentSign bs).2).map fun (ds, rest) =>
        (some ((exponentSign bs).1 * Text.ofDigitValues ds), rest)
    else some (none, b :: bs)

/-- The minus sign of a numeral, and the rest. -/
def minus : List UInt8 → Bool × List UInt8
  | [] => (false, [])
  | b :: bs => if b = octet '-' then (true, bs) else (false, b :: bs)

/-- A numeral at the start of a text. -/
def read? (bs : List UInt8) : Option (Numeral × List UInt8) := do
  let (negative, bs) := minus bs
  let (whole, bs) ← whole? bs
  let (places, bs) ← places? bs
  let (exponent, bs) ← exponent? bs
  return ({ negative, whole, places, exponent }, bs)

/-! ### A numeral takes at least one octet -/

theorem length_rest_lt_of_digits? {bs rest : List UInt8} {ds : List Nat}
    (h : digits? bs = some (ds, rest)) : rest.length < bs.length := by
  unfold digits? at h
  split at h
  · contradiction
  · rename_i found
    have eq := Option.some.inj h
    have whole := congrArg List.length (List.takeWhile_append_dropWhile (p := isDigit) (l := bs))
    have positive : 0 < (bs.takeWhile isDigit).length := by
      refine List.length_pos_iff.2 fun e => ?_
      simp [spanDigits, e] at found
    rw [List.length_append] at whole
    simp only [spanDigits, Prod.mk.injEq] at eq
    rw [← eq.2]
    omega

theorem length_rest_lt_of_whole? {bs rest : List UInt8} {ds : List Nat}
    (h : whole? bs = some (ds, rest)) : rest.length < bs.length := by
  unfold whole? at h
  split at h
  · contradiction
  · exact length_rest_lt_of_digits? h

theorem length_rest_of_places? {bs rest : List UInt8} {ds : List Nat}
    (h : places? bs = some (ds, rest)) : rest.length ≤ bs.length := by
  unfold places? at h
  split at h
  · simp_all
  · split at h
    · have := Nat.le_of_lt (length_rest_lt_of_digits? h)
      simp only [List.length_cons]
      omega
    · simp_all

theorem length_exponentSign (bs : List UInt8) : (exponentSign bs).2.length ≤ bs.length := by
  unfold exponentSign
  split
  · simp
  · split
    · simp
    · split <;> simp

theorem length_rest_of_exponent? {bs rest : List UInt8} {e : Option Int}
    (h : exponent? bs = some (e, rest)) : rest.length ≤ bs.length := by
  unfold exponent? at h
  split at h
  · simp_all
  · split at h
    · rename_i bs _
      obtain ⟨⟨ds, tail⟩, found, eq⟩ := Option.map_eq_some_iff.1 h
      simp only [Prod.mk.injEq] at eq
      have first := length_rest_lt_of_digits? found
      have second := length_exponentSign bs
      rw [← eq.2, List.length_cons]
      omega
    · simp_all

theorem length_minus (bs : List UInt8) : (minus bs).2.length ≤ bs.length := by
  unfold minus
  split
  · simp
  · split <;> simp

theorem length_rest_lt_of_read? {bs rest : List UInt8} {n : Numeral}
    (h : read? bs = some (n, rest)) : rest.length < bs.length := by
  unfold read? at h
  simp only [Option.bind_eq_bind, Option.bind_eq_some_iff, Option.pure_def, Option.some.injEq,
    Prod.mk.injEq, Prod.exists] at h
  obtain ⟨w, r₁, h₁, p, r₂, h₂, e, r₃, h₃, _, rfl⟩ := h
  have a := length_minus bs
  have b := length_rest_lt_of_whole? h₁
  have c := length_rest_of_places? h₂
  have d := length_rest_of_exponent? h₃
  omega

end Numeral
end Json
end OrderDesk
