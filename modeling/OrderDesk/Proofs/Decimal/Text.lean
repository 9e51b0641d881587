import OrderDesk.Decimal.Text
import OrderDesk.Proofs.Decimal.Size
import OrderDesk.Proofs.Text.Digits

/-!
# Reading decimals back

A decimal is written so that it is read again with its scale (`parse?_toChars`).  Only the
sign of a zero is lost, which is why a zero below zero is set aside (`isMinusZero`).

Its digits are the digits of the mantissa, filled up with zeros so that one stands before
the point.  The reader takes them as long as they fit (`Reading.run?_digits`), and those of
a decimal fit.
-/

namespace OrderDesk
namespace Decimal

open Text

/-- A zero with a minus sign. -/
def isMinusZero (d : Decimal) : Bool :=
  d.isZero && d.negative

theorem ofParts?_coefficient
    {d : Decimal}
    (sign : d.isMinusZero = false) :
    ofParts? d.coefficient d.scale = some d := by
  have hnegative : decide (d.coefficient < 0) = d.negative := by
    cases hd : d.negative with
    | false =>
        simp [coefficient, hd]
    | true =>
        have hpos : d.mantissa ≠ 0 := by simpa [isMinusZero, isZero, hd] using sign
        rw [decide_eq_true_eq, coefficient, if_pos hd]
        omega
  rw [ofParts?, ofSigned?, hnegative, natAbs_coefficient, dif_pos ⟨d.mantissa_lt, d.scale_le⟩]

/-! ## Taking digits -/

/-- What has been read behind more digits that fit. -/
theorem Reading.run?_digits
    {ds : List Nat}
    (small : ∀ d ∈ ds, d < 10)
    (cs : List Char)
    (r : Reading)
    (room : if r.pointSeen then r.scale + ds.length ≤ maxScale else r.scale = 0)
    (fits : ds.foldl (fun value d => value * 10 + d) r.mantissa < mantissaBound) :
    run? r (ds.map digitChar ++ cs) =
      run?
        { r with
          digitSeen := r.digitSeen || !ds.isEmpty
          mantissa := ds.foldl (fun value d => value * 10 + d) r.mantissa
          scale := if r.pointSeen then r.scale + ds.length else 0 }
        cs := by
  induction ds generalizing r with
  | nil =>
      obtain ⟨point, seen, mantissa, scale⟩ := r
      cases point with
      | false =>
          have hscale : scale = 0 := by simpa using room
          simp [hscale]
      | true =>
          simp
  | cons d ds ih =>
      have hd : digit? (digitChar d) = some d :=
        digit?_digitChar (small d List.mem_cons_self)
      have hfits : r.mantissa * 10 + d < mantissaBound :=
        Nat.lt_of_le_of_lt (le_foldl_digits ds _) fits
      have hroom : r.scale < maxScale := by
        cases hpoint : r.pointSeen with
        | false =>
            rw [hpoint] at room
            have hscale : r.scale = 0 := by simpa using room
            rw [hscale]
            decide
        | true =>
            rw [hpoint, if_pos rfl, List.length_cons] at room
            omega
      rw [List.map_cons, List.cons_append, run?, hd]
      dsimp only
      rw [if_pos ⟨hroom, hfits⟩, ih (fun d hd => small d (List.mem_cons_of_mem _ hd)) _ _ fits]
      · cases r.pointSeen <;> simp [Nat.add_assoc, Nat.add_comm 1]
      · cases hpoint : r.pointSeen with
        | false =>
            simp
        | true =>
            rw [hpoint, if_pos rfl, List.length_cons] at room
            rw [if_pos rfl, if_pos rfl]
            show r.scale + 1 + ds.length ≤ maxScale
            omega

/-- Digits, of which some may stand behind a point, are read whole. -/
theorem Reading.run?_plain
    {whole places : List Nat}
    (small : ∀ d ∈ whole ++ places, d < 10)
    (some_digit : whole ≠ [])
    (few : places.length ≤ maxScale)
    (fits : ofDigitValues (whole ++ places) < mantissaBound) :
    run? ⟨false, false, 0, 0⟩
        (whole.map digitChar ++
          if places.length = 0 then [] else '.' :: places.map digitChar) =
      some (ofDigitValues (whole ++ places), places.length) := by
  rw [List.forall_mem_append] at small
  rw [ofDigitValues, List.foldl_append] at fits ⊢
  have hempty : whole.isEmpty = false := by simpa using some_digit
  have hwhole := Nat.lt_of_le_of_lt (le_foldl_digits places _) fits
  rw [run?_digits small.1 _ _ (by simp) hwhole, hempty]
  by_cases hnone : places.length = 0
  · obtain rfl := List.length_eq_zero_iff.mp hnone
    rfl
  · have hpoint : digit? '.' = none := by decide
    have hplaces := run?_digits small.2 []
      ⟨true, true, whole.foldl (fun value d => value * 10 + d) 0, 0⟩ (by simpa using few) fits
    rw [List.append_nil] at hplaces
    simpa [run?, hnone, hpoint] using hplaces

/-! ## The text of a decimal -/

/-- Its digits, cut where the point stands. -/
theorem exists_toChars
    (d : Decimal) :
    ∃ whole places,
      whole ++ places = paddedValues (d.scale + 1) d.mantissa ∧
      whole ≠ [] ∧
      places.length = d.scale ∧
      d.toChars =
        (if d.negative then ['-'] else []) ++
          (whole.map digitChar ++
            if places.length = 0 then [] else '.' :: places.map digitChar) := by
  have hlength : d.scale + 1 ≤ (paddedValues (d.scale + 1) d.mantissa).length := by
    rw [paddedValues, List.length_append, List.length_replicate]
    omega
  generalize hall : paddedValues (d.scale + 1) d.mantissa = all at hlength
  refine ⟨all.take (all.length - d.scale), all.drop (all.length - d.scale),
    List.take_append_drop _ _, ?_, ?_, ?_⟩
  · rw [← List.length_pos_iff, List.length_take]
    omega
  · rw [List.length_drop]
    omega
  · rw [toChars, paddedDigits_eq_map, hall]
    simp only [List.length_map, List.map_take, List.map_drop, List.length_drop,
      List.append_assoc, show all.length - (all.length - d.scale) = d.scale by omega]

theorem splitSign_of_sign
    (negative : Bool)
    {cs : List Char}
    (head : ∀ c ∈ cs.head?, c ≠ '-' ∧ c ≠ '+') :
    splitSign ((if negative then ['-'] else []) ++ cs) = (negative, cs) := by
  cases negative with
  | true =>
      rfl
  | false =>
      cases cs with
      | nil =>
          rfl
      | cons c cs =>
          have hc := head c rfl
          rw [if_neg Bool.false_ne_true, List.nil_append, splitSign]
          · rintro rest h
            exact hc.1 (List.cons.inj h).1
          · rintro rest h
            exact hc.2 (List.cons.inj h).1

theorem ofPlain?_toChars
    {d : Decimal}
    (sign : d.isMinusZero = false) :
    ofPlain? d.toChars = some d := by
  obtain ⟨whole, places, hall, hwhole, hplaces, hchars⟩ := exists_toChars d
  have hsmall : ∀ v ∈ whole ++ places, v < 10 := by
    rw [hall]
    exact paddedValues_lt _ _
  have hvalue : ofDigitValues (whole ++ places) = d.mantissa := by
    rw [hall, ofDigitValues_paddedValues]
  have hhead : ∀ c ∈ (whole.map digitChar ++
      if places.length = 0 then [] else '.' :: places.map digitChar).head?,
      c ≠ '-' ∧ c ≠ '+' := by
    obtain ⟨v, vs, rfl⟩ := List.exists_cons_of_ne_nil hwhole
    intro c hc
    obtain rfl : digitChar v = c := by simpa using hc
    exact digitChar_ne_sign (hsmall v (by simp))
  have hfits : ofDigitValues (whole ++ places) < mantissaBound := hvalue ▸ d.mantissa_lt
  rw [ofPlain?, hchars, splitSign_of_sign d.negative hhead]
  dsimp only
  rw [Reading.run?_plain hsmall hwhole (hplaces ▸ d.scale_le) hfits, hvalue, hplaces]
  exact ofParts?_coefficient sign

theorem parse?_toChars
    {d : Decimal}
    (sign : d.isMinusZero = false) :
    parse? d.toChars = some d := by
  rw [parse?, ofPlain?_toChars sign]
  rfl

end Decimal
end OrderDesk
