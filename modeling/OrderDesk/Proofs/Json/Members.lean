import OrderDesk.Proofs.Json.Record

/-!
# Reading records by meaning

An object is read as a record whatever the order of its members, and whatever else it has,
as long as every field occurs once, or may be left out.

* `valuesOf`: the values that members have under a name.
* `Field.Expects`, `Fields.Expects`: what is found already and what is still to come make up
  the values of a record.
* `Fields.offer_own`, `Fields.offer_other`: one member keeps it so, and therefore all of them
  do (`Fields.collect_of_expects`).
* `Fields.bind_of_members`: the record is read, and so is one that is written
  (`Fields.bind_object`).
-/

namespace OrderDesk
namespace Json

/-- The values that members have under a name, in order. -/
def valuesOf (name : String) (members : List (Key × Node)) : List Node :=
  (members.filter fun m => m.1 = some name.toList).map (·.2)

theorem valuesOf_own
    (name : String)
    (value : Node)
    (members : List (Key × Node)) :
    valuesOf name ((some name.toList, value) :: members) = value :: valuesOf name members := by
  simp [valuesOf]

theorem valuesOf_other
    {name other : String}
    (ne : other ≠ name)
    (value : Node)
    (members : List (Key × Node)) :
    valuesOf name ((some other.toList, value) :: members) = valuesOf name members := by
  have hkey : (some other.toList : Key) ≠ some name.toList := by
    intro same
    exact ne (String.toList_inj.mp (Option.some.inj same))
  simp [valuesOf, hkey]

theorem exists_of_mem_valuesOf
    {name : String} {members : List (Key × Node)} {value : Node}
    (mem : value ∈ valuesOf name members) :
    ∃ m ∈ members, m.2 = value := by
  obtain ⟨m, hm, rfl⟩ := List.mem_map.mp mem
  exact ⟨m, List.mem_of_mem_filter hm, rfl⟩

namespace Field

variable {α : Type}

/-- A field has a value: it is found already and does not come again, or it is still to come,
or it does not come at all and may be left out. -/
inductive Expects (field : Field α) (members : List (Key × Node)) (a : α) :
    Option α → Prop where
  | found
      (gone : valuesOf field.name members = []) :
      Expects field members a (some a)
  | toCome
      {value : Node}
      (only : valuesOf field.name members = [value])
      (read : field.bind value = .ok a) :
      Expects field members a none
  | leftOut
      (gone : valuesOf field.name members = [])
      (default : field.ifAbsent = some a) :
      Expects field members a none

variable {field : Field α} {members : List (Key × Node)} {a : α} {x : Option α} {value : Node}

/-- Only the values under the own name matter. -/
theorem Expects.congr
    {members' : List (Key × Node)}
    (expects : field.Expects members a x)
    (same : valuesOf field.name members' = valuesOf field.name members) :
    field.Expects members' a x := by
  cases expects with
  | found gone => exact .found (same.trans gone)
  | toCome only read => exact .toCome (same.trans only) read
  | leftOut gone default => exact .leftOut (same.trans gone) default

/-- The own member comes once, and is read. -/
theorem Expects.behind_own
    (expects : field.Expects ((some field.name.toList, value) :: members) a x) :
    x = none ∧ field.bind value = .ok a ∧ field.Expects members a (some a) := by
  have hvalues := valuesOf_own field.name value members
  cases expects with
  | found gone => cases hvalues.symm.trans gone
  | toCome only read =>
      obtain ⟨rfl, gone⟩ := List.cons.inj (hvalues.symm.trans only)
      exact ⟨rfl, read, .found gone⟩
  | leftOut gone _ => cases hvalues.symm.trans gone

end Field

namespace Fields

/-- All fields of a record have their values. -/
def Expects :
    {γ : Type} → (fields : Fields γ) → List (Key × Node) → γ → fields.Found → Prop
  | _, nil, _, _, _ => True
  | _, cons field rest, members, values, found =>
    field.Expects members values.1 found.1 ∧ rest.Expects members values.2 found.2

/-- Only the values under the names of fields matter. -/
theorem Expects.congr
    {γ : Type} {fields : Fields γ} {members members' : List (Key × Node)} {values : γ}
    {found : fields.Found}
    (expects : fields.Expects members values found)
    (same : ∀ name ∈ fields.names, valuesOf name members' = valuesOf name members) :
    fields.Expects members' values found := by
  induction fields with
  | nil => trivial
  | cons field rest ih =>
      obtain ⟨own, others⟩ := List.forall_mem_cons.mp same
      exact ⟨expects.1.congr own, ih expects.2 others⟩

/-- A member under another name takes nothing away. -/
theorem Expects.behind_other
    {γ : Type} {fields : Fields γ} {members : List (Key × Node)} {values : γ}
    {found : fields.Found} {name : String} {value : Node}
    (expects : fields.Expects ((some name.toList, value) :: members) values found)
    (other : name ∉ fields.names) :
    fields.Expects members values found := by
  refine expects.congr fun own mem => (valuesOf_other ?_ value members).symm
  rintro rfl
  exact other mem

/-- What is found at the end is complete. -/
theorem complete_of_expects
    {γ : Type} {fields : Fields γ} {values : γ} {found : fields.Found}
    (expects : fields.Expects [] values found) :
    fields.complete found = .ok values := by
  induction fields with
  | nil => rfl
  | cons field rest ih =>
      obtain ⟨x, found⟩ := found
      obtain ⟨own, others⟩ := expects
      have hvalue : x.or field.ifAbsent = some values.1 := by
        cases own with
        | found _ => rfl
        | toCome only _ => cases only
        | leftOut _ default => exact default
      rw [complete]
      simp only [hvalue, ih others]

/-- A member that is no field is passed by. -/
theorem offer_other
    {γ : Type} {fields : Fields γ} {name : String}
    (other : name ∉ fields.names)
    (value : Node)
    (found : fields.Found) :
    fields.offer name value found = .ok none := by
  induction fields with
  | nil => rfl
  | cons field rest ih =>
      rw [names, List.mem_cons, not_or] at other
      rw [offer, if_neg (Ne.symm other.1), ih other.2]

/-- A member that is a field is read as its value. -/
theorem offer_own
    {γ : Type} {fields : Fields γ} {members : List (Key × Node)} {values : γ}
    {found : fields.Found} {name : String} {value : Node}
    (expects : fields.Expects ((some name.toList, value) :: members) values found)
    (own : name ∈ fields.names)
    (distinct : fields.names.Nodup) :
    ∃ found', fields.offer name value found = .ok (some found') ∧
      fields.Expects members values found' := by
  induction fields with
  | nil => cases own
  | cons field rest ih =>
      obtain ⟨x, found⟩ := found
      obtain ⟨first, others⟩ := expects
      rw [names, List.nodup_cons] at distinct
      rw [names, List.mem_cons] at own
      by_cases hname : field.name = name
      · subst hname
        obtain ⟨hnone, hread, hfirst⟩ := first.behind_own
        dsimp only at hnone
        subst hnone
        rw [offer, if_pos rfl]
        simp only [hread]
        exact ⟨_, rfl, hfirst, others.behind_other distinct.1⟩
      · obtain ⟨found', hoffer, hothers⟩ := ih others (own.resolve_left (Ne.symm hname)) distinct.2
        rw [offer, if_neg hname, hoffer]
        exact ⟨_, rfl, first.congr (valuesOf_other (Ne.symm hname) value members).symm, hothers⟩

/-- Members are read one by one, and leave nothing open. -/
theorem collect_of_expects
    {γ : Type} {fields : Fields γ} {members : List (Key × Node)} {values : γ}
    {found : fields.Found}
    (distinct : fields.names.Nodup)
    (keys : ∀ m ∈ members, m.1.isSome = true)
    (intact : ∀ m ∈ members, m.2.isIntact = true)
    (expects : fields.Expects members values found) :
    ∃ found', fields.collect found members = .ok found' ∧ fields.complete found' = .ok values := by
  induction members generalizing found with
  | nil => exact ⟨found, rfl, complete_of_expects expects⟩
  | cons m members ih =>
      obtain ⟨key, value⟩ := m
      obtain ⟨name, rfl⟩ := Option.isSome_iff_exists.mp (keys _ List.mem_cons_self)
      have keys' : ∀ m ∈ members, m.1.isSome = true :=
        fun m hm => keys m (List.mem_cons_of_mem _ hm)
      have intact' : ∀ m ∈ members, m.2.isIntact = true :=
        fun m hm => intact m (List.mem_cons_of_mem _ hm)
      obtain ⟨text, rfl⟩ : ∃ text : String, name = text.toList :=
        ⟨String.ofList name, String.toList_ofList.symm⟩
      rw [collect, String.ofList_toList]
      by_cases own : text ∈ fields.names
      · obtain ⟨found', hoffer, hexpects⟩ := offer_own expects own distinct
        simp only [hoffer]
        exact ih keys' intact' hexpects
      · simp only [offer_other own, intact _ List.mem_cons_self, if_true]
        exact ih keys' intact' (expects.behind_other own)

/-- An object is read by the names of its members. -/
theorem bind_of_members
    {γ : Type} {fields : Fields γ} {members : List (Key × Node)} {values : γ}
    (name : String)
    (distinct : fields.names.Nodup)
    (keys : ∀ m ∈ members, m.1.isSome = true)
    (intact : ∀ m ∈ members, m.2.isIntact = true)
    (expects : fields.Expects members values fields.nothing) :
    fields.bind name (.object members true) = .ok values := by
  obtain ⟨found, hcollect, hcomplete⟩ := collect_of_expects distinct keys intact expects
  rw [bind, ofMembers, hcollect]
  exact hcomplete

/-! ## Records that are written -/

theorem valuesOf_memberNodes
    {name : String} {members : List (String × Value)}
    (others : ∀ m ∈ members, name ≠ m.1) :
    valuesOf name (Value.memberNodes members) = [] := by
  induction members with
  | nil => rfl
  | cons m members ih =>
      obtain ⟨other, others⟩ := List.forall_mem_cons.mp others
      rw [Value.memberNodes, valuesOf_other other.symm, ih others]

theorem memberNodes_keys
    (members : List (String × Value)) :
    ∀ m ∈ Value.memberNodes members, m.1.isSome = true := by
  induction members with
  | nil => exact List.forall_mem_nil _
  | cons m members ih => exact List.forall_mem_cons.mpr ⟨rfl, ih⟩

/-- What is written for a record has its values. -/
theorem Written.expects
    {γ : Type} {fields : Fields γ} {members : List (String × Value)} {values : γ}
    (written : Written fields members values)
    (distinct : fields.names.Nodup) :
    fields.Expects (Value.memberNodes members) values fields.nothing := by
  induction written with
  | nil => trivial
  | @present α β field rest v a members b bound behind ih =>
      rw [names, List.nodup_cons] at distinct
      have gone := valuesOf_memberNodes (behind.ne_of_not_mem distinct.1)
      refine ⟨.toCome ?_ bound, (ih distinct.2).congr fun name mem => ?_⟩
      · rw [Value.memberNodes, valuesOf_own, gone]
      · refine valuesOf_other ?_ _ _
        rintro rfl
        exact distinct.1 mem
  | absent default behind ih =>
      rw [names, List.nodup_cons] at distinct
      have gone := valuesOf_memberNodes (behind.ne_of_not_mem distinct.1)
      exact ⟨.leftOut gone default, ih distinct.2⟩

/-- A written object is read as the values that it was written for. -/
theorem bind_object
    {γ : Type} {fields : Fields γ} {members : List (String × Value)} {values : γ}
    (name : String)
    (written : Written fields members values)
    (distinct : fields.names.Nodup) :
    fields.bind name (Value.object members).node = .ok values :=
  bind_of_members name distinct (memberNodes_keys members)
    (fun m hm => (Value.whole_memberNodes members m hm).isIntact) (written.expects distinct)

/-! ## Records of one field -/

section Single

variable {α : Type} {field : Field α} {members : List (Key × Node)}

/-- What is found stays found. -/
theorem collect_of_found
    {a : α} {found : Option α × Unit}
    (collected : (cons field nil).collect (some a, ()) members = .ok found) :
    found = (some a, ()) := by
  induction members with
  | nil =>
      cases collected
      rfl
  | cons m members ih =>
      obtain ⟨key, value⟩ := m
      cases key with
      | none => cases collected
      | some name =>
          by_cases own : field.name = String.ofList name
          · simp [collect, offer, own] at collected
          · simp only [collect, offer, if_neg own] at collected
            split at collected
            · exact ih collected
            · cases collected

/-- Nothing is found exactly if the field does not occur, and all else is JSON. -/
theorem collect_eq_nothing_iff :
    (cons field nil).collect (none, ()) members = .ok (none, ()) ↔
      valuesOf field.name members = [] ∧ (∀ m ∈ members, m.1.isSome = true) ∧
        ∀ m ∈ members, m.2.isIntact = true := by
  induction members with
  | nil => simp [collect, valuesOf]
  | cons m members ih =>
      obtain ⟨key, value⟩ := m
      rw [List.forall_mem_cons, List.forall_mem_cons]
      cases key with
      | none => simp [collect]
      | some name =>
          obtain ⟨text, rfl⟩ : ∃ text : String, name = text.toList :=
            ⟨String.ofList name, String.toList_ofList.symm⟩
          by_cases own : field.name = text
          · subst own
            have hfound : (cons field nil).collect (none, ())
                ((some field.name.toList, value) :: members) ≠ .ok (none, ()) := by
              intro collected
              simp only [collect, offer, String.ofList_toList, if_true] at collected
              cases hbind : field.bind value with
              | error p =>
                  rw [hbind] at collected
                  cases collected
              | ok a =>
                  rw [hbind] at collected
                  cases collect_of_found collected
            rw [valuesOf_own]
            simp [hfound]
          · rw [valuesOf_other (Ne.symm own)]
            simp only [collect, offer, String.ofList_toList, if_neg own]
            cases value.isIntact with
            | true => simpa using ih
            | false => simp

/-- A field that does not occur has its default, or is missing. -/
theorem bind_of_absent
    (name : String)
    (without : valuesOf field.name members = [])
    (keys : ∀ m ∈ members, m.1.isSome = true)
    (intact : ∀ m ∈ members, m.2.isIntact = true) :
    (cons field nil).bind name (.object members true) =
      match field.ifAbsent with
      | none => .error (.here (.missingMember field.name))
      | some a => .ok (a, ()) := by
  have hcollect := collect_eq_nothing_iff.mpr ⟨without, keys, intact⟩
  cases habsent : field.ifAbsent <;>
    simp only [bind, ofMembers, nothing, hcollect, if_true, complete, Option.none_or, habsent]

end Single

end Fields
end Json
end OrderDesk
