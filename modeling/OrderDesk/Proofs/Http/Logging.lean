import OrderDesk.Proofs.Http.Identification
import OrderDesk.Proofs.Sorting
import OrderDesk.Proofs.Text.Decoding

/-!
# What a log says of headers

A log has one entry for each header.  It hides the values that give access, and of all other
headers it says what they say.

* `Header.GivesAccess`, `Header.IsText`: the headers whose values are hidden, and the values
  that can be written.
* `Header.LoggedAs`: the entry of a header.
* `SortsStably`: the same entries in the order of their names, equal names in their order.
* `Header.SameButSecret`: headers that differ in a hidden value only.
* `logs_reveal_no_secret_and_lose_nothing_else`: both halves for all headers.
-/

namespace OrderDesk

namespace Header

/-- A header gives access: its name, in any letter case, is one of four. -/
def GivesAccess (h : Header) : Prop :=
  h.name.toLower = "authorization" ∨ h.name.toLower = "cookie" ∨
    h.name.toLower = "set-cookie" ∨ h.name.toLower = "x-api-key"

/-- A value is a text: it consists of printable characters and tabs. -/
def IsText (value : List UInt8) : Prop :=
  ∀ b ∈ value, b = 9 ∨ 32 ≤ b ∧ b ≤ 126

/-- The entry of a header: its name in small letters, and its value, unless that gives access
or is no text. -/
structure LoggedAs (h : Header) (entry : String × String) : Prop where
  name : entry.1 = h.name.toLower
  hidden : h.GivesAccess → entry.2 = "[REDACTED]"
  verbatim : ¬ h.GivesAccess → (Utf8.ofString entry.2 = h.value ↔ IsText h.value)
  unreadable : ¬ h.GivesAccess → ¬ IsText h.value → entry.2 = "[invalid utf8]"

/-- The same header, perhaps with another value if it gives access. -/
structure SameButSecret (h h' : Header) : Prop where
  name : h'.name.toLower = h.name.toLower
  value : ¬ h.GivesAccess → h'.value = h.value

/-! ## One header -/

theorem contains_sensitiveNames_iff
    {h : Header} :
    sensitiveNames.contains h.key = true ↔ h.GivesAccess := by
  simp [sensitiveNames, key, GivesAccess]

theorem all_isPrintable_iff
    {value : List UInt8} :
    value.all isPrintable = true ↔ IsText value := by
  simp only [IsText, List.all_eq_true, isPrintable_iff]

theorem logged_of_givesAccess
    {h : Header}
    (access : h.GivesAccess) :
    h.logged = "[REDACTED]" := by
  rw [logged, if_pos (contains_sensitiveNames_iff.mpr access), redacted]

section Harmless

variable {h : Header} (harmless : ¬ h.GivesAccess)

include harmless

theorem ofString_logged_of_isText
    (text : IsText h.value) :
    Utf8.ofString h.logged = h.value := by
  have ascii : ∀ b ∈ h.value, b.toNat < 0x80 := by
    intro b hb
    rcases text b hb with rfl | ⟨-, hle⟩
    · decide
    · have : b.toNat ≤ 126 := UInt8.le_iff_toNat_le.mp hle
      omega
  rw [logged, if_neg (mt contains_sensitiveNames_iff.mp harmless), textOf?,
    if_pos (all_isPrintable_iff.mpr text)]
  simp only [Utf8.ofString, String.toList_ofList, Utf8.encode_ascii ascii]

theorem logged_of_not_isText
    (unreadable : ¬ IsText h.value) :
    h.logged = "[invalid utf8]" := by
  rw [logged, if_neg (mt contains_sensitiveNames_iff.mp harmless), textOf?,
    if_neg (mt all_isPrintable_iff.mp unreadable), unprintable]

/-- What stands for a value that is no text is a text itself, so it is never taken for the
value. -/
theorem ofString_logged_eq_iff :
    Utf8.ofString h.logged = h.value ↔ IsText h.value := by
  constructor
  · intro same
    by_contra unreadable
    rw [logged_of_not_isText harmless unreadable] at same
    refine unreadable (all_isPrintable_iff.mp ?_)
    rw [← same]
    decide +kernel
  · exact ofString_logged_of_isText harmless

end Harmless

theorem loggedAs_logged
    (h : Header) :
    h.LoggedAs (h.key, h.logged) where
  name := rfl
  hidden := logged_of_givesAccess
  verbatim := ofString_logged_eq_iff
  unreadable := logged_of_not_isText

/-- A hidden value does not show. -/
theorem SameButSecret.logged_eq
    {h h' : Header}
    (same : h.SameButSecret h') :
    (h'.key, h'.logged) = (h.key, h.logged) := by
  have hkey : h'.key = h.key := same.name
  by_cases access : h.GivesAccess
  · have access' : h'.GivesAccess := by
      rw [GivesAccess, same.name]
      exact access
    rw [hkey, logged_of_givesAccess access, logged_of_givesAccess access']
  · rw [logged, logged, hkey, same.value access]

end Header

/-! ## All headers -/

/-- The second list has the entries of the first in the order of their names, and entries of
one name as they stand in the first. -/
structure SortsStably (entries sorted : List (String × String)) : Prop where
  perm : sorted.Perm entries
  ordered : sorted.Pairwise fun a b => a.1 ≤ b.1
  stable : ∀ name, sorted.filter (·.1 == name) = entries.filter (·.1 == name)

namespace Headers

theorem sortsStably_mergeSort
    (entries : List (String × String)) :
    SortsStably entries (entries.mergeSort fun a b => a.1 ≤ b.1) := by
  have trans : ∀ a b c : String × String,
      decide (a.1 ≤ b.1) = true → decide (b.1 ≤ c.1) = true → decide (a.1 ≤ c.1) = true := by
    intro a b c hab hbc
    simp only [decide_eq_true_eq] at hab hbc ⊢
    exact String.le_trans hab hbc
  have total : ∀ a b : String × String, (decide (a.1 ≤ b.1) || decide (b.1 ≤ a.1)) = true := by
    intro a b
    simpa using String.le_total a.1 b.1
  refine ⟨List.mergeSort_perm entries _, ?_, ?_⟩
  · exact (List.pairwise_mergeSort trans total entries).imp of_decide_eq_true
  · intro name
    refine filter_mergeSort trans total ?_ entries
    intro a b ha hb
    rw [beq_iff_eq] at ha hb
    rw [ha, hb]
    exact decide_eq_true (String.le_refl name)

/-- **A log reveals no secret and loses nothing else.**

* Headers that differ only in values that give access are written to a log alike.
* The log has one entry for each header, sorted stably by name: the name in small letters,
  and the mark of a hidden value, or the value itself exactly if it is a text, and the mark
  of a value that cannot be written otherwise. -/
theorem logs_reveal_no_secret_and_lose_nothing_else
    (hs : Headers) :
    (∀ hs' : Headers, List.Forall₂ Header.SameButSecret hs hs' → hs'.forLog = hs.forLog) ∧
    ∃ entries, List.Forall₂ Header.LoggedAs hs entries ∧ SortsStably entries hs.forLog := by
  constructor
  · intro hs' same
    have entries : hs'.map (fun h => (h.key, h.logged)) = hs.map fun h => (h.key, h.logged) := by
      induction same with
      | nil => rfl
      | cons first _ ih => rw [List.map_cons, List.map_cons, first.logged_eq, ih]
    rw [forLog, forLog, entries]
  · refine ⟨hs.map fun h => (h.key, h.logged), ?_, sortsStably_mergeSort _⟩
    rw [List.forall₂_map_right_iff, List.forall₂_same]
    exact fun h _ => h.loggedAs_logged

/-- Two requests with other secrets, under names in other letter case: the log tells them
apart by nothing, and shows both values of a name that occurs twice. -/
theorem logs_reveal_no_secret_of_two_tokens :
    let headers : String → String → Headers := fun token session =>
      [⟨"Authorization", Utf8.ofString token⟩, ⟨"COOKIE", Utf8.ofString session⟩,
        ⟨"X-Note", [0x68, 0x69]⟩, ⟨"x-note", [0xC3, 0xBC]⟩]
    List.Forall₂ Header.SameButSecret (headers "a" "one") (headers "bc" "two") ∧
      (headers "bc" "two").forLog =
        [("authorization", "[REDACTED]"), ("cookie", "[REDACTED]"), ("x-note", "hi"),
          ("x-note", "[invalid utf8]")] := by
  intro headers
  have same : List.Forall₂ Header.SameButSecret (headers "a" "one") (headers "bc" "two") := by
    refine .cons ⟨rfl, fun harmless => ?_⟩ (.cons ⟨rfl, fun harmless => ?_⟩
      (.cons ⟨rfl, fun _ => rfl⟩ (.cons ⟨rfl, fun _ => rfl⟩ .nil)))
    · exact absurd (Or.inl (by decide +kernel)) harmless
    · exact absurd (Or.inr (Or.inl (by decide +kernel))) harmless
  have first : (headers "a" "one").forLog =
      [("authorization", "[REDACTED]"), ("cookie", "[REDACTED]"), ("x-note", "hi"),
        ("x-note", "[invalid utf8]")] := by
    rw [forLog, List.mergeSort_of_pairwise (by decide +kernel)]
    decide +kernel
  exact ⟨same, ((logs_reveal_no_secret_and_lose_nothing_else _).1 _ same).trans first⟩

end Headers
end OrderDesk
