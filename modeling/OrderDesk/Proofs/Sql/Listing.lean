import Mathlib.Data.Nat.Digits.Defs
import Mathlib.Tactic.Tauto
import OrderDesk.Proofs.Sql.Exchange

/-!
# The statements of a listing

A listing sends a statement that counts and then one that reads a page.  Both are put
together from pieces.

* `textFrom_append`, `params_append`: the texts and the values of pieces are put together
  alike.
* `places_textFrom`: in a text that is put together from pieces, the places are numbered
  in order, one for each value, if the words hold no mark and begin with no digit.
* `OrderQuery.Shape`: all that the texts of a listing depend on.
-/

namespace OrderDesk
namespace Sql

open Dialogue

/-! ## Places -/

/-- The numbers of the places in a text: what the digits behind each mark spell. -/
def places : List Char → List Nat
  | [] => []
  | c :: cs =>
    if c = '$' then Nat.ofDigitChars 10 (cs.takeWhile Char.isDigit) 0 :: places cs
    else places cs

theorem places_append
    {w : List Char}
    (unmarked : '$' ∉ w)
    (cs : List Char) :
    places (w ++ cs) = places cs := by
  induction w with
  | nil => rfl
  | cons c w ih =>
      obtain ⟨hc, hw⟩ := List.ne_and_not_mem_of_not_mem_cons unmarked
      rw [List.cons_append, places, if_neg (Ne.symm hc), ih hw]

/-- A numbered place, if no digit stands behind it. -/
theorem places_mark
    (n : Nat)
    {cs : List Char}
    (ends : ∀ c ∈ cs.head?, c.isDigit = false) :
    places ('$' :: (toString n).toList ++ cs) = n :: places cs := by
  have hdigits : ∀ c ∈ Nat.toDigits 10 n, c.isDigit = true :=
    fun c hc => Nat.isDigit_of_mem_toDigits (by decide) (by decide) hc
  have hunmarked : '$' ∉ Nat.toDigits 10 n := by
    intro h
    exact absurd (hdigits _ h) (by decide)
  have htake : (Nat.toDigits 10 n ++ cs).takeWhile Char.isDigit = Nat.toDigits 10 n := by
    rw [List.takeWhile_append_of_pos hdigits]
    cases cs with
    | nil => simp
    | cons c cs => simp [ends c (by simp)]
  rw [Nat.toString_eq_repr, Nat.toList_repr, List.cons_append, places, if_pos rfl, htake,
    Nat.ofDigitChars_toDigits (by decide) (by decide), places_append hunmarked]

namespace Piece

/-- Words with no mark in them and no digit at their start. -/
def Plain (s : String) : Prop :=
  '$' ∉ s.toList ∧ ∀ c ∈ s.toList.head?, c.isDigit = false

instance (s : String) : Decidable (Plain s) :=
  decidable_of_iff ((s.toList.contains '$' || s.toList.head?.any Char.isDigit) = false)
    (by cases h : s.toList.head? <;> simp [Plain, h])

theorem Plain.append
    {s t : String}
    (hs : Plain s)
    (ht : Plain t) :
    Plain (s ++ t) := by
  rw [Plain, String.toList_append]
  refine ⟨by simp [hs.1, ht.1], ?_⟩
  intro c hc
  rw [List.head?_append] at hc
  rcases Option.or_eq_some_iff.mp hc with h | ⟨_, h⟩
  · exact hs.2 c h
  · exact ht.2 c h

variable {ps qs : List Piece}

theorem params_append (ps qs : List Piece) :
    params (ps ++ qs) = params ps ++ params qs :=
  List.filterMap_append

/-- The places of the second part are numbered on from those of the first. -/
theorem textFrom_append
    (n : Nat)
    (ps qs : List Piece) :
    textFrom n (ps ++ qs) = textFrom n ps ++ textFrom (n + (params ps).length) qs := by
  induction ps generalizing n with
  | nil => simp [textFrom, params]
  | cons p ps ih =>
      cases p with
      | words s => simp [textFrom, params, ih, String.append_assoc]
      | value p => simp [textFrom, params, ih, String.append_assoc, Nat.add_assoc, Nat.add_comm 1]

theorem head_textFrom
    (plain : ∀ s, .words s ∈ ps → Plain s)
    (n : Nat) :
    ∀ c ∈ (textFrom n ps).toList.head?, c.isDigit = false := by
  induction ps generalizing n with
  | nil => simp [textFrom]
  | cons p ps ih =>
      have hrest := ih (fun s hs => plain s (List.mem_cons_of_mem _ hs))
      cases p with
      | words s =>
          obtain ⟨_, hhead⟩ := plain s (List.mem_cons_self ..)
          rw [textFrom, String.toList_append, List.head?_append]
          intro c hc
          rcases Option.or_eq_some_iff.mp hc with h | ⟨_, h⟩
          · exact hhead c h
          · exact hrest n c h
      | value p =>
          intro c hc
          rw [textFrom, String.toList_append, String.toList_append] at hc
          simp at hc
          subst hc
          decide

theorem places_textFrom
    (plain : ∀ s, .words s ∈ ps → Plain s)
    (n : Nat) :
    places (textFrom n ps).toList = List.range' n (params ps).length := by
  induction ps generalizing n with
  | nil => simp [textFrom, params, places]
  | cons p ps ih =>
      have hplain : ∀ s, .words s ∈ ps → Plain s := fun s hs =>
        plain s (List.mem_cons_of_mem _ hs)
      cases p with
      | words s =>
          obtain ⟨hunmarked, _⟩ := plain s (List.mem_cons_self ..)
          rw [textFrom, String.toList_append, places_append hunmarked, ih hplain]
          rfl
      | value p =>
          have hmark := places_mark n (head_textFrom hplain (n + 1))
          rw [ih hplain] at hmark
          rw [textFrom, String.toList_append, String.toList_append]
          exact hmark

end Piece

/-! ## The two texts -/

/-- What the texts of a listing depend on: which filters there are, and the order. -/
structure ListingShape where
  hasCode : Bool
  hasStatus : Bool
  orderBy : SortColumn
  descending : Bool

namespace ListingShape

/-- The shape of a listing query. -/
def of (q : OrderQuery) : ListingShape where
  hasCode := q.code.isSome
  hasStatus := q.status.isSome
  orderBy := q.orderBy
  descending := q.descending

variable (shape : ListingShape)

/-- The number of values that the filters compare with. -/
def values : Nat := 1 + shape.hasCode.toNat + shape.hasStatus.toNat

/-- The clause that selects. -/
def whereText : String :=
  " WHERE deleted_at IS NULL AND user_id = $1" ++
    (if shape.hasCode then " AND code = $2" else "") ++
    (if shape.hasStatus then " AND status = " ++ (if shape.hasCode then "$3" else "$2") else "")

/-- The clause that sorts, up to the place for the page size. -/
def orderText : String :=
  " ORDER BY " ++ shape.orderBy.text ++ (if shape.descending then " DESC" else " ASC") ++
    ", id ASC LIMIT "

/-- The places for the page size and for the entries that are skipped. -/
def cutText : String :=
  "$" ++ toString (shape.values + 1) ++ " OFFSET " ++ "$" ++ toString (shape.values + 1 + 1)

end ListingShape

/-- The values that a filter compares with. -/
def Filter.params (f : Filter) : List Param :=
  [.identifier f.userId] ++ (f.code.map .text).toList ++
    (f.status.map fun status => .text status.text).toList

section Statements

variable (userId : Identifier) (q : OrderQuery) (limit skip : Int64)

theorem text_filter :
    Piece.text (Filter.of userId q).pieces = (ListingShape.of q).whereText := by
  simp only [Filter.of, ListingShape.of]
  cases q.code with
  | none =>
      cases q.status with
      | none => rfl
      | some status => rfl
  | some code =>
      cases q.status with
      | none => rfl
      | some status => rfl

theorem params_filter (f : Filter) : Piece.params f.pieces = f.params := by
  obtain ⟨userId, code, status⟩ := f
  cases code with
  | none =>
      cases status with
      | none => rfl
      | some status => rfl
  | some code =>
      cases status with
      | none => rfl
      | some status => rfl

theorem length_params_filter :
    (Filter.of userId q).params.length = (ListingShape.of q).values := by
  simp only [Filter.params, Filter.of, ListingShape.values, ListingShape.of]
  cases q.code <;> cases q.status <;> rfl

theorem text_countOrders :
    (Statement.countOrders (Filter.of userId q)).text =
      "SELECT COUNT(*) FROM orders" ++ (ListingShape.of q).whereText := by
  show Piece.text (Statement.countPieces (Filter.of userId q)) = _
  rw [Statement.countPieces, Piece.text, Piece.textFrom, ← Piece.text, text_filter]

theorem text_ordersOf :
    (Statement.ordersOf (Filter.of userId q) q.orderBy q.descending limit skip).text =
      "SELECT " ++ orderColumns ++ " FROM orders" ++ (ListingShape.of q).whereText ++
        (ListingShape.of q).orderText ++ (ListingShape.of q).cutText := by
  have hplaces : 1 + (Piece.params (.words ("SELECT " ++ orderColumns ++ " FROM orders") ::
      (Filter.of userId q).pieces)).length = (ListingShape.of q).values + 1 := by
    rw [← length_params_filter userId q, ← params_filter, Nat.add_comm]
    rfl
  show Piece.text (Statement.pagePieces (Filter.of userId q) q.orderBy q.descending limit skip) = _
  rw [Statement.pagePieces, Piece.text, Piece.textFrom_append, Piece.textFrom, ← Piece.text,
    text_filter]
  refine (congrArg (_ ++ Piece.textFrom · _) hplaces).trans ?_
  simp only [ListingShape.orderText, ListingShape.cutText, Piece.textFrom, String.append_assoc,
    String.append_empty]
  rfl

theorem params_countOrders (f : Filter) :
    (Statement.countOrders f).params = f.params :=
  params_filter f

theorem params_ordersOf (f : Filter) (orderBy : SortColumn) (descending : Bool) :
    (Statement.ordersOf f orderBy descending limit skip).params =
      f.params ++ [.integer limit.toInt, .integer skip.toInt] := by
  show Piece.params (Statement.pagePieces f orderBy descending limit skip) = _
  rw [Statement.pagePieces, Piece.params_append, ← params_filter f]
  rfl

theorem plain_filter (f : Filter) : ∀ s, .words s ∈ f.pieces → Piece.Plain s := by
  obtain ⟨userId, code, status⟩ := f
  have hwords : ∀ s ∈ [" WHERE ", "deleted_at IS NULL", " AND ", "user_id = ", "code = ",
      "status = "], Piece.Plain s := by decide
  intro s hs
  refine hwords s ?_
  cases code <;> cases status <;>
    simp [Filter.pieces, Filter.conditions, joined, Condition.pieces] at hs ⊢ <;> tauto

theorem places_countOrders (f : Filter) :
    places (Statement.countOrders f).text.toList =
      List.range' 1 (Statement.countOrders f).params.length := by
  refine Piece.places_textFrom ?_ 1
  intro s hs
  rcases List.mem_cons.mp hs with h | h
  · cases h
    decide
  · exact plain_filter f s h

theorem places_ordersOf (f : Filter) (orderBy : SortColumn) (descending : Bool) :
    places (Statement.ordersOf f orderBy descending limit skip).text.toList =
      List.range' 1 (Statement.ordersOf f orderBy descending limit skip).params.length := by
  refine Piece.places_textFrom ?_ 1
  intro s hs
  rcases List.mem_append.mp hs with h | h
  · rcases List.mem_cons.mp h with h | h
    · cases h
      decide
    · exact plain_filter f s h
  · simp at h
    rcases h with rfl | rfl
    · have hcolumn : Piece.Plain orderBy.text := by
        cases orderBy <;> decide
      have hdirection : Piece.Plain (if descending then " DESC" else " ASC") := by
        cases descending <;> decide
      have hbegin : Piece.Plain " ORDER BY " := by decide
      exact ((hbegin.append hcolumn).append hdirection).append (by decide)
    · decide

end Statements

/-! ## What a listing sends -/

/-- The lines of some orders are read in one statement, or in none. -/
theorem conversation_linesOf_done
    {α : Type} {ids : List Identifier} {f : List OrderLine → α}
    {log : List Sent} {x : Except (Stop StoreError) α}
    (talk : Conversation ((linesOf ids).bind fun lines => .done (f lines)) log x) :
    log = [] ∨ ∃ ids, log.map (·.1) = [.linesOf ids] := by
  rw [linesOf] at talk
  split at talk
  · exact Or.inl (conversation_done talk).1
  · rw [monad_bind_eq, bind_assoc] at talk
    refine Or.inr ⟨ids, ?_⟩
    rcases conversation_rows_bind talk with ⟨r, rfl, _⟩ | ⟨rs, rest, rfl, later⟩
    · rfl
    · obtain ⟨rfl, _⟩ := conversation_done later
      rfl

theorem conversation_page
    {budget : Duration} {o : Occasion} {userId : Identifier} {q : OrderQuery}
    {log : List Sent} {x : Except Empty (Except StoreError (List Order × Page))}
    (talk : Conversation (answer budget o (.page userId q)) log x) :
    let filter := Filter.of userId q
    (∃ reply, log = [⟨.countOrders filter, reply⟩] ∧
      ∀ total totals, reply ≠ .rows (total :: totals)) ∨
    (∃ total totals reply rest,
      let page := Page.ofRequest q.page q.limit total
      log = ⟨.countOrders filter, .rows (total :: totals)⟩ ::
        ⟨.ordersOf filter q.orderBy q.descending page.limit page.skip, reply⟩ :: rest ∧
      (rest = [] ∨ ∃ ids, rest.map (·.1) = [.linesOf ids])) := by
  intro filter
  obtain ⟨_, rfl, bounded⟩ := conversation_attempt talk
  obtain ⟨_, rfl, own⟩ := conversation_mapError bounded
  rcases conversation_firstRow_bind own with h | ⟨total, totals, behind, rfl, paging⟩
  · exact Or.inl h
  refine Or.inr ⟨total, totals, ?_⟩
  rcases conversation_rows_bind paging with ⟨reply, rfl, _⟩ | ⟨found, last, rfl, reading⟩
  · exact ⟨reply, [], rfl, Or.inl rfl⟩
  refine ⟨.rows found, last, rfl, ?_⟩
  cases hread : found.mapM orderOf with
  | error stop =>
      rw [hread] at reading
      exact Or.inl (conversation_fail reading).1
  | ok orders =>
      rw [hread] at reading
      have lining : Conversation ((linesOf (orders.map (·.id))).bind fun lines =>
          .done (distribute orders lines, Page.ofRequest q.page q.limit total)) last _ := reading
      exact conversation_linesOf_done lining

/-- **No text of a caller becomes part of a statement.**  A listing sends the statement
that counts and, if it is answered with a total, the one that reads the page which belongs
to this total, and at most one more for the lines.  Of the two:

* their texts are those of the shape of the query, whatever user, code, status, page and
  page size are asked for;
* both select by the same clause, and their values begin with those of the filters;
* the values of the second one end with the page size and the entries to skip;
* the places in each text are numbered from one, in order, one for each value. -/
theorem listings_send_no_text_of_the_caller
    {σ : Type}
    (server : (s : Statement) → σ → Reply s.Row × σ)
    (state : σ)
    (budget : Duration)
    (o : Occasion)
    (userId : Identifier)
    (q : OrderQuery) :
    let filter := Filter.of userId q
    let shape := ListingShape.of q
    let values : List Param :=
      [.identifier userId] ++ (q.code.map .text).toList ++
        (q.status.map fun status => .text status.text).toList
    let log := ((answer budget o (.page userId q)).record server state).2
    let paging (page : Page) : Statement :=
      .ordersOf filter q.orderBy q.descending page.limit page.skip
    ((∃ reply, log = [⟨.countOrders filter, reply⟩] ∧
        ∀ total totals, reply ≠ .rows (total :: totals)) ∨
      (∃ total totals reply rest,
        log = ⟨.countOrders filter, .rows (total :: totals)⟩ ::
          ⟨paging (Page.ofRequest q.page q.limit total), reply⟩ :: rest ∧
        (rest = [] ∨ ∃ ids, rest.map (·.1) = [.linesOf ids]))) ∧
    (Statement.countOrders filter).text = "SELECT COUNT(*) FROM orders" ++ shape.whereText ∧
    (∀ page, (paging page).text =
      "SELECT " ++ orderColumns ++ " FROM orders" ++ shape.whereText ++
        shape.orderText ++ shape.cutText) ∧
    (Statement.countOrders filter).params = values ∧
    (∀ page, (paging page).params =
      values ++ [.integer page.limit.toInt, .integer page.skip.toInt]) ∧
    places (Statement.countOrders filter).text.toList = List.range' 1 values.length ∧
    (∀ page, places (paging page).text.toList = List.range' 1 (values.length + 2)) := by
  intro filter shape values log paging
  have talk := conversation_record server (answer budget o (.page userId q)) state
  refine ⟨conversation_page talk, text_countOrders userId q,
    fun page => text_ordersOf userId q page.limit page.skip, params_countOrders filter,
    fun page => params_ordersOf page.limit page.skip filter q.orderBy q.descending, ?_, ?_⟩
  · rw [places_countOrders, params_countOrders]
    rfl
  · intro page
    rw [places_ordersOf, params_ordersOf, List.length_append]
    rfl

end Sql
end OrderDesk
