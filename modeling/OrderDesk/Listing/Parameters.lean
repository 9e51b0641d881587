import OrderDesk.Listing.Form
import OrderDesk.Listing.Query
import OrderDesk.Text.Blank

/-!
# Parameters of a listing

A listing query is read from the pairs of a query string, from the left, up to the
first fault.  Each known parameter may occur once, others are skipped.

- `code`, `status` and `order_by` are trimmed, and a blank one counts as absent.
- `order_desc`, `page` and `limit` are read as they are.
-/

namespace OrderDesk

/-- Why query parameters make no listing query. -/
inductive ParameterError where
  | duplicate (name : String)
  | unknownStatus (text : String)
  | unknownColumn (text : String)
  | notInteger (error : NumeralError)
  | notTruthValue
deriving DecidableEq, Repr

/-- The wording of each fault. -/
def ParameterError.message : ParameterError → String
  | .duplicate name => "duplicate field `" ++ name ++ "`"
  | .unknownStatus text => OrderStatus.unknownMessage text
  | .unknownColumn text => SortColumn.unknownMessage text
  | .notInteger error => error.message
  | .notTruthValue => "provided string was not `true` or `false`"

/-- The parameters read so far; the first three may be there and be blank. -/
structure Parameters where
  code : Option (Option String) := none
  status : Option (Option OrderStatus) := none
  orderBy : Option (Option SortColumn) := none
  descending : Option Bool := none
  page : Option Int64 := none
  limit : Option Int64 := none
deriving DecidableEq

namespace Parameters

/-- Reads the trimmed text of a value, none if it is blank. -/
def visible {α : Type} (read : String → Except ParameterError α) (value : String) :
    Except ParameterError (Option α) :=
  let text := Text.trimmed value
  if text.isEmpty then .ok none else (read text).map some

/-- Reads a status. -/
def status? (text : String) : Except ParameterError OrderStatus :=
  match OrderStatus.parse? text with
  | some s => .ok s
  | none => .error (.unknownStatus text)

/-- Reads a sort column. -/
def column? (text : String) : Except ParameterError SortColumn :=
  match SortColumn.parse? text with
  | some c => .ok c
  | none => .error (.unknownColumn text)

/-- Reads a truth value. -/
def truth? (value : String) : Except ParameterError Bool :=
  if value = "true" then .ok true
  else if value = "false" then .ok false
  else .error .notTruthValue

/-- Reads a 64-bit integer. -/
def integer? (value : String) : Except ParameterError Int64 :=
  (Text.readInt64 value.toList).mapError .notInteger

/-- The value of a parameter that has not occurred before. -/
def once {α : Type} (name : String) (known : Option α) (value : Except ParameterError α) :
    Except ParameterError (Option α) :=
  match known with
  | some _ => .error (.duplicate name)
  | none => value.map some

/-- Adds a pair. -/
def add (ps : Parameters) (pair : String × String) : Except ParameterError Parameters :=
  let (name, value) := pair
  match name with
  | "code" => (once name ps.code (visible .ok value)).map fun code => { ps with code }
  | "status" => (once name ps.status (visible status? value)).map fun status => { ps with status }
  | "order_by" =>
    (once name ps.orderBy (visible column? value)).map fun orderBy => { ps with orderBy }
  | "order_desc" =>
    (once name ps.descending (truth? value)).map fun descending => { ps with descending }
  | "page" => (once name ps.page (integer? value)).map fun page => { ps with page }
  | "limit" => (once name ps.limit (integer? value)).map fun limit => { ps with limit }
  | _ => .ok ps

/-- The listing query of the parameters. -/
def query (ps : Parameters) : OrderQuery :=
  { code := ps.code.join
    status := ps.status.join
    orderBy := ps.orderBy.join.getD default
    descending := ps.descending.getD false
    page := ps.page.getD 0
    limit := ps.limit.getD 0 }

/-- Reads parameters from pairs. -/
def ofPairs (pairs : List (String × String)) : Except ParameterError Parameters :=
  pairs.foldlM add {}

end Parameters

/-- Reads a listing query from a query string. -/
def OrderQuery.ofQueryString (query : List UInt8) : Except ParameterError OrderQuery :=
  (Parameters.ofPairs (Form.pairs query)).map Parameters.query

end OrderDesk
