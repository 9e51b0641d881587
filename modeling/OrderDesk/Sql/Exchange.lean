import OrderDesk.Dialogue
import OrderDesk.Failure
import OrderDesk.Sql.Statement

/-!
# Exchanges with the database

An exchange is a dialogue of statements.  It stops at the first error, and also
where the database does not answer any more.

**Transactions.**  The statements of a transaction take effect together when it is
committed.  If one of them fails, or the commit does, everything is taken back.

**Time.**  `bounded` gives an exchange a time budget: where the database does not
answer, the budget runs out.
-/

namespace OrderDesk
namespace Sql

/-- Why an exchange stopped. -/
inductive Stop (ε : Type) where
  | error (e : ε)
  /-- The database does not answer. -/
  | silence
deriving DecidableEq, Repr

/-- A dialogue of statements. -/
abbrev Exchange (ε α : Type) :=
  Dialogue Statement (fun s => Reply s.Row) (Stop ε) α

/-- The rows that answer a statement. -/
def rows (s : Statement) : Exchange DatabaseError (List s.Row) :=
  .ask s fun
    | .rows rs => .done rs
    | .refused message => .fail (.error (.server message))
    | .silent => .fail .silence

/-- The first row, if there is one. -/
def firstRow? (s : Statement) : Exchange DatabaseError (Option s.Row) := do
  return (← rows s).head?

/-- The first row, which must be there. -/
def firstRow (s : Statement) : Exchange DatabaseError s.Row := do
  match ← firstRow? s with
  | some r => .done r
  | none => .fail (.error .rowMissing)

/-- Sends a statement whose rows do not matter. -/
def send (s : Statement) : Exchange DatabaseError Unit := do
  let _ ← rows s
  return ()

/-- An exchange of the store, whose database errors are errors of the store. -/
def stored {α : Type} (x : Exchange DatabaseError α) : Exchange StoreError α :=
  x.mapError fun
    | .error e => .error (.database e)
    | .silence => .silence

/-- Does all of the given exchange in a transaction, or nothing. -/
def inTransaction {α : Type} (body : Exchange StoreError α) : Exchange StoreError α := do
  stored (send .begin)
  let outcome ← (body.bind fun a => (stored (send .commit)).bind fun _ => .done a).attempt
  match outcome with
  | .ok a => .done a
  | .error .silence => .fail .silence
  | .error (.error e) => .ask .rollback fun _ => .fail (.error e)

/-- Gives an exchange a time budget. -/
def bounded {α : Type} (budget : Duration) (x : Exchange StoreError α) :
    Dialogue Statement (fun s => Reply s.Row) StoreError α :=
  x.mapError fun
    | .error e => e
    | .silence => .timeout budget

end Sql
end OrderDesk
