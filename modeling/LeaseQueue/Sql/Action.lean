import LeaseQueue.Lock.Exclusive
import LeaseQueue.Program
import LeaseQueue.Sql.Statement

/-!
What is done through one database connection. Transactions nest: one that is begun inside another is a savepoint. A
transaction that is left without being committed, or whose commit fails, is undone.
-/
namespace LeaseQueue.Sql

inductive Request
  /-- Begins a transaction. -/
  | begin
  /-- Commits the innermost transaction, or leaves it if that fails. -/
  | commit
  /-- Undoes the innermost transaction and says whether the server did so by now. -/
  | rollback
  /-- Gives up the innermost transaction unfinished. -/
  | leave
  | query (statement : Statement)
  | takeLocal (key : LocalKey)
  | freeLocal (key : LocalKey)
  /-- From here on a guard acts if the action is cut short. -/
  | arm (guard : Guard)
  /-- Puts the last guard away. -/
  | disarm
  /-- The connection is not to be used again after this action. -/
  | close

/-- What comes back: whether it was done, and for a query what it found, or nothing if it failed. -/
def Request.Answer : Request → Type
  | begin | commit | rollback | takeLocal _ => Bool
  | query _ => Option ResultSet
  | leave | freeLocal _ | arm _ | disarm | close => Unit

abbrev Action := Program Request Request.Answer

namespace Action

variable {α : Type}

def begin : Action Bool := .ask .begin .done

def commit : Action Bool := .ask .commit .done

def rollback : Action Bool := .ask .rollback .done

def leave : Action Unit := .ask .leave .done

def query (statement : Statement) : Action (Option ResultSet) := .ask (.query statement) .done

def takeLocal (key : LocalKey) : Action Bool := .ask (.takeLocal key) .done

def freeLocal (key : LocalKey) : Action Unit := .ask (.freeLocal key) .done

def arm (guard : Guard) : Action Unit := .ask (.arm guard) .done

def disarm : Action Unit := .ask .disarm .done

def close : Action Unit := .ask .close .done

/-- The error of a statement that failed. -/
def failed (context : String) : Except Error α := .error (.persistence (.failed context))

/-- Runs a statement. -/
def execute (context : String) (statement : Statement) : Action (Except Error ResultSet) := do
  match ← query statement with
  | some result => pure (.ok result)
  | none => pure (failed context)

/-- Runs a statement that has to find a row. -/
def fetchOne (context : String) (statement : Statement) : Action (Except Error Row) := do
  return (← execute context statement).bind fun result => result.rows.head?.elim (failed context) .ok

/-- Runs a statement that has to find a row and reads its first cell. -/
def fetchValue (context : String) (statement : Statement) (read : Cell → Option α) : Action (Except Error α) := do
  return (← fetchOne context statement).bind fun row =>
    (row.head?.bind fun (_, cell) => read cell).elim (failed context) .ok

/-- Runs a body in a transaction, which is committed if the body succeeds and otherwise left. -/
def inTransaction (beginning committing : String) (body : Action (Except Error α)) : Action (Except Error α) := do
  if ← begin then
    match ← body with
    | .error failure =>
      leave
      pure (.error failure)
    | .ok result =>
      if ← commit then pure (.ok result) else pure (failed committing)
  else pure (failed beginning)

/-- The same, but a body that fails is undone at once. Whether that works changes nothing about the error. -/
def inSavepoint (beginning committing : String) (body : Action (Except Error α)) : Action (Except Error α) := do
  if ← begin then
    match ← body with
    | .error failure =>
      let _ ← rollback
      pure (.error failure)
    | .ok result =>
      if ← commit then pure (.ok result) else pure (failed committing)
  else pure (failed beginning)

/-- Runs an action under a guard. -/
def guarded (guard : Guard) (action : Action α) : Action α := do
  arm guard
  let result ← action
  disarm
  pure result

end Action

end LeaseQueue.Sql
