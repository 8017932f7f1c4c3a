import LeaseQueue.Sql.Action
import LeaseQueue.Sql.MessageStatements
import LeaseQueue.Sweep.Engine

/-!
Sweeps in SQL. A sweep by itself holds its lock by the session and closes the connection if the lock may have stayed
behind. A sweep inside a receive holds it by the receive's transaction, and each of its steps is a savepoint, so that
the receive goes on whatever happens to the sweep.
-/
namespace LeaseQueue.Sql.Action

/-- Asks for an advisory lock or its release. -/
def askLock (function context : String) (lock : Int) : Action (Except Error Bool) :=
  fetchValue context ⟨sql s!"SELECT {function}(" ++ slot 1 ++ sql ")", [.bigInt lock]⟩ Cell.bool?

def tryLock (lock : Int) : Action (Except Error Bool) :=
  askLock "pg_try_advisory_lock" "try advisory lock failed" lock

def unlock (lock : Int) : Action (Except Error Bool) := askLock "pg_advisory_unlock" "advisory unlock failed" lock

/-- Takes a lock and releases it. -/
def tryAndUnlock (lock : Int) : Action (Except Error (Bool × Bool)) := do
  match ← tryLock lock with
  | .error failure => pure (.error failure)
  | .ok locked => return (← unlock lock).map fun unlocked => (locked, unlocked)

/-- Takes a lock that ends with the transaction around it. -/
def tryTransactionLock (lock : Int) : Action (Except Error Bool) :=
  inSavepoint "begin sweep lock failed" "commit sweep lock failed"
    (askLock "pg_try_advisory_xact_lock" "try advisory lock failed" lock)

/-- One batch of a sweep in a transaction or savepoint of its own. -/
def deleteDead (queue : QueueName) (limit : Nat) : Action (Except Error Nat) := do
  let swept ← inSavepoint "begin sweep batch failed" "commit sweep batch failed"
    (execute "sweep delete failed" (sweepStatement queue limit))
  pure (swept.map ResultSet.affected)

/-- A sweep by itself. -/
def standalone : SweepTarget Action where
  takeLocal := takeLocal
  freeLocal := freeLocal
  tryAdvisory := tryLock
  unlock := unlock
  abandon _ := close
  guarded := guarded
  deleteDead := deleteDead

/-- A sweep inside a receive. The end of the transaction frees the lock, so nothing has to be given up. -/
def inline : SweepTarget Action where
  takeLocal := takeLocal
  freeLocal := freeLocal
  tryAdvisory := tryTransactionLock
  unlock _ := pure (.ok true)
  abandon _ := pure ()
  guarded
    | .freeLocal key, action => guarded (.freeLocal key) action
    | .abandon _, action => action
  deleteDead := deleteDead

end LeaseQueue.Sql.Action
