/-!
The locks that tasks of one process hold against each other. Each lock manager has its own; a task that finds one
taken turns away at once, without asking the database.
-/
namespace LeaseQueue

/-- A lock of one manager, which goes by its name. -/
structure LocalKey where
  manager : String
  lock : Int
deriving DecidableEq, Repr

structure LocalLocks where
  /-- The locks ever asked for. -/
  known : List LocalKey
  /-- The locks that a task holds. -/
  taken : List LocalKey
deriving DecidableEq, Repr

namespace LocalLocks

def none : LocalLocks := ⟨[], []⟩

/-- Takes a lock unless a task holds it; either way it is known from then on. -/
def tryTake (locks : LocalLocks) (key : LocalKey) : Bool × LocalLocks :=
  let known := if key ∈ locks.known then locks.known else key :: locks.known
  if key ∈ locks.taken then (false, { locks with known := known })
  else (true, ⟨known, key :: locks.taken⟩)

def free (locks : LocalLocks) (key : LocalKey) : LocalLocks := { locks with taken := locks.taken.erase key }

/-- The number of locks that a manager was ever asked for. -/
def registered (locks : LocalLocks) (manager : String) : Nat := locks.known.countP fun key => key.manager = manager

end LocalLocks

end LeaseQueue
