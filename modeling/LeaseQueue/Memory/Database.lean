import LeaseQueue.Lock.Advisory
import LeaseQueue.Memory.Table
import LeaseQueue.Sweep.Engine

/-!
An in-memory database: the tables of its queues, a clock that can be moved, and advisory locks. Date arithmetic
that overflows stops a call where it stands; what was changed until then stays changed.
-/
namespace LeaseQueue

structure Database where
  /-- How identifiers are put together, and the bucket they are minted from. -/
  layout : IdLayout
  bucket : Int
  /-- Tables by name; a table comes into being with the first batch sent to it. -/
  tables : Std.ExtTreeMap String Table
  wallClock : Instant
  /-- How far the database's clock is ahead of the wall clock. -/
  offset : Int
  locks : AdvisoryLocks
  /-- The local locks of the process that uses the database. -/
  localLocks : LocalLocks

/-- A call on a database. -/
abbrev Run := ExceptT Overflow (StateM Database)

namespace Database

/-- An empty database. The bucket has to lie in the layout. -/
def ofIdentifiers (layout : IdLayout) (bucket : Int) (wallClock : Instant) : Except Error Database := do
  let _ ← layout.encode bucket 0
  .ok ⟨layout, bucket, ∅, wallClock, 0, .none, .none⟩

/-- The time on the database's clock. -/
def now (database : Database) : Except Overflow Instant := database.wallClock.add database.offset

def table? (database : Database) (queue : QueueName) : Option Table := database.tables[queue.table]?

def setTable (database : Database) (queue : QueueName) (table : Table) : Database :=
  { database with tables := database.tables.insert queue.table table }

/-- The number of messages in a queue, whatever their state. -/
def rowCount (database : Database) (queue : QueueName) : Nat :=
  (database.table? queue).elim 0 fun table => table.rows.length

end Database

namespace Run

/-- Reads the clock. -/
def now : Run Instant := do liftExcept (← get).now
where
  liftExcept : Except Overflow Instant → Run Instant
    | .ok instant => pure instant
    | .error overflow => throw overflow

/-- Moves the clock. -/
def advanceClock (span : Int) : Run Unit := do
  let database ← get
  match addSpans database.offset span with
  | .ok offset => set { database with offset := offset }
  | .error overflow => throw overflow

/-- Runs a step on the advisory locks. -/
def onLocks {α : Type} (step : AdvisoryLocks → α × AdvisoryLocks) : Run α :=
  modifyGet fun database =>
    let (answer, locks) := step database.locks
    (answer, { database with locks := locks })

/-- Runs a step on the local locks. -/
def onLocalLocks {α : Type} (step : LocalLocks → α × LocalLocks) : Run α :=
  modifyGet fun database =>
    let (answer, locks) := step database.localLocks
    (answer, { database with localLocks := locks })

def openSession : Run Nat := onLocks AdvisoryLocks.openSession

def closeSession (session : Nat) : Run Unit := onLocks fun locks => ((), locks.closeSession session)

def freeLocal (key : LocalKey) : Run Unit := onLocalLocks fun locks => ((), locks.free key)

/-- Gives up a lock by releasing it once. -/
def abandon (session : Nat) (lock : Int) : Run Unit := onLocks fun locks => ((), (locks.unlock session lock).2)

/-- Runs an action in a session of its own. -/
def inSession {α : Type} (action : Nat → Run α) : Run α := do
  let session ← openSession
  let answer ← cleaning Overflow (closeSession session) (action session)
  closeSession session
  pure answer

/-- One batch of a sweep. A table that does not exist yet has nothing to sweep. -/
def deleteDead (queue : QueueName) (limit : Nat) : Run (Except Error Nat) := do
  let instant ← now
  let database ← get
  match database.table? queue with
  | none => pure (.ok 0)
  | some table =>
    let (removed, swept) := table.deleteDead instant limit
    set (database.setTable queue swept)
    pure (.ok removed)

/-- Sweeps through a session of the database. -/
def sweepTarget (session : Nat) : SweepTarget Run where
  takeLocal key := onLocalLocks fun locks => locks.tryTake key
  freeLocal := freeLocal
  tryAdvisory lock := do return .ok (← onLocks fun locks => locks.tryLock session lock)
  unlock lock := do return .ok (← onLocks fun locks => locks.unlock session lock)
  abandon := abandon session
  guarded
    | .freeLocal key, action => cleaning Overflow (freeLocal key) action
    | .abandon lock, action => cleaning Overflow (abandon session lock) action
  deleteDead := deleteDead

end Run

end LeaseQueue
