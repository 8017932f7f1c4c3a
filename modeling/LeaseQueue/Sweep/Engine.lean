import LeaseQueue.Lock.Exclusive
import LeaseQueue.Sweep.Settings

/-!
Sweeps remove the dead messages of a queue, batch after batch, under the queue's lock. A sweep ends with the first
batch that is not full, or after a fixed number of batches.
-/
namespace LeaseQueue

/-- What a sweep works on. -/
structure SweepTarget (m : Type → Type) extends LockTiers m where
  /-- Removes at most the given number of dead messages and says how many there were. -/
  deleteDead : QueueName → Nat → m (Except Error Nat)

inductive SweepOutcome
  /-- Rows removed, and batches run. -/
  | completed (removed iterations : Nat)
  /-- Someone else is sweeping the queue. -/
  | lockNotAcquired
deriving DecidableEq, Repr

def SweepOutcome.removed : SweepOutcome → Nat
  | completed removed _ => removed
  | lockNotAcquired => 0

/-- Sweep settings with the lock manager that the sweeps go through. -/
structure SweepEngine where
  settings : SweepSettings
  manager : String

namespace SweepEngine

variable {m : Type → Type} [Monad m]

def ofSettings (settings : SweepSettings) (manager : String) : Except Error SweepEngine := do
  settings.validate
  .ok ⟨settings, manager⟩

def lockId (engine : SweepEngine) (queue : QueueName) : Int := engine.settings.lockId queue

/-- Runs one batch and then up to `more` others, as long as the batches are full. -/
def batches (target : SweepTarget m) (queue : QueueName) (rows : Nat) : Nat → m (Except Error (Nat × Nat))
  | 0 => do
    match ← target.deleteDead queue rows with
    | .error failure => pure (.error failure)
    | .ok batch => pure (.ok (batch, 1))
  | more + 1 => do
    match ← target.deleteDead queue rows with
    | .error failure => pure (.error failure)
    | .ok batch =>
      if batch < rows then pure (.ok (batch, 1))
      else
        match ← batches target queue rows more with
        | .error failure => pure (.error failure)
        | .ok (removed, iterations) => pure (.ok (batch + removed, iterations + 1))

/-- Sweeps a queue unless it is being swept elsewhere. A batch is as large as the hint or the settings allow,
whichever is more. -/
def sweep (engine : SweepEngine) (target : SweepTarget m) (queue : QueueName) (hint : Nat) :
    m (Except Error SweepOutcome) := do
  let rows := max hint engine.settings.maxRows
  let result ← target.tryRunExclusive [] engine.manager (engine.lockId queue) fun _ =>
    batches target queue rows (engine.settings.maxIterations - 1)
  pure <| result.map fun
    | some (removed, iterations) => .completed removed iterations
    | none => .lockNotAcquired

/-- Sweeps if the draw said so. A failure counts as not having swept. -/
def sweepIf (engine : SweepEngine) (drawn : Bool) (target : SweepTarget m) (queue : QueueName) (hint : Nat) :
    m (Option SweepOutcome) := do
  if drawn then
    match ← engine.sweep target queue hint with
    | .ok outcome => pure (some outcome)
    | .error _ => pure none
  else pure none

end SweepEngine

end LeaseQueue
