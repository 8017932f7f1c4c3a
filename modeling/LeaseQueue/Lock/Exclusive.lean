import LeaseQueue.Error
import LeaseQueue.Lock.Local

/-!
Exclusive runs. A run takes two locks without waiting: the local one, which keeps out other tasks of the process, and
the advisory one, which keeps out other sessions. It misses if either is held elsewhere. A run inside a run under the
same lock skips the local tier and takes the advisory lock once more.
-/
namespace LeaseQueue

/-- Runs an action. Should it be cut short, the cleanup happens before what cut it short goes on. -/
def cleaning (ε : Type) {α : Type} {m : Type → Type} [Monad m] [MonadExceptOf ε m] (cleanup : m Unit)
    (action : m α) : m α :=
  tryCatchThe ε action fun cause => do
    cleanup
    throwThe ε cause

/-- What is still to be done if a run is cut short. -/
inductive Guard
  /-- Give back a local lock. -/
  | freeLocal (key : LocalKey)
  /-- Give up an advisory lock. -/
  | abandon (lock : Int)
deriving DecidableEq, Repr

/-- What a run needs of the session and the process it happens in. -/
structure LockTiers (m : Type → Type) where
  /-- Takes the local lock; false if another task has it. -/
  takeLocal : LocalKey → m Bool
  freeLocal : LocalKey → m Unit
  /-- Takes the advisory lock; false if another session has it. -/
  tryAdvisory : Int → m (Except Error Bool)
  /-- Releases the advisory lock; false if the session did not hold it. -/
  unlock : Int → m (Except Error Bool)
  /-- Gives up a lock that the session may still hold; it is free once the session ends. -/
  abandon : Int → m Unit
  /-- Runs an action. Should it be cut short, the guard acts before whatever cut it short goes on. -/
  guarded : {α : Type} → Guard → m α → m α

namespace LockTiers

variable {m : Type → Type} [Monad m] {α : Type}

/-- Releases the advisory lock behind a run. A failed release is reported unless the run itself failed. -/
def release (tiers : LockTiers m) (lock : Int) (result : Except Error α) : m (Except Error (Option α)) := do
  match ← tiers.unlock lock with
  | .ok _ => pure (result.map some)
  | .error failure =>
    tiers.abandon lock
    match result with
    | .ok _ => pure (.error failure)
    | .error cause => pure (.error cause)

/-- Runs a body under the advisory lock. The lock counts as possibly held from the moment it is asked for. -/
def underAdvisory (tiers : LockTiers m) (lock : Int) (body : m (Except Error α)) : m (Except Error (Option α)) :=
  tiers.guarded (.abandon lock) do
    match ← tiers.tryAdvisory lock with
    | .error failure =>
      tiers.abandon lock
      pure (.error failure)
    | .ok false => pure (.ok none)
    | .ok true =>
      let result ← body
      tiers.release lock result

/-- Runs a body under both locks, or gives `none` if one of them is held elsewhere. `held` are the local locks of
the task so far; the body gets those it runs under. -/
def tryRunExclusive (tiers : LockTiers m) (held : List LocalKey) (manager : String) (lock : Int)
    (body : List LocalKey → m (Except Error α)) : m (Except Error (Option α)) := do
  let key : LocalKey := ⟨manager, lock⟩
  if key ∈ held then tiers.underAdvisory lock (body held)
  else if ← tiers.takeLocal key then
    let result ← tiers.guarded (.freeLocal key) (tiers.underAdvisory lock (body (key :: held)))
    tiers.freeLocal key
    pure result
  else pure (.ok none)

end LockTiers

end LeaseQueue
