import Std.Data.ExtTreeMap

/-!
The advisory locks of a database. A lock belongs to one session, which may take it several times and has to release
it as often; the end of a session releases all that it holds.
-/
namespace LeaseQueue

/-- A session that has a lock, and how many times it has taken it. -/
structure Hold where
  session : Nat
  count : Nat
deriving DecidableEq, Repr

structure AdvisoryLocks where
  holds : Std.ExtTreeMap Int Hold
  /-- The number of the next session to be opened. -/
  nextSession : Nat

namespace AdvisoryLocks

def none : AdvisoryLocks := ⟨∅, 0⟩

/-- Opens a session. -/
def openSession (locks : AdvisoryLocks) : Nat × AdvisoryLocks :=
  (locks.nextSession, { locks with nextSession := locks.nextSession + 1 })

/-- Whether any session holds the lock. -/
def isHeld (locks : AdvisoryLocks) (lock : Int) : Bool := locks.holds[lock]?.isSome

/-- Takes a lock unless another session holds it. -/
def tryLock (locks : AdvisoryLocks) (session : Nat) (lock : Int) : Bool × AdvisoryLocks :=
  match locks.holds[lock]? with
  | some hold =>
    if hold.session = session then
      (true, { locks with holds := locks.holds.insert lock ⟨session, hold.count + 1⟩ })
    else (false, locks)
  | .none => (true, { locks with holds := locks.holds.insert lock ⟨session, 1⟩ })

/-- Releases a lock once; false if the session does not hold it. -/
def unlock (locks : AdvisoryLocks) (session : Nat) (lock : Int) : Bool × AdvisoryLocks :=
  match locks.holds[lock]? with
  | some hold =>
    if hold.session = session then
      (true, { locks with
        holds := if hold.count ≤ 1 then locks.holds.erase lock
          else locks.holds.insert lock ⟨session, hold.count - 1⟩ })
    else (false, locks)
  | .none => (false, locks)

/-- Ends a session. -/
def closeSession (locks : AdvisoryLocks) (session : Nat) : AdvisoryLocks :=
  { locks with holds := locks.holds.filter fun _ hold => hold.session ≠ session }

/-- How many times a session has taken a lock without releasing it. -/
def balance (locks : AdvisoryLocks) (session : Nat) (lock : Int) : Nat :=
  match locks.holds[lock]? with
  | some hold => if hold.session = session then hold.count else 0
  | .none => 0

end AdvisoryLocks

end LeaseQueue
