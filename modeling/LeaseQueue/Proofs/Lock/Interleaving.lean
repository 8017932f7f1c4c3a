import LeaseQueue.Lock.Advisory
import LeaseQueue.Lock.Exclusive
import LeaseQueue.Program

/-!
Exclusive runs side by side. Every call of an exclusive run is the program `LockTiers.tryRunExclusive` itself, with
each thing that it asks for as one step, so that the steps of any number of calls interleave. A body is left open: while
it runs it may make calls of its own, through the same session or another one, and it may end with any result.

A session in memory answers in the poll that asks it. So a call never waits for a lock, and the places where it can be
cut short are those where it has one: in its body, and when that has ended but the lock is not yet released.
-/
namespace LeaseQueue.Interleaving

/-- What an exclusive run asks for. -/
inductive Request
  | takeLocal (key : LocalKey)
  | freeLocal (key : LocalKey)
  | tryAdvisory (lock : Int)
  | unlock (lock : Int)
  | abandon (lock : Int)
  /-- From here on the guard acts should the call be cut short. -/
  | arm (guard : Guard)
  /-- The guard that was armed last has nothing left to do. -/
  | disarm
  /-- Runs the body under these local locks. -/
  | body (held : List LocalKey)
deriving DecidableEq, Repr

/-- The answer to a request. Bodies give an `α`. -/
def Request.Answer (α : Type) : Request → Type
  | takeLocal _ => Bool
  | tryAdvisory _ | unlock _ => Except Error Bool
  | freeLocal _ | abandon _ | arm _ | disarm => Unit
  | body _ => Except Error α

/-- What is left to do of something that gives a `β`. -/
abbrev Course (α β : Type) := Program Request (Request.Answer α) β

variable {α β : Type}

def ask (request : Request) : Course α (request.Answer α) := .ask request .done

/-- The tiers as they look to one call: every use of them is a request. -/
def tiers : LockTiers (Course α) where
  takeLocal key := ask (.takeLocal key)
  freeLocal key := ask (.freeLocal key)
  tryAdvisory lock := ask (.tryAdvisory lock)
  unlock lock := ask (.unlock lock)
  abandon lock := ask (.abandon lock)
  guarded guard action := do
    let _ ← ask (.arm guard)
    let result ← action
    let _ ← ask .disarm
    pure result

def runBody (held : List LocalKey) : Course α (Except Error α) := ask (.body held)

/-- An exclusive run of a task that has the given local locks. -/
def exclusive (held : List LocalKey) (key : LocalKey) : Course α (Except Error (Option α)) :=
  tiers.tryRunExclusive held key.manager key.lock runBody

/-- A call of an exclusive run. -/
structure Call (α : Type) where
  id : Nat
  /-- The calls in whose bodies it was made, from the inside outwards. -/
  outer : List Nat
  session : Nat
  key : LocalKey
  /-- The guards that act if it is cut short, in their order. -/
  guards : List Guard
  /-- What is left of it; nothing once it was cut short. -/
  rest : Option (Course α (Except Error (Option α)))

namespace Call

/-- The local locks of the body, while that runs. -/
def body? (call : Call α) : Option (List LocalKey) :=
  match call.rest with
  | some (.ask (.body held) _) => some held
  | _ => none

def InBody (call : Call α) : Prop := call.body?.isSome

/-- What the call returned, once it has. -/
def returned? (call : Call α) : Option (Except Error (Option α)) :=
  match call.rest with
  | some (.done result) => some result
  | _ => none

/-- The call has returned, or was cut short and its guards have acted. -/
def Over (call : Call α) : Prop := call.returned?.isSome ∨ (call.rest = none ∧ call.guards = [])

/-- One call was made in the body of the other. -/
def Nested (first second : Call α) : Prop := first.id ∈ second.outer ∨ second.id ∈ first.outer

end Call

structure World (α : Type) where
  locks : AdvisoryLocks
  localLocks : LocalLocks
  /-- All calls that were ever made. -/
  calls : List (Call α)
  /-- The holds that a session has taken on its own, outside of all runs. -/
  direct : Nat → Int → Nat

namespace World

def empty : World α := ⟨.none, .none, [], fun _ _ => 0⟩

/-- No call in progress uses the session. -/
def Idle (world : World α) (session : Nat) : Prop :=
  ∀ call ∈ world.calls, call.session = session → call.Over

/-- No call in progress was made in the body of this one. -/
def Innermost (world : World α) (call : Call α) : Prop :=
  ∀ other ∈ world.calls, call.id ∈ other.outer → other.Over

/-- A new call. -/
def made (world : World α) (id : Nat) (outer : List Nat) (session : Nat) (held : List LocalKey) (key : LocalKey) :
    World α :=
  { world with calls := world.calls ++ [⟨id, outer, session, key, [], some (exclusive held key)⟩] }

def countDirect (world : World α) (session : Nat) (lock : Int) (count : Nat) : Nat → Int → Nat :=
  fun other id => if session = other ∧ lock = id then count else world.direct other id

end World

/-- One step of one call, or of a session outside of all runs, which is nobody's. -/
inductive Step : World α → Option Nat → World α → Prop
  /-- A task outside of all bodies makes a call, through a session that no other call uses. -/
  | make {world : World α} {id session : Nat} {key : LocalKey}
      (fresh : ∀ call ∈ world.calls, call.id ≠ id) (idle : world.Idle session) :
      Step world (some id) (world.made id [] session [] key)
  /-- A body makes a call. The session is that of a call around it, all calls of which are around it too, or one that
  no call uses. -/
  | nest {world : World α} {id session : Nat} {key : LocalKey} {call : Call α} {held : List LocalKey}
      (present : call ∈ world.calls) (running : call.body? = some held)
      (fresh : ∀ other ∈ world.calls, other.id ≠ id)
      (lent : ∀ other ∈ world.calls, other.session = session → other.Over ∨ other.id ∈ call.id :: call.outer) :
      Step world (some id) (world.made id (call.id :: call.outer) session held key)
  | takeLocal {world : World α} {before after : List (Call α)} {call : Call α} {key : LocalKey} {next}
      (present : world.calls = before ++ call :: after) (asks : call.rest = some (.ask (.takeLocal key) next)) :
      Step world (some call.id) { world with
        localLocks := (world.localLocks.tryTake key).2
        calls := before ++ { call with rest := some (next (world.localLocks.tryTake key).1) } :: after }
  | freeLocal {world : World α} {before after : List (Call α)} {call : Call α} {key : LocalKey} {next}
      (present : world.calls = before ++ call :: after) (asks : call.rest = some (.ask (.freeLocal key) next)) :
      Step world (some call.id) { world with
        localLocks := world.localLocks.free key
        calls := before ++ { call with rest := some (next ()) } :: after }
  | tryAdvisory {world : World α} {before after : List (Call α)} {call : Call α} {lock : Int} {next}
      (present : world.calls = before ++ call :: after) (asks : call.rest = some (.ask (.tryAdvisory lock) next)) :
      Step world (some call.id) { world with
        locks := (world.locks.tryLock call.session lock).2
        calls := before ++ { call with rest := some (next (.ok (world.locks.tryLock call.session lock).1)) } :: after }
  | unlock {world : World α} {before after : List (Call α)} {call : Call α} {lock : Int} {next}
      (present : world.calls = before ++ call :: after) (asks : call.rest = some (.ask (.unlock lock) next)) :
      Step world (some call.id) { world with
        locks := (world.locks.unlock call.session lock).2
        calls := before ++ { call with rest := some (next (.ok (world.locks.unlock call.session lock).1)) } :: after }
  | abandon {world : World α} {before after : List (Call α)} {call : Call α} {lock : Int} {next}
      (present : world.calls = before ++ call :: after) (asks : call.rest = some (.ask (.abandon lock) next)) :
      Step world (some call.id) { world with
        locks := (world.locks.unlock call.session lock).2
        calls := before ++ { call with rest := some (next ()) } :: after }
  | arm {world : World α} {before after : List (Call α)} {call : Call α} {guard : Guard} {next}
      (present : world.calls = before ++ call :: after) (asks : call.rest = some (.ask (.arm guard) next)) :
      Step world (some call.id) { world with
        calls := before ++ { call with guards := guard :: call.guards, rest := some (next ()) } :: after }
  | disarm {world : World α} {before after : List (Call α)} {call : Call α} {next}
      (present : world.calls = before ++ call :: after) (asks : call.rest = some (.ask .disarm next)) :
      Step world (some call.id) { world with
        calls := before ++ { call with guards := call.guards.tail, rest := some (next ()) } :: after }
  /-- The body ends, well or badly; the calls that it made are over by then. -/
  | finish {world : World α} {before after : List (Call α)} {call : Call α} {held : List LocalKey} {next}
      (present : world.calls = before ++ call :: after) (asks : call.rest = some (.ask (.body held) next))
      (innermost : world.Innermost call) (result : Except Error α) :
      Step world (some call.id) { world with calls := before ++ { call with rest := some (next result) } :: after }
  /-- The call is cut short in its body; the calls that were made in it were cut short before. -/
  | cancelBody {world : World α} {before after : List (Call α)} {call : Call α} {held : List LocalKey} {next}
      (present : world.calls = before ++ call :: after) (asks : call.rest = some (.ask (.body held) next))
      (innermost : world.Innermost call) :
      Step world (some call.id) { world with calls := before ++ { call with rest := none } :: after }
  /-- The call is cut short when its body has ended. -/
  | cancelRelease {world : World α} {before after : List (Call α)} {call : Call α} {lock : Int} {next}
      (present : world.calls = before ++ call :: after) (asks : call.rest = some (.ask (.unlock lock) next)) :
      Step world (some call.id) { world with calls := before ++ { call with rest := none } :: after }
  /-- A guard of a call that was cut short frees the local lock. -/
  | guardLocal {world : World α} {before after : List (Call α)} {call : Call α} {key : LocalKey} {guards : List Guard}
      (present : world.calls = before ++ call :: after) (dropped : call.rest = none)
      (acts : call.guards = .freeLocal key :: guards) :
      Step world (some call.id) { world with
        localLocks := world.localLocks.free key
        calls := before ++ { call with guards := guards } :: after }
  /-- A guard of a call that was cut short gives up the advisory lock. -/
  | guardAdvisory {world : World α} {before after : List (Call α)} {call : Call α} {lock : Int} {guards : List Guard}
      (present : world.calls = before ++ call :: after) (dropped : call.rest = none)
      (acts : call.guards = .abandon lock :: guards) :
      Step world (some call.id) { world with
        locks := (world.locks.unlock call.session lock).2
        calls := before ++ { call with guards := guards } :: after }
  /-- A session outside of all runs tries to take a lock. -/
  | takeDirect {world : World α} {session : Nat} {lock : Int} (idle : world.Idle session) :
      Step world none { world with
        locks := (world.locks.tryLock session lock).2
        direct := world.countDirect session lock
          (world.direct session lock + (world.locks.tryLock session lock).1.toNat) }
  /-- A session outside of all runs releases a lock. -/
  | releaseDirect {world : World α} {session : Nat} {lock : Int} (idle : world.Idle session) :
      Step world none { world with
        locks := (world.locks.unlock session lock).2
        direct := world.countDirect session lock
          (world.direct session lock - (world.locks.unlock session lock).1.toNat) }
  /-- A session ends, and with it all that it has taken. -/
  | closeSession {world : World α} {session : Nat} (idle : world.Idle session) :
      Step world none { world with
        locks := world.locks.closeSession session
        direct := fun other lock => if session = other then 0 else world.direct other lock }

/-- A step with the worlds before and after it. -/
structure Transition (α : Type) where
  before : World α
  /-- The call that took the step. -/
  actor : Option Nat
  after : World α

/-- The transitions that lead from the empty world to another one, last ones first. -/
inductive History : List (Transition α) → World α → Prop
  | empty : History [] .empty
  | step {past : List (Transition α)} {world next : World α} {actor : Option Nat}
      (earlier : History past world) (last : Step world actor next) :
      History (⟨world, actor, next⟩ :: past) next

end LeaseQueue.Interleaving
