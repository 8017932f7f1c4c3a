import LeaseQueue.Lock.Advisory
import LeaseQueue.Sweep.Engine

/-!
Scenarios of exclusive runs. Sessions fail as their script says, bodies are data, and everything that the sessions
are asked is logged. A body that never ends makes its whole run be dropped, from the inside outwards. A task that was
spawned is not dropped with the run that waits for it: it stays where it is, and so do its holds.
-/
namespace LeaseQueue.Scenario

/-- What a session does when it is asked to release a lock. -/
inductive UnlockScript
  | release
  /-- Fails and releases nothing. -/
  | fail
  /-- Finds that the lock was lost before. -/
  | lose
deriving DecidableEq, Repr

structure SessionScript where
  name : String
  /-- Whether taking a lock fails. -/
  tryFails : Bool
  unlocking : UnlockScript
  /-- Dead rows that a sweep through this session finds. -/
  dead : Nat
  /-- Deletes that succeed before all others fail; all of them if absent. -/
  goodDeletes : Option Nat
deriving DecidableEq, Repr

/-- One thing that a session was asked; an absent answer is a failure. -/
inductive Event
  | tried (session : String) (lock : Int) (answer : Option Bool)
  | unlocked (session : String) (lock : Int) (answer : Option Bool)
  | abandoned (session : String) (lock : Int)
  | deleted (session : String) (limit : Nat) (queue : String) (removed : Option Nat)
  /-- A body came to a stop. -/
  | hung
deriving DecidableEq, Repr

/-- A part of a body. `ν` is what notes are made of. -/
inductive BodyStep (ν : Type)
  /-- An exclusive run through the same session. -/
  | run (manager : String) (lock : Int) (body : List (BodyStep ν))
  /-- An exclusive run of the same task through a session of its own. -/
  | other (script : SessionScript) (manager : String) (lock : Int) (body : List (BodyStep ν))
  /-- The same in a task of its own, which holds no local locks yet. -/
  | spawn (script : SessionScript) (manager : String) (lock : Int) (body : List (BodyStep ν))
  /-- Whether any session holds a lock. -/
  | held (lock : Int)
  | note (content : ν)
  /-- Ends the body with an error. -/
  | fail (reason : String)
  /-- Never ends. -/
  | hang

/-- What came of a part of a body. -/
inductive BodyResult (ν : Type)
  /-- The results of a nested run; absent if it missed its lock. -/
  | ran (results : Option (List (BodyResult ν)))
  | failed (error : Error)
  | held (isHeld : Bool)
  | note (content : ν)

/-- A session that was opened. -/
structure Session where
  script : SessionScript
  /-- Its number among the sessions of the database. -/
  number : Nat
  /-- Dead rows that are left. -/
  dead : Nat
  /-- Deletes so far that succeeded. -/
  deletes : Nat

structure World where
  locks : AdvisoryLocks
  localLocks : LocalLocks
  /-- The open sessions that go by a name. -/
  sessions : List Session
  /-- What happened, last things first. -/
  log : List Event

def World.empty : World := ⟨.none, .none, [], []⟩

/-- How a task ends when it has come to a stop. -/
inductive Stop
  /-- It is dropped, and its guards act. -/
  | dropped
  /-- It was spawned and stays as it is. -/
  | stuck
deriving DecidableEq, Repr

/-- Something that happens in a world. -/
abbrev Scene := ExceptT Stop (StateM World)

namespace Scene

def record (event : Event) : Scene Unit := modify fun world => { world with log := event :: world.log }

def onLocks {α : Type} (step : AdvisoryLocks → α × AdvisoryLocks) : Scene α :=
  modifyGet fun world =>
    let (answer, locks) := step world.locks
    (answer, { world with locks := locks })

def onLocalLocks {α : Type} (step : LocalLocks → α × LocalLocks) : Scene α :=
  modifyGet fun world =>
    let (answer, locks) := step world.localLocks
    (answer, { world with localLocks := locks })

def isHeld (lock : Int) : Scene Bool := do return (← get).locks.isHeld lock

/-- Releases every hold that a session has on a lock, without a word. -/
def lose (session : Session) (lock : Int) : Scene Unit :=
  onLocks fun locks => ((), { locks with
    holds := locks.holds.filter fun held hold => held ≠ lock || hold.session ≠ session.number })

def tryLock (session : Session) (lock : Int) : Scene (Except Error Bool) := do
  if session.script.tryFails then
    record (.tried session.script.name lock none)
    pure (refuse (.reason "try failed"))
  else
    let taken ← onLocks fun locks => locks.tryLock session.number lock
    record (.tried session.script.name lock (some taken))
    pure (.ok taken)

def unlock (session : Session) (lock : Int) : Scene (Except Error Bool) := do
  match session.script.unlocking with
  | .fail =>
    record (.unlocked session.script.name lock none)
    return refuse (.reason "unlock failed")
  | .lose => lose session lock
  | .release => pure ()
  let released ← onLocks fun locks => locks.unlock session.number lock
  record (.unlocked session.script.name lock (some released))
  return .ok released

/-- Gives up a lock by releasing it once. -/
def abandon (session : Session) (lock : Int) : Scene Unit := do
  record (.abandoned session.script.name lock)
  onLocks fun locks => ((), (locks.unlock session.number lock).2)

def freeLocal (key : LocalKey) : Scene Unit := onLocalLocks fun locks => ((), locks.free key)

/-- The session as it is by now. -/
def current (session : Session) : Scene Session := do
  return ((← get).sessions.find? fun opened => opened.number = session.number).getD session

/-- Removes dead rows until the script has no good deletes left. -/
def deleteDead (session : Session) (queue : QueueName) (limit : Nat) : Scene (Except Error Nat) := do
  let opened ← current session
  if opened.script.goodDeletes.all fun allowed => opened.deletes < allowed then
    let removed := min limit opened.dead
    let changed := { opened with dead := opened.dead - removed, deletes := opened.deletes + 1 }
    modify fun world => { world with
      sessions := world.sessions.map fun kept => if kept.number = changed.number then changed else kept }
    record (.deleted session.script.name limit queue.text (some removed))
    pure (.ok removed)
  else
    record (.deleted session.script.name limit queue.text none)
    pure (.error (.persistence (.failed "disk on fire")))

/-- Runs an action, and cleans up if it is dropped. -/
def cleaned {α : Type} (cleanup : Scene Unit) (action : Scene α) : Scene α :=
  tryCatch action fun stop => do
    if stop = .dropped then cleanup
    throw stop

/-- The session as a sweep sees it. -/
def tiers (session : Session) : SweepTarget Scene where
  takeLocal key := onLocalLocks fun locks => locks.tryTake key
  freeLocal := freeLocal
  tryAdvisory := tryLock session
  unlock := unlock session
  abandon := abandon session
  guarded
    | .freeLocal key, action => cleaned (freeLocal key) action
    | .abandon lock, action => cleaned (abandon session lock) action
  deleteDead := deleteDead session

/-- Opens a session. -/
def openSession (script : SessionScript) : Scene Session := do
  return ⟨script, ← onLocks AdvisoryLocks.openSession, script.dead, 0⟩

/-- Ends a session and with it its holds. -/
def closeSession (session : Session) : Scene Unit := onLocks fun locks => ((), locks.closeSession session.number)

/-- Runs an action in a session of its own, which has no name for others. -/
def inSession {α : Type} (script : SessionScript) (action : Session → Scene α) : Scene α := do
  let session ← openSession script
  let answer ← cleaned (closeSession session) (action session)
  closeSession session
  pure answer

/-- An exclusive run through a session; `held` are the local locks of the task. -/
def exclusive {α : Type} (session : Session) (held : List LocalKey) (manager : String) (lock : Int)
    (body : List LocalKey → Scene (Except Error α)) : Scene (Except Error (Option α)) :=
  (tiers session).tryRunExclusive held manager lock body

/-- What a nested run reports to the body around it. An error of its own does not end that body. -/
def report {ν : Type} : Except Error (Option (List (BodyResult ν))) → BodyResult ν
  | .ok results => .ran results
  | .error failure => .failed failure

mutual

/-- Runs one part of a body. An error ends the body. `held` are the local locks of the task, and `stop` is what
becomes of it if it stops. -/
def part {ν : Type} (session : Session) (stop : Stop) (held : List LocalKey) :
    BodyStep ν → Scene (Except Error (BodyResult ν))
  | .run manager lock steps => do
    return .ok (report (← exclusive session held manager lock fun held => body session stop held steps))
  | .other script manager lock steps => do
    return .ok (report (← inSession script fun session =>
      exclusive session held manager lock fun held => body session stop held steps))
  | .spawn script manager lock steps => do
    let task := inSession script fun session =>
      exclusive session [] manager lock fun held => body session .stuck held steps
    return .ok (report (← tryCatch task fun _ => throw stop))
  | .held lock => do return .ok (.held (← isHeld lock))
  | .note content => pure (.ok (.note content))
  | .fail reason => pure (refuse (.reason reason))
  | .hang => do
    record .hung
    throw stop

/-- Runs the parts of a body in order. -/
def body {ν : Type} (session : Session) (stop : Stop) (held : List LocalKey) :
    List (BodyStep ν) → Scene (Except Error (List (BodyResult ν)))
  | [] => pure (.ok [])
  | step :: rest => do
    match ← part session stop held step with
    | .error failure => pure (.error failure)
    | .ok result => return (← body session stop held rest).map (result :: ·)

end

/-- A run that is in no other, with the parts of its body. -/
def run {ν : Type} (session : Session) (manager : String) (lock : Int) (steps : List (BodyStep ν)) :
    Scene (Except Error (Option (List (BodyResult ν)))) :=
  exclusive session [] manager lock fun held => body session .dropped held steps

/-- The open session of a name. -/
def session? (name : String) : Scene (Option Session) := do
  return (← get).sessions.find? fun opened => opened.script.name = name

/-- Ends the session of a name, if there is one. -/
def drop (name : String) : Scene Bool := do
  match ← session? name with
  | none => pure false
  | some session =>
    modify fun world => { world with
      sessions := world.sessions.filter fun opened => opened.number ≠ session.number }
    closeSession session
    pure true

/-- Opens a session under its name. One that had the name is ended after that. -/
def reopen (script : SessionScript) : Scene Unit := do
  let session ← openSession script
  let _ ← drop script.name
  modify fun world => { world with sessions := session :: world.sessions }

end Scene

end LeaseQueue.Scenario
