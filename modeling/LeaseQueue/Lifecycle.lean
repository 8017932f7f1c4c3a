import LeaseQueue.Sql.Expr
import LeaseQueue.Time

/-!
The life of a message. Its state is not stored: it follows from whether the message was ever leased, when it is due
and how many attempts remain. The same boundaries are given once as a function of the clock and once as SQL predicates.
-/
namespace LeaseQueue

/-- The columns that every queue table has besides its metadata. -/
inductive MessageColumn
  | id
  | shard
  | createdAt
  | scheduledAt
  | processingAt
  | remainingAttempts
  | payload
deriving DecidableEq, Repr

def MessageColumn.all : List MessageColumn :=
  [id, shard, createdAt, scheduledAt, processingAt, remainingAttempts, payload]

def MessageColumn.text : MessageColumn → String
  | id => "id"
  | shard => "shard"
  | createdAt => "created_at"
  | scheduledAt => "scheduled_at"
  | processingAt => "processing_at"
  | remainingAttempts => "remaining_attempts"
  | payload => "data"

inductive MessageState
  /-- Never leased and not yet due. -/
  | scheduled
  /-- Never leased, due. -/
  | ready
  /-- Leased, and the lease has not run out. -/
  | inFlight
  /-- The lease has run out and attempts remain. -/
  | retry
  /-- Due, but without attempts; only a sweep touches it. -/
  | dead
deriving DecidableEq, Repr

namespace MessageState

def all : List MessageState := [scheduled, ready, inFlight, retry, dead]

/-- The name of the state where states are counted. -/
def name : MessageState → String
  | scheduled => "scheduled"
  | ready => "ready"
  | inFlight => "in_flight"
  | retry => "retry"
  | dead => "dead"

/-- A message counts as dead only once it is due, whatever its attempts. -/
def classify (processingAt : Option Instant) (scheduledAt : Instant) (remaining : Int) (now : Instant) :
    MessageState :=
  if scheduledAt ≤ now then
    if remaining ≤ 0 then .dead else if processingAt.isSome then .retry else .ready
  else if processingAt.isSome then .inFlight else .scheduled

/-- Whether a consumer may lease a message in this state. -/
def isReceivable : MessageState → Bool
  | ready | retry => true
  | _ => false

open Sql (Clock Expr Operand)

/-- The schedule has come. -/
def due (clock : Clock) : Expr := .compare (.column MessageColumn.scheduledAt.text) .le (.clock clock)

/-- The schedule is still to come. -/
def pending (clock : Clock) : Expr := .compare (.column MessageColumn.scheduledAt.text) .gt (.clock clock)

def attemptsLeft : Expr := .compare (.column MessageColumn.remainingAttempts.text) .gt (.number 0)

def attemptsSpent : Expr := .compare (.column MessageColumn.remainingAttempts.text) .le (.number 0)

def neverLeased : Expr := .isNull MessageColumn.processingAt.text

def leasedBefore : Expr := .isNotNull MessageColumn.processingAt.text

/-- What makes a row one that a consumer may lease. -/
def leasable (clock : Clock) : List Expr := [due clock, attemptsLeft]

/-- The rows in a state, at the time the transaction began. -/
def predicate : MessageState → Expr
  | scheduled => .all [neverLeased, pending .transaction]
  | ready => .all [neverLeased, due .transaction, attemptsLeft]
  | inFlight => .all [leasedBefore, pending .transaction]
  | retry => .all [leasedBefore, due .transaction, attemptsLeft]
  | dead => .all [due .transaction, attemptsSpent]

/-- The rows that a sweep removes. It reads the running clock, so that a long transaction still sees rows die. -/
def sweepPredicate : Expr := .all [attemptsSpent, due .wall]

end MessageState

/-- The number of messages in each state. -/
structure MessageCounts where
  scheduled : Int
  ready : Int
  inFlight : Int
  retry : Int
  dead : Int
deriving DecidableEq, Repr

namespace MessageCounts

def zero : MessageCounts := ⟨0, 0, 0, 0, 0⟩

def total (counts : MessageCounts) : Int :=
  counts.scheduled + counts.ready + counts.inFlight + counts.retry + counts.dead

def get (counts : MessageCounts) : MessageState → Int
  | .scheduled => counts.scheduled
  | .ready => counts.ready
  | .inFlight => counts.inFlight
  | .retry => counts.retry
  | .dead => counts.dead

/-- Counts one more message. -/
def record (counts : MessageCounts) : MessageState → MessageCounts
  | .scheduled => { counts with scheduled := counts.scheduled + 1 }
  | .ready => { counts with ready := counts.ready + 1 }
  | .inFlight => { counts with inFlight := counts.inFlight + 1 }
  | .retry => { counts with retry := counts.retry + 1 }
  | .dead => { counts with dead := counts.dead + 1 }

def ofStates (states : List MessageState) : MessageCounts := states.foldl record zero

/-- Adds up counts taken over disjoint sets of messages. -/
def merge (first second : MessageCounts) : MessageCounts :=
  ⟨first.scheduled + second.scheduled, first.ready + second.ready, first.inFlight + second.inFlight,
    first.retry + second.retry, first.dead + second.dead⟩

end MessageCounts

end LeaseQueue
