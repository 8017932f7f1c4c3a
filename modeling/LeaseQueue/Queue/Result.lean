import LeaseQueue.Queue.Basic

/-!
What sends and mutations report.
-/
namespace LeaseQueue

/-- A run of messages of a batch, from `first` up to but not including `stop`, that was not written. -/
structure SendFailure where
  first : Nat
  stop : Nat
  error : Error
deriving DecidableEq

namespace SendFailure

def indexes (failure : SendFailure) : List Nat := List.range' failure.first (failure.stop - failure.first)

end SendFailure

structure SendResult where
  /-- One entry for each message of the batch: its id, if it was written. -/
  ids : List (Option MessageId)
  failures : List SendFailure
deriving DecidableEq

namespace SendResult

def empty : SendResult := ⟨[], []⟩

/-- Adds a chunk that was written. -/
def addSent (result : SendResult) (ids : List MessageId) : SendResult :=
  { result with ids := result.ids ++ ids.map some }

/-- Adds the next `count` messages of the batch as not written. -/
def addFailed (result : SendResult) (count : Nat) (error : Error) : SendResult :=
  let first := result.ids.length
  ⟨result.ids ++ List.replicate count none, result.failures ++ [⟨first, first + count, error⟩]⟩

/-- All messages of a batch failed together. -/
def allFailed (count : Nat) (error : Error) : SendResult := empty.addFailed count error

/-- The ids of the written messages. -/
def sent (result : SendResult) : List MessageId := result.ids.filterMap id

def failedCount (result : SendResult) : Nat := (result.failures.flatMap fun failure => failure.indexes).length

/-- The positions of the messages that were not written. -/
def failedIndexes (result : SendResult) : List Nat := result.failures.flatMap SendFailure.indexes

/-- All ids if nothing failed, and the first error otherwise. -/
def toExcept (result : SendResult) : Except Error (List MessageId) :=
  match result.failures with
  | failure :: _ => .error failure.error
  | [] => .ok result.sent

end SendResult

/-- What became of one message that was to be changed. -/
inductive MutationOutcome
  | mutated (id : MessageId) (scheduledAt : Instant) (remaining : Int)
  | notFound (id : MessageId)
deriving DecidableEq, Repr

namespace MutationOutcome

def mutatedCount (outcomes : List MutationOutcome) : Nat :=
  outcomes.countP fun
    | mutated _ _ _ => true
    | notFound _ => false

/-- The messages that were gone. -/
def notFoundIds (outcomes : List MutationOutcome) : List MessageId :=
  outcomes.filterMap fun
    | mutated _ _ _ => none
    | notFound id => some id

end MutationOutcome

end LeaseQueue
