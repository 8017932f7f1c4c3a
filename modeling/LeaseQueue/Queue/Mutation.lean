import LeaseQueue.Time

/-!
Changes to stored messages: each one writes the attempts or the schedule, relative to the old value or outright.
-/
namespace LeaseQueue

inductive Mutation
  /-- Raises or lowers the remaining attempts. -/
  | addAttempts (delta : Int)
  | setAttempts (attempts : Int)
  /-- Moves the schedule back by a duration. -/
  | addSchedule (delta : Duration)
  /-- Schedules the message a duration from now. -/
  | setSchedule (delay : Duration)
deriving DecidableEq, Repr

/-- The two columns that a mutation can write. -/
inductive MutatedColumn
  | attempts
  | schedule
deriving DecidableEq, Repr

namespace Mutation

def column : Mutation → MutatedColumn
  | addAttempts _ | setAttempts _ => .attempts
  | addSchedule _ | setSchedule _ => .schedule

def text : Mutation → String
  | addAttempts delta => s!"AddRemainingAttempts({delta})"
  | setAttempts attempts => s!"SetRemainingAttempts({attempts})"
  | addSchedule delta => s!"AddScheduledAt({delta.text})"
  | setSchedule delay => s!"SetScheduledAt({delay.text})"

def listText (mutations : List Mutation) : String :=
  let items := String.intercalate ", " (mutations.map text)
  s!"[{items}]"

end Mutation

end LeaseQueue
