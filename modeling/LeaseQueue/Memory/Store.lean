import LeaseQueue.Memory.Database
import LeaseQueue.Queue.Batch
import LeaseQueue.Queue.Store

/-!
The queue store of an in-memory database.
-/
namespace LeaseQueue

/-- A duration as a span of the calendar's arithmetic. -/
def checkSpan (duration : Duration) : Except Error Duration :=
  if duration ≤ longestSpan then .ok duration else refuse (.durationOutOfRange duration)

/-- The rows of a batch that are not visible yet, and the sequence that gave them their ids. -/
structure Staging where
  sequence : IdSequence
  rows : List StoredMessage

/-- A step of a send. -/
abbrev Stage := ExceptT Overflow (StateM Staging)

namespace Stage

/-- Checks the messages of a chunk, each with its values before its delay. -/
def delays (queue : Queue) : List NewMessage → Except Error (List (Duration × NewMessage))
  | [] => .ok []
  | message :: rest => do
    queue.checkMessage message
    let delay ← checkSpan (queue.delayOf message)
    let others ← delays queue rest
    .ok ((delay, message) :: others)

/-- The rows of checked messages. An id is used up even if the schedule then overflows. -/
def rows (queue : Queue) (shard : Int) (now : Instant) :
    List (Duration × NewMessage) → Stage (Except Error (List StoredMessage))
  | [] => pure (.ok [])
  | (delay, message) :: rest => do
    let (minted, sequence) := (← get).sequence.mint
    modify fun staging => { staging with sequence := sequence }
    match minted with
    | .error failure => pure (.error failure)
    | .ok id =>
      match now.add delay with
      | .error overflow => throw overflow
      | .ok due =>
        let row := ⟨id, shard, now, due, none, queue.attemptsOf message, message.payload, message.metadata⟩
        return (← rows queue shard now rest).map (row :: ·)

/-- Stages one chunk, or nothing of it. -/
def chunk (queue : Queue) (shard : Int) (now : Instant) (messages : List NewMessage) :
    Stage (Except Error (List MessageId)) := do
  match delays queue messages with
  | .error failure => pure (.error failure)
  | .ok checked =>
    match ← rows queue shard now checked with
    | .error failure => pure (.error failure)
    | .ok staged =>
      modify fun staging => { staging with rows := staging.rows ++ staged }
      pure (.ok (staged.map StoredMessage.address))

end Stage

namespace Run

/-- The table of a queue; a new one starts its own sequence. -/
def openTable (queue : QueueName) : Run (Except Error Table) := do
  let database ← get
  match database.table? queue with
  | some table => pure (.ok table)
  | none =>
    match IdSequence.start database.layout database.bucket with
    | .error failure => pure (.error failure)
    | .ok sequence =>
      set (database.setTable queue ⟨sequence, []⟩)
      pure (.ok ⟨sequence, []⟩)

/-- Stages all chunks and then makes the staged rows visible, unless the batch is given up. Ids that were minted are
used up in any case. -/
def place (queue : Queue) (shard : Int) (messages : List NewMessage) (options : SendOptions) (now : Instant)
    (table : Table) : Run SendResult := do
  let batch := placeChunks options.partialInsert messages.length (Stage.chunk queue shard now) .empty
    (chunks options.batchSize messages)
  match batch.run.run ⟨table.sequence, []⟩ with
  | (.error overflow, staging) =>
    modify fun database => database.setTable queue.name { table with sequence := staging.sequence }
    throw overflow
  | (.ok placement, staging) =>
    let rows := if placement.keep then Table.extend table.rows staging.rows else table.rows
    modify fun database => database.setTable queue.name ⟨staging.sequence, rows⟩
    pure placement.result

def sendBatched (queue : Queue) (shard : Int) (messages : List NewMessage) (options : SendOptions) :
    Run (Except Error SendResult) := do
  match options.validate with
  | .error failure => pure (.error failure)
  | .ok () =>
    if messages.isEmpty then pure (.ok .empty)
    else
      let instant ← now
      match ← openTable queue.name with
      | .error failure => pure (.error failure)
      | .ok table => return .ok (← place queue shard messages options instant table)

/-- Leases the chosen rows. If the lease would end outside the calendar, the first of them is marked as leased
before the overflow. -/
def leaseRows (queue : QueueName) (table : Table) (now : Instant) (visibility : Duration)
    (chosen : List StoredMessage) : Run (List LeasedMessage) := do
  match chosen, now.add visibility with
  | [], _ => pure []
  | first :: _, .error overflow =>
    modify fun database => database.setTable queue (table.replace { first with processingAt := some now })
    throw overflow
  | _, .ok expiry =>
    let leased := chosen.map fun row => row.lease now expiry
    modify fun database => database.setTable queue (leased.foldl Table.replace table)
    pure (leased.map fun row => row.leased now)

def receive (engine : SweepEngine) (drawn : Bool) (queue : Queue) (options : ReceiveOptions) :
    Run (Except Error (List LeasedMessage)) := do
  if options.limit = 0 then return refuse .receiveLimit
  match checkSpan (queue.visibilityOf options) with
  | .error failure => return .error failure
  | .ok visibility =>
    let _ ← inSession fun session => engine.sweepIf drawn (sweepTarget session) queue.name options.limit
    let instant ← now
    match (← get).table? queue.name with
    | none => return .ok []
    | some table =>
      match table.choose instant options with
      | .error failure => return .error failure
      | .ok chosen => return .ok (← leaseRows queue.name table instant visibility chosen)

def delete (queue : Queue) (ids : List MessageId) : Run (Except Error Nat) := do
  let database ← get
  match database.table? queue.name with
  | none => pure (.ok 0)
  | some table =>
    let (removed, kept) := table.delete ids
    set (database.setTable queue.name kept)
    pure (.ok removed)

/-- Checks the durations of mutations in order. -/
def checkMutation : Mutation → Except Error Unit
  | .addSchedule duration | .setSchedule duration => do let _ ← checkSpan duration
  | .addAttempts _ | .setAttempts _ => .ok ()

def mutate (queue : Queue) (mutations : List Mutation) (ids : List MessageId) :
    Run (Except Error (List MutationOutcome)) := do
  match Mutation.validateAll mutations >>= fun _ => mutations.forM checkMutation with
  | .error failure => pure (.error failure)
  | .ok () =>
    let instant ← now
    let database ← get
    match database.table? queue.name with
    | none => pure (.ok (ids.map .notFound))
    | some table =>
      let (outcomes, changed) := table.mutateAll instant mutations ids
      set (database.setTable queue.name changed)
      match outcomes with
      | .ok reported => pure (.ok reported)
      | .error overflow => throw overflow

/-- Looks at a table at the present time. Without a table the clock is read all the same. -/
def view {α : Type} (queue : Queue) (absent : α) (look : Instant → Table → Except Error α) :
    Run (Except Error α) := do
  let instant ← now
  match (← get).table? queue.name with
  | none => pure (.ok absent)
  | some table => pure (look instant table)

def count (queue : Queue) (filter : Option Condition) : Run (Except Error MessageCounts) :=
  view queue .zero fun instant table => table.count instant filter

def isEmpty (queue : Queue) : Run (Except Error Bool) := do
  return .ok ((← get).rowCount queue.name == 0)

def isDeadOrEmpty (queue : Queue) : Run (Except Error Bool) :=
  view queue true fun instant table => .ok (table.isDeadOrEmpty instant)

def messageAge (queue : Queue) : Run (Except Error MessageAge) :=
  view queue .none fun instant table => .ok (table.messageAge instant)

/-- Values are counted exactly, whatever the sample. -/
def distinctValues (queue : Queue) (column : String) (limit : Nat) (options : DistinctOptions) :
    Run (Except Error (List DistinctValue)) := do
  let database ← get
  pure do
    let _ ← queue.requireColumn column
    options.validate
    require (limit ≠ 0) .distinctLimit
    match database.table? queue.name with
    | none => .ok []
    | some table => table.distinctValues column limit options

def sweep (engine : SweepEngine) (queue : Queue) (hint : Nat) : Run (Except Error SweepOutcome) :=
  inSession fun session => engine.sweep (sweepTarget session) queue.name hint

/-- The store as a sweep engine sees it; `drawn` says whether the next receive sweeps. -/
def store (engine : SweepEngine) (drawn : Bool) : QueueStore Run where
  sendBatched := sendBatched
  receive := receive engine drawn
  delete := delete
  mutate := mutate
  count := count
  isEmpty := isEmpty
  isDeadOrEmpty := isDeadOrEmpty
  messageAge := messageAge
  distinctValues := distinctValues
  sweep := sweep engine

end Run

end LeaseQueue
