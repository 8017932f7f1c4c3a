import LeaseQueue.Queue.Batch
import LeaseQueue.Queue.Store
import LeaseQueue.Sql.Sweep

/-!
The queue store of an SQL database.
-/
namespace LeaseQueue.Sql.Action

/-- Inserts messages, one statement each. -/
def insertMessages (queue : Queue) (shard : Int) : List NewMessage → Action (Except Error (List MessageId))
  | [] => pure (.ok [])
  | message :: rest => do
    match checkMillis (queue.delayOf message) with
    | .error failure => pure (.error failure)
    | .ok delay =>
      let row ← fetchOne "insert message failed" (insertStatement queue shard message delay)
      match row.bind fun row => row.required MessageColumn.id.text Cell.bigInt? with
      | .error failure => pure (.error failure)
      | .ok id => return (← insertMessages queue shard rest).map (⟨id, shard⟩ :: ·)

/-- Inserts a chunk after checking all of its messages. -/
def insertChunk (queue : Queue) (shard : Int) (chunk : List NewMessage) : Action (Except Error (List MessageId)) :=
  match chunk.forM queue.checkMessage with
  | .error failure => pure (.error failure)
  | .ok () => insertMessages queue shard chunk

/-- Inserts a chunk, in a savepoint if others may stay without it. -/
def writeChunk (queue : Queue) (shard : Int) (mode : PartialInsert) (chunk : List NewMessage) :
    Action (Except Error (List MessageId)) :=
  match mode with
  | .prohibited => insertChunk queue shard chunk
  | _ => inSavepoint "begin send chunk failed" "commit send chunk failed" (insertChunk queue shard chunk)

def sendBatched (queue : Queue) (shard : Int) (messages : List NewMessage) (options : SendOptions) :
    Action (Except Error SendResult) := do
  match options.validate with
  | .error failure => pure (.error failure)
  | .ok () =>
    if messages.isEmpty then pure (.ok .empty)
    else if ← begin then
      let mode := options.partialInsert
      let placement ← placeChunks mode messages.length (writeChunk queue shard mode) .empty
        (chunks options.batchSize messages)
      if placement.keep then
        if ← commit then pure (.ok placement.result) else pure (failed "commit send failed")
      else
        let _ ← rollback
        pure (.ok placement.result)
    else pure (failed "begin send failed")

/-- Reads the metadata of a message in the order in which the columns are declared. -/
def readMeta (row : Row) : List MetaColumn → Except Error Meta
  | [] => .ok ∅
  | column :: rest => do
    let found ← row.optional column.field.column (Cell.value? column.type)
    let others ← readMeta row rest
    .ok (match found with
      | some datum => others.insert column.field.column (column.type.value datum)
      | none => others)

def readMessage (queue : Queue) (row : Row) : Except Error LeasedMessage := do
  let id ← row.required MessageColumn.id.text Cell.bigInt?
  let shard ← row.required MessageColumn.shard.text Cell.int?
  let metadata ← readMeta row queue.columns
  let createdAt ← row.required MessageColumn.createdAt.text Cell.time?
  let processingAt ← row.required MessageColumn.processingAt.text Cell.time?
  let scheduledAt ← row.required MessageColumn.scheduledAt.text Cell.time?
  let remaining ← row.required MessageColumn.remainingAttempts.text Cell.int?
  let payload ← row.required MessageColumn.payload.text Cell.bytes?
  .ok ⟨⟨id, shard⟩, createdAt, processingAt, scheduledAt, remaining, payload, metadata⟩

/-- Leases messages. The transaction is committed only if all of them could be read. -/
def receive (engine : SweepEngine) (drawn : Bool) (queue : Queue) (options : ReceiveOptions) :
    Action (Except Error (List LeasedMessage)) := do
  if options.limit = 0 then return refuse .receiveLimit
  match checkMillis (queue.visibilityOf options) with
  | .error failure => return .error failure
  | .ok visibility =>
    inTransaction "begin receive failed" "commit receive failed" do
      let _ ← engine.sweepIf drawn inline queue.name options.limit
      let leased ← execute "receive messages failed" (leaseStatement queue options visibility)
      return leased.bind fun result => result.rows.mapM (readMessage queue)

def delete (queue : Queue) (ids : List MessageId) : Action (Except Error Nat) := do
  if ids.isEmpty then return .ok 0
  return (← execute "delete messages failed" (deleteStatement queue ids)).map ResultSet.affected

/-- A row that a mutation wrote. -/
def readMutated (row : Row) : Except Error (MessageId × Instant × Int) := do
  let id ← row.required MessageColumn.id.text Cell.bigInt?
  let shard ← row.required MessageColumn.shard.text Cell.int?
  let scheduledAt ← row.required MessageColumn.scheduledAt.text Cell.time?
  let remaining ← row.required MessageColumn.remainingAttempts.text Cell.int?
  .ok (⟨id, shard⟩, scheduledAt, remaining)

/-- Finds each message among the rows that were written; of several rows of one message the last counts. -/
def matchMutated (written : List (MessageId × Instant × Int)) (ids : List MessageId) : List MutationOutcome :=
  ids.map fun id =>
    match written.reverse.lookup id with
    | some (scheduledAt, remaining) => .mutated id scheduledAt remaining
    | none => .notFound id

/-- Changes messages. The rows are read only after the change is committed. -/
def mutate (queue : Queue) (mutations : List Mutation) (ids : List MessageId) :
    Action (Except Error (List MutationOutcome)) := do
  match Mutation.validateAll mutations with
  | .error failure => return .error failure
  | .ok () =>
    if ids.isEmpty then return .ok []
    match mutateStatement queue mutations ids with
    | .error failure => return .error failure
    | .ok statement =>
      let changed ← inTransaction "begin mutate failed" "commit mutate failed"
        (execute "mutate messages failed" statement)
      return changed.bind fun result => return matchMutated (← result.rows.mapM readMutated) ids

def count (queue : Queue) (filter : Option Condition) : Action (Except Error MessageCounts) := do
  let row ← fetchOne "count messages failed" (countStatement queue filter)
  return row.bind fun row => do
    let read (state : MessageState) := row.required state.name Cell.bigInt?
    .ok ⟨← read .scheduled, ← read .ready, ← read .inFlight, ← read .retry, ← read .dead⟩

def isEmpty (queue : Queue) : Action (Except Error Bool) :=
  fetchValue "is_empty failed" (isEmptyStatement queue) Cell.bool?

def isDeadOrEmpty (queue : Queue) : Action (Except Error Bool) :=
  fetchValue "is_dead_or_empty failed" (isDeadOrEmptyStatement queue) Cell.bool?

def messageAge (queue : Queue) : Action (Except Error MessageAge) := do
  let row ← fetchOne "message age failed" (messageAgeStatement queue)
  return row.bind fun row => do
    let read (column : String) := return (← row.optional column Cell.double?).map MessageAge.ofSeconds
    .ok ⟨← read "oldest", ← read "newest", ← read "oldest_ready"⟩

/-- The share of the table to read; chosen by the size of the table unless it is given. -/
def sampleShare (queue : Queue) : Sample → Action (Except Error Single)
  | .percent share => pure (.ok share)
  | .auto => do
    let pages ← fetchValue "read table size failed" (pagesStatement queue) Cell.bigInt?
    return pages.map samplePercentForPages

/-- Reads a value with its count, scaled up from the sample. -/
def readDistinct (type : ValueType) (share : Single) (row : Row) : Except Error DistinctValue := do
  let found ← row.optional "value" (Cell.value? type)
  let total ← row.required "total" Cell.bigInt?
  .ok ⟨found.map type.value, scaleCount total share⟩

def distinctValues (queue : Queue) (column : String) (limit : Nat) (options : DistinctOptions) :
    Action (Except Error (List DistinctValue)) := do
  let checked : Except Error MetaColumn := do
    let declared ← queue.requireColumn column
    options.validate
    require (limit ≠ 0) .distinctLimit
    .ok declared
  match checked with
  | .error failure => pure (.error failure)
  | .ok declared =>
    match ← sampleShare queue options.sample with
    | .error failure => pure (.error failure)
    | .ok share =>
      let found ← execute "distinct values failed" (distinctStatement queue declared limit options share)
      return found.bind fun result => result.rows.mapM (readDistinct declared.type share)

/-- The store as a sweep engine sees it; `drawn` says whether the next receive sweeps. -/
def store (engine : SweepEngine) (drawn : Bool) : QueueStore Action where
  sendBatched := sendBatched
  receive := receive engine drawn
  delete := delete
  mutate := mutate
  count := count
  isEmpty := isEmpty
  isDeadOrEmpty := isDeadOrEmpty
  messageAge := messageAge
  distinctValues := distinctValues
  sweep queue hint := engine.sweep standalone queue.name hint

end LeaseQueue.Sql.Action
