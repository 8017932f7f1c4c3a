import LeaseQueue.Meta.Value
import LeaseQueue.Queue.Mutation
import LeaseQueue.Text.Quoted

/-!
Why a call can fail. Every cause keeps the data it is about; the wording is `Error.message`.
-/
namespace LeaseQueue

/-- An argument or a setting that is refused. -/
inductive ConfigFault
  | emptyQueueName
  | queueNameStart (start name : String)
  | longQueueName (name : String)
  | queueNameSymbols (name : String)
  | emptyFieldName
  | longFieldName (field : String)
  | fieldNameSymbols (field : String)
  | bucketOutOfRange (bucket maxBucket : Int)
  | negativeMaxBucket (maxBucket : Int)
  | shardBelowOne (shard : Int)
  | shardOutOfRange (shard shardCount : Int)
  | maxRows (rows : Nat)
  | maxIterations (iterations : Nat)
  | probability (percent : Double)
  | shardCount (count : Int)
  | shardInsertBatch
  | serverIdLength (length : Nat)
  | defaultAttempts (attempts : Int)
  | batchSize
  | samplePercent (percent : Single)
  | attempts (attempts : Int)
  | undeclaredColumn (queue column : String)
  | mistypedColumn (queue column : String) (declared given : ValueType)
  | noMutation
  | repeatedMutation (mutations : List Mutation)
  | receiveLimit
  | distinctLimit
  | notMetaColumn (queue column : String)
  /-- A duration beyond the longest span. -/
  | durationOutOfRange (duration : Duration)
  /-- A duration whose milliseconds do not fit the statement's parameter. -/
  | longDuration (duration : Duration)
  | nativeInMemory (pattern : String)
  | nativePlaceholder (pattern : String)
  | nativeField (pattern : String) (position given : Nat)
  | noNodes
  /-- A reason given by the code that runs under a lock. -/
  | reason (text : String)
deriving DecidableEq

def queueNameMaxLength : Nat := 61

def fieldNameMaxLength : Nat := 58

def ConfigFault.message : ConfigFault → String
  | emptyQueueName => "queue name is empty"
  | queueNameStart start name => s!"queue name must not begin with '{start}' (got {name})"
  | longQueueName name =>
    let length := name.utf8ByteSize
    s!"queue name must be at most {queueNameMaxLength} chars (got {name}, length {length})"
  | queueNameSymbols name => s!"queue name contains illegal symbols, allowed: [0-9a-zA-Z_] (got {name})"
  | emptyFieldName => "meta field name is empty"
  | longFieldName field => s!"meta field name must be at most {fieldNameMaxLength} chars (got {field})"
  | fieldNameSymbols field => s!"meta field name contains illegal symbols, allowed: [0-9a-zA-Z_] (got {field})"
  | bucketOutOfRange bucket maxBucket => s!"bucket {bucket} is out of range (valid: 0..={maxBucket})"
  | negativeMaxBucket maxBucket => s!"max_bucket must be >= 0, got {maxBucket}"
  | shardBelowOne shard => s!"shard {shard} is out of range (minimum: 1)"
  | shardOutOfRange shard count => s!"shard {shard} is out of range (valid: 1..={count})"
  | maxRows rows => s!"max_rows must be in [100, 100000], got {rows}"
  | maxIterations iterations => s!"max_iterations must be in [1, 100], got {iterations}"
  | probability percent => s!"probability must be in [0, 100], got {percent.text}"
  | shardCount count => s!"shard_count must be >= 1, got {count}"
  | shardInsertBatch => "shard_insert_batch must be >= 1"
  | serverIdLength length => s!"server_id_length must be in [1, 100], got {length}"
  | defaultAttempts given => s!"default_attempts must be >= 1, got {given}"
  | batchSize => "batch_size must be >= 1"
  | samplePercent percent => s!"sample percent must be in (0, 100], got {percent.text}"
  | attempts given => s!"attempts must be >= 1, got {given}"
  | undeclaredColumn queue column => s!"queue {queue} has no meta column {column}"
  | mistypedColumn queue column declared given =>
    s!"meta column {column} of queue {queue} is {declared.name}, got {given.name}"
  | noMutation => "mutation list is empty"
  | repeatedMutation mutations =>
    let list := Mutation.listText mutations
    s!"more than one mutation of the same column: {list}"
  | receiveLimit => "receive limit must be >= 1"
  | distinctLimit => "distinct values limit must be >= 1"
  | notMetaColumn queue column => s!"column '{column}' is not a meta column of queue '{queue}'"
  | durationOutOfRange duration =>
    s!"duration {duration.text} is out of range: Source duration value is out of range for the target type"
  | longDuration duration => s!"duration {duration.text} is too long"
  | nativeInMemory pattern => s!"native SQL condition cannot be evaluated in memory: {pattern}"
  | nativePlaceholder pattern => s!"bad placeholder in native condition: {pattern}"
  | nativeField pattern position given =>
    s!"native condition refers to field \x7b{position}\x7d but only {given} given: {pattern}"
  | noNodes => "cannot assign shards to an empty node list"
  | reason text => text

/-- Something that went wrong in the database or on the way to it. -/
inductive StoreFault
  /-- A statement failed; the context says what it was for. -/
  | failed (context : String)
  /-- A column of a result row is missing, null or of another type. -/
  | unreadable (column : String)
deriving DecidableEq, Repr

def StoreFault.message : StoreFault → String
  | failed context => context
  | unreadable column => s!"failed to read '{column}' column"

inductive Error
  | invalidConfig (fault : ConfigFault)
  /-- A sequence number does not fit into the bits left by the bucket. -/
  | identifierOverflow (bucket sequence : Int) (bits : Nat)
  /-- Neither one owner nor a hand-over from one owner to the next. -/
  | invalidShardState (shard : Int) (producer : String) (consumer nextConsumer : Option String)
  | nodeNotBootstrapped
  | malformedId (text : String)
  | persistence (fault : StoreFault)
deriving DecidableEq

def Error.message : Error → String
  | invalidConfig fault => s!"invalid configuration: {fault.message}"
  | identifierOverflow bucket sequence bits =>
    s!"sequence value {sequence} does not fit into {bits} bits (bucket {bucket})"
  | invalidShardState shard producer consumer nextConsumer =>
    let current := quotedOption consumer
    let next := quotedOption nextConsumer
    s!"invalid shard state for shard {shard}: producer={producer}, consumer={current}, next_consumer={next}"
  | nodeNotBootstrapped => "node info not found, the cluster tables were never bootstrapped"
  | malformedId text =>
    let input := quoted text
    s!"malformed message id: {input}"
  | persistence fault => s!"persistence error: {fault.message}"

/-- Refuses an argument. -/
def refuse {α : Type} (fault : ConfigFault) : Except Error α := .error (.invalidConfig fault)

/-- Passes if the condition holds and refuses otherwise. -/
def require (condition : Bool) (fault : ConfigFault) : Except Error Unit :=
  if condition then .ok () else refuse fault

end LeaseQueue
