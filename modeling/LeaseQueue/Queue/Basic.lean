import LeaseQueue.Condition.Basic
import LeaseQueue.Identifier.MessageId
import LeaseQueue.Order

/-!
Queues, the messages sent to them and leased from them, and the options of the calls.
-/
namespace LeaseQueue

structure QueueOptions where
  /-- Attempts granted to a message that does not ask for a number of them. -/
  defaultAttempts : Int
  /-- Delay of a message that does not ask for one. -/
  defaultDelay : Duration
  /-- How long a lease lasts unless the receiver says otherwise. -/
  visibilityTimeout : Duration
deriving DecidableEq, Repr

namespace QueueOptions

def default : QueueOptions := ⟨5, 0, 60 * nanosPerSecond⟩

def validate (options : QueueOptions) : Except Error Unit :=
  require (1 ≤ options.defaultAttempts) (.defaultAttempts options.defaultAttempts)

end QueueOptions

/-- A metadata column that the messages of a queue may fill. -/
structure MetaColumn where
  field : FieldName
  type : ValueType
deriving DecidableEq

structure Queue where
  name : QueueName
  options : QueueOptions
  columns : List MetaColumn
deriving DecidableEq

/-- A message to be sent. -/
structure NewMessage where
  payload : ByteArray
  /-- Values by column name. -/
  metadata : Meta
  delay : Option Duration
  attempts : Option Int

/-- A message as it is leased. -/
structure LeasedMessage where
  id : MessageId
  createdAt : Instant
  /-- When the lease was taken. -/
  processingAt : Instant
  /-- When the lease runs out. -/
  scheduledAt : Instant
  /-- The attempts left after this one. -/
  remaining : Int
  payload : ByteArray
  metadata : Meta

/-- The data of a field, if the message has a value of that type for it. -/
def LeasedMessage.metaValue? (message : LeasedMessage) (field : FieldName) (type : ValueType) : Option Value :=
  message.metadata[field.column]?.bind fun value => (value.as? type).map type.value

structure ReceiveOptions where
  limit : Nat
  visibilityTimeout : Option Duration
  filter : Option Condition
  /-- Comes before the order by schedule. -/
  order : List Order
  /-- The shards to lease from; all of them if absent. -/
  shards : Option (List Int)

/-- What a batched send does when a chunk fails. -/
inductive PartialInsert
  /-- Everything fails and nothing is written. -/
  | prohibited
  /-- The chunks before the first failing one are kept. -/
  | untilFirstFailure
  /-- Every chunk that does not fail is kept. -/
  | asManyAsPossible
deriving DecidableEq, Repr

structure SendOptions where
  /-- Messages of one chunk. -/
  batchSize : Nat
  partialInsert : PartialInsert
deriving DecidableEq, Repr

namespace SendOptions

def default : SendOptions := ⟨500, .prohibited⟩

def validate (options : SendOptions) : Except Error Unit := require (options.batchSize ≠ 0) .batchSize

end SendOptions

namespace Queue

def named (name : QueueName) : Queue := ⟨name, .default, []⟩

def withOptions (queue : Queue) (options : QueueOptions) : Except Error Queue := do
  options.validate
  .ok { queue with options := options }

/-- Declares a column behind the others; an earlier declaration of it is dropped. -/
def withField (queue : Queue) (field : FieldName) (type : ValueType) : Queue :=
  { queue with columns := queue.columns.filter (fun column => column.field ≠ field) ++ [⟨field, type⟩] }

def table (queue : Queue) : String := queue.name.table

def column? (queue : Queue) (column : String) : Option MetaColumn :=
  queue.columns.find? fun declared => declared.field.column == column

/-- Checks that a value fits a column of the queue. -/
def checkValue (queue : Queue) (column : String) (value : Value) : Except Error Unit :=
  match queue.column? column with
  | none => refuse (.undeclaredColumn queue.name.text column)
  | some declared =>
    require (declared.type = value.type) (.mistypedColumn queue.name.text column declared.type value.type)

/-- Checks a message before it is sent: its attempts, then its values in the order of their columns. -/
def checkMessage (queue : Queue) (message : NewMessage) : Except Error Unit := do
  match message.attempts with
  | some attempts => require (1 ≤ attempts) (.attempts attempts)
  | none => pure ()
  message.metadata.toList.forM fun (column, value) => queue.checkValue column value

def delayOf (queue : Queue) (message : NewMessage) : Duration := message.delay.getD queue.options.defaultDelay

def attemptsOf (queue : Queue) (message : NewMessage) : Int := message.attempts.getD queue.options.defaultAttempts

def visibilityOf (queue : Queue) (options : ReceiveOptions) : Duration :=
  options.visibilityTimeout.getD queue.options.visibilityTimeout

/-- The declared column of a name. -/
def requireColumn (queue : Queue) (column : String) : Except Error MetaColumn :=
  match queue.column? column with
  | some declared => .ok declared
  | none => refuse (.notMetaColumn queue.name.text column)

end Queue

namespace Mutation

/-- Refuses an empty list and a second change of the same column. -/
def validateAll (mutations : List Mutation) : Except Error Unit := do
  require (!mutations.isEmpty) .noMutation
  require (decide (mutations.map column).Nodup) (.repeatedMutation mutations)

end Mutation

end LeaseQueue
