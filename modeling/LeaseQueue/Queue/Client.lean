import LeaseQueue.Cluster.Settings
import LeaseQueue.Cluster.Shard
import LeaseQueue.Queue.Store

/-!
Producers and consumers: what a client of one queue does with a store.
-/
namespace LeaseQueue

/-- Sends the messages of one queue, each batch into one shard. -/
structure Producer where
  queue : Queue
  strategy : ShardStrategy
  shardCount : Int
  options : SendOptions

namespace Producer

variable {m : Type → Type} [Monad m]

/-- A producer for a cluster; the options of its batched sends are validated here. -/
def ofOptions (queue : Queue) (cluster : ClusterSettings) (strategy : ShardStrategy) (options : SendOptions) :
    Except Error Producer := do
  options.validate
  .ok ⟨queue, strategy, cluster.shardCount, options⟩

/-- The shard of the next batch. -/
def pick (producer : Producer) (source : RandomSource) : Int × RandomSource :=
  producer.strategy.pick producer.shardCount source

/-- Sends a batch all or nothing. An empty batch goes nowhere, and no shard is drawn for it. -/
def send (producer : Producer) (store : QueueStore m) (messages : List NewMessage) (source : RandomSource) :
    m (Except Error (List MessageId)) :=
  if messages.isEmpty then pure (.ok []) else store.send producer.queue (producer.pick source).1 messages

/-- Sends a batch chunk by chunk. -/
def sendBatched (producer : Producer) (store : QueueStore m) (messages : List NewMessage) (source : RandomSource) :
    m (Except Error SendResult) :=
  if messages.isEmpty then pure (.ok .empty)
  else store.sendBatched producer.queue (producer.pick source).1 messages producer.options

end Producer

/-- Receives the messages of one queue and acknowledges them. -/
structure Consumer where
  queue : Queue
  /-- The shards of this consumer; all of them if absent. -/
  shards : Option (List Int)

namespace Consumer

variable {m : Type → Type} [Monad m]

/-- Receives from the consumer's shards unless the options name others. -/
def receive (consumer : Consumer) (store : QueueStore m) (options : ReceiveOptions) :
    m (Except Error (List LeasedMessage)) :=
  store.receive consumer.queue { options with shards := options.shards.or consumer.shards }

/-- Acknowledges messages by their ids. -/
def delete (consumer : Consumer) (store : QueueStore m) (ids : List MessageId) : m (Except Error Nat) :=
  if ids.isEmpty then pure (.ok 0) else store.delete consumer.queue ids

/-- Acknowledges leased messages. -/
def acknowledge (consumer : Consumer) (store : QueueStore m) (messages : List LeasedMessage) : m (Except Error Nat) :=
  consumer.delete store (messages.map LeasedMessage.id)

end Consumer

/-- The distinct values of a field; values of another type than asked for read as absent. -/
def QueueStore.fieldValues {m : Type → Type} [Monad m] (store : QueueStore m) (queue : Queue) (field : FieldName)
    (type : ValueType) (limit : Nat) (options : DistinctOptions) : m (Except Error (List DistinctValue)) := do
  let values ← store.distinctValues queue field.column limit options
  pure <| values.map fun found => found.map fun entry =>
    { entry with value := entry.value.bind fun value => (value.as? type).map type.value }

end LeaseQueue
