import LeaseQueue.Lifecycle
import LeaseQueue.Queue.Inspect
import LeaseQueue.Queue.Result
import LeaseQueue.Sweep.Engine

/-!
Queue stores: what can be done with the messages of a queue, wherever they are kept. Each call either applies
completely or fails.
-/
namespace LeaseQueue

/-- A place that keeps the messages of queues. -/
structure QueueStore (m : Type → Type) where
  /-- Sends messages into a shard, chunk by chunk. -/
  sendBatched : Queue → Int → List NewMessage → SendOptions → m (Except Error SendResult)
  /-- Leases messages that are ready, after a sweep if one is drawn. -/
  receive : Queue → ReceiveOptions → m (Except Error (List LeasedMessage))
  /-- Deletes messages and says how many there were. -/
  delete : Queue → List MessageId → m (Except Error Nat)
  /-- Applies every mutation to every message. -/
  mutate : Queue → List Mutation → List MessageId → m (Except Error (List MutationOutcome))
  count : Queue → Option Condition → m (Except Error MessageCounts)
  isEmpty : Queue → m (Except Error Bool)
  /-- Whether no message is left but dead ones. -/
  isDeadOrEmpty : Queue → m (Except Error Bool)
  messageAge : Queue → m (Except Error MessageAge)
  /-- Up to `limit` values of a column. -/
  distinctValues : Queue → String → Nat → DistinctOptions → m (Except Error (List DistinctValue))
  /-- Sweeps now, in batches no smaller than the hint. -/
  sweep : Queue → Nat → m (Except Error SweepOutcome)

namespace QueueStore

variable {m : Type → Type} [Monad m]

/-- Sends messages into a shard, all or nothing. -/
def send (store : QueueStore m) (queue : Queue) (shard : Int) (messages : List NewMessage) :
    m (Except Error (List MessageId)) := do
  let result ← store.sendBatched queue shard messages .default
  pure (result.bind SendResult.toExcept)

end QueueStore

end LeaseQueue
