import LeaseQueue.Condition.Evaluate
import LeaseQueue.Identifier.Layout
import LeaseQueue.Lifecycle
import LeaseQueue.Queue.Inspect
import LeaseQueue.Queue.Result

/-!
The rows of one queue, in the order of their ids, and what each operation does to them at a given time.
-/
namespace LeaseQueue

/-- A message as it is stored. -/
structure StoredMessage where
  id : Int
  shard : Int
  createdAt : Instant
  /-- When the message is due; for a leased one, when the lease runs out. -/
  scheduledAt : Instant
  /-- When the message was last leased. -/
  processingAt : Option Instant
  remaining : Int
  payload : ByteArray
  metadata : Meta

namespace StoredMessage

def address (row : StoredMessage) : MessageId := ⟨row.id, row.shard⟩

def state (row : StoredMessage) (now : Instant) : MessageState :=
  .classify row.processingAt row.scheduledAt row.remaining now

/-- Whether a consumer of the given shards may lease the message, its filter aside. -/
def isCandidate (row : StoredMessage) (now : Instant) (shards : Option (List Int)) : Bool :=
  (row.state now).isReceivable && shards.all fun numbers => numbers.contains row.shard

/-- Whether a sweep removes the message. -/
def isSwept (row : StoredMessage) (now : Instant) : Bool := row.remaining ≤ 0 && row.scheduledAt ≤ now

/-- The message under a lease that runs out at `expiry`. -/
def lease (row : StoredMessage) (now expiry : Instant) : StoredMessage :=
  { row with processingAt := some now, scheduledAt := expiry, remaining := row.remaining - 1 }

/-- What the consumer gets of a message that is leased now. -/
def leased (row : StoredMessage) (now : Instant) : LeasedMessage :=
  ⟨row.address, row.createdAt, now, row.scheduledAt, row.remaining, row.payload, row.metadata⟩

/-- The order of delivery: the consumer's order, then by schedule, creation and id. -/
def compareBy (order : List Order) (first second : StoredMessage) : Ordering :=
  (Order.compareAll order first.metadata second.metadata).then <|
    (compare first.scheduledAt second.scheduledAt).then <|
      (compare first.createdAt second.createdAt).then (compare first.id second.id)

def leastAttempts : Int := Int32.minValue.toInt

def mostAttempts : Int := Int32.maxValue.toInt

/-- Applies one mutation. Attempts stay within 32 bits. -/
def mutate (row : StoredMessage) (now : Instant) : Mutation → Except Overflow StoredMessage
  | .addAttempts delta =>
    .ok { row with remaining := max leastAttempts (min (row.remaining + delta) mostAttempts) }
  | .setAttempts attempts => .ok { row with remaining := attempts }
  | .addSchedule delta => do .ok { row with scheduledAt := ← row.scheduledAt.add delta }
  | .setSchedule delay => do .ok { row with scheduledAt := ← now.add delay }

/-- Applies mutations in order. If one of them overflows, the message keeps the changes made before it. -/
def mutateAll (now : Instant) : List Mutation → StoredMessage → Option Overflow × StoredMessage
  | [], row => (none, row)
  | mutation :: rest, row =>
    match row.mutate now mutation with
    | .ok changed => mutateAll now rest changed
    | .error overflow => (some overflow, row)

end StoredMessage

/-- The rows of a queue and the sequence of their ids. -/
structure Table where
  sequence : IdSequence
  /-- Ascending by id. -/
  rows : List StoredMessage

namespace Table

/-- The rows that pass a filter. The first row on which it cannot be evaluated decides the error. -/
def passing (filter : Option Condition) : List StoredMessage → Except Error (List StoredMessage)
  | [] => .ok []
  | row :: rest => do
    let passes ← rowPasses filter row.metadata
    let others ← passing filter rest
    .ok (if passes then row :: others else others)

/-- The rows that a receive leases, in the order of delivery. -/
def choose (table : Table) (now : Instant) (options : ReceiveOptions) : Except Error (List StoredMessage) := do
  let eligible ← passing options.filter (table.rows.filter fun row => row.isCandidate now options.shards)
  .ok ((sortBy (StoredMessage.compareBy options.order) eligible).take options.limit)

/-- Puts a row where its id belongs; it takes the place of a row with the same id. The list is kept from the last row
to the first. -/
def insertRow (row : StoredMessage) : List StoredMessage → List StoredMessage
  | [] => [row]
  | last :: before =>
    if last.id < row.id then row :: last :: before
    else if last.id = row.id then row :: before
    else last :: insertRow row before

/-- The rows of a table with others added to them. -/
def extend (rows added : List StoredMessage) : List StoredMessage :=
  (added.foldl (fun kept row => insertRow row kept) rows.reverse).reverse

/-- Replaces the row with the same id. -/
def replace (table : Table) (changed : StoredMessage) : Table :=
  { table with rows := table.rows.map fun row => if row.id = changed.id then changed else row }

/-- Removes the addressed messages and says how many there were. -/
def delete (table : Table) (ids : List MessageId) : Nat × Table :=
  let kept := table.rows.filter fun row => row.address ∉ ids
  (table.rows.length - kept.length, { table with rows := kept })

/-- Changes one message. -/
def mutate (table : Table) (now : Instant) (mutations : List Mutation) (id : MessageId) :
    Except Overflow MutationOutcome × Table :=
  match table.rows.find? fun row => row.address = id with
  | none => (.ok (.notFound id), table)
  | some row =>
    match row.mutateAll now mutations with
    | (some overflow, changed) => (.error overflow, table.replace changed)
    | (none, changed) => (.ok (.mutated id changed.scheduledAt changed.remaining), table.replace changed)

/-- Changes messages one after the other. If one overflows, the changes made before stay. -/
def mutateAll (now : Instant) (mutations : List Mutation) :
    List MessageId → Table → Except Overflow (List MutationOutcome) × Table
  | [], table => (.ok [], table)
  | id :: rest, table =>
    match table.mutate now mutations id with
    | (.error overflow, changed) => (.error overflow, changed)
    | (.ok outcome, changed) =>
      let (outcomes, last) := mutateAll now mutations rest changed
      (outcomes.map (outcome :: ·), last)

def count (table : Table) (now : Instant) (filter : Option Condition) : Except Error MessageCounts := do
  let rows ← passing filter table.rows
  .ok (.ofStates (rows.map fun row => row.state now))

def isDeadOrEmpty (table : Table) (now : Instant) : Bool := table.rows.all fun row => row.state now == .dead

/-- Ages count from creation, and for messages that can be leased from when they were due. -/
def messageAge (table : Table) (now : Instant) : MessageAge :=
  let due := (table.rows.filter fun row => (row.state now).isReceivable).map StoredMessage.scheduledAt
  { oldest := table.rows.head?.map fun row => now.since row.createdAt
    newest := table.rows.getLast?.map fun row => now.since row.createdAt
    oldestReady := due.min?.map fun earliest => now.since earliest }

/-- Whether two column values fall into one group; missing values do. -/
def sameValue : Option Value → Option Value → Bool
  | none, none => true
  | some x, some y => x.equals y
  | _, _ => false

/-- Counts one more message with a value; a new value gets a group behind the others. -/
def tally (value : Option Value) : List DistinctValue → List DistinctValue
  | [] => [⟨value, 1⟩]
  | group :: rest =>
    if sameValue group.value value then { group with count := group.count + 1 } :: rest
    else group :: tally value rest

/-- The values of a column with their counts, in the order in which they first appear. -/
def groups (column : String) (rows : List StoredMessage) : List DistinctValue :=
  rows.foldl (fun found row => tally row.metadata[column]? found) []

/-- Groups sorted by count; groups of one size keep their order. -/
def sortGroups : Option SortOrder → List DistinctValue → List DistinctValue
  | none, found => found
  | some order, found =>
    sortBy (fun x y => if order.isDescending then compare y.count x.count else compare x.count y.count) found

def distinctValues (table : Table) (column : String) (limit : Nat) (options : DistinctOptions) :
    Except Error (List DistinctValue) := do
  let rows ← passing options.filter table.rows
  .ok ((sortGroups options.order (groups column rows)).take limit)

/-- Drops the first rows that a sweep removes, at most `limit` of them. -/
def dropSwept (now : Instant) : Nat → List StoredMessage → List StoredMessage
  | _, [] => []
  | 0, rows => rows
  | limit + 1, row :: rest =>
    if row.isSwept now then dropSwept now limit rest else row :: dropSwept now (limit + 1) rest

/-- Removes at most `limit` dead messages, lowest ids first, and says how many there were. -/
def deleteDead (table : Table) (now : Instant) (limit : Nat) : Nat × Table :=
  let kept := dropSwept now limit table.rows
  (table.rows.length - kept.length, { table with rows := kept })

end Table

end LeaseQueue
