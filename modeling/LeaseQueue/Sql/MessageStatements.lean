import LeaseQueue.Condition.Compile
import LeaseQueue.Lifecycle
import LeaseQueue.Queue.Inspect
import LeaseQueue.Sql.Statement

/-!
The statements about the messages of a queue. What the caller passes in is bound to placeholders; only names of
tables and columns and the shape of the request show in the text.
-/
namespace LeaseQueue.Sql

/-- The longest duration that a statement takes, in milliseconds. -/
def longestMillis : Nat := Nat.pow 2 63 - 1

/-- A duration as a parameter, in whole milliseconds. -/
def checkMillis (duration : Duration) : Except Error Param :=
  if duration.millis ≤ longestMillis then .ok (.bigInt duration.millis) else refuse (.longDuration duration)

/-- Columns side by side. -/
def names (columns : List String) : Fragment := Fragment.join ", " (columns.map name)

/-- A time some milliseconds, bound to a placeholder, after another one. -/
def later (start : Fragment) (index : Nat) : Fragment :=
  start ++ sql " + " ++ slot index ++ sql " * interval '1 millisecond'"

def wallClock : Fragment := sql Clock.wall.text

/-- The columns that an insert fills besides metadata. -/
def insertedColumns : List String :=
  [MessageColumn.shard, .scheduledAt, .remainingAttempts, .payload].map MessageColumn.text

/-- Inserts one message. Each value of its metadata stands where its column does. -/
def insertStatement (queue : Queue) (shard : Int) (message : NewMessage) (delay : Param) : Statement :=
  let row := message.metadata.toList
  let slots := (List.range' 5 row.length).map fun index => sql ", " ++ slot index
  { text := sql "insert into " ++ name queue.table ++ sql " (" ++ names (insertedColumns ++ row.map (·.1)) ++
      sql ") values (" ++ slot 1 ++ sql ", " ++ later wallClock 2 ++ sql ", " ++ slot 3 ++ sql ", " ++ slot 4 ++
      slots.flatten ++ sql ") returning " ++ name MessageColumn.id.text
    params := [.int shard, delay, .int (queue.attemptsOf message), .bytes message.payload] ++
      row.map fun (_, value) => .value value }

/-- What a receive reads of a leased message. -/
def leasedColumns (queue : Queue) : List String :=
  [MessageColumn.id, .shard, .createdAt, .processingAt, .scheduledAt, .remainingAttempts, .payload].map
    MessageColumn.text ++ queue.columns.map fun column => column.field.column

/-- The caller's order, then by schedule and creation. -/
def orderTerms (order : List Order) (schedule : String) : Fragment :=
  let terms := order.map fun term => name term.field.column ++ sql s!" {term.sort.sql}"
  Fragment.join ", " (terms ++ [name schedule ++ sql " asc", name MessageColumn.createdAt.text ++ sql " asc"])

/-- What a receive asks of a row: that it can be leased, its shard and the filter, with their parameters. -/
def leaseCondition (options : ReceiveOptions) : Expr × List Param :=
  let (shardTerms, shardParams, next) := match options.shards with
    | none => ([], [], 3)
    | some shards => ([Expr.among (.column MessageColumn.shard.text) 3], [Param.ints shards], 4)
  let (filterTerms, filterParams) := match options.filter with
    | none => ([], [])
    | some filter =>
      let compiled := filter.compile next
      ([Expr.group compiled.expr], compiled.params)
  (.all (MessageState.leasable .wall ++ shardTerms ++ filterTerms), shardParams ++ filterParams)

/-- Leases messages, passing over rows that others have locked, and returns them in the order of delivery. -/
def leaseStatement (queue : Queue) (options : ReceiveOptions) (visibility : Param) : Statement :=
  let (condition, params) := leaseCondition options
  let table := name queue.table
  let column (column : MessageColumn) := name column.text
  { text := sql "with id_to_update as ( select " ++ column .id ++ sql " as lease_id, " ++ column .scheduledAt ++
      sql " as lease_scheduled_at from " ++ table ++ sql " where " ++ condition.fragment ++ sql " order by " ++
      orderTerms options.order MessageColumn.scheduledAt.text ++ sql " limit " ++ slot 1 ++
      sql " for update skip locked ), updated as ( update " ++ table ++ sql " set " ++ column .processingAt ++
      sql " = " ++ wallClock ++ sql ", " ++ column .scheduledAt ++ sql " = " ++ later wallClock 2 ++ sql ", " ++
      column .remainingAttempts ++ sql " = " ++ column .remainingAttempts ++ sql " - 1 where " ++ column .id ++
      sql " in (select lease_id from id_to_update) returning " ++ names (leasedColumns queue) ++
      sql " ) select updated.* from updated join id_to_update on updated." ++ column .id ++
      sql " = id_to_update.lease_id order by " ++ orderTerms options.order "lease_scheduled_at"
    params := .bigInt options.limit :: visibility :: params }

/-- The addresses of messages as two parallel lists. -/
def addressParams (ids : List MessageId) : List Param :=
  [.bigInts (ids.map MessageId.localId), .ints (ids.map MessageId.shard)]

/-- Whether a row is among the addressed messages. -/
def addressed : Fragment :=
  sql "(" ++ names [MessageColumn.id.text, MessageColumn.shard.text] ++ sql ") in (select * from unnest(" ++ slot 1 ++
    sql "::bigint[], " ++ slot 2 ++ sql "::int[]))"

def deleteStatement (queue : Queue) (ids : List MessageId) : Statement :=
  ⟨sql "delete from " ++ name queue.table ++ sql " where " ++ addressed, addressParams ids⟩

/-- What a mutation writes, with the value for its placeholder. -/
def assignment (mutation : Mutation) (index : Nat) : Except Error (Fragment × Param) :=
  let attempts := name MessageColumn.remainingAttempts.text
  let schedule := name MessageColumn.scheduledAt.text
  match mutation with
  | .addAttempts delta => .ok (attempts ++ sql " = " ++ attempts ++ sql " + " ++ slot index, .int delta)
  | .setAttempts number => .ok (attempts ++ sql " = " ++ slot index, .int number)
  | .addSchedule delta => do .ok (schedule ++ sql " = " ++ later schedule index, ← checkMillis delta)
  | .setSchedule delay => do .ok (schedule ++ sql " = " ++ later wallClock index, ← checkMillis delay)

/-- Assignments with placeholders from `index` on. -/
def assignments (index : Nat) : List Mutation → Except Error (List (Fragment × Param))
  | [] => .ok []
  | mutation :: rest => do
    let first ← assignment mutation index
    let others ← assignments (index + 1) rest
    .ok (first :: others)

/-- What a mutation reads back. -/
def mutatedColumns : List String :=
  [MessageColumn.id, .shard, .scheduledAt, .remainingAttempts].map MessageColumn.text

def mutateStatement (queue : Queue) (mutations : List Mutation) (ids : List MessageId) : Except Error Statement := do
  let written ← assignments 3 mutations
  .ok { text := sql "update " ++ name queue.table ++ sql " set " ++ Fragment.join ", " (written.map (·.1)) ++
          sql " where " ++ addressed ++ sql " returning " ++ names mutatedColumns
        params := addressParams ids ++ written.map (·.2) }

/-- A filter behind `where`, if there is one, with its parameters. -/
def whereClause (filter : Option Condition) (index : Nat) : Fragment × List Param :=
  match filter with
  | none => ([], [])
  | some condition =>
    let compiled := condition.compile index
    (sql " where " ++ compiled.expr.fragment, compiled.params)

def countStatement (queue : Queue) (filter : Option Condition) : Statement :=
  let (clause, params) := whereClause filter 1
  let counts := MessageState.all.map fun state =>
    sql "count(*) filter (where " ++ state.predicate.fragment ++ sql s!") as {state.name}"
  ⟨sql "select " ++ Fragment.join ", " counts ++ sql " from " ++ name queue.table ++ clause, params⟩

def isEmptyStatement (queue : Queue) : Statement :=
  ⟨sql "select not exists (select 1 from " ++ name queue.table ++ sql " limit 1)", []⟩

def isDeadOrEmptyStatement (queue : Queue) : Statement :=
  ⟨sql "select not exists (select 1 from " ++ name queue.table ++ sql " where " ++
    (Expr.not (.group MessageState.dead.predicate)).fragment ++ sql " limit 1)", []⟩

/-- The seconds since the time in a column. -/
def secondsSince (column : MessageColumn) : Fragment :=
  sql "extract(epoch from (" ++ sql Clock.transaction.text ++ sql " - " ++ name column.text ++ sql "))::float8"

def messageAgeStatement (queue : Queue) : Statement :=
  let source := sql " from " ++ name queue.table
  let id := name MessageColumn.id.text
  ⟨sql "select (select " ++ secondsSince .createdAt ++ source ++ sql " order by " ++ id ++
    sql " asc limit 1) as oldest, (select " ++ secondsSince .createdAt ++ source ++ sql " order by " ++ id ++
    sql " desc limit 1) as newest, (select " ++ secondsSince .scheduledAt ++ source ++ sql " where " ++
    (Expr.all (MessageState.leasable .transaction)).fragment ++ sql " order by " ++
    name MessageColumn.scheduledAt.text ++ sql " asc limit 1) as oldest_ready", []⟩

/-- The size of a queue's table in pages. -/
def pagesStatement (queue : Queue) : Statement :=
  ⟨sql "select (pg_relation_size(" ++ slot 1 ++ sql "::regclass) / current_setting('block_size')::int)::bigint",
    [.text queue.table]⟩

/-- The values of a column with their counts over a sample of the table. -/
def distinctStatement (queue : Queue) (column : MetaColumn) (limit : Nat) (options : DistinctOptions) (share : Single) :
    Statement :=
  let (clause, params) := whereClause options.filter 3
  let value := name column.field.column
  let order := match options.order with
    | none => []
    | some order => sql (" order by total " ++ if order.isDescending then "desc" else "asc")
  { text := sql "select " ++ value ++ sql " as value, count(*) as total from " ++ name queue.table ++
      sql " tablesample system (" ++ slot 1 ++ sql ")" ++ clause ++ sql " group by " ++ value ++ order ++
      sql " limit " ++ slot 2
    params := .value (.real share) :: .bigInt limit :: params }

/-- Deletes a batch of dead messages. -/
def sweepStatement (queue : QueueName) (limit : Nat) : Statement :=
  let id := name MessageColumn.id.text
  ⟨sql "delete from " ++ name queue.table ++ sql " where " ++ id ++ sql " in (select " ++ id ++ sql " from " ++
    name queue.table ++ sql " where " ++ MessageState.sweepPredicate.fragment ++ sql " limit " ++ slot 1 ++ sql ")",
    [.bigInt limit]⟩

end LeaseQueue.Sql
