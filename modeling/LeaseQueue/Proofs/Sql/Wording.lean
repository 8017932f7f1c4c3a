import LeaseQueue.Proofs.Sql.Apart
import LeaseQueue.Proofs.Sql.Calls

/-!
What a statement reads with its values in place. A statement spells a wording if its placeholders are numbered without
a gap, one for each value, and each value put in the place of its placeholder makes the text of the wording.
-/
namespace LeaseQueue

/-- What is bound for a mutation. -/
def Mutation.amount : Mutation → Sql.Param
  | addAttempts delta => .int delta
  | setAttempts number => .int number
  | addSchedule delta => .bigInt delta.millis
  | setSchedule delay => .bigInt delay.millis

namespace Sql

/-- The values of a statement in the order in which they are bound, and its text with each of them in the place where
it is used, as `write` renders it. -/
structure Wording where
  values : List Param
  text : (write : Param → String) → String

/-- A statement uses the placeholders from one to the number of its values, each for the value that belongs there. -/
structure Statement.Spells (statement : Statement) (wording : Wording) : Prop where
  params : statement.params = wording.values
  placeholders : (placeholders statement.text.render).Perm (List.range' 1 wording.values.length)
  filled : ∀ write : Param → String,
    fillText (Condition.shown write (bindings 1 wording.values)) statement.text.render = wording.text write

namespace Wording

section

variable (write : Param → String)

/-- A time some milliseconds after another one. -/
def later (start : String) (millis : Param) : String := start ++ " + " ++ write millis ++ " * interval '1 millisecond'"

/-- Whether a row is among the addressed messages. -/
def addressed (ids : List MessageId) : String :=
  "(" ++ ", ".intercalate [MessageColumn.id.text, MessageColumn.shard.text] ++ ") in (select * from unnest(" ++
    write (.bigInts (ids.map MessageId.localId)) ++ "::bigint[], " ++ write (.ints (ids.map MessageId.shard)) ++
    "::int[]))"

def orderTerms (order : List Order) (schedule : String) : String :=
  ", ".intercalate (order.map (fun term => term.field.column ++ s!" {term.sort.sql}") ++
    [schedule ++ " asc", MessageColumn.createdAt.text ++ " asc"])

/-- What a mutation writes. -/
def assignment (mutation : Mutation) : String :=
  let attempts := MessageColumn.remainingAttempts.text
  let schedule := MessageColumn.scheduledAt.text
  match mutation with
  | .addAttempts _ => attempts ++ " = " ++ attempts ++ " + " ++ write mutation.amount
  | .setAttempts _ => attempts ++ " = " ++ write mutation.amount
  | .addSchedule _ => schedule ++ " = " ++ later write schedule mutation.amount
  | .setSchedule _ => schedule ++ " = " ++ later write Clock.wall.text mutation.amount

/-- A filter behind `where`, if there is one. -/
def whereClause (filter : Option Condition) : String :=
  filter.elim "" fun condition => " where " ++ condition.literal write

/-- What a lease asks of a row. -/
def leaseTerms (options : ReceiveOptions) : List String :=
  (MessageState.leasable .wall).map Expr.text ++
    (options.shards.map fun shards => MessageColumn.shard.text ++ " = ANY (" ++ write (.ints shards) ++ ")").toList ++
    (options.filter.map fun filter => "(" ++ filter.literal write ++ ")").toList

/-- The columns that an insert fills, each with what is written there. -/
def cells (queue : Queue) (shard : Int) (message : NewMessage) : List (String × String) :=
  [(MessageColumn.shard.text, write (.int shard)),
    (MessageColumn.scheduledAt.text, later write Clock.wall.text (.bigInt (queue.delayOf message).millis)),
    (MessageColumn.remainingAttempts.text, write (.int (queue.attemptsOf message))),
    (MessageColumn.payload.text, write (.bytes message.payload))] ++
  message.metadata.toList.map fun (column, value) => (column, write (.value value))

end

/-- A statement without values. -/
def bare (statement : Statement) : Wording := ⟨[], fun _ => statement.text.render⟩

def insert (queue : Queue) (shard : Int) (message : NewMessage) : Wording where
  values := [.int shard, .bigInt (queue.delayOf message).millis, .int (queue.attemptsOf message),
    .bytes message.payload] ++ message.metadata.toList.map fun (_, value) => .value value
  text write :=
    let cells := cells write queue shard message
    "insert into " ++ queue.table ++ " (" ++ ", ".intercalate (cells.map (·.1)) ++ ") values (" ++
      ", ".intercalate (cells.map (·.2)) ++ ") returning " ++ MessageColumn.id.text

def lease (queue : Queue) (options : ReceiveOptions) : Wording :=
  let limit : Param := .bigInt options.limit
  let visibility : Param := .bigInt (queue.visibilityOf options).millis
  let column := MessageColumn.text
  { values := [limit, visibility] ++ leaseValues options
    text := fun write =>
      "with id_to_update as ( select " ++ column .id ++ " as lease_id, " ++ column .scheduledAt ++
        " as lease_scheduled_at from " ++ queue.table ++ " where " ++ " and ".intercalate (leaseTerms write options) ++
        " order by " ++ orderTerms options.order (column .scheduledAt) ++ " limit " ++ write limit ++
        " for update skip locked ), updated as ( update " ++ queue.table ++ " set " ++ column .processingAt ++ " = " ++
        Clock.wall.text ++ ", " ++ column .scheduledAt ++ " = " ++ later write Clock.wall.text visibility ++ ", " ++
        column .remainingAttempts ++ " = " ++ column .remainingAttempts ++ " - 1 where " ++ column .id ++
        " in (select lease_id from id_to_update) returning " ++ ", ".intercalate (leasedColumns queue) ++
        " ) select updated.* from updated join id_to_update on updated." ++ column .id ++
        " = id_to_update.lease_id order by " ++ orderTerms options.order "lease_scheduled_at" }

def delete (queue : Queue) (ids : List MessageId) : Wording where
  values := [.bigInts (ids.map MessageId.localId), .ints (ids.map MessageId.shard)]
  text write := "delete from " ++ queue.table ++ " where " ++ addressed write ids

def mutate (queue : Queue) (mutations : List Mutation) (ids : List MessageId) : Wording where
  values := [.bigInts (ids.map MessageId.localId), .ints (ids.map MessageId.shard)] ++ mutations.map Mutation.amount
  text write :=
    "update " ++ queue.table ++ " set " ++ ", ".intercalate (mutations.map (assignment write)) ++ " where " ++
      addressed write ids ++ " returning " ++ ", ".intercalate mutatedColumns

def count (queue : Queue) (filter : Option Condition) : Wording where
  values := filterValues filter
  text write :=
    let counts := MessageState.all.map fun state =>
      "count(*) filter (where " ++ state.predicate.text ++ s!") as {state.name}"
    "select " ++ ", ".intercalate counts ++ " from " ++ queue.table ++ whereClause write filter

def pages (queue : Queue) : Wording where
  values := [.text queue.table]
  text write :=
    "select (pg_relation_size(" ++ write (.text queue.table) ++
      "::regclass) / current_setting('block_size')::int)::bigint"

def distinct (queue : Queue) (column : MetaColumn) (limit : Nat) (options : DistinctOptions) (share : Single) :
    Wording where
  values := [.value (.real share), .bigInt limit] ++ filterValues options.filter
  text write :=
    let order := options.order.elim "" fun order => " order by total " ++ if order.isDescending then "desc" else "asc"
    "select " ++ column.field.column ++ " as value, count(*) as total from " ++ queue.table ++
      " tablesample system (" ++ write (.value (.real share)) ++ ")" ++ whereClause write options.filter ++
      " group by " ++ column.field.column ++ order ++ " limit " ++ write (.bigInt limit)

def askLock (function : String) (lock : Int) : Wording where
  values := [.bigInt lock]
  text write := s!"SELECT {function}(" ++ write (.bigInt lock) ++ ")"

def sweepBatch (queue : Queue) (rows : Nat) : Wording where
  values := [.bigInt rows]
  text write :=
    let id := MessageColumn.id.text
    "delete from " ++ queue.table ++ " where " ++ id ++ " in (select " ++ id ++ " from " ++ queue.table ++ " where " ++
      MessageState.sweepPredicate.text ++ " limit " ++ write (.bigInt rows) ++ ")"

end Wording

/-- The wording of a sentence. -/
def Sentence.wording (queue : Queue) : Sentence → Wording
  | insert _ shard message => .insert queue shard message
  | lease options => .lease queue options
  | delete ids => .delete queue ids
  | mutate mutations ids => .mutate queue mutations ids
  | count filter => .count queue filter
  | isEmpty => .bare (isEmptyStatement queue)
  | isDeadOrEmpty => .bare (isDeadOrEmptyStatement queue)
  | messageAge => .bare (messageAgeStatement queue)
  | pages => .pages queue
  | distinct column limit options share => .distinct queue column limit options share
  | askLock function lock => .askLock function lock
  | sweepBatch rows => .sweepBatch queue rows

end Sql

end LeaseQueue
