import LeaseQueue.Chunks
import LeaseQueue.Cluster.Store
import LeaseQueue.Sql.Action
import LeaseQueue.Sql.ClusterStatements

/-!
The cluster store of an SQL database.
-/
namespace LeaseQueue.Sql.Action

/-- Runs statements until one fails. -/
def executeAll (context : String) : List Statement → Action (Except Error Nat)
  | [] => pure (.ok 0)
  | statement :: rest => do
    match ← execute context statement with
    | .error failure => pure (.error failure)
    | .ok result => return (← executeAll context rest).map (result.affected + ·)

def readNodeRow (settings : ClusterSettings) (row : Row) : Except Error NodeRecord := do
  let serverId ← row.required "server_id" Cell.text?
  let createdAt ← row.required "created_at" Cell.time?
  let bucket ← row.optional "identifiers_bucket" Cell.int?
  settings.checkNodeBucket bucket
  .ok ⟨serverId, bucket, createdAt⟩

def readNode (settings : ClusterSettings) : Action (Except Error (Option NodeRecord)) := do
  let found ← execute "read node failed" readNodeStatement
  return found.bind fun result => result.rows.head?.mapM (readNodeRow settings)

/-- Whoever inserts first wins; all read the row that stands. -/
def bootstrapNode (settings : ClusterSettings) (source : RandomSource) : Action (Except Error NodeRecord) := do
  let candidate := (drawServerId settings.serverIdLength source).1
  match ← execute "insert node failed" (insertNodeStatement candidate) with
  | .error failure => pure (.error failure)
  | .ok _ => return (← readNode settings).bind fun node => node.elim (.error .nodeNotBootstrapped) .ok

def setBucket (settings : ClusterSettings) (bucket : Option Int) : Action (Except Error Unit) := do
  match settings.checkNodeBucket bucket with
  | .error failure => pure (.error failure)
  | .ok () =>
    let updated ← execute "update identifiers bucket failed" (setBucketStatement bucket)
    return updated.bind fun result => if result.affected = 0 then .error .nodeNotBootstrapped else .ok ()

/-- Inserts all shards of the cluster in chunks, in one transaction. -/
def bootstrapShards (settings : ClusterSettings) (nodes : List String) (source : RandomSource) :
    Action (Except Error Nat) := do
  match initialAssignment settings.shardCount nodes source with
  | .error failure => pure (.error failure)
  | .ok (records, _) =>
    let statements := (chunks settings.shardInsertBatch records).map fun chunk =>
      insertShardsStatement (chunk.map ShardRecord.shard) (chunk.map ShardRecord.producer)
    inTransaction "begin shard bootstrap failed" "commit shard bootstrap failed"
      (executeAll "insert shards failed" statements)

def readShardRow (settings : ClusterSettings) (row : Row) : Except Error ShardRecord := do
  let shard ← row.required "shard" Cell.int?
  let producer ← row.required OwnerColumn.producer.text Cell.text?
  let consumer ← row.optional OwnerColumn.consumer.text Cell.text?
  let nextConsumer ← row.optional OwnerColumn.nextConsumer.text Cell.text?
  let shard ← checkShardOf shard settings.shardCount
  ShardRecord.ofOwners shard producer consumer nextConsumer

def readShards (settings : ClusterSettings) : Action (Except Error ShardMap) := do
  let found ← execute "read shards failed" readShardsStatement
  return found.bind fun result => return .ofRecords (← result.rows.mapM (readShardRow settings))

def clusterStore (settings : ClusterSettings) : ClusterStore Action where
  ensureTables := do return (← executeAll "create cluster tables failed" createTableStatements).map fun _ => ()
  bootstrapNode := bootstrapNode settings
  readNode := readNode settings
  setBucket := setBucket settings
  bootstrapShards := bootstrapShards settings
  readShards := readShards settings

end LeaseQueue.Sql.Action
