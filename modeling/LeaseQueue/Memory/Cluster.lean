import LeaseQueue.Cluster.Store

/-!
The cluster store in memory.
-/
namespace LeaseQueue

structure ClusterDatabase where
  settings : ClusterSettings
  wallClock : Instant
  node : Option NodeRecord
  shards : ShardMap

namespace ClusterDatabase

def ofSettings (settings : ClusterSettings) (wallClock : Instant) : Except Error ClusterDatabase := do
  settings.validate
  .ok ⟨settings, wallClock, none, ∅⟩

/-- Writes one shard, as a hand-over from outside does. -/
def putShard (database : ClusterDatabase) (record : ShardRecord) : ClusterDatabase :=
  { database with shards := database.shards.insert record.shard record }

/-- Adds the record of a shard unless there is one. -/
def addVacant (shards : ShardMap) (record : ShardRecord) : ShardMap :=
  if record.shard ∈ shards then shards else shards.insert record.shard record

def bootstrapNode (source : RandomSource) : StateM ClusterDatabase (Except Error NodeRecord) := do
  let database ← get
  match database.node with
  | some node => pure (.ok node)
  | none =>
    let node : NodeRecord := ⟨(drawServerId database.settings.serverIdLength source).1, none, database.wallClock⟩
    set { database with node := some node }
    pure (.ok node)

/-- The bucket is checked before anything else. -/
def setBucket (bucket : Option Int) : StateM ClusterDatabase (Except Error Unit) := do
  let database ← get
  match database.settings.checkNodeBucket bucket, database.node with
  | .error failure, _ => pure (.error failure)
  | .ok (), none => pure (.error .nodeNotBootstrapped)
  | .ok (), some node =>
    set { database with node := some { node with bucket := bucket } }
    pure (.ok ())

def bootstrapShards (nodes : List String) (source : RandomSource) : StateM ClusterDatabase (Except Error Nat) := do
  let database ← get
  match initialAssignment database.settings.shardCount nodes source with
  | .error failure => pure (.error failure)
  | .ok (records, _) =>
    let shards := records.foldl addVacant database.shards
    set { database with shards := shards }
    pure (.ok (shards.size - database.shards.size))

def store : ClusterStore (StateM ClusterDatabase) where
  ensureTables := pure (.ok ())
  bootstrapNode := bootstrapNode
  readNode := do return .ok (← get).node
  setBucket := setBucket
  bootstrapShards := bootstrapShards
  readShards := do return .ok (← get).shards

end ClusterDatabase

end LeaseQueue
