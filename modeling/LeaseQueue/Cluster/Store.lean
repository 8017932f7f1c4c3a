import LeaseQueue.Cluster.Node
import LeaseQueue.Cluster.Settings
import LeaseQueue.Cluster.Shard

/-!
Cluster stores: where a node keeps its record and the ownership of the shards.
-/
namespace LeaseQueue

structure ClusterStore (m : Type → Type) where
  /-- Creates the tables that do not exist yet. -/
  ensureTables : m (Except Error Unit)
  /-- Gives the node a record with a drawn id unless it has one; the answer is the record that stands. -/
  bootstrapNode : RandomSource → m (Except Error NodeRecord)
  readNode : m (Except Error (Option NodeRecord))
  /-- Says which bucket the node mints identifiers from. -/
  setBucket : Option Int → m (Except Error Unit)
  /-- Gives owners, drawn from the nodes, to the shards that have none, and says how many there were. -/
  bootstrapShards : List String → RandomSource → m (Except Error Nat)
  readShards : m (Except Error ShardMap)

/-- Checks the bucket of a node, if it has one. -/
def ClusterSettings.checkNodeBucket (settings : ClusterSettings) (bucket : Option Int) : Except Error Unit :=
  bucket.forM fun number => do let _ ← checkBucket number settings.maxBucket

end LeaseQueue
