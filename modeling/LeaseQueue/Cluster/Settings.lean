import LeaseQueue.Identifier.Layout
import LeaseQueue.Identifier.MessageId

/-!
Settings of a cluster: how many identifier buckets and shards it has and how it sets them up.
-/
namespace LeaseQueue

def serverIdMaxLength : Nat := 100

structure ClusterSettings where
  maxBucket : Int
  /-- Shards are numbered from one to this count. -/
  shardCount : Int
  /-- Shards written by one insert. -/
  shardInsertBatch : Nat
  serverIdLength : Nat
deriving DecidableEq, Repr

namespace ClusterSettings

def default : ClusterSettings := ⟨defaultMaxBucket, defaultShardCount, 100, 12⟩

def validate (settings : ClusterSettings) : Except Error Unit := do
  require (0 ≤ settings.maxBucket) (.negativeMaxBucket settings.maxBucket)
  require (1 ≤ settings.shardCount) (.shardCount settings.shardCount)
  require (settings.shardInsertBatch ≠ 0) .shardInsertBatch
  require (1 ≤ settings.serverIdLength && settings.serverIdLength ≤ serverIdMaxLength)
    (.serverIdLength settings.serverIdLength)

def layout (settings : ClusterSettings) : Except Error IdLayout := IdLayout.ofMaxBucket settings.maxBucket

end ClusterSettings

end LeaseQueue
