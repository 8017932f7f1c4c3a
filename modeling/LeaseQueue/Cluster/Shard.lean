import LeaseQueue.Identifier.MessageId
import LeaseQueue.Random
import Std.Data.ExtTreeMap

/-!
Ownership of shards. A shard is stable, with one node producing into it and consuming from it, or it migrates: a
node already produces into it and will consume from it, and nobody consumes yet.
-/
namespace LeaseQueue

/-- Who owns a shard. -/
inductive ShardOwnership
  | stable (owner : String)
  | migrating (producer nextConsumer : String)
deriving DecidableEq, Repr

/-- One row of the shard table. -/
structure ShardRecord where
  shard : Int
  producer : String
  consumer : Option String
  nextConsumer : Option String
deriving DecidableEq, Repr

namespace ShardRecord

def isStable (record : ShardRecord) : Bool :=
  record.consumer == some record.producer && record.nextConsumer.isNone

def isMigrating (record : ShardRecord) : Bool :=
  record.nextConsumer == some record.producer && record.consumer.isNone

/-- Accepts the owners of a stable or of a migrating shard. -/
def ofOwners (shard : Int) (producer : String) (consumer nextConsumer : Option String) : Except Error ShardRecord :=
  let record : ShardRecord := ⟨shard, producer, consumer, nextConsumer⟩
  if record.isStable == record.isMigrating then
    .error (.invalidShardState shard producer consumer nextConsumer)
  else .ok record

/-- A stable shard. -/
def ownedBy (shard : Int) (owner : String) : ShardRecord := ⟨shard, owner, some owner, none⟩

def ownership (record : ShardRecord) : ShardOwnership :=
  match record.nextConsumer with
  | some next => .migrating record.producer next
  | none => .stable record.producer

end ShardRecord

/-- Gives every shard in turn an owner drawn from the nodes. -/
def assignShards (nodes : List String) : List Int → RandomSource → List ShardRecord × RandomSource
  | [], source => ([], source)
  | shard :: rest, source =>
    match source.choose? nodes with
    | (none, source) => assignShards nodes rest source
    | (some owner, source) =>
      let (records, source) := assignShards nodes rest source
      (.ownedBy shard owner :: records, source)

/-- The first owners of all shards of a cluster, stable and drawn from the nodes. -/
def initialAssignment (shardCount : Int) (nodes : List String) (source : RandomSource) :
    Except Error (List ShardRecord × RandomSource) :=
  if nodes.isEmpty then refuse .noNodes else .ok (assignShards nodes (allShards shardCount) source)

/-- Shard records by shard number. -/
abbrev ShardMap := Std.ExtTreeMap Int ShardRecord

namespace ShardMap

/-- Later records replace earlier ones of the same shard. -/
def ofRecords (records : List ShardRecord) : ShardMap :=
  records.foldl (fun shards record => shards.insert record.shard record) ∅

/-- The shards that a node consumes from, ascending. A migrating shard has no consumer. -/
def consumedBy (shards : ShardMap) (node : String) : List Int :=
  (shards.values.filter fun record => record.consumer == some node).map ShardRecord.shard

/-- The shards that a node produces into, ascending. -/
def producedBy (shards : ShardMap) (node : String) : List Int :=
  (shards.values.filter fun record => record.producer == node).map ShardRecord.shard

end ShardMap

/-- How a producer finds the shard for a batch. -/
inductive ShardStrategy
  | random
  | fixed (shard : Int)
deriving DecidableEq, Repr

/-- A cluster without shards is treated as one with a single shard. -/
def ShardStrategy.pick (strategy : ShardStrategy) (shardCount : Int) (source : RandomSource) : Int × RandomSource :=
  match strategy with
  | random =>
    let (index, rest) := source.below 32 (max shardCount 1).toNat
    (index + 1, rest)
  | fixed shard => (shard, source)

end LeaseQueue
