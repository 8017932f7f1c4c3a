import LeaseQueue.Error
import LeaseQueue.Text.Numeral

/-!
Addresses of messages: a local id and the number of the shard, written `local/shard`.
-/
namespace LeaseQueue

def defaultShardCount : Int := 1024

def smallestShard : Int := 1

/-- Accepts a shard number without knowing how many shards there are. -/
def checkShard (shard : Int) : Except Error Int :=
  if shard < smallestShard then refuse (.shardBelowOne shard) else .ok shard

/-- Accepts a shard number from one to the number of shards. -/
def checkShardOf (shard shardCount : Int) : Except Error Int :=
  if smallestShard ≤ shard ∧ shard ≤ shardCount then .ok shard else refuse (.shardOutOfRange shard shardCount)

/-- The shard numbers from one to the given count, ascending. -/
def allShards (shardCount : Int) : List Int := (List.range shardCount.toNat).map fun i : Nat => (i + 1 : Int)

/-- The address of a message in its queue. -/
structure MessageId where
  localId : Int
  shard : Int
deriving DecidableEq, Repr

namespace MessageId

def text (id : MessageId) : String := s!"{id.localId}/{id.shard}"

def smallestLocalId : Int := Int64.minValue.toInt

def largestLocalId : Int := Int64.maxValue.toInt

def largestShard : Int := Int32.maxValue.toInt

/-- Reads an address: two numerals around the first slash, the shard at least one. -/
def parse? (text : List Char) : Option MessageId :=
  match text.span (· != '/') with
  | (_, []) => none
  | (localText, _ :: shardText) => do
    let localId ← Numeral.readBetween? smallestLocalId largestLocalId localText
    let shard ← Numeral.readBetween? smallestShard largestShard shardText
    some ⟨localId, shard⟩

def ofString (text : String) : Except Error MessageId :=
  match parse? text.toList with
  | some id => .ok id
  | none => .error (.malformedId text)

end MessageId

end LeaseQueue
