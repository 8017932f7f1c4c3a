import LeaseQueue.Random
import LeaseQueue.Time

/-!
The identity of a node: a random id it gives itself once, and the bucket it mints identifiers from.
-/
namespace LeaseQueue

/-- The symbols of server ids, without those that are easily taken for another. -/
def serverIdAlphabet : String := "abcdefghijkmnopqrstuvwxyzABCDEFGHJKLMNPQRSTUVWXYZ23456789"

/-- Draws the symbols one after the other. -/
def drawServerId (length : Nat) (source : RandomSource) : String × RandomSource :=
  let symbols := serverIdAlphabet.toList
  let (indexes, source) := source.times (·.below 64 symbols.length) length
  (String.ofList (indexes.map fun index => symbols.getD index 'a'), source)

structure NodeRecord where
  serverId : String
  /-- The bucket the node mints identifiers from, once it has been given one. -/
  bucket : Option Int
  createdAt : Instant
deriving DecidableEq, Repr

end LeaseQueue
