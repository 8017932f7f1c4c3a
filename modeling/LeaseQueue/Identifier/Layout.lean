import LeaseQueue.Error

/-!
Identifiers: non-negative 64-bit words with a bucket in the high bits and a sequence number below it. Every bucket
mints its own identifiers, and identifiers of different buckets never meet.
-/
namespace LeaseQueue

def defaultMaxBucket : Int := 1023

/-- Accepts a bucket number from zero to the largest one. -/
def checkBucket (bucket maxBucket : Int) : Except Error Int :=
  if 0 ≤ bucket ∧ bucket ≤ maxBucket then .ok bucket else refuse (.bucketOutOfRange bucket maxBucket)

/-- How the 63 usable bits are shared between bucket and sequence. -/
structure IdLayout where
  maxBucket : Int
deriving DecidableEq, Repr

/-- The two parts of an identifier. -/
structure IdParts where
  bucket : Int
  sequence : Int
deriving DecidableEq, Repr

namespace IdLayout

def default : IdLayout := ⟨defaultMaxBucket⟩

def ofMaxBucket (maxBucket : Int) : Except Error IdLayout :=
  if maxBucket < 0 then refuse (.negativeMaxBucket maxBucket) else .ok ⟨maxBucket⟩

/-- The least width that holds the largest bucket. -/
def bucketBits (layout : IdLayout) : Nat :=
  if layout.maxBucket.toNat = 0 then 0 else Nat.log2 layout.maxBucket.toNat + 1

def sequenceBits (layout : IdLayout) : Nat := 63 - layout.bucketBits

/-- The word whose set bits are those of the sequence. -/
def sequenceMask (layout : IdLayout) : Int64 := Int64.maxValue >>> Int64.ofNat layout.bucketBits

def maxSequence (layout : IdLayout) : Int := layout.sequenceMask.toInt

/-- Puts a bucket and a sequence number together; the bucket is checked first. -/
def encode (layout : IdLayout) (bucket sequence : Int) : Except Error Int := do
  let bucket ← checkBucket bucket layout.maxBucket
  if 0 ≤ sequence ∧ sequence ≤ layout.maxSequence then
    let high := Int64.ofInt bucket <<< Int64.ofNat layout.sequenceBits
    let low := Int64.ofInt sequence &&& layout.sequenceMask
    .ok (high ||| low).toInt
  else .error (.identifierOverflow bucket sequence layout.sequenceBits)

/-- Takes an identifier apart. The bucket may lie above the largest one when that is not all ones. -/
def decode (layout : IdLayout) (id : Int) : Except Error IdParts :=
  if id < 0 then .error (.malformedId (toString id))
  else
    let word := Int64.ofInt id
    .ok ⟨(word >>> Int64.ofNat layout.sequenceBits).toInt32.toInt, (word &&& layout.sequenceMask).toInt⟩

end IdLayout

/-- The identifiers from `first` to `last`, both included. -/
structure IdRange where
  first : Int
  last : Int
deriving DecidableEq, Repr

namespace IdRange

/-- All identifiers, for a deployment without buckets. -/
def all : IdRange := ⟨0, Int64.maxValue.toInt⟩

/-- The identifiers that a bucket can mint. -/
def ofBucket (layout : IdLayout) (bucket : Int) : Except Error IdRange := do
  let first ← layout.encode bucket 0
  .ok ⟨first, (Int64.ofInt first ||| layout.sequenceMask).toInt⟩

def contains (range : IdRange) (id : Int) : Bool := range.first ≤ id && id ≤ range.last

end IdRange

/-- A counter that mints the identifiers of one bucket in order. -/
structure IdSequence where
  layout : IdLayout
  bucket : Int
  /-- The number the next identifier takes; it wraps around. -/
  next : Int64
deriving DecidableEq, Repr

namespace IdSequence

/-- Starts at one; a bucket outside the layout is refused here. -/
def start (layout : IdLayout) (bucket : Int) : Except Error IdSequence := do
  let _ ← layout.encode bucket 0
  .ok ⟨layout, bucket, 1⟩

/-- The counter moves on whether or not its number still fits. -/
def mint (sequence : IdSequence) : Except Error Int × IdSequence :=
  (sequence.layout.encode sequence.bucket sequence.next.toInt, { sequence with next := sequence.next + 1 })

end IdSequence

end LeaseQueue
