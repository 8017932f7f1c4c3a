import LeaseQueue.Queue.Basic

/-!
Read-only views of a queue: the age of its messages and the values of a column. Values may be counted on a sample of
the table and scaled up.
-/
namespace LeaseQueue

/-- How long messages have been in the queue; absent where there is none. -/
structure MessageAge where
  oldest : Option Duration
  newest : Option Duration
  /-- How long the longest waiting message has been due. -/
  oldestReady : Option Duration
deriving DecidableEq, Repr

namespace MessageAge

def none : MessageAge := ⟨.none, .none, .none⟩

/-- The largest unsigned 64-bit number. -/
def longestMillis : Nat := UInt64.size - 1

/-- An age given in seconds, cut to milliseconds. Negative ages, and those that are no number, are zero. -/
def ofSeconds (seconds : Double) : Duration :=
  if seconds.isNaN || seconds.isNegative then 0
  else if seconds.isInfinite then longestMillis * nanosPerMilli
  else
    let scaled := seconds.mul (Binary.ofInt 1000)
    if scaled.isInfinite then longestMillis * nanosPerMilli
    else (min scaled.truncate.toNat longestMillis) * nanosPerMilli

end MessageAge

/-- How much of the table is read. -/
inductive Sample
  /-- Chosen from the size of the table. -/
  | auto
  /-- A share of the table in percent. -/
  | percent (share : Single)
deriving DecidableEq, Repr

structure DistinctOptions where
  sample : Sample
  filter : Option Condition
  /-- Sorts by count; without it the order is the backend's. -/
  order : Option SortOrder

def DistinctOptions.validate (options : DistinctOptions) : Except Error Unit :=
  match options.sample with
  | .auto => .ok ()
  | .percent share =>
    require ((Binary.ofInt 0).lt share && share.le (Binary.ofInt 100)) (.samplePercent share)

/-- A value, or its absence, with the number of messages that have it. -/
structure DistinctValue where
  value : Option Value
  count : Int

/-- The share to read of a table: one percent, but no fewer than 100 and no more than 1000 pages. -/
def samplePercentForPages (pages : Int) : Single :=
  if pages ≤ 0 then Binary.ofInt 100
  else
    let size : Double := Binary.ofInt pages
    let wanted := (size.div (Binary.ofInt 100)).truncate
    let scanned := max 100 (min wanted 1000)
    let share := ((Binary.ofInt (100 * scanned) : Double).div size).convert .single
    if share.lt (Binary.ofInt 100) then share else Binary.ofInt 100

/-- A count over a sample, scaled up to the whole table and kept within 64 bits. -/
def scaleCount (count : Int) (share : Single) : Int :=
  let scaled := ((Binary.ofInt count : Double).mul (Binary.ofInt 100)).div (share.convert .double)
  if scaled.isInfinite then (if scaled.isNegative then Int64.minValue.toInt else Int64.maxValue.toInt)
  else max Int64.minValue.toInt (min scaled.truncate Int64.maxValue.toInt)

end LeaseQueue
