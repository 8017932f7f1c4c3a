/-!
Instants and durations. Both count nanoseconds: an instant from 1970-01-01T00:00:00Z, a duration from zero. An
instant has to stay inside the calendar, and arithmetic that would leave it is an overflow.
-/
namespace LeaseQueue

/-- Nanoseconds since 1970-01-01T00:00:00Z. -/
abbrev Instant := Int

/-- A length of time in nanoseconds. -/
abbrev Duration := Nat

def nanosPerSecond : Nat := 1000000000

def nanosPerMilli : Nat := 1000000

/-- The first instant of the calendar. -/
def Instant.earliest : Instant := -8334601228800 * nanosPerSecond

/-- The last instant of the calendar. -/
def Instant.latest : Instant := 8210266876800 * nanosPerSecond - 1

/-- The longest span in whole milliseconds, in either direction. -/
def longestSpan : Int := Int64.maxValue.toInt * nanosPerMilli

/-- Date arithmetic that cannot be represented. It stops the operation in which it happens. -/
inductive Overflow
  /-- An instant would leave the calendar. -/
  | instant
  /-- A span would exceed the longest one. -/
  | span
deriving DecidableEq, Repr

def Overflow.message : Overflow → String
  | instant => "`DateTime + TimeDelta` overflowed"
  | span => "`TimeDelta + TimeDelta` overflowed"

/-- The instant that lies a span after another one. -/
def Instant.add (instant : Instant) (span : Int) : Except Overflow Instant :=
  let sum : Instant := instant + span
  if Instant.earliest ≤ sum ∧ sum ≤ Instant.latest then .ok sum else .error .instant

/-- The sum of two spans. -/
def addSpans (first second : Int) : Except Overflow Int :=
  let sum := first + second
  if -longestSpan ≤ sum ∧ sum ≤ longestSpan then .ok sum else .error .span

/-- The time that has passed since an instant, nothing if it is still to come. -/
def Instant.since (now before : Instant) : Duration := (now - before : Int).toNat

/-- Whole milliseconds of a duration. -/
def Duration.millis (duration : Duration) : Nat := duration / nanosPerMilli

/-- The decimal digits of `part / unit` behind a point, without trailing zeros, and nothing for a whole number. The
unit is a power of ten with `places` zeros. -/
def fractionText (places part : Nat) : List Char :=
  let digits := Nat.toDigits 10 part
  let padded := List.replicate (places - digits.length) '0' ++ digits
  match (padded.reverse.dropWhile (· == '0')).reverse with
  | [] => []
  | kept => '.' :: kept

/-- A duration in its largest unit with a whole part, exact to the nanosecond, such as `1.5s` and `0ns`. -/
def Duration.text (duration : Duration) : String :=
  let inUnit (unit places : Nat) (name : String) : String :=
    let fraction := if duration % unit = 0 then [] else fractionText places (duration % unit)
    toString (duration / unit) ++ String.ofList fraction ++ name
  if nanosPerSecond ≤ duration then inUnit nanosPerSecond 9 "s"
  else if nanosPerMilli ≤ duration then inUnit nanosPerMilli 6 "ms"
  else if 1000 ≤ duration then inUnit 1000 3 "µs"
  else inUnit 1 0 "ns"

end LeaseQueue
