import LeaseQueue.Number.Binary

/-!
Shortest decimals: the fewest significant digits that read back as a given binary number, and of those the nearest
to it. The search walks the decimal grids from coarse to fine and stops at the first one with a point in the
interval of reals that round to the number.
-/
namespace LeaseQueue

/-- The decimal `digits * 10 ^ exponent`. -/
structure Decimal where
  digits : Nat
  exponent : Int
deriving DecidableEq, Repr

/-- Which neighbour is taken when a number lies halfway between two decimals that both read back as it. -/
inductive Tie
  | up
  | even
deriving DecidableEq, Repr

/-- The reals that round to one number: `value`, `lower` and `upper` count the same unit `num / den`. -/
structure RoundingInterval where
  value : Nat
  lower : Nat
  upper : Nat
  closed : Bool
  num : Nat
  den : Nat
deriving Repr

namespace RoundingInterval

/-- Whether a grid point, given in multiples of `gridNum / gridDen`, lies in the interval. -/
def contains (interval : RoundingInterval) (gridNum gridDen point : Nat) : Bool :=
  let place := point * gridNum * interval.den
  let low := interval.lower * interval.num * gridDen
  let high := interval.upper * interval.num * gridDen
  if interval.closed then low ≤ place && place ≤ high else low < place && place < high

/-- The best point of one grid: the nearer of the value's two neighbours that lie in the interval. -/
def nearest? (interval : RoundingInterval) (tie : Tie) (gridNum gridDen : Nat) : Option Nat :=
  let step := gridNum * interval.den
  let place := interval.value * interval.num * gridDen
  let below := place / step
  match interval.contains gridNum gridDen below, interval.contains gridNum gridDen (below + 1) with
  | false, false => none
  | true, false => some below
  | false, true => some (below + 1)
  | true, true =>
    let twice := 2 * (place % step)
    if twice < step then some below
    else if step < twice then some (below + 1)
    else match tie with
      | .up => some (below + 1)
      | .even => some (below + below % 2)

/-- Searches the grids `10 ^ exponent`, `10 ^ (exponent - 1)`, … for the first point in the interval. -/
def search (interval : RoundingInterval) (tie : Tie) (exponent : Int) : Nat → Decimal
  | 0 => ⟨0, exponent⟩
  | grids + 1 =>
    let (gridNum, gridDen) :=
      if 0 ≤ exponent then (Nat.pow 10 exponent.toNat, 1) else (1, Nat.pow 10 (-exponent).toNat)
    match interval.nearest? tie gridNum gridDen with
    | some point => ⟨point, exponent⟩
    | none => interval.search tie (exponent - 1) grids

end RoundingInterval

namespace Binary

variable {format : FloatFormat}

/-- Below a power of two the neighbouring number is only half as far away. -/
def interval (x : Binary format) : RoundingInterval :=
  let m := x.significand
  let lower := if m = Nat.pow 2 format.fraction ∧ format.least < x.scale then 4 * m - 1 else 4 * m - 2
  let unit := x.scale - 2
  { value := 4 * m
    lower := lower
    upper := 4 * m + 2
    closed := m % 2 == 0
    num := if 0 ≤ unit then Nat.pow 2 unit.toNat else 1
    den := if 0 ≤ unit then 1 else Nat.pow 2 (-unit).toNat }

/-- The shortest decimal of the absolute value of a finite number that is not zero. The number itself lies on the
grid `10 ^ (min scale 0)`, so the search ends there at the latest. -/
def shortest (x : Binary format) (tie : Tie) : Decimal :=
  let coarsest : Int := (Nat.toDigits 10 (x.ratio.1 / x.ratio.2)).length
  x.interval.search tie coarsest (coarsest - min x.scale 0).toNat.succ

end Binary

end LeaseQueue
