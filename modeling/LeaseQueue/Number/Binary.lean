/-!
Binary floating-point numbers as bit patterns. A number is read as a sign, a significand and a power of two,
compared without rounding, and made from an exact ratio by rounding to the nearest pattern, a tie to the even one.
-/
namespace LeaseQueue

/-- The widths of the two stored fields of a binary interchange format. -/
structure FloatFormat where
  fraction : Nat
  exponent : Nat
deriving DecidableEq, Repr

namespace FloatFormat

def single : FloatFormat := ⟨23, 8⟩

def double : FloatFormat := ⟨52, 11⟩

def width (format : FloatFormat) : Nat := format.fraction + format.exponent + 1

/-- The place of the sign: patterns below it are the non-negative ones. -/
def signPlace (format : FloatFormat) : Nat := Nat.pow 2 (format.fraction + format.exponent)

/-- The magnitude of infinity; every larger magnitude is a NaN. -/
def infinity (format : FloatFormat) : Nat := (Nat.pow 2 format.exponent - 1) * Nat.pow 2 format.fraction

/-- The power of two that the last place of the smallest numbers stands for. -/
def least (format : FloatFormat) : Int := 2 - Nat.pow 2 (format.exponent - 1) - format.fraction

end FloatFormat

/-- A number of one format, kept as its bits: two NaN of different payload are different values here. -/
structure Binary (format : FloatFormat) where
  bits : BitVec format.width
deriving DecidableEq, Repr

abbrev Single := Binary .single

abbrev Double := Binary .double

/-- The quotient rounded to the nearest natural number, a half to the even one. -/
def roundRatio (num den : Nat) : Nat :=
  let quotient := num / den
  let twice := 2 * (num % den)
  if twice < den then quotient
  else if den < twice then quotient + 1
  else quotient + quotient % 2

/-- The exponent of the largest power of two not above `num / den`. -/
def ratioLog (num den : Nat) : Int :=
  let guess := (Nat.log2 num : Int) - Nat.log2 den
  let reached := if 0 ≤ guess then den * Nat.pow 2 guess.toNat ≤ num else den ≤ num * Nat.pow 2 (-guess).toNat
  if reached then guess else guess - 1

namespace Binary

variable {format : FloatFormat}

def ofNat (format : FloatFormat) (pattern : Nat) : Binary format := ⟨BitVec.ofNat _ pattern⟩

def pattern (x : Binary format) : Nat := x.bits.toNat

def isNegative (x : Binary format) : Bool := format.signPlace ≤ x.pattern

/-- The pattern without its sign. -/
def magnitude (x : Binary format) : Nat := x.pattern % format.signPlace

def isNaN (x : Binary format) : Bool := format.infinity < x.magnitude

def isInfinite (x : Binary format) : Bool := x.magnitude == format.infinity

/-- The integer that `2 ^ scale` multiplies in the absolute value of a finite number. -/
def significand (x : Binary format) : Nat :=
  if x.magnitude < Nat.pow 2 format.fraction then x.magnitude
  else x.magnitude % Nat.pow 2 format.fraction + Nat.pow 2 format.fraction

def scale (x : Binary format) : Int :=
  format.least + (x.magnitude / Nat.pow 2 format.fraction - 1 : Nat)

/-- The absolute value of a finite number as a ratio of natural numbers. -/
def ratio (x : Binary format) : Nat × Nat :=
  if 0 ≤ x.scale then (x.significand * Nat.pow 2 x.scale.toNat, 1) else (x.significand, Nat.pow 2 (-x.scale).toNat)

/-- A key that orders all numbers but NaN; the two zeros share one. -/
def key (x : Binary format) : Int := if x.isNegative then -x.magnitude else x.magnitude

/-- The order of two numbers; a NaN is ordered against nothing. -/
def compare? (x y : Binary format) : Option Ordering :=
  if x.isNaN || y.isNaN then none else some (compare x.key y.key)

/-- Equality of numbers, not of patterns: the zeros are equal and a NaN equals nothing. -/
def equals (x y : Binary format) : Bool := x.compare? y == some .eq

def lt (x y : Binary format) : Bool := x.compare? y == some .lt

def le (x y : Binary format) : Bool := x.lt y || x.equals y

/-- The pattern with a given sign and magnitude. -/
def ofMagnitude (negative : Bool) (magnitude : Nat) : Binary format :=
  ofNat format (if negative then format.signPlace + magnitude else magnitude)

/-- The number nearest to `±num / den`, a tie to the even pattern; beyond the largest number it is infinite. -/
def ofRatio (negative : Bool) (num den : Nat) : Binary format :=
  if num = 0 then ofMagnitude negative 0
  else
    let scale := max (ratioLog num den - format.fraction) format.least
    let rounded :=
      if 0 ≤ scale then roundRatio num (den * Nat.pow 2 scale.toNat)
      else roundRatio (num * Nat.pow 2 (-scale).toNat) den
    ofMagnitude negative
      (min ((scale - format.least).toNat * Nat.pow 2 format.fraction + rounded) format.infinity)

def ofInt (n : Int) : Binary format := ofRatio (n < 0) n.natAbs 1

/-- The nearest number of another format; infinities stay infinite and a NaN stays a NaN. -/
def convert (target : FloatFormat) (x : Binary format) : Binary target :=
  if x.isNaN then ofMagnitude x.isNegative (target.infinity + Nat.pow 2 (target.fraction - 1))
  else if x.isInfinite then ofMagnitude x.isNegative target.infinity
  else ofRatio x.isNegative x.ratio.1 x.ratio.2

/-- The product of two finite numbers, rounded once. -/
def mul (x y : Binary format) : Binary format :=
  ofRatio (x.isNegative != y.isNegative) (x.ratio.1 * y.ratio.1) (x.ratio.2 * y.ratio.2)

/-- The quotient of two finite numbers, the divisor not zero, rounded once. -/
def div (x y : Binary format) : Binary format :=
  ofRatio (x.isNegative != y.isNegative) (x.ratio.1 * y.ratio.2) (x.ratio.2 * y.ratio.1)

/-- The integer part of a finite number, its fraction dropped. -/
def truncate (x : Binary format) : Int :=
  let whole := x.ratio.1 / x.ratio.2
  if x.isNegative then -whole else whole

end Binary

end LeaseQueue
