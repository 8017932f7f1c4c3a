import LeaseQueue.Json.Syntax
import LeaseQueue.Number.Positional

/-!
Numbers in JSON. Integers are read exactly. A floating number is the nearest one to the decimal as written, where
digits beyond those that can matter count as a little more than none; one that would be infinite is refused.
It is written with the fewest digits that read back.
-/
namespace LeaseQueue

/-- The most digits that the midpoint of two neighbouring numbers can have; no more are needed to round. -/
def FloatFormat.midpointDigits (format : FloatFormat) : Nat :=
  (Nat.toDigits 10 ((Nat.pow 2 (format.fraction + 2) - 1) * Nat.pow 5 (1 - format.least).toNat)).length

/-- The first digits of a decimal. All digits behind them, be they zeros, become a single one. -/
def Decimal.cut (count : Nat) (decimal : Decimal) : Decimal :=
  let surplus := (Nat.toDigits 10 decimal.digits).length - count
  if surplus = 0 then decimal
  else ⟨decimal.digits / Nat.pow 10 surplus * 10 + 1, decimal.exponent + surplus - 1⟩

namespace JsonNumber

/-- The integer that is written, without a point or an exponent. A negative zero is no integer. -/
def toInt? (number : JsonNumber) : Option Int :=
  if number.fraction.isEmpty && number.exponent.isNone then
    (Numeral.readNat? number.whole).bind fun n =>
      if number.negative then (if n = 0 then none else some (-(n : Int))) else some (n : Int)
  else none

/-- The absolute value as it is written; zeros at the end of a fraction say nothing and are left out. -/
def decimal (number : JsonNumber) : Decimal :=
  let fraction := (number.fraction.reverse.dropWhile (· == '0')).reverse
  let power : Int := match number.exponent with
    | none => 0
    | some (negative, text) =>
      let size : Int := (Numeral.readNat? text).getD 0
      if negative then -size else size
  ⟨(Numeral.readNat? (number.whole ++ fraction)).getD 0, power - fraction.length⟩

/-- Powers of ten beyond which every floating number is infinite, and below minus which it is zero. -/
def farthestPower : Int := 400

/-- The nearest number in a floating format; nothing if it is too large for one. -/
def nearest? (format : FloatFormat) (number : JsonNumber) : Option (Binary format) :=
  let ⟨digits, exponent⟩ := number.decimal.cut format.midpointDigits
  let place := (Nat.toDigits 10 digits).length + exponent
  if digits = 0 ∨ place < -farthestPower then some (Binary.ofMagnitude number.negative 0)
  else if farthestPower < place then none
  else
    let nearest : Binary format :=
      if 0 ≤ exponent then .ofRatio number.negative (digits * Nat.pow 10 exponent.toNat) 1
      else .ofRatio number.negative digits (Nat.pow 10 (-exponent).toNat)
    if nearest.isInfinite then none else some nearest

/-- A negative integer whose absolute value fits a word of 64 bits, but which no signed word holds. -/
def isBelowWords (number : JsonNumber) : Bool := number.toInt?.any fun n => -(UInt64.size : Int) < n && n < Int64.minValue.toInt

/-- The number in a floating format. An integer just below the signed words is a double first, and so is rounded
twice on its way to a narrower format. -/
def toBinary? (format : FloatFormat) (number : JsonNumber) : Option (Binary format) :=
  if number.isBelowWords then (number.nearest? .double).map (·.convert format) else number.nearest? format

end JsonNumber

/-- How a floating number is written: up to `mostWhole` digits before the point and with up to `mostZeros` zeros
around it, and otherwise with a signed exponent. -/
structure FloatLayout where
  mostWhole : Int
  mostZeros : Int

namespace FloatLayout

def double : FloatLayout := ⟨16, 5⟩

def single : FloatLayout := ⟨13, 6⟩

/-- The text of a positive decimal. A whole number has one digit behind the point. -/
def decimalText (layout : FloatLayout) (decimal : Decimal) : List Char :=
  let digits := Nat.toDigits 10 decimal.digits
  let whole : Int := digits.length + decimal.exponent
  if 0 ≤ decimal.exponent ∧ whole ≤ layout.mostWhole then decimal.positional ++ ['.', '0']
  else if -layout.mostZeros < whole ∧ whole ≤ layout.mostWhole then decimal.positional
  else
    let shown := match digits with
      | first :: second :: rest => first :: '.' :: second :: rest
      | short => short
    let power := whole - 1
    shown ++ 'e' :: (if power < 0 then '-' else '+') :: Nat.toDigits 10 power.natAbs

/-- The text of a number; infinities and what is no number have none and are written as null. -/
def text {format : FloatFormat} (layout : FloatLayout) (x : Binary format) : List Char :=
  if x.isNaN || x.isInfinite then "null".toList
  else
    let body := if x.significand = 0 then "0.0".toList else layout.decimalText (x.shortest .even)
    if x.isNegative then '-' :: body else body

end FloatLayout

end LeaseQueue
