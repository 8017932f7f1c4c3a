import LeaseQueue.Number.Shortest

/-!
Positional text of numbers: shortest digits, never an exponent, and no fraction for a whole number.
-/
namespace LeaseQueue

def zeros (count : Nat) : List Char := List.replicate count '0'

/-- The digits of a decimal with its point, written out in full. -/
def Decimal.positional (decimal : Decimal) : List Char :=
  let digits := Nat.toDigits 10 decimal.digits
  if 0 ≤ decimal.exponent then digits ++ zeros decimal.exponent.toNat
  else
    let whole : Int := digits.length + decimal.exponent
    if 0 < whole then digits.take whole.toNat ++ '.' :: digits.drop whole.toNat
    else '0' :: '.' :: zeros (-whole).toNat ++ digits

/-- The text of a number in messages, such as `100`, `-0.5`, `-0`, `NaN` and `-inf`. -/
def Binary.text {format : FloatFormat} (x : Binary format) : String :=
  if x.isNaN then "NaN"
  else
    let body :=
      if x.isInfinite then "inf".toList
      else if x.significand = 0 then ['0']
      else (x.shortest .up).positional
    String.ofList (if x.isNegative then '-' :: body else body)

end LeaseQueue
