/-!
Decimal numerals: an optional sign and at least one ASCII digit. Leading zeros and a plus sign are accepted on
reading and never written.
-/
namespace LeaseQueue.Numeral

/-- The value of an ASCII digit. -/
def digit? (c : Char) : Option Nat :=
  if '0' ≤ c ∧ c ≤ '9' then some (c.toNat - '0'.toNat) else none

/-- Reads digits onto the value of those already read. -/
def continueNat? (value : Nat) : List Char → Option Nat
  | [] => some value
  | c :: rest => (digit? c).bind fun d => continueNat? (10 * value + d) rest

def readNat? : List Char → Option Nat
  | [] => none
  | digits => continueNat? 0 digits

def readInt? : List Char → Option Int
  | '-' :: digits => (readNat? digits).map fun n => -(n : Int)
  | '+' :: digits => (readNat? digits).map fun n => (n : Int)
  | digits => (readNat? digits).map fun n => (n : Int)

/-- Reads a numeral whose value lies between two bounds. -/
def readBetween? (low high : Int) (text : List Char) : Option Int :=
  (readInt? text).filter fun n => low ≤ n && n ≤ high

end LeaseQueue.Numeral
