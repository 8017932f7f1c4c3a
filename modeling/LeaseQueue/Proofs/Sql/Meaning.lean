import LeaseQueue.Condition.Truth
import LeaseQueue.Proofs.Condition.Patterns
import LeaseQueue.Proofs.Meta.Order
import LeaseQueue.Proofs.Number.Order
import LeaseQueue.Proofs.Sql.Grammar
import LeaseQueue.Proofs.Text.Bytes
import LeaseQueue.Sql.Param

/-!
The value of an SQL condition on a row: true, false or unknown. A condition has no value if it compares values of
different types or names a placeholder that nothing is bound to.
-/
namespace LeaseQueue

/-- The order of two numbers; a NaN is as great as another one and greater than all else. -/
def Binary.order {format : FloatFormat} (x y : Binary format) : Ordering :=
  (compare x.isNaN y.isNaN).then (if x.isNaN then .eq else compare x.number y.number)

namespace Sql

/-- The order of two values of one type; texts are in the order of their bytes. -/
def order? : Value → Value → Option Ordering
  | .smallInt x, .smallInt y => some (compare x.toInt y.toInt)
  | .int x, .int y => some (compare x.toInt y.toInt)
  | .bigInt x, .bigInt y => some (compare x.toInt y.toInt)
  | .boolean x, .boolean y => some (compare x.toNat y.toNat)
  | .real x, .real y => some (x.order y)
  | .double x, .double y => some (x.order y)
  | .text x, .text y => some (compareBytes (textBytes x) (textBytes y))
  | _, _ => none

/-- Whether two values stand in a relation. A pattern in which nothing follows the last backslash is an error. -/
def Relation.holds? : Relation → Value → Value → Option Bool
  | eq, x, y => (order? x y).map (· == .eq)
  | ne, x, y => (order? x y).map (· != .eq)
  | gt, x, y => (order? x y).map (· == .gt)
  | ge, x, y => (order? x y).map (· != .lt)
  | lt, x, y => (order? x y).map (· == .lt)
  | le, x, y => (order? x y).map (· != .gt)
  | like, .text content, .text pattern =>
    if patternComplete pattern.toList then some (patternAccepts pattern.toList content.toList) else none
  | like, _, _ => none

/-- A value, or null. -/
abbrev Nullable := Option Value

/-- A comparison with null is unknown. -/
def Relation.compare? (relation : Relation) : Nullable → Nullable → Option Truth
  | some x, some y => (relation.holds? x y).map some
  | _, _ => some none

/-- The disjunction of the equalities with the elements of an array. -/
def amongAll? (subject : Nullable) : List Value → Option Truth
  | [] => some (some false)
  | item :: rest => do some ((← Relation.eq.compare? subject (some item)).or (← amongAll? subject rest))

/-! The order of values in the database is their order in memory, NaN apart. -/

theorem order_eq {format : FloatFormat} (proper : 0 < format.infinity) {x y : Binary format}
    (first : x.isNaN = false) (second : y.isNaN = false) : x.compare? y = some (x.order y) := by
  unfold Binary.compare? Binary.order
  rw [first, second, ← Binary.compare_number proper first second]
  rfl

theorem compare_toNat (x y : Bool) : compare x.toNat y.toNat = compare x y := by
  cases x <;> cases y <;> rfl

/-- Values that are no NaN are in the same order here and there. -/
theorem order?_eq {x y : Value} (first : x.isNaN = false) (second : y.isNaN = false) : order? x y = x.compare? y := by
  cases x <;> cases y <;> try rfl
  case boolean.boolean x y => exact congrArg some (compare_toNat x y)
  case real.real x y => exact (order_eq (by decide) first second).symm
  case double.double x y => exact (order_eq (by decide) first second).symm
  case text.text x y => exact congrArg some (compareBytes_eq x y)

variable (row : Meta) (bound : Nat → Option Param)

def Term.value? : Term → Option Nullable
  | column name => some row[name]?
  | parameter index =>
    match bound index with
    | some (.value value) => some (some value)
    | some .null => some none
    | _ => none

namespace Formula

def evaluate? : Formula → Option Truth
  | compare left relation right => do relation.compare? (← left.value? row bound) (← right.value? row bound)
  | between subject low high => do
    let middle ← subject.value? row bound
    let fromLow ← Relation.ge.compare? middle (← low.value? row bound)
    let toHigh ← Relation.le.compare? middle (← high.value? row bound)
    some (fromLow.and toHigh)
  | among subject index =>
    match bound index with
    | some (.array list) => do amongAll? (← subject.value? row bound) list.values
    | _ => none
  | isNull subject => do some (some (← subject.value? row bound).isNone)
  | isNotNull subject => do some (some (← subject.value? row bound).isSome)
  | not inner => inner.evaluate?.map Truth.not
  | and left right => do some ((← left.evaluate?).and (← right.evaluate?))
  | or left right => do some ((← left.evaluate?).or (← right.evaluate?))

end Formula

/-- Parameters bound to placeholders in order, from a given number on. -/
def bindings (first : Nat) (params : List Param) (index : Nat) : Option Param :=
  if first ≤ index then params[index - first]? else none

/-- The value of a condition given as text. -/
def evaluateText? (text : String) : Option Truth := (Formula.ofText? text).bind (Formula.evaluate? row bound)

end Sql

end LeaseQueue
