import LeaseQueue.Meta.Value
import Mathlib.Order.Defs.LinearOrder

/-!
The order of metadata values. Values of one type are ordered unless one of them is a NaN, and of two values each is as
far from the other.
-/
namespace LeaseQueue

theorem Binary.compare?_swap {format : FloatFormat} (x y : Binary format) :
    y.compare? x = (x.compare? y).map Ordering.swap := by
  unfold Binary.compare?
  rw [Bool.or_comm]
  split
  · rfl
  · exact congrArg some Std.OrientedOrd.eq_swap

theorem Binary.compare?_eq {format : FloatFormat} {x y : Binary format} (first : x.isNaN = false)
    (second : y.isNaN = false) : x.compare? y = some (compare x.key y.key) := by
  unfold Binary.compare?
  rw [first, second]
  rfl

namespace Value

/-- Whether the value is a floating one that is no number. -/
def isNaN : Value → Bool
  | real x => x.isNaN
  | double x => x.isNaN
  | _ => false

theorem compare?_swap (x y : Value) : y.compare? x = (x.compare? y).map Ordering.swap := by
  cases x <;> cases y <;> try rfl
  case real.real x y => exact Binary.compare?_swap x y
  case double.double x y => exact Binary.compare?_swap x y
  all_goals exact congrArg some Std.OrientedOrd.eq_swap

theorem equals_comm (x y : Value) : x.equals y = y.equals x := by
  unfold equals
  rw [compare?_swap x y]
  rcases x.compare? y with _ | ordering
  · rfl
  · cases ordering <;> rfl

/-- Values of one type are ordered. -/
theorem compare?_isSome {x y : Value} (same : x.type = y.type) (first : x.isNaN = false) (second : y.isNaN = false) :
    ∃ ordering, x.compare? y = some ordering := by
  cases x <;> cases y <;> first | exact ⟨_, rfl⟩ | exact ⟨_, Binary.compare?_eq first second⟩ | cases same

theorem as?_type (type : ValueType) (datum : type.Carrier) : (type.value datum).as? type = some datum := by
  cases type <;> rfl

theorem type_value (type : ValueType) (datum : type.Carrier) : (type.value datum).type = type := by
  cases type <;> rfl

end Value

end LeaseQueue
