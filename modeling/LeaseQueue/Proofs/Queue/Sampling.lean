import LeaseQueue.Proofs.Number.Order
import LeaseQueue.Proofs.Sorting
import LeaseQueue.Queue.Inspect
import Mathlib.Tactic.NormNum

/-!
The share of a table that is read. Comparing floating-point numbers is comparing the numbers they stand for, so a share
is accepted if and only if it is above 0 and at most 100 percent.
-/
namespace LeaseQueue

namespace Binary

variable {format : FloatFormat} {x y : Binary format}

/-- A comparison has an answer just for two numbers, and it is that of the numbers. -/
theorem compare?_eq_some_iff (proper : 0 < format.infinity) {ordering : Ordering} : x.compare? y = some ordering ↔
    x.isNaN = false ∧ y.isNaN = false ∧ compare x.number y.number = ordering := by
  constructor
  · intro compared
    obtain ⟨first, second⟩ := isNaN_of_compare? compared
    rw [compare?_eq first second, Option.some.injEq, ← compare_number proper first second] at compared
    exact ⟨first, second, compared⟩
  · rintro ⟨first, second, compared⟩
    rw [compare?_eq first second, Option.some.injEq, ← compare_number proper first second]
    exact compared

theorem lt_iff (proper : 0 < format.infinity) :
    x.lt y = true ↔ x.isNaN = false ∧ y.isNaN = false ∧ x.number < y.number := by
  unfold lt
  rw [beq_iff_eq, compare?_eq_some_iff proper, compare_lt_iff_lt]

theorem le_iff (proper : 0 < format.infinity) :
    x.le y = true ↔ x.isNaN = false ∧ y.isNaN = false ∧ x.number ≤ y.number := by
  unfold le equals
  rw [Bool.or_eq_true, lt_iff proper, beq_iff_eq, compare?_eq_some_iff proper, compare_eq_iff_eq, le_iff_lt_or_eq,
    and_or_left, and_or_left]

theorem number_zero : (Binary.ofInt 0 : Single).number = 0 := by
  have infinite : (Binary.ofInt 0 : Single).isInfinite = false := by decide +kernel
  have significand : (Binary.ofInt 0 : Single).significand = 0 := by decide +kernel
  rw [number, infinite, if_neg nofun, finite, significand]
  simp

theorem number_hundred : (Binary.ofInt 100 : Single).number = 100 := by
  have infinite : (Binary.ofInt 100 : Single).isInfinite = false := by decide +kernel
  have significand : (Binary.ofInt 100 : Single).significand = 13107200 := by decide +kernel
  have scale : (Binary.ofInt 100 : Single).scale = -17 := by decide +kernel
  have positive : (Binary.ofInt 100 : Single).isNegative = false := by decide +kernel
  have value : (Binary.ofInt 100 : Single).finite = 100 := by
    rw [finite, significand, scale, positive]
    norm_num
  rw [number, infinite, if_neg nofun, value]
  rfl

end Binary

namespace DistinctOptions

/-- A share to read is a number above 0 and at most 100 percent. -/
def Sound (options : DistinctOptions) : Prop :=
  ∀ share, options.sample = .percent share → share.isNaN = false ∧ 0 < share.number ∧ share.number ≤ 100

theorem within_iff (share : Single) : ((Binary.ofInt 0).lt share && share.le (Binary.ofInt 100)) = true ↔
    share.isNaN = false ∧ 0 < share.number ∧ share.number ≤ 100 := by
  have proper : 0 < FloatFormat.single.infinity := by decide
  have zero : (Binary.ofInt 0 : Single).isNaN = false := by decide +kernel
  have hundred : (Binary.ofInt 100 : Single).isNaN = false := by decide +kernel
  rw [Bool.and_eq_true, Binary.lt_iff proper, Binary.le_iff proper, Binary.number_zero, Binary.number_hundred]
  constructor
  · rintro ⟨⟨-, number, above⟩, -, -, below⟩
    exact ⟨number, above, below⟩
  · rintro ⟨number, above, below⟩
    exact ⟨⟨zero, number, above⟩, number, hundred, below⟩

theorem validate_of_sound {options : DistinctOptions} (sound : options.Sound) : options.validate = .ok () := by
  unfold validate
  cases sample : options.sample with
  | auto => rfl
  | percent share =>
    dsimp only
    rw [(within_iff share).mpr (sound share sample)]
    rfl

theorem validate_of_not_sound {options : DistinctOptions} (unsound : ¬ options.Sound) :
    ∃ share, options.sample = .percent share ∧ options.validate = refuse (.samplePercent share) := by
  unfold Sound at unsound
  push Not at unsound
  obtain ⟨share, sample, outside⟩ := unsound
  refine ⟨share, sample, ?_⟩
  unfold validate
  rw [sample]
  have refused : ((Binary.ofInt 0).lt share && share.le (Binary.ofInt 100)) = false := by
    refine Bool.eq_false_iff.mpr fun within => ?_
    obtain ⟨number, above, below⟩ := (within_iff share).mp within
    exact absurd below (not_le.mpr (outside number above))
  dsimp only
  rw [refused]
  rfl

end DistinctOptions

end LeaseQueue
