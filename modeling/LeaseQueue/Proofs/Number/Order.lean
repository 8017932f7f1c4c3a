import LeaseQueue.Number.Binary
import Mathlib.Algebra.Order.Field.Power
import Mathlib.Algebra.Order.Field.Rat
import Mathlib.Data.Int.ConditionallyCompleteOrder
import Mathlib.Order.Compare
import Mathlib.Order.WithBot
import Mathlib.Tactic.Linarith
import Mathlib.Tactic.Ring

/-!
Floating-point numbers as the numbers they stand for. The order of patterns is the order of those numbers.
-/
namespace LeaseQueue.Binary

variable {format : FloatFormat}

/-- The number that a finite pattern stands for. -/
def finite (x : Binary format) : ℚ := (if x.isNegative then -1 else 1) * (x.significand * 2 ^ x.scale)

/-- The number that a pattern stands for, which may be infinite. -/
def number (x : Binary format) : WithBot (WithTop ℚ) :=
  if x.isInfinite then if x.isNegative then ⊥ else ⊤ else ((x.finite : WithTop ℚ) : WithBot (WithTop ℚ))

/-- The significand of a magnitude in units of the least exponent; `place` is that of the exponent field. -/
def units (place magnitude : Nat) : Nat :=
  (if magnitude < place then magnitude else magnitude % place + place) * 2 ^ (magnitude / place - 1)

/-- A magnitude split at the exponent field. -/
theorem units_eq {place low : Nat} (small : low < place) (high : Nat) :
    units place (place * high + low) = (if high = 0 then low else low + place) * 2 ^ (high - 1) := by
  have positive : 0 < place := Nat.lt_of_le_of_lt (Nat.zero_le _) small
  have quotient : (place * high + low) / place = high := by
    rw [Nat.mul_add_div positive, Nat.div_eq_of_lt small, Nat.add_zero]
  have remainder : (place * high + low) % place = low := by
    rw [Nat.mul_add_mod, Nat.mod_eq_of_lt small]
  unfold units
  rw [quotient, remainder]
  cases high with
  | zero => simp [small]
  | succ high =>
    have large : ¬place * (high + 1) + low < place := by
      rw [Nat.mul_succ]
      omega
    rw [if_neg large, if_neg (Nat.succ_ne_zero high)]

theorem units_lt_succ {place : Nat} (positive : 0 < place) (magnitude : Nat) :
    units place magnitude < units place (magnitude + 1) := by
  obtain ⟨high, low, small, rfl⟩ : ∃ high low, low < place ∧ magnitude = place * high + low :=
    ⟨magnitude / place, magnitude % place, Nat.mod_lt _ positive, (Nat.div_add_mod magnitude place).symm⟩
  rw [units_eq small]
  by_cases carried : low + 1 = place
  · have next : place * high + low + 1 = place * (high + 1) + 0 := by
      rw [Nat.mul_succ]
      omega
    rw [next, units_eq positive, if_neg (Nat.succ_ne_zero high)]
    cases high with
    | zero => simpa using small
    | succ high =>
      rw [if_neg (Nat.succ_ne_zero high), Nat.add_sub_cancel, Nat.add_sub_cancel, Nat.pow_succ]
      have scaled : (low + place) * 2 ^ high < (place + place) * 2 ^ high :=
        Nat.mul_lt_mul_of_pos_right (by omega) (Nat.two_pow_pos high)
      linarith
  · rw [Nat.add_assoc, units_eq (by omega)]
    refine Nat.mul_lt_mul_of_pos_right ?_ (Nat.two_pow_pos _)
    split <;> omega

theorem units_zero (place : Nat) : units place 0 = 0 := by
  unfold units
  split <;> simp_all

/-- The number with a given key in units of the least exponent. -/
def signed (place : Nat) : Int → Int
  | .ofNat magnitude => units place magnitude
  | .negSucc less => -units place (less + 1)

theorem signed_neg (place magnitude : Nat) : signed place (-magnitude) = -units place magnitude := by
  cases magnitude with
  | zero =>
    show (units place 0 : Int) = -units place 0
    rw [units_zero]
    rfl
  | succ less => rfl

theorem signed_strictMono {place : Nat} (positive : 0 < place) : StrictMono (signed place) := by
  refine strictMono_int_of_lt_succ fun key => ?_
  cases key with
  | ofNat magnitude => exact Int.ofNat_lt.mpr (units_lt_succ positive magnitude)
  | negSucc less =>
    have next : Int.negSucc less + 1 = -less := by omega
    rw [next, signed_neg]
    exact Int.neg_lt_neg (Int.ofNat_lt.mpr (units_lt_succ positive less))

theorem finite_eq (x : Binary format) :
    x.finite = signed (Nat.pow 2 format.fraction) x.key * (2 : ℚ) ^ format.least := by
  have absolute : (x.significand : ℚ) * 2 ^ x.scale =
      units (Nat.pow 2 format.fraction) x.magnitude * 2 ^ format.least := by
    unfold scale
    rw [zpow_add₀ two_ne_zero, zpow_natCast, mul_comm (2 ^ format.least : ℚ), ← mul_assoc]
    congr 1
    unfold significand units
    push_cast
    rfl
  unfold finite key
  rw [absolute]
  cases x.isNegative with
  | true =>
    rw [if_pos rfl, if_pos rfl, signed_neg]
    push_cast
    ring
  | false =>
    rw [if_neg nofun, if_neg nofun, one_mul]
    rfl

/-- The number with a given key. -/
def ofKey (format : FloatFormat) (key : Int) : WithBot (WithTop ℚ) :=
  if key = -format.infinity then ⊥
  else if key = format.infinity then ⊤
  else ((signed (Nat.pow 2 format.fraction) key * (2 : ℚ) ^ format.least : ℚ) : WithTop ℚ)

theorem number_eq (proper : 0 < format.infinity) (x : Binary format) : x.number = ofKey format x.key := by
  unfold number ofKey isInfinite
  rw [finite_eq]
  by_cases infinite : x.magnitude = format.infinity
  · rw [if_pos (beq_iff_eq.mpr infinite)]
    unfold key
    rw [infinite]
    cases x.isNegative with
    | true => simp only [↓reduceIte]
    | false =>
      have other : (format.infinity : Int) ≠ -format.infinity := by omega
      simp only [Bool.false_eq_true, ↓reduceIte, other]
  · have neither : x.key ≠ -format.infinity ∧ x.key ≠ format.infinity := by
      unfold key
      split <;> omega
    rw [if_neg (mt beq_iff_eq.mp infinite), if_neg neither.1, if_neg neither.2]

/-- Up to infinity a greater key means a greater number. -/
theorem ofKey_strictMonoOn (format : FloatFormat) :
    StrictMonoOn (ofKey format) (Set.Icc (-format.infinity) format.infinity) := by
  intro first within second inside less
  obtain ⟨low, _⟩ := within
  obtain ⟨_, high⟩ := inside
  unfold ofKey
  rw [if_neg (show second ≠ -format.infinity by omega), if_neg (show first ≠ format.infinity by omega)]
  by_cases bottom : first = -format.infinity
  · rw [if_pos bottom]
    split
    · exact WithBot.bot_lt_coe _
    · exact WithBot.bot_lt_coe _
  · rw [if_neg bottom]
    split
    · exact WithBot.coe_lt_coe.mpr (WithTop.coe_lt_top _)
    · have positive : 0 < Nat.pow 2 format.fraction := Nat.two_pow_pos _
      have scaled : (0 : ℚ) < 2 ^ format.least := zpow_pos two_pos _
      refine WithBot.coe_lt_coe.mpr (WithTop.coe_lt_coe.mpr (mul_lt_mul_of_pos_right ?_ scaled))
      exact Int.cast_lt.mpr (signed_strictMono positive less)

theorem key_mem {x : Binary format} (ordered : x.isNaN = false) :
    x.key ∈ Set.Icc (-(format.infinity : Int)) format.infinity := by
  have small : x.magnitude ≤ format.infinity := Nat.le_of_not_lt (of_decide_eq_false ordered)
  unfold key
  rw [Set.mem_Icc]
  split <;> omega

/-- Patterns other than NaN are in the order of their numbers. -/
theorem compare_number (proper : 0 < format.infinity) {x y : Binary format} (first : x.isNaN = false)
    (second : y.isNaN = false) : compare x.number y.number = compare x.key y.key := by
  rw [number_eq proper, number_eq proper, ← cmp_eq_compare, ← cmp_eq_compare]
  exact (ofKey_strictMonoOn format).cmp_map_eq (key_mem first) (key_mem second)

end LeaseQueue.Binary
