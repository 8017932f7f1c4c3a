import LeaseQueue.Identifier.Layout
import Mathlib.Algebra.Ring.Int.Defs
import Mathlib.Algebra.Ring.Nat

/-!
What a sequence mints: the bits of bucket and number do not meet, so an identifier is their sum and a sequence goes
up until its numbers run out.
-/
namespace LeaseQueue

theorem smod_shiftCount {count : Nat} (narrow : count < 64) :
    (Int64.ofNat count).toBitVec.smod 64 = BitVec.ofNat 64 count := by
  revert count
  decide

theorem toBitVec_shiftLeft (word : Int64) {count : Nat} (narrow : count < 64) :
    (word <<< Int64.ofNat count).toBitVec = word.toBitVec <<< count := by
  rw [Int64.toBitVec_shiftLeft, smod_shiftCount narrow, BitVec.shiftLeft_eq', BitVec.toNat_ofNat,
    Nat.mod_eq_of_lt (Nat.lt_trans narrow (by decide))]

theorem toBitVec_shiftRight (word : Int64) {count : Nat} (narrow : count < 64) :
    (word >>> Int64.ofNat count).toBitVec = word.toBitVec.sshiftRight count := by
  rw [Int64.toBitVec_shiftRight, smod_shiftCount narrow, BitVec.sshiftRight_eq', BitVec.toNat_ofNat,
    Nat.mod_eq_of_lt (Nat.lt_trans narrow (by decide))]

namespace IdLayout

variable {layout : IdLayout}

/-- The largest bucket is a 32-bit number. -/
def Small (layout : IdLayout) : Prop := layout.maxBucket ≤ Int32.maxValue.toInt

theorem bucketBits_le (small : layout.Small) : layout.bucketBits ≤ 31 := by
  have bound : layout.maxBucket ≤ 2147483647 := small
  unfold bucketBits
  split
  · omega
  · rename_i positive
    have log : layout.maxBucket.toNat.log2 < 31 := (Nat.log2_lt positive).mpr (by omega)
    omega

theorem lt_bucketBits {bucket : Nat} (fits : bucket ≤ layout.maxBucket) : bucket < 2 ^ layout.bucketBits := by
  unfold bucketBits
  split
  · omega
  · exact Nat.lt_of_le_of_lt (by omega) Nat.lt_log2_self

theorem toNat_sequenceMask (small : layout.Small) :
    layout.sequenceMask.toBitVec.toNat = 2 ^ layout.sequenceBits - 1 := by
  have narrow := bucketBits_le small
  unfold sequenceMask sequenceBits
  rw [toBitVec_shiftRight _ (by omega)]
  generalize layout.bucketBits = bits at narrow
  revert bits
  decide

theorem maxSequence_eq (small : layout.Small) : layout.maxSequence = 2 ^ layout.sequenceBits - 1 := by
  have narrow := bucketBits_le small
  unfold maxSequence sequenceMask sequenceBits
  rw [← Int64.toInt_toBitVec, toBitVec_shiftRight _ (by omega), BitVec.toInt_sshiftRight, Int64.toInt_toBitVec,
    Int64.toInt_maxValue]
  generalize layout.bucketBits = bits at narrow
  revert bits
  decide

theorem word_lt (small : layout.Small) {bucket sequence : Nat} (valid : bucket ≤ layout.maxBucket)
    (fits : sequence < 2 ^ layout.sequenceBits) : bucket * 2 ^ layout.sequenceBits + sequence < 2 ^ 63 := by
  have bits : layout.bucketBits + layout.sequenceBits = 63 := by
    have narrow := bucketBits_le small
    unfold sequenceBits
    omega
  have next := Nat.mul_le_mul_right (2 ^ layout.sequenceBits) (lt_bucketBits valid)
  rw [Nat.succ_mul, ← Nat.pow_add, bits] at next
  omega

/-- The bits of bucket and sequence do not meet. -/
theorem toNat_word (small : layout.Small) {bucket sequence : Nat} (valid : bucket ≤ layout.maxBucket)
    (fits : sequence < 2 ^ layout.sequenceBits) :
    (Int64.ofInt bucket <<< Int64.ofNat layout.sequenceBits |||
      (Int64.ofInt sequence &&& layout.sequenceMask)).toBitVec.toNat = bucket * 2 ^ layout.sequenceBits + sequence := by
  have whole := word_lt small valid fits
  have high : bucket < 2 ^ 64 := by
    have below := Nat.le_mul_of_pos_right bucket (Nat.two_pow_pos layout.sequenceBits)
    omega
  have low : sequence < 2 ^ 64 := by omega
  have narrow : layout.sequenceBits < 64 := by
    unfold sequenceBits
    omega
  rw [Int64.toBitVec_or, toBitVec_shiftLeft _ narrow, Int64.toBitVec_and, BitVec.toNat_or, BitVec.toNat_and,
    toNat_sequenceMask small, BitVec.toNat_shiftLeft, Int64.toBitVec_ofInt, Int64.toBitVec_ofInt, BitVec.ofInt_natCast,
    BitVec.ofInt_natCast, BitVec.toNat_ofNat, BitVec.toNat_ofNat, Nat.mod_eq_of_lt low, Nat.mod_eq_of_lt high,
    Nat.and_two_pow_sub_one_of_lt_two_pow fits, Nat.mod_eq_of_lt, ← Nat.shiftLeft_add_eq_or_of_lt fits,
    Nat.shiftLeft_eq]
  rw [Nat.shiftLeft_eq]
  omega

theorem encode_eq (small : layout.Small) {bucket sequence : Int} (lower : 0 ≤ bucket)
    (upper : bucket ≤ layout.maxBucket) (positive : 0 ≤ sequence) (fits : sequence ≤ layout.maxSequence) :
    layout.encode bucket sequence = .ok (bucket * 2 ^ layout.sequenceBits + sequence) := by
  have room := maxSequence_eq small
  obtain ⟨high, rfl⟩ := Int.eq_ofNat_of_zero_le lower
  obtain ⟨low, rfl⟩ := Int.eq_ofNat_of_zero_le positive
  have below : low < 2 ^ layout.sequenceBits := by
    have bound : (low : Int) < 2 ^ layout.sequenceBits := by omega
    exact_mod_cast bound
  have word := toNat_word small upper below
  have whole := word_lt small upper below
  unfold encode checkBucket
  rw [if_pos ⟨lower, upper⟩]
  simp only [bind, Except.bind]
  rw [if_pos ⟨positive, fits⟩, ← Int64.toInt_toBitVec, BitVec.toInt_eq_toNat_of_lt (by omega), word]
  simp

/-- A number is encoded as itself above the bucket, or not at all. -/
theorem encode_ok (small : layout.Small) {bucket sequence id : Int} (encoded : layout.encode bucket sequence = .ok id) :
    0 ≤ sequence ∧ sequence ≤ layout.maxSequence ∧ id = bucket * 2 ^ layout.sequenceBits + sequence := by
  have parts := encoded
  unfold encode checkBucket at parts
  split at parts
  · rename_i valid
    simp only [bind, Except.bind] at parts
    split at parts
    · rename_i fits
      rw [encode_eq small valid.1 valid.2 fits.1 fits.2] at encoded
      cases encoded
      exact ⟨fits.1, fits.2, rfl⟩
    · cases parts
  · cases parts

/-- The identifier of a bucket with a number. -/
def nth (layout : IdLayout) (bucket : Int) (number : Nat) : Int := bucket * 2 ^ layout.sequenceBits + number

theorem nth_lt {bucket : Int} {first second : Nat} (less : first < second) :
    layout.nth bucket first < layout.nth bucket second := by
  unfold nth
  omega

theorem nth_le {bucket : Int} {first second : Nat} (less : first ≤ second) :
    layout.nth bucket first ≤ layout.nth bucket second := by
  unfold nth
  omega

end IdLayout

namespace IdSequence

/-- The sequence of a bucket after some calls for an identifier. -/
def afterCalls (layout : IdLayout) (bucket : Int) (calls : Nat) : IdSequence :=
  ⟨layout, bucket, Int64.ofNat (calls + 1)⟩

theorem start_eq {layout : IdLayout} {bucket : Int} {sequence : IdSequence}
    (started : start layout bucket = .ok sequence) : sequence = afterCalls layout bucket 0 := by
  unfold start at started
  cases valid : layout.encode bucket 0 with
  | error failure => rw [valid] at started; cases started
  | ok first => rw [valid] at started; cases started; rfl

theorem mint_next (layout : IdLayout) (bucket : Int) (calls : Nat) :
    (afterCalls layout bucket calls).mint.2 = afterCalls layout bucket (calls + 1) := by
  unfold mint afterCalls
  simp [Int64.ofNat_add]

/-- A word that counts to `2 ^ 64` is not negative only before it passes the largest number. -/
theorem toInt_ofNat_of_nonneg {count : Nat} (few : count < 2 ^ 64) (positive : 0 ≤ (Int64.ofNat count).toInt) :
    (Int64.ofNat count).toInt = count := by
  have number : (Int64.ofNat count).toInt = (count : Int).bmod (2 ^ 64) := Int64.toInt_ofNat'
  rw [number, Int.bmod_def] at positive ⊢
  split at positive
  · rename_i low
    rw [if_pos low]
    omega
  · omega

/-- Fewer than `2 ^ 64` calls do not bring the counter back to a number that was taken before. -/
theorem mint_ok {layout : IdLayout} (small : layout.Small) {bucket id : Int} {calls : Nat} (few : calls + 1 < 2 ^ 64)
    (minted : (afterCalls layout bucket calls).mint.1 = .ok id) :
    id = layout.nth bucket (calls + 1) := by
  obtain ⟨positive, _, rfl⟩ := IdLayout.encode_ok small minted
  exact congrArg (bucket * 2 ^ layout.sequenceBits + ·) (toInt_ofNat_of_nonneg few positive)

end IdSequence

end LeaseQueue
