import LeaseQueue.Proofs.Identifier.Minting
import Mathlib.Data.Int.ConditionallyCompleteOrder
import Mathlib.Tactic.Linarith
import Mathlib.Tactic.Ring

/-!
A layout as an order isomorphism: identifiers are the pairs of bucket and sequence number in their lexicographic order,
so every bucket has a range of its own and the ranges lie side by side.
-/
namespace LeaseQueue.IdLayout

variable {layout : IdLayout}

theorem bits_add (small : layout.Small) : layout.bucketBits + layout.sequenceBits = 63 := by
  have narrow := bucketBits_le small
  simp only [sequenceBits]
  omega

/-- No smaller width holds the largest bucket. -/
theorem bucketBits_least {width : Nat} (holds : layout.maxBucket < 2 ^ width) : layout.bucketBits ≤ width := by
  by_cases zero : layout.maxBucket.toNat = 0
  · simp [bucketBits, zero]
  · have below : layout.maxBucket.toNat < 2 ^ width := by
      have positive : (0 : Int) < 2 ^ width := by positivity
      have cast : ((2 ^ width : Nat) : Int) = 2 ^ width := by push_cast; rfl
      omega
    have log := (Nat.log2_lt zero).mpr below
    simp only [bucketBits, zero, if_false]
    omega

/-! The words behind an identifier lose no bits. -/

/-- The numbers that a 64-bit word can hold without a sign. -/
def IsWord (id : Int) : Prop := 0 ≤ id ∧ id ≤ Int64.maxValue.toInt

theorem isWord_iff {id : Int} : IsWord id ↔ 0 ≤ id ∧ id < 2 ^ 63 := by
  have largest : Int64.maxValue.toInt = 2 ^ 63 - 1 := by decide
  simp only [IsWord, largest]
  omega

theorem IsWord.toInt {id : Int} (word : IsWord id) : (Int64.ofInt id).toInt = id := by
  obtain ⟨lower, upper⟩ := isWord_iff.mp word
  exact Int64.toInt_ofInt_of_le (by omega) upper

theorem shiftRight_toInt {id : Int} (word : IsWord id) {count : Nat} (narrow : count < 64) :
    (Int64.ofInt id >>> Int64.ofNat count).toInt = id / 2 ^ count := by
  have shifted := toBitVec_shiftRight (Int64.ofInt id) narrow
  have value := congrArg BitVec.toInt shifted
  rw [BitVec.toInt_sshiftRight, Int64.toInt_toBitVec, Int64.toInt_toBitVec, word.toInt, Int.shiftRight_eq_div_pow]
    at value
  simpa using value

theorem shiftLeft_toInt (small : layout.Small) {bucket : Int} (lower : 0 ≤ bucket) (upper : bucket ≤ layout.maxBucket) :
    (Int64.ofInt bucket <<< Int64.ofNat layout.sequenceBits).toInt = bucket * 2 ^ layout.sequenceBits := by
  obtain ⟨high, rfl⟩ := Int.eq_ofNat_of_zero_le lower
  have word := toNat_word small upper (Nat.two_pow_pos layout.sequenceBits)
  have whole := word_lt small upper (Nat.two_pow_pos layout.sequenceBits)
  have none : Int64.ofInt ((0 : Nat) : Int) &&& layout.sequenceMask = 0 := Int64.zero_and
  rw [none, Int64.or_zero] at word
  rw [← Int64.toInt_toBitVec, BitVec.toInt_eq_toNat_of_lt (by omega), word]
  simp

/-- The bits above the sequence are few enough for a bucket. -/
theorem bucketPart_lt (small : layout.Small) {id : Int} (word : IsWord id) :
    0 ≤ id / 2 ^ layout.sequenceBits ∧ id / 2 ^ layout.sequenceBits < 2 ^ 31 := by
  obtain ⟨lower, upper⟩ := isWord_iff.mp word
  have unit : (0 : Int) < 2 ^ layout.sequenceBits := by positivity
  refine ⟨Int.ediv_nonneg lower unit.le, Int.ediv_lt_of_lt_mul unit ?_⟩
  have wide : 32 ≤ layout.sequenceBits := by
    have narrow := bucketBits_le small
    have both := bits_add small
    omega
  calc id < 2 ^ 63 := upper
    _ = 2 ^ 31 * 2 ^ 32 := by norm_num
    _ ≤ 2 ^ 31 * 2 ^ layout.sequenceBits := by
      have grows : (2 : Int) ^ 32 ≤ 2 ^ layout.sequenceBits := pow_le_pow_right₀ (by norm_num) wide
      omega

/-- The bucket of an identifier is the same in 32 bits. -/
theorem bucketPart_toInt (small : layout.Small) {id : Int} (word : IsWord id) :
    (Int64.ofInt id >>> Int64.ofNat layout.sequenceBits).toInt32.toInt = id / 2 ^ layout.sequenceBits := by
  have narrow : layout.sequenceBits < 64 := by
    have both := bits_add small
    omega
  obtain ⟨lower, upper⟩ := bucketPart_lt small word
  rw [Int64.toInt_toInt32, shiftRight_toInt word narrow]
  exact Int.bmod_eq_of_le_mul_two (by omega) (by omega)

theorem sequencePart_toInt (small : layout.Small) {id : Int} (word : IsWord id) :
    (Int64.ofInt id &&& layout.sequenceMask).toInt = id % 2 ^ layout.sequenceBits := by
  obtain ⟨lower, upper⟩ := isWord_iff.mp word
  obtain ⟨bits, rfl⟩ := Int.eq_ofNat_of_zero_le lower
  have fits : bits < 2 ^ 64 := by omega
  have kept : (Int64.ofInt bits &&& layout.sequenceMask).toBitVec.toNat = bits % 2 ^ layout.sequenceBits := by
    rw [Int64.toBitVec_and, BitVec.toNat_and, toNat_sequenceMask small, Int64.toBitVec_ofInt, BitVec.ofInt_natCast,
      BitVec.toNat_ofNat, Nat.mod_eq_of_lt fits, Nat.and_two_pow_sub_one_eq_mod]
  have below : bits % 2 ^ layout.sequenceBits ≤ bits := Nat.mod_le _ _
  rw [← Int64.toInt_toBitVec, BitVec.toInt_eq_toNat_of_lt (by omega), kept]
  push_cast
  rfl

theorem decode_eq (small : layout.Small) {id : Int} (word : IsWord id) :
    layout.decode id = .ok ⟨id / 2 ^ layout.sequenceBits, id % 2 ^ layout.sequenceBits⟩ := by
  have positive : ¬ id < 0 := by
    have lower := word.1
    omega
  simp only [decode, if_neg positive, bucketPart_toInt small word, sequencePart_toInt small word]

theorem encode_badBucket {bucket : Int} (bad : ¬ (0 ≤ bucket ∧ bucket ≤ layout.maxBucket)) (sequence : Int) :
    layout.encode bucket sequence = refuse (.bucketOutOfRange bucket layout.maxBucket) := by
  simp only [encode, checkBucket, if_neg bad]
  rfl

theorem encode_badSequence {bucket sequence : Int} (valid : 0 ≤ bucket ∧ bucket ≤ layout.maxBucket)
    (bad : ¬ (0 ≤ sequence ∧ sequence ≤ layout.maxSequence)) :
    layout.encode bucket sequence = .error (.identifierOverflow bucket sequence layout.sequenceBits) := by
  simp only [encode, checkBucket, if_pos valid]
  exact if_neg bad

/-- What is encoded is a valid bucket with a number that fits, and the identifier is their value. -/
theorem encode_ok_iff (small : layout.Small) {bucket sequence id : Int} :
    layout.encode bucket sequence = .ok id ↔ (0 ≤ bucket ∧ bucket ≤ layout.maxBucket) ∧
      (0 ≤ sequence ∧ sequence ≤ layout.maxSequence) ∧ id = bucket * 2 ^ layout.sequenceBits + sequence := by
  constructor
  · intro encoded
    by_cases valid : 0 ≤ bucket ∧ bucket ≤ layout.maxBucket
    · obtain ⟨lower, upper, value⟩ := encode_ok small encoded
      exact ⟨valid, ⟨lower, upper⟩, value⟩
    · rw [encode_badBucket valid] at encoded
      cases encoded
  · rintro ⟨⟨lower, upper⟩, ⟨positive, fits⟩, rfl⟩
    exact encode_eq small lower upper positive fits

/-- An identifier is a word without a sign. -/
theorem encode_isWord (small : layout.Small) {bucket sequence id : Int}
    (encoded : layout.encode bucket sequence = .ok id) : IsWord id := by
  obtain ⟨⟨lower, upper⟩, ⟨positive, fits⟩, rfl⟩ := (encode_ok_iff small).mp encoded
  have room := maxSequence_eq small
  obtain ⟨high, rfl⟩ := Int.eq_ofNat_of_zero_le lower
  obtain ⟨low, rfl⟩ := Int.eq_ofNat_of_zero_le positive
  have below : low < 2 ^ layout.sequenceBits := by
    have bound : (low : Int) < 2 ^ layout.sequenceBits := by omega
    exact_mod_cast bound
  have whole := word_lt small upper below
  refine isWord_iff.mpr ⟨by positivity, ?_⟩
  exact_mod_cast whole

theorem decode_encode (small : layout.Small) {bucket sequence id : Int}
    (encoded : layout.encode bucket sequence = .ok id) : layout.decode id = .ok ⟨bucket, sequence⟩ := by
  have word := encode_isWord small encoded
  obtain ⟨-, ⟨positive, fits⟩, rfl⟩ := (encode_ok_iff small).mp encoded
  have room := maxSequence_eq small
  have unit : (0 : Int) < 2 ^ layout.sequenceBits := by positivity
  have below : sequence < 2 ^ layout.sequenceBits := by omega
  have high : (bucket * 2 ^ layout.sequenceBits + sequence) / 2 ^ layout.sequenceBits = bucket := by
    rw [add_comm, Int.add_mul_ediv_right _ _ unit.ne', Int.ediv_eq_zero_of_lt positive below, zero_add]
  have low : (bucket * 2 ^ layout.sequenceBits + sequence) % 2 ^ layout.sequenceBits = sequence := by
    rw [add_comm, Int.add_mul_emod_self_right, Int.emod_eq_of_lt positive below]
  rw [decode_eq small word, high, low]

/-- Taking a word apart and putting it together again only fails at a bucket that is too large. -/
theorem encode_decode (small : layout.Small) {id : Int} {parts : IdParts} (word : IsWord id)
    (decoded : layout.decode id = .ok parts) :
    layout.encode parts.bucket parts.sequence =
      if parts.bucket ≤ layout.maxBucket then .ok id
      else refuse (.bucketOutOfRange parts.bucket layout.maxBucket) := by
  rw [decode_eq small word] at decoded
  cases decoded
  dsimp only
  have unit : (0 : Int) < 2 ^ layout.sequenceBits := by positivity
  have room := maxSequence_eq small
  have lower := (bucketPart_lt small word).1
  have low := Int.emod_nonneg id unit.ne'
  have fits := Int.emod_lt_of_pos id unit
  have whole : id = id / 2 ^ layout.sequenceBits * 2 ^ layout.sequenceBits + id % 2 ^ layout.sequenceBits :=
    (Int.mul_comm _ _ ▸ Int.mul_ediv_add_emod id _).symm
  split
  · rename_i valid
    exact (encode_ok_iff small).mpr ⟨⟨lower, valid⟩, ⟨low, by omega⟩, whole⟩
  · rename_i large
    exact encode_badBucket (fun valid => large valid.2) _

/-- Identifiers are in the order of their buckets, and those of a bucket in the order of their numbers. -/
theorem encode_lt_iff (small : layout.Small) {bucket sequence id otherBucket otherSequence other : Int}
    (first : layout.encode bucket sequence = .ok id) (second : layout.encode otherBucket otherSequence = .ok other) :
    id < other ↔ bucket < otherBucket ∨ bucket = otherBucket ∧ sequence < otherSequence := by
  obtain ⟨-, ⟨positive, fits⟩, rfl⟩ := (encode_ok_iff small).mp first
  obtain ⟨-, ⟨otherPositive, otherFits⟩, rfl⟩ := (encode_ok_iff small).mp second
  have room := maxSequence_eq small
  have unit : (0 : Int) < 2 ^ layout.sequenceBits := by positivity
  rcases lt_trichotomy bucket otherBucket with less | rfl | greater
  · have step : (bucket + 1) * 2 ^ layout.sequenceBits ≤ otherBucket * 2 ^ layout.sequenceBits :=
      Int.mul_le_mul_of_nonneg_right less unit.le
    rw [add_mul, one_mul] at step
    simp only [less, true_or, iff_true]
    omega
  · simp
  · have step : (otherBucket + 1) * 2 ^ layout.sequenceBits ≤ bucket * 2 ^ layout.sequenceBits :=
      Int.mul_le_mul_of_nonneg_right greater unit.le
    rw [add_mul, one_mul] at step
    have neither : ¬ (bucket < otherBucket ∨ bucket = otherBucket ∧ sequence < otherSequence) := by omega
    simp only [neither, iff_false]
    omega

/-! Ranges of identifiers. -/

theorem or_mask_toInt (small : layout.Small) {bucket : Int} (lower : 0 ≤ bucket) (upper : bucket ≤ layout.maxBucket) :
    (Int64.ofInt (bucket * 2 ^ layout.sequenceBits) ||| layout.sequenceMask).toInt =
      (bucket + 1) * 2 ^ layout.sequenceBits - 1 := by
  obtain ⟨high, rfl⟩ := Int.eq_ofNat_of_zero_le lower
  have unit := Nat.two_pow_pos layout.sequenceBits
  have last : 2 ^ layout.sequenceBits - 1 < 2 ^ layout.sequenceBits := by omega
  have whole := word_lt small upper last
  have start : high * 2 ^ layout.sequenceBits < 2 ^ 64 := by omega
  have value : (Int64.ofInt ((high * 2 ^ layout.sequenceBits : Nat) : Int) ||| layout.sequenceMask).toBitVec.toNat =
      high * 2 ^ layout.sequenceBits + (2 ^ layout.sequenceBits - 1) := by
    rw [Int64.toBitVec_or, BitVec.toNat_or, toNat_sequenceMask small, Int64.toBitVec_ofInt, BitVec.ofInt_natCast,
      BitVec.toNat_ofNat, Nat.mod_eq_of_lt start, ← Nat.shiftLeft_eq, ← Nat.shiftLeft_add_eq_or_of_lt last]
  have cast : (high : Int) * 2 ^ layout.sequenceBits = ((high * 2 ^ layout.sequenceBits : Nat) : Int) := by
    push_cast
    rfl
  show (Int64.ofInt ((high : Int) * 2 ^ layout.sequenceBits) ||| layout.sequenceMask).toInt = _
  rw [cast, ← Int64.toInt_toBitVec, BitVec.toInt_eq_toNat_of_lt (by omega), value]
  push_cast [Nat.cast_sub (Nat.one_le_iff_ne_zero.mpr unit.ne')]
  ring

/-- The range of a bucket begins where that of the one before it ends. -/
theorem range_eq (small : layout.Small) {bucket : Int} (lower : 0 ≤ bucket) (upper : bucket ≤ layout.maxBucket) :
    IdRange.ofBucket layout bucket =
      .ok ⟨bucket * 2 ^ layout.sequenceBits, (bucket + 1) * 2 ^ layout.sequenceBits - 1⟩ := by
  have room := maxSequence_eq small
  have unit : (0 : Int) < 2 ^ layout.sequenceBits := by positivity
  have first := encode_eq small lower upper (Int.le_refl 0) (by omega)
  rw [add_zero] at first
  simp only [IdRange.ofBucket, first, bind, Except.bind, or_mask_toInt small lower upper]

/-- The range of a bucket holds the words that decode to the bucket. -/
theorem range_contains (small : layout.Small) {bucket : Int} (lower : 0 ≤ bucket) (upper : bucket ≤ layout.maxBucket)
    {range : IdRange} (found : IdRange.ofBucket layout bucket = .ok range) {id : Int}
    (word : id ≤ Int64.maxValue.toInt) :
    range.contains id = true ↔ 0 ≤ id ∧ ∃ sequence, layout.decode id = .ok ⟨bucket, sequence⟩ := by
  rw [range_eq small lower upper] at found
  cases found
  have unit : (0 : Int) < 2 ^ layout.sequenceBits := by positivity
  have start : 0 ≤ bucket * 2 ^ layout.sequenceBits := mul_nonneg lower unit.le
  have inside : bucket * 2 ^ layout.sequenceBits ≤ id ∧ id ≤ (bucket + 1) * 2 ^ layout.sequenceBits - 1 ↔
      id / 2 ^ layout.sequenceBits = bucket := by
    rw [Int.ediv_eq_iff_of_pos unit, Int.le_sub_one_iff, add_mul, one_mul]
  simp only [IdRange.contains, Bool.and_eq_true, decide_eq_true_eq, inside]
  constructor
  · intro same
    have positive : 0 ≤ id := by
      have bounds := inside.mpr same
      omega
    refine ⟨positive, id % 2 ^ layout.sequenceBits, ?_⟩
    rw [decode_eq small ⟨positive, word⟩, same]
  · rintro ⟨positive, sequence, decoded⟩
    rw [decode_eq small ⟨positive, word⟩] at decoded
    exact congrArg IdParts.bucket (Except.ok.inj decoded)

/-! The isomorphism. -/

/-- Identifiers and pairs of bucket and sequence number stand for each other, in the same order. -/
structure Isomorphic (layout : IdLayout) : Prop where
  leastWidth : layout.maxBucket < 2 ^ layout.bucketBits ∧
    ∀ width, layout.maxBucket < 2 ^ width → layout.bucketBits ≤ width
  widths : layout.sequenceBits = 63 - layout.bucketBits ∧ layout.maxSequence = 2 ^ layout.sequenceBits - 1
  encodes : ∀ bucket sequence, (∃ id, layout.encode bucket sequence = .ok id) ↔
    (0 ≤ bucket ∧ bucket ≤ layout.maxBucket) ∧ 0 ≤ sequence ∧ sequence ≤ layout.maxSequence
  /-- A bad bucket is refused whatever the number. -/
  badBucket : ∀ bucket sequence, ¬ (0 ≤ bucket ∧ bucket ≤ layout.maxBucket) →
    layout.encode bucket sequence = .error (.invalidConfig (.bucketOutOfRange bucket layout.maxBucket))
  badSequence : ∀ bucket sequence, 0 ≤ bucket ∧ bucket ≤ layout.maxBucket →
    ¬ (0 ≤ sequence ∧ sequence ≤ layout.maxSequence) →
    layout.encode bucket sequence = .error (.identifierOverflow bucket sequence layout.sequenceBits)
  decodesBack : ∀ bucket sequence id, layout.encode bucket sequence = .ok id →
    IsWord id ∧ layout.decode id = .ok ⟨bucket, sequence⟩
  /-- Every word decodes; it comes back unless its bucket is too large. -/
  encodesBack : ∀ id, IsWord id → ∃ parts, layout.decode id = .ok parts ∧
    (layout.encode parts.bucket parts.sequence = .ok id ↔ parts.bucket ≤ layout.maxBucket) ∧
    (layout.maxBucket < parts.bucket → layout.encode parts.bucket parts.sequence =
      .error (.invalidConfig (.bucketOutOfRange parts.bucket layout.maxBucket)))
  negative : ∀ id < 0, layout.decode id = .error (.malformedId (toString id))
  strictMono : ∀ bucket sequence id otherBucket otherSequence other,
    layout.encode bucket sequence = .ok id → layout.encode otherBucket otherSequence = .ok other →
    (id < other ↔ bucket < otherBucket ∨ bucket = otherBucket ∧ sequence < otherSequence)
  /-- The range of bucket zero begins at zero, and each of the others behind the one before it. -/
  ranges : ∀ bucket, 0 ≤ bucket → bucket ≤ layout.maxBucket → IdRange.ofBucket layout bucket =
    .ok ⟨bucket * 2 ^ layout.sequenceBits, (bucket + 1) * 2 ^ layout.sequenceBits - 1⟩
  contains : ∀ bucket range, IdRange.ofBucket layout bucket = .ok range → ∀ id ≤ Int64.maxValue.toInt,
    (range.contains id = true ↔ 0 ≤ id ∧ ∃ sequence, layout.decode id = .ok ⟨bucket, sequence⟩)
  disjoint : ∀ bucket range otherBucket other id, IdRange.ofBucket layout bucket = .ok range →
    IdRange.ofBucket layout otherBucket = .ok other → range.contains id → other.contains id → bucket = otherBucket
  /-- No bit of a bucket is shifted out, and none of a number is masked. -/
  packs : ∀ bucket sequence, 0 ≤ bucket ∧ bucket ≤ layout.maxBucket → 0 ≤ sequence ∧ sequence ≤ layout.maxSequence →
    (Int64.ofInt bucket <<< Int64.ofNat layout.sequenceBits).toInt = bucket * 2 ^ layout.sequenceBits ∧
      (Int64.ofInt sequence &&& layout.sequenceMask).toInt = sequence
  /-- The bucket of a word is the same in 32 bits. -/
  unpacks : ∀ id, IsWord id → (Int64.ofInt id >>> Int64.ofNat layout.sequenceBits).toInt32.toInt =
    (Int64.ofInt id >>> Int64.ofNat layout.sequenceBits).toInt

theorem valid_of_range {bucket : Int} {range : IdRange} (found : IdRange.ofBucket layout bucket = .ok range) :
    0 ≤ bucket ∧ bucket ≤ layout.maxBucket := by
  by_contra bad
  simp only [IdRange.ofBucket, encode_badBucket bad, bind, Except.bind, refuse] at found
  cases found

/-- Every largest bucket of 32 bits has a layout, and that is an order isomorphism. -/
theorem ofMaxBucket_isomorphic {maxBucket : Int} (lower : 0 ≤ maxBucket) (upper : maxBucket ≤ Int32.maxValue.toInt) :
    ∃ layout, ofMaxBucket maxBucket = .ok layout ∧ layout.maxBucket = maxBucket ∧ layout.Isomorphic := by
  obtain ⟨layout, rfl⟩ : ∃ layout : IdLayout, layout.maxBucket = maxBucket := ⟨⟨maxBucket⟩, rfl⟩
  have small : layout.Small := upper
  have accepted : ofMaxBucket layout.maxBucket = .ok layout := if_neg (by omega)
  have unit : (0 : Int) < 2 ^ layout.sequenceBits := by positivity
  refine ⟨layout, accepted, rfl, ?_⟩
  constructor
  case leastWidth =>
    constructor
    · have least : layout.maxBucket.toNat < 2 ^ layout.bucketBits := lt_bucketBits (by omega)
      zify at least
      omega
    · intro width
      exact bucketBits_least
  case widths => exact ⟨rfl, maxSequence_eq small⟩
  case encodes =>
    intro bucket sequence
    constructor
    · rintro ⟨id, encoded⟩
      obtain ⟨valid, fits, -⟩ := (encode_ok_iff small).mp encoded
      exact ⟨valid, fits⟩
    · rintro ⟨valid, fits⟩
      exact ⟨_, (encode_ok_iff small).mpr ⟨valid, fits, rfl⟩⟩
  case badBucket =>
    intro bucket sequence bad
    exact encode_badBucket bad sequence
  case badSequence =>
    intro bucket sequence valid bad
    exact encode_badSequence valid bad
  case decodesBack =>
    intro bucket sequence id encoded
    exact ⟨encode_isWord small encoded, decode_encode small encoded⟩
  case encodesBack =>
    intro id word
    have decoded := decode_eq small word
    refine ⟨_, decoded, ?_⟩
    rw [encode_decode small word decoded]
    constructor
    · split
      · simp [*]
      · simp [*, refuse]
    · intro large
      rw [if_neg (by omega)]
      rfl
  case negative =>
    intro id below
    exact if_pos below
  case strictMono =>
    intro bucket sequence id otherBucket otherSequence other first second
    exact encode_lt_iff small first second
  case ranges =>
    intro bucket first last
    exact range_eq small first last
  case contains =>
    intro bucket range found id word
    obtain ⟨first, last⟩ := valid_of_range found
    exact range_contains small first last found word
  case disjoint =>
    intro bucket range otherBucket other id found elsewhere here there
    obtain ⟨first, last⟩ := valid_of_range found
    obtain ⟨otherFirst, otherLast⟩ := valid_of_range elsewhere
    rw [range_eq small first last] at found
    rw [range_eq small otherFirst otherLast] at elsewhere
    cases found
    cases elsewhere
    simp only [IdRange.contains, Bool.and_eq_true, decide_eq_true_eq, Int.le_sub_one_iff, add_mul, one_mul]
      at here there
    rw [← (Int.ediv_eq_iff_of_pos unit).mpr here, ← (Int.ediv_eq_iff_of_pos unit).mpr there]
  case packs =>
    intro bucket sequence valid fits
    have room := maxSequence_eq small
    have word : IsWord sequence := by
      have encoded := encode_eq small (Int.le_refl 0) lower fits.1 fits.2
      rw [zero_mul, zero_add] at encoded
      exact encode_isWord small encoded
    refine ⟨shiftLeft_toInt small valid.1 valid.2, ?_⟩
    rw [sequencePart_toInt small word, Int.emod_eq_of_lt fits.1 (by omega)]
  case unpacks =>
    intro id word
    have narrow : layout.sequenceBits < 64 := by
      have both := bits_add small
      omega
    rw [bucketPart_toInt small word, shiftRight_toInt word narrow]

/-- Three bits hold the buckets up to five, and two numbers more. -/
theorem five_isomorphic : (0 : Int) ≤ 5 ∧ (5 : Int) ≤ Int32.maxValue.toInt ∧
    ∃ layout, ofMaxBucket 5 = .ok layout ∧ layout.maxBucket = 5 ∧ layout.Isomorphic :=
  ⟨by decide, by decide, ofMaxBucket_isomorphic (by decide) (by decide)⟩

end LeaseQueue.IdLayout
