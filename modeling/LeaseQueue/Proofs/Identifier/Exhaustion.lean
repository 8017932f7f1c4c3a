import LeaseQueue.Proofs.Identifier.Order

/-!
Sequences until they run out. The counter goes round all 64-bit words, so before it comes back each call has a number
of its own: it is encoded while it fits, and every call after that fails.
-/
namespace LeaseQueue

namespace IdSequence

variable {layout : IdLayout} {bucket : Int}

/-- The sequence after some calls for an identifier. -/
def after (sequence : IdSequence) : Nat → IdSequence
  | 0 => sequence
  | calls + 1 => (sequence.after calls).mint.2

/-- What the call with a number answers. The first call has number one. -/
def answer (sequence : IdSequence) (number : Nat) : Except Error Int := (sequence.after (number - 1)).mint.1

theorem after_start (layout : IdLayout) (bucket : Int) (calls : Nat) :
    (afterCalls layout bucket 0).after calls = afterCalls layout bucket calls := by
  induction calls with
  | zero => rfl
  | succ calls ih => rw [after, ih, mint_next]

/-- The number of a call as the counter shows it: the upper half of the words is negative. -/
def shown (number : Nat) : Int := (number : Int).bmod (2 ^ 64)

theorem shown_of_lt {number : Nat} (low : number < 2 ^ 63) : shown number = number := by
  unfold shown
  exact Int.bmod_eq_of_le_mul_two (by omega) (by omega)

theorem shown_of_ge {number : Nat} (high : 2 ^ 63 ≤ number) (few : number < 2 ^ 64) : shown number < 0 := by
  unfold shown
  rw [Int.bmod_def]
  split <;> omega

/-- A call encodes what the counter shows. -/
theorem answer_start {number : Nat} (positive : 1 ≤ number) :
    (afterCalls layout bucket 0).answer number = layout.encode bucket (shown number) := by
  have counted : number - 1 + 1 = number := Nat.sub_add_cancel positive
  have counter : (Int64.ofNat number).toInt = shown number := Int64.toInt_ofNat'
  rw [answer, after_start]
  simp only [mint, afterCalls, counted, counter]

/-- What the counter shows is a number of the sequence field only if it is the number of the call. -/
theorem shown_fits_iff (layout : IdLayout) {number : Nat} (few : number < 2 ^ 64) :
    0 ≤ shown number ∧ shown number ≤ layout.maxSequence ↔ (number : Int) ≤ layout.maxSequence := by
  have room : layout.maxSequence < 2 ^ 63 := layout.sequenceMask.toInt_lt
  by_cases low : number < 2 ^ 63
  · rw [shown_of_lt low]
    omega
  · have negative := shown_of_ge (by omega) few
    constructor
    · rintro ⟨positive, -⟩
      omega
    · intro fits
      omega

/-- How a sequence answers its calls, up to the one at which the counter is back at zero. -/
structure Exhausts (layout : IdLayout) (bucket : Int) (range : IdRange) (sequence : IdSequence) : Prop where
  minted : ∀ number : Nat, 1 ≤ number → number ≤ layout.maxSequence →
    sequence.answer number = layout.encode bucket number ∧ ∃ id, layout.encode bucket number = .ok id
  overflow : ∀ number : Nat, 1 ≤ number → layout.maxSequence < number → number < 2 ^ 64 →
    sequence.answer number = .error (.identifierOverflow bucket (shown number) layout.sequenceBits)
  increasing : ∀ first second id other, 1 ≤ first → first < second → second < 2 ^ 64 →
    sequence.answer first = .ok id → sequence.answer second = .ok other → id < other
  /-- This holds of every call, even after the counter has come back. -/
  within : ∀ number id, 1 ≤ number → sequence.answer number = .ok id → range.contains id = true
  lasting : ∀ first later failure, 1 ≤ first → first ≤ later → later < 2 ^ 64 →
    sequence.answer first = .error failure →
    sequence.answer later = .error (.identifierOverflow bucket (shown later) layout.sequenceBits)

section

variable (lower : 0 ≤ bucket) (upper : bucket ≤ layout.maxBucket)
include lower upper

theorem start_ok (small : layout.Small) : start layout bucket = .ok (afterCalls layout bucket 0) := by
  have positive : (0 : Int) ≤ layout.maxSequence := by
    rw [IdLayout.maxSequence_eq small, Int.le_sub_one_iff]
    positivity
  simp only [start, IdLayout.encode_eq small lower upper (Int.le_refl 0) positive, bind, Except.bind]
  rfl

theorem answer_minted (small : layout.Small) {number : Nat} (positive : 1 ≤ number)
    (fits : number ≤ layout.maxSequence) :
    (afterCalls layout bucket 0).answer number = .ok (layout.nth bucket number) := by
  have room : layout.maxSequence < 2 ^ 63 := layout.sequenceMask.toInt_lt
  rw [answer_start positive, shown_of_lt (by omega)]
  exact IdLayout.encode_eq small lower upper (Int.natCast_nonneg number) fits

theorem answer_overflow {number : Nat} (positive : 1 ≤ number) (exceeds : layout.maxSequence < number)
    (few : number < 2 ^ 64) : (afterCalls layout bucket 0).answer number =
      .error (.identifierOverflow bucket (shown number) layout.sequenceBits) := by
  have outside := mt (shown_fits_iff layout few).mp (Int.not_le.mpr exceeds)
  rw [answer_start positive]
  exact IdLayout.encode_badSequence ⟨lower, upper⟩ outside

theorem start_exhausts (small : layout.Small) {range : IdRange} (found : IdRange.ofBucket layout bucket = .ok range) :
    Exhausts layout bucket range (afterCalls layout bucket 0) := by
  constructor
  case minted =>
    intro number positive fits
    have encoded := IdLayout.encode_eq small lower upper (Int.natCast_nonneg number) fits
    exact ⟨(answer_minted lower upper small positive fits).trans encoded.symm, _, encoded⟩
  case overflow =>
    intro number positive exceeds few
    exact answer_overflow lower upper positive exceeds few
  case increasing =>
    intro first second id other positive less few here there
    have later : 1 ≤ second := Nat.le_trans positive less.le
    by_cases fits : second ≤ layout.maxSequence
    · rw [answer_minted lower upper small positive (by omega)] at here
      rw [answer_minted lower upper small later fits] at there
      cases here
      cases there
      exact IdLayout.nth_lt less
    · rw [answer_overflow lower upper later (Int.not_le.mp fits) few] at there
      cases there
  case within =>
    intro number id positive minted
    rw [answer_start positive] at minted
    have word := IdLayout.encode_isWord small minted
    exact (IdLayout.range_contains small lower upper found word.2).mpr ⟨word.1, _, IdLayout.decode_encode small minted⟩
  case lasting =>
    intro first later failure positive before few failed
    refine answer_overflow lower upper (Nat.le_trans positive before) ?_ few
    by_contra fits
    rw [answer_minted lower upper small positive (by omega)] at failed
    cases failed

end

/-- What sequences of two buckets mint belongs to one bucket each, however often the counters come back. -/
theorem answers_apart (small : layout.Small) {otherBucket id : Int} {first second : Nat} (positive : 1 ≤ first)
    (positive' : 1 ≤ second) (here : (afterCalls layout bucket 0).answer first = .ok id)
    (there : (afterCalls layout otherBucket 0).answer second = .ok id) : bucket = otherBucket := by
  rw [answer_start positive] at here
  rw [answer_start positive'] at there
  have decoded := IdLayout.decode_encode small here
  rw [IdLayout.decode_encode small there] at decoded
  exact congrArg IdParts.bucket (Except.ok.inj decoded).symm

/-- A sequence mints the identifiers of its bucket in order, from number one to the largest that fits, and nothing after
that. Sequences of different buckets never mint the same identifier. -/
theorem start_mints_until_exhausted (small : layout.Small) (lower : 0 ≤ bucket) (upper : bucket ≤ layout.maxBucket) :
    ∃ sequence range, start layout bucket = .ok sequence ∧ IdRange.ofBucket layout bucket = .ok range ∧
      Exhausts layout bucket range sequence ∧
      ∀ otherBucket other first second id, otherBucket ≠ bucket → start layout otherBucket = .ok other →
        1 ≤ first → 1 ≤ second → sequence.answer first = .ok id → other.answer second ≠ .ok id := by
  have found := IdLayout.range_eq small lower upper
  refine ⟨_, _, start_ok lower upper small, found, start_exhausts lower upper small found, ?_⟩
  intro otherBucket other first second id different started positive positive' here there
  rw [start_eq started] at there
  exact different (answers_apart small positive positive' here there).symm

/-- Without bits for a bucket all words without a sign are minted, and the call after the last of them finds the counter
at the least word. -/
theorem unbucketed_mints_until_exhausted : IdLayout.Small ⟨0⟩ ∧ (0 : Int) ≤ 0 ∧ ∃ sequence, start ⟨0⟩ 0 = .ok sequence ∧
    sequence.answer (2 ^ 63 - 1) = IdLayout.encode ⟨0⟩ 0 Int64.maxValue.toInt ∧
    sequence.answer (2 ^ 63) = .error (.identifierOverflow 0 Int64.minValue.toInt 63) := by
  have small : IdLayout.Small ⟨0⟩ := show (0 : Int) ≤ Int32.maxValue.toInt by decide
  obtain ⟨sequence, _, started, _, exhausts, _⟩ := start_mints_until_exhausted small (Int.le_refl 0) (Int.le_refl 0)
  have last : IdLayout.maxSequence ⟨0⟩ = 2 ^ 63 - 1 := IdLayout.maxSequence_eq small
  refine ⟨small, Int.le_refl 0, sequence, started, ?_, ?_⟩
  · exact (exhausts.minted (2 ^ 63 - 1) (by decide) (by rw [last]; decide)).1
  · exact exhausts.overflow (2 ^ 63) (by decide) (by rw [last]; decide) (by decide)

end IdSequence

end LeaseQueue
