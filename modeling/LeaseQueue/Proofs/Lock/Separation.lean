import LeaseQueue.Proofs.Queue.Columns
import LeaseQueue.Proofs.Text.Bytes

/-!
Near names have locks of their own. A step of the hash can be undone, as 33 has an inverse among words of 64 bits, so
two hashes that have come apart are not brought together by any bytes that follow. What stands before the first byte
in which two texts differ is hashed alike, and what stands behind it cannot make up for the difference.
-/
namespace LeaseQueue

section Lists

variable {α : Type} [DecidableEq α] {xs ys : List α}

/-- The number of places at which two lists differ, as far as both go. -/
def differences (xs ys : List α) : Nat := (xs.zip ys).countP fun pair => pair.1 ≠ pair.2

/-- The lists are of one length and differ at exactly one place. -/
def OneApart (xs ys : List α) : Prop := xs.length = ys.length ∧ differences xs ys = 1

instance : Decidable (OneApart xs ys) := instDecidableAnd

theorem differences_cons (x y : α) (xs ys : List α) :
    differences (x :: xs) (y :: ys) = differences xs ys + if x = y then 0 else 1 := by
  by_cases same : x = y <;> simp [differences, same]

theorem eq_of_differences (lengths : xs.length = ys.length) (none : differences xs ys = 0) : xs = ys := by
  induction xs generalizing ys with
  | nil => exact (List.length_eq_zero_iff.mp lengths.symm).symm
  | cons x xs ih =>
    cases ys with
    | nil => cases lengths
    | cons y ys =>
      rw [differences_cons, Nat.add_eq_zero_iff] at none
      have same : x = y := by simpa using none.2
      rw [same, ih (Nat.succ.inj lengths) none.1]

/-- Around the place at which they differ the lists are the same. -/
theorem OneApart.split (near : OneApart xs ys) :
    ∃ front x y back, xs = front ++ x :: back ∧ ys = front ++ y :: back ∧ x ≠ y := by
  obtain ⟨lengths, once⟩ := near
  induction xs generalizing ys with
  | nil => cases once
  | cons x xs ih =>
    cases ys with
    | nil => cases lengths
    | cons y ys =>
      rw [differences_cons] at once
      have lengths : xs.length = ys.length := Nat.succ.inj lengths
      by_cases same : x = y
      -- The difference is behind the first entries, or they are the difference and nothing differs behind them.
      · rw [if_pos same] at once
        obtain ⟨front, x', y', back, rfl, rfl, differ⟩ := ih lengths once
        exact ⟨x :: front, x', y', back, rfl, by rw [same]; rfl, differ⟩
      · rw [if_neg same] at once
        obtain rfl : xs = ys := eq_of_differences lengths (Nat.succ.inj once)
        exact ⟨[], x, y, xs, rfl, rfl, same⟩

end Lists

/-! The hash lets go of no difference. -/

/-- A step of the hash can be undone. -/
theorem hashStep_injective (byte : UInt64) : Function.Injective fun hash : UInt64 => hash * 33 + byte := by
  intro hash other same
  have inverse : (33 : UInt64) * 0x0f83e0f83e0f83e1 = 1 := by decide
  have scaled : hash * 33 = other * 33 := (UInt64.add_left_inj byte).mp same
  calc
    hash = hash * 33 * 0x0f83e0f83e0f83e1 := by rw [UInt64.mul_assoc, inverse, UInt64.mul_one]
    _ = other * 33 * 0x0f83e0f83e0f83e1 := by rw [scaled]
    _ = other := by rw [UInt64.mul_assoc, inverse, UInt64.mul_one]

/-- Seeds that differ are kept apart by each byte, and so by all of them. -/
theorem hashFrom_injective (bytes : List UInt8) : Function.Injective fun seed => hashFrom seed bytes := by
  induction bytes with
  | nil => exact Function.injective_id
  | cons byte bytes ih => exact ih.comp (hashStep_injective byte.toUInt64)

/-- A byte that is replaced changes the hash, whatever stands around it. -/
theorem hashFrom_replace_inj {seed : UInt64} {front back : List UInt8} {x y : UInt8} :
    hashFrom seed (front ++ x :: back) = hashFrom seed (front ++ y :: back) ↔ x = y := by
  rw [hashFrom_append, hashFrom_append, hashFrom_cons, hashFrom_cons]
  exact (hashFrom_injective back).eq_iff.trans ((UInt64.add_right_inj _).trans UInt8.toUInt64_inj)

theorem OneApart.hashFrom_ne {bytes others : List UInt8} (near : OneApart bytes others) (seed : UInt64) :
    hashFrom seed bytes ≠ hashFrom seed others := by
  obtain ⟨front, x, y, back, rfl, rfl, differ⟩ := near.split
  exact mt hashFrom_replace_inj.mp differ

/-! Names that are spelled nearly the same. -/

/-- The names are of one length and differ in exactly one character, an ASCII character in both. -/
def NearNames (name other : String) : Prop :=
  OneApart name.toList other.toList ∧
    ∀ pair ∈ name.toList.zip other.toList, pair.1 ≠ pair.2 → pair.1.toNat < 128 ∧ pair.2.toNat < 128

theorem textBytes_of_split {name : String} {front back : List Char} {c : Char}
    (spelled : name.toList = front ++ c :: back) (ascii : c.toNat < 128) :
    textBytes name = front.flatMap String.utf8EncodeChar ++ .ofNat c.toNat :: back.flatMap String.utf8EncodeChar := by
  rw [textBytes_eq, spelled, List.flatMap_append, List.flatMap_cons, utf8EncodeChar_ascii ascii]
  rfl

theorem byte_inj {c d : Char} (first : c.toNat < 128) (second : d.toNat < 128) :
    UInt8.ofNat c.toNat = UInt8.ofNat d.toNat ↔ c = d := by
  rw [← UInt8.toNat_inj, UInt8.toNat_ofNat', UInt8.toNat_ofNat', Nat.mod_eq_of_lt (by omega),
    Nat.mod_eq_of_lt (by omega), Char.toNat_inj]

theorem NearNames.hashFrom_ne {name other : String} (near : NearNames name other) (seed : UInt64) :
    hashFrom seed (textBytes name) ≠ hashFrom seed (textBytes other) := by
  obtain ⟨apart, ascii⟩ := near
  obtain ⟨front, c, d, back, spelled, respelled, differ⟩ := apart.split
  have listed : (c, d) ∈ name.toList.zip other.toList := by
    rw [spelled, respelled, List.zip_append rfl]
    exact List.mem_append_right _ List.mem_cons_self
  obtain ⟨first, second⟩ := ascii (c, d) listed differ
  rw [textBytes_of_split spelled first, textBytes_of_split respelled second, Ne, hashFrom_replace_inj,
    byte_inj first second]
  exact differ

theorem lockIdFor_inj {name other : String} :
    lockIdFor name = lockIdFor other ↔ hashBytes (textBytes name) = hashBytes (textBytes other) :=
  Int64.toInt_inj.trans ⟨Int64.ofUInt64.inj, congrArg Int64.ofUInt64⟩

theorem QueueName.ascii (queue : QueueName) {c : Char} (member : c ∈ queue.text.toList) : c.toNat < 128 :=
  isNameSymbol_small (List.all_eq_true.mp queue.symbols c member)

/-- All characters of accepted names are ASCII. -/
theorem QueueName.near {queue other : QueueName} (apart : OneApart queue.text.toList other.text.toList) :
    NearNames queue.text other.text := by
  refine ⟨apart, fun pair listed _ => ?_⟩
  obtain ⟨first, second⟩ := List.of_mem_zip listed
  exact ⟨queue.ascii first, other.ascii second⟩

/-- What is hashed before the name of a queue is a seed for the name. -/
theorem QueueName.sweepLockId_inj {queue other : QueueName} :
    queue.sweepLockId = other.sweepLockId ↔
      hashFrom (hashBytes (textBytes "sweep-")) (textBytes queue.text) =
        hashFrom (hashBytes (textBytes "sweep-")) (textBytes other.text) := by
  unfold sweepLockId
  rw [lockIdFor_inj, textBytes_append, textBytes_append, hashBytes, hashBytes, hashFrom_append, hashFrom_append]
  rfl

/-- The hash goes on from the hash of what stands in front, and nothing that stands around a difference makes up for it,
be it one between seeds or one between two bytes. So names that differ in one ASCII character have locks of their own,
and so have the sweeps of queues with such names. -/
theorem near_names_locked_apart :
    (∀ (seed : UInt64) (front back : List UInt8),
      hashFrom seed (front ++ back) = hashFrom (hashFrom seed front) back) ∧
    (∀ bytes : List UInt8, Function.Injective fun seed => hashFrom seed bytes) ∧
    (∀ (seed : UInt64) (bytes others : List UInt8), OneApart bytes others →
      hashFrom seed bytes ≠ hashFrom seed others) ∧
    (∀ name other : String, NearNames name other → lockIdFor name ≠ lockIdFor other) ∧
    ∀ queue other : QueueName, OneApart queue.text.toList other.text.toList →
      queue.sweepLockId ≠ other.sweepLockId :=
  ⟨hashFrom_append, hashFrom_injective, fun seed _ _ near => near.hashFrom_ne seed,
    fun _ _ near => mt lockIdFor_inj.mp (near.hashFrom_ne _),
    fun _ _ apart => mt QueueName.sweepLockId_inj.mp ((QueueName.near apart).hashFrom_ne _)⟩

def firstOrders : QueueName := ⟨"orders_1", by decide +kernel⟩

def secondOrders : QueueName := ⟨"orders_2", by decide +kernel⟩

theorem numbered_orders_locked_apart :
    (OneApart [(0x62 : UInt8), 0x21] [0x62, 0x42] ∧ hashFrom 0 [0x62, 0x21] ≠ hashFrom 0 [0x62, 0x42]) ∧
    (NearNames "café 1" "café 2" ∧ lockIdFor "café 1" ≠ lockIdFor "café 2") ∧
    OneApart firstOrders.text.toList secondOrders.text.toList ∧
      firstOrders.sweepLockId ≠ secondOrders.sweepLockId := by
  obtain ⟨_, _, bytes, names, queues⟩ := near_names_locked_apart
  have replaced : OneApart [(0x62 : UInt8), 0x21] [0x62, 0x42] := by decide
  have near : NearNames "café 1" "café 2" := ⟨by decide, by simp⟩
  have numbered : OneApart firstOrders.text.toList secondOrders.text.toList := by decide
  exact ⟨⟨replaced, bytes 0 _ _ replaced⟩, ⟨near, names _ _ near⟩, numbered, queues _ _ numbered⟩

/-- Two other characters can make up for each other: here the first is one more, the second 33 less. -/
example : lockIdFor "ab" = lockIdFor "bA" := by decide +kernel

end LeaseQueue
