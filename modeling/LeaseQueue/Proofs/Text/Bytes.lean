import Mathlib.Order.Compare

/-!
Texts as bytes. The order of texts by code point is the order of their encodings byte by byte.
-/
namespace LeaseQueue

/-- The order of two sequences of bytes, settled by the first byte in which they differ. -/
def compareBytes : List UInt8 → List UInt8 → Ordering
  | [], [] => .eq
  | [], _ :: _ => .lt
  | _ :: _, [] => .gt
  | x :: xs, y :: ys => (compare x.toNat y.toNat).then (compareBytes xs ys)

/-- The encoding of a text. -/
def textBytes (text : String) : List UInt8 := text.toUTF8.data.toList

theorem textBytes_eq (text : String) : textBytes text = text.toList.flatMap String.utf8EncodeChar := by
  unfold textBytes
  rw [String.toUTF8_eq_toByteArray, ← String.utf8Encode_toList, List.utf8Encode, List.data_toByteArray]

theorem textBytes_append (first second : String) :
    textBytes (first ++ second) = textBytes first ++ textBytes second := by
  rw [textBytes_eq, textBytes_eq, textBytes_eq, String.toList_append, List.flatMap_append]

theorem compareBytes_self (xs : List UInt8) : compareBytes xs xs = .eq := by
  induction xs with
  | nil => rfl
  | cons x xs ih => simp [compareBytes, ih]

theorem compareBytes_swap (xs ys : List UInt8) : (compareBytes xs ys).swap = compareBytes ys xs := by
  induction xs generalizing ys with
  | nil => cases ys <;> rfl
  | cons x xs ih =>
    cases ys with
    | nil => rfl
    | cons y ys =>
      rw [compareBytes, compareBytes, Ordering.swap_then, ih, Nat.compare_swap]

theorem compareBytes_cons_lt {x y : UInt8} {xs ys : List UInt8} :
    compareBytes (x :: xs) (y :: ys) = .lt ↔ x.toNat < y.toNat ∨ x.toNat = y.toNat ∧ compareBytes xs ys = .lt := by
  rw [compareBytes, Ordering.then_eq_lt, Nat.compare_eq_lt, Nat.compare_eq_eq]

theorem compareBytes_append (front xs ys : List UInt8) :
    compareBytes (front ++ xs) (front ++ ys) = compareBytes xs ys := by
  induction front with
  | nil => rfl
  | cons x front ih => simp [compareBytes, ih]

/-- The four lengths of an encoding. -/
theorem utf8EncodeChar_cases (c : Char) :
    let n := c.val.toNat
    (n ≤ 0x7f ∧ String.utf8EncodeChar c = [.ofNat n]) ∨
      (0x7f < n ∧ n ≤ 0x7ff ∧ String.utf8EncodeChar c = [.ofNat (n / 64 % 32 + 0xc0), .ofNat (n % 64 + 0x80)]) ∨
      (0x7ff < n ∧ n ≤ 0xffff ∧ String.utf8EncodeChar c =
        [.ofNat (n / 4096 % 16 + 0xe0), .ofNat (n / 64 % 64 + 0x80), .ofNat (n % 64 + 0x80)]) ∨
      (0xffff < n ∧ n < 0x110000 ∧ String.utf8EncodeChar c =
        [.ofNat (n / 262144 % 8 + 0xf0), .ofNat (n / 4096 % 64 + 0x80), .ofNat (n / 64 % 64 + 0x80),
          .ofNat (n % 64 + 0x80)]) := by
  have small : c.val.toNat < 0x110000 := by
    rcases c.valid with low | ⟨_, high⟩
    · exact Nat.lt_trans low (by decide)
    · exact high
  unfold String.utf8EncodeChar
  dsimp only
  split
  · exact .inl ⟨‹_›, rfl⟩
  · split
    · exact .inr (.inl ⟨Nat.lt_of_not_le ‹_›, ‹_›, rfl⟩)
    · split
      · exact .inr (.inr (.inl ⟨Nat.lt_of_not_le ‹_›, ‹_›, rfl⟩))
      · exact .inr (.inr (.inr ⟨Nat.lt_of_not_le ‹_›, small, rfl⟩))

theorem utf8EncodeChar_ascii {c : Char} (ascii : c.toNat < 128) : String.utf8EncodeChar c = [.ofNat c.toNat] := by
  rcases utf8EncodeChar_cases c with ⟨_, byte⟩ | ⟨large, _⟩ | ⟨large, _⟩ | ⟨large, _⟩
  · exact byte
  all_goals exact absurd ascii (Nat.not_lt_of_le (Nat.le_trans (by decide) (Nat.succ_le_of_lt large)))

/-- A character with a smaller code point has the smaller encoding, whatever comes behind. -/
theorem compareBytes_char_lt {c d : Char} (less : c.val.toNat < d.val.toNat) (xs ys : List UInt8) :
    compareBytes (String.utf8EncodeChar c ++ xs) (String.utf8EncodeChar d ++ ys) = .lt := by
  rcases utf8EncodeChar_cases c with ⟨_, first⟩ | ⟨_, _, first⟩ | ⟨_, _, first⟩ | ⟨_, _, first⟩ <;>
    rcases utf8EncodeChar_cases d with ⟨_, second⟩ | ⟨_, _, second⟩ | ⟨_, _, second⟩ | ⟨_, _, second⟩ <;>
    rw [first, second] <;>
    simp only [List.cons_append, List.nil_append, compareBytes_cons_lt, UInt8.toNat_ofNat'] <;>
    simp (disch := omega) only [Nat.mod_eq_of_lt] <;>
    omega

theorem compareBytes_lt {xs ys : List Char} (less : xs < ys) :
    compareBytes (xs.flatMap String.utf8EncodeChar) (ys.flatMap String.utf8EncodeChar) = .lt := by
  induction less with
  | @nil d ys =>
    rw [List.flatMap_cons]
    cases made : String.utf8EncodeChar d with
    | nil => exact absurd made String.utf8EncodeChar_ne_nil
    | cons byte others => rfl
  | cons _ ih =>
    rw [List.flatMap_cons, List.flatMap_cons, compareBytes_append]
    exact ih
  | rel less =>
    rw [List.flatMap_cons, List.flatMap_cons]
    exact compareBytes_char_lt less _ _

theorem less_of_compare {x y : String} (order : compare x y = .lt) : x < y := compareOfLessAndEq_eq_lt.mp order

/-- Texts are in the order of their bytes. -/
theorem compareBytes_eq (x y : String) : compareBytes (textBytes x) (textBytes y) = compare x y := by
  rw [textBytes_eq, textBytes_eq]
  cases order : compare x y with
  | lt => exact compareBytes_lt (less_of_compare order)
  | eq =>
    rw [Std.LawfulEqOrd.eq_of_compare order]
    exact compareBytes_self _
  | gt =>
    have swapped : compare y x = .lt := by
      rw [Std.OrientedOrd.eq_swap, order]
      rfl
    rw [← compareBytes_swap, compareBytes_lt (less_of_compare swapped)]
    rfl

end LeaseQueue
