import LeaseQueue.Text.Numeral
import Mathlib.Data.Nat.Notation

/-!
What numerals denote. A number has one plain numeral, which is the one that is printed, and others with a plus sign,
leading zeros or a minus sign before zero, which are read all the same.
-/
namespace LeaseQueue.Numeral

/-- What may stand before the digits. -/
inductive Sign
  | absent
  | plus
  | minus
deriving DecidableEq

namespace Sign

def text : Sign → List Char
  | absent => []
  | plus => ['+']
  | minus => ['-']

/-- The number with this sign. -/
def number : Sign → Nat → Int
  | absent, magnitude | plus, magnitude => magnitude
  | minus, magnitude => -magnitude

end Sign

/-- The text is a sign, if any, and at least one ASCII digit. -/
structure Spells (text : List Char) (sign : Sign) (digits : List Char) : Prop where
  parts : text = sign.text ++ digits
  filled : digits ≠ []
  decimal : ∀ c ∈ digits, c.isDigit = true

/-- The text is a numeral of the number. -/
def Denotes (text : List Char) (number : Int) : Prop :=
  ∃ sign digits, Spells text sign digits ∧ number = sign.number (Nat.ofDigitChars 10 digits 0)

/-- The numeral has no plus, no zero before other digits and no minus before zero. -/
structure Plain (sign : Sign) (digits : List Char) : Prop where
  noPlus : sign ≠ .plus
  noLeadingZero : digits.head? = some '0' → digits = ['0']
  noMinusZero : sign = .minus → Nat.ofDigitChars 10 digits 0 ≠ 0

/-- The text is a numeral and a plain one. -/
def IsPlain (text : List Char) : Prop := ∃ sign digits, Spells text sign digits ∧ Plain sign digits

variable {c : Char} {text digits : List Char} {sign : Sign} {value magnitude : Nat} {number : Int}

/-! Reading. -/

theorem digit?_eq_some_iff : digit? c = some value ↔ c.isDigit = true ∧ value = c.toNat - '0'.toNat := by
  have same : ('0' ≤ c ∧ c ≤ '9') ↔ c.isDigit = true := by
    simp only [Char.isDigit, Bool.and_eq_true, decide_eq_true_eq]
    rfl
  unfold digit?
  split
  · rename_i decimal
    rw [Option.some.injEq, and_iff_right (same.mp decimal), eq_comm]
  · rename_i other
    simp [mt same.mpr other]

theorem continueNat?_eq_some_iff : continueNat? value digits = some magnitude ↔
    (∀ c ∈ digits, c.isDigit = true) ∧ magnitude = Nat.ofDigitChars 10 digits value := by
  induction digits generalizing value with
  | nil => simp [continueNat?, @eq_comm _ value]
  | cons c rest ih =>
    simp only [continueNat?, Option.bind_eq_some_iff, digit?_eq_some_iff, ih, List.forall_mem_cons,
      Nat.ofDigitChars_cons]
    constructor
    · rintro ⟨_, ⟨decimal, rfl⟩, others, same⟩
      exact ⟨⟨decimal, others⟩, same⟩
    · rintro ⟨⟨decimal, others⟩, same⟩
      exact ⟨_, ⟨decimal, rfl⟩, others, same⟩

theorem readNat?_eq_some_iff : readNat? digits = some magnitude ↔
    digits ≠ [] ∧ (∀ c ∈ digits, c.isDigit = true) ∧ magnitude = Nat.ofDigitChars 10 digits 0 := by
  cases digits with
  | nil => simp [readNat?]
  | cons c rest => simp [readNat?, continueNat?_eq_some_iff]

/-- A sign is told from the digits behind it. -/
theorem readInt?_parts (spells : Spells text sign digits) : readInt? text = (readNat? digits).map sign.number := by
  obtain ⟨rfl, filled, decimal⟩ := spells
  cases sign with
  | plus | minus =>
    simp only [Sign.text, List.singleton_append, readInt?]
    cases readNat? digits <;> rfl
  | absent =>
    obtain ⟨c, rest, rfl⟩ := List.exists_cons_of_ne_nil filled
    have digit := decimal c List.mem_cons_self
    simp only [Sign.text, List.nil_append]
    unfold readInt?
    split
    · rename_i same
      cases same
      simp at digit
    · rename_i same
      cases same
      simp at digit
    · cases readNat? (c :: rest) <;> rfl

theorem readInt?_cases (text : List Char) :
    ∃ (sign : Sign) (digits : List Char), text = sign.text ++ digits ∧
      readInt? text = (readNat? digits).map sign.number := by
  unfold readInt?
  split
  · rename_i digits
    exact ⟨.minus, digits, rfl, by cases readNat? digits <;> rfl⟩
  · rename_i digits
    exact ⟨.plus, digits, rfl, by cases readNat? digits <;> rfl⟩
  · exact ⟨.absent, text, rfl, by cases readNat? text <;> rfl⟩

/-- What is read is what the text denotes. -/
theorem readInt?_eq_some_iff : readInt? text = some number ↔ Denotes text number := by
  constructor
  · intro read
    obtain ⟨sign, digits, rfl, same⟩ := readInt?_cases text
    obtain ⟨magnitude, counted, rfl⟩ := Option.map_eq_some_iff.mp (same.symm.trans read)
    obtain ⟨filled, decimal, rfl⟩ := readNat?_eq_some_iff.mp counted
    exact ⟨sign, digits, ⟨rfl, filled, decimal⟩, rfl⟩
  · rintro ⟨sign, digits, spells, rfl⟩
    rw [readInt?_parts spells, readNat?_eq_some_iff.mpr ⟨spells.filled, spells.decimal, rfl⟩, Option.map_some]

theorem readBetween?_eq_some_iff {low high : Int} : readBetween? low high text = some number ↔
    Denotes text number ∧ low ≤ number ∧ number ≤ high := by
  simp [readBetween?, Option.filter_eq_some_iff, readInt?_eq_some_iff]

/-- A text denotes one number. -/
theorem Denotes.unique {other : Int} (first : Denotes text number) (second : Denotes text other) : number = other := by
  rw [← readInt?_eq_some_iff] at first second
  exact Option.some.inj (first.symm.trans second)

/-! Printing. -/

theorem toList_toString (number : Int) : (toString number).toList =
    (if number < 0 then Sign.minus else Sign.absent).text ++ Nat.toDigits 10 number.natAbs := by
  cases number with
  | ofNat magnitude =>
    have positive : ¬ Int.ofNat magnitude < 0 := Int.not_lt.mpr (Int.natCast_nonneg magnitude)
    rw [if_neg positive]
    simp [toString, Int.repr, Nat.repr_eq_ofList_toDigits, Sign.text]
  | negSucc less =>
    simp [toString, Int.repr, Nat.repr_eq_ofList_toDigits, Sign.text]

theorem toDigits_decimal (magnitude : Nat) : ∀ c ∈ Nat.toDigits 10 magnitude, c.isDigit = true :=
  fun _ member => Nat.isDigit_of_mem_toDigits (by decide) (by decide) member

/-- A number is printed as its digits behind the minus that a negative one needs. -/
theorem spells_toString (number : Int) : Spells (toString number).toList
    (if number < 0 then .minus else .absent) (Nat.toDigits 10 number.natAbs) :=
  ⟨toList_toString number, Nat.toDigits_ne_nil, toDigits_decimal _⟩

theorem denotes_toString (number : Int) : Denotes (toString number).toList number := by
  refine ⟨_, _, spells_toString number, ?_⟩
  rw [Nat.ofDigitChars_ten_toDigits]
  split <;> simp only [Sign.number] <;> omega

/-! Plain numerals. -/

theorem digitChar_of_isDigit (decimal : c.isDigit = true) : Nat.digitChar (c.toNat - '0'.toNat) = c ∧
    c.toNat - '0'.toNat < 10 := by
  have bounds : 48 ≤ c.toNat ∧ c.toNat ≤ 57 := by
    simp only [Char.isDigit, Bool.and_eq_true, decide_eq_true_eq] at decimal
    exact decimal
  have small : c.toNat - '0'.toNat < 10 := by
    change c.toNat - 48 < 10
    omega
  refine ⟨Char.toNat_inj.mp ?_, small⟩
  rw [Nat.toNat_digitChar_of_lt_ten small]
  change 48 + (c.toNat - 48) = c.toNat
  omega

/-- Digits behind a number that is not zero are digits of the number they make up. -/
theorem toDigits_append (positive : 0 < value) (decimal : ∀ c ∈ digits, c.isDigit = true) :
    Nat.toDigits 10 value ++ digits = Nat.toDigits 10 (Nat.ofDigitChars 10 digits value) := by
  induction digits generalizing value with
  | nil => simp
  | cons c rest ih =>
    obtain ⟨digit, others⟩ := List.forall_mem_cons.mp decimal
    obtain ⟨shown, small⟩ := digitChar_of_isDigit digit
    have next : Nat.toDigits 10 value ++ [c] = Nat.toDigits 10 (10 * value + (c.toNat - '0'.toNat)) := by
      rw [← Nat.toDigits_append_toDigits (by decide) positive small, Nat.toDigits_of_lt_base small, shown]
    rw [Nat.ofDigitChars_cons, ← ih (by omega) others, ← next, List.append_assoc, List.singleton_append]

/-- Digits without a leading zero are those of the number. -/
theorem toDigits_ofDigitChars (filled : digits ≠ []) (decimal : ∀ c ∈ digits, c.isDigit = true)
    (trimmed : digits.head? = some '0' → digits = ['0']) : Nat.toDigits 10 (Nat.ofDigitChars 10 digits 0) = digits := by
  obtain ⟨c, rest, rfl⟩ := List.exists_cons_of_ne_nil filled
  obtain ⟨digit, others⟩ := List.forall_mem_cons.mp decimal
  by_cases zero : c = '0'
  · rw [trimmed (congrArg some zero)]
    decide
  · obtain ⟨shown, small⟩ := digitChar_of_isDigit digit
    have positive : 0 < c.toNat - '0'.toNat := by
      rw [Nat.pos_iff_ne_zero]
      intro none
      rw [none] at shown
      exact zero shown.symm
    rw [Nat.ofDigitChars_cons, Nat.mul_zero, Nat.zero_add, ← toDigits_append positive others,
      Nat.toDigits_of_lt_base small, shown, List.singleton_append]

theorem toDigits_trimmed (magnitude : Nat) :
    (Nat.toDigits 10 magnitude).head? = some '0' → Nat.toDigits 10 magnitude = ['0'] := by
  induction magnitude using Nat.strongRecOn with
  | ind magnitude ih =>
    rw [Nat.toDigits_eq_if (by decide)]
    split
    · simp
    · rename_i large
      intro zero
      have first : (Nat.toDigits 10 (magnitude / 10)).head? = some '0' := by
        rwa [List.head?_append, Option.or_of_isSome (by simp [Nat.toDigits_ne_nil])] at zero
      have none := congrArg (Nat.ofDigitChars 10 · 0) (ih (magnitude / 10) (by omega) first)
      simp only [Nat.ofDigitChars_ten_toDigits] at none
      have value : Nat.ofDigitChars 10 ['0'] 0 = 0 := rfl
      omega

theorem plain_toString (number : Int) :
    Plain (if number < 0 then .minus else .absent) (Nat.toDigits 10 number.natAbs) := by
  refine ⟨?_, toDigits_trimmed _, ?_⟩
  · split <;> decide
  · rw [Nat.ofDigitChars_ten_toDigits]
    split
    · omega
    · exact nofun

theorem Spells.no_slash (spells : Spells text sign digits) : '/' ∉ text := by
  have other : '/'.isDigit = false := by decide
  have digit := mt (spells.decimal '/') (Bool.eq_false_iff.mp other)
  rw [spells.parts]
  cases sign <;> simp [Sign.text, digit]

/-- The plain numeral of a number is the one that is printed. -/
theorem toString_eq_iff (denotes : Denotes text number) : (toString number).toList = text ↔ IsPlain text := by
  constructor
  · rintro rfl
    exact ⟨_, _, spells_toString number, plain_toString number⟩
  · rintro ⟨sign, digits, spells, noPlus, noLeadingZero, noMinusZero⟩
    have value : number = sign.number (Nat.ofDigitChars 10 digits 0) := denotes.unique ⟨sign, digits, spells, rfl⟩
    have shown := toDigits_ofDigitChars spells.filled spells.decimal noLeadingZero
    rw [toList_toString, spells.parts, value]
    cases sign with
    | plus => exact absurd rfl noPlus
    | absent =>
      have positive : ¬ Sign.absent.number (Nat.ofDigitChars 10 digits 0) < 0 := by
        simp only [Sign.number]
        omega
      rw [if_neg positive]
      simp only [Sign.number, Int.natAbs_natCast, shown]
    | minus =>
      have negative : Sign.minus.number (Nat.ofDigitChars 10 digits 0) < 0 := by
        have some := noMinusZero rfl
        simp only [Sign.number]
        omega
      rw [if_pos negative]
      simp only [Sign.number, Int.natAbs_neg, Int.natAbs_natCast, shown]

end LeaseQueue.Numeral
