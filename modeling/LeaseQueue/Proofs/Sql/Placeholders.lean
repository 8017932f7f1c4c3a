import LeaseQueue.Proofs.Sql.Reading

/-!
The placeholders of a text, as a database finds them: a dollar sign with all the digits behind it. In the text of a
fragment they are the placeholders of the fragment, as long as no other part has a dollar sign and a space, a closing
parenthesis or nothing comes behind each of them.
-/
namespace LeaseQueue.Sql

/-- A text is made of characters that stand for themselves and of placeholders. -/
inductive Mark
  | char (c : Char)
  | placeholder (index : Nat)
deriving DecidableEq, Repr

def Mark.index? : Mark → Option Nat
  | char _ => none
  | placeholder index => some index

/-- A character, or what is put in the place of a placeholder. -/
def Mark.fill (filling : Nat → String) : Mark → List Char
  | char c => [c]
  | placeholder index => (filling index).toList

/-- Reads a text from the left. -/
def marks : List Char → List Mark
  | [] => []
  | c :: rest =>
    if c = '$' then
      .placeholder (Nat.ofDigitChars 10 (rest.takeWhile Char.isDigit) 0) :: marks (rest.dropWhile Char.isDigit)
    else .char c :: marks rest
termination_by text => text.length
decreasing_by
  · exact Nat.lt_succ_of_le (List.dropWhile_sublist _).length_le
  · exact Nat.lt_succ_self _

/-- The numbers of the placeholders of a text, from left to right. -/
def placeholders (text : String) : List Nat := (marks text.toList).filterMap Mark.index?

/-- The text with each placeholder replaced. What is put in is not read again. -/
def fillText (filling : Nat → String) (text : String) : String :=
  String.ofList ((marks text.toList).flatMap (Mark.fill filling))

/-- The text is read as these marks, whatever comes behind it. -/
def ReadsAs (text : List Char) (read : List Mark) : Prop :=
  ∀ rest, Breaks rest → marks (text ++ rest) = read ++ marks rest

theorem marks_plain {text : List Char} (plain : '$' ∉ text) (rest : List Char) :
    marks (text ++ rest) = text.map .char ++ marks rest := by
  induction text with
  | nil => rfl
  | cons c text ih =>
    obtain ⟨other, plain⟩ := not_or.mp fun same => plain (List.mem_cons.mpr same)
    rw [List.cons_append, marks, if_neg (Ne.symm other), ih plain]
    rfl

theorem Breaks.takeWhile {rest : List Char} (breaks : Breaks rest) : rest.takeWhile Char.isDigit = [] := by
  rcases breaks with rfl | ⟨more, rfl | rfl⟩ <;> rfl

theorem Breaks.dropWhile {rest : List Char} (breaks : Breaks rest) : rest.dropWhile Char.isDigit = rest := by
  rcases breaks with rfl | ⟨more, rfl | rfl⟩ <;> rfl

theorem marks_slot (index : Nat) {rest : List Char} (breaks : Breaks rest) :
    marks ('$' :: (Nat.toDigits 10 index ++ rest)) = .placeholder index :: marks rest := by
  have decimal : ∀ c ∈ Nat.toDigits 10 index, c.isDigit :=
    fun _ member => Nat.isDigit_of_mem_toDigits (by decide) (by decide) member
  rw [marks, if_pos rfl, List.takeWhile_append_of_pos decimal, List.dropWhile_append_of_pos decimal, breaks.takeWhile,
    breaks.dropWhile, List.append_nil, Nat.ofDigitChars_ten_toDigits]

namespace ReadsAs

variable {text other : List Char} {read others : List Mark}

theorem marks (whole : ReadsAs text read) : marks text = read := by
  have ended := whole [] (.inl rfl)
  rwa [List.append_nil, Sql.marks, List.append_nil] at ended

theorem plain (plain : '$' ∉ text) : ReadsAs text (text.map .char) := fun rest _ => marks_plain plain rest

theorem slot (index : Nat) : ReadsAs ('$' :: Nat.toDigits 10 index) [.placeholder index] :=
  fun _ breaks => marks_slot index breaks

/-- A part without a dollar sign may stand before anything. -/
theorem after (plain : '$' ∉ text) (later : ReadsAs other others) :
    ReadsAs (text ++ other) (text.map .char ++ others) := by
  intro rest breaks
  rw [List.append_assoc, marks_plain plain, later rest breaks, List.append_assoc]

/-- What comes behind a part has to end it. -/
theorem append (earlier : ReadsAs text read) (later : ReadsAs other others)
    (ends : ∀ rest, Breaks rest → Breaks (other ++ rest)) : ReadsAs (text ++ other) (read ++ others) := by
  intro rest breaks
  rw [List.append_assoc, earlier _ (ends rest breaks), later rest breaks, List.append_assoc]

end ReadsAs

/-! Texts in a row. -/

/-- Text behind which nothing before it goes on: it begins with no digit. -/
def Detached (text : List Char) : Prop := ∀ c ∈ text.head?, c.isDigit = false

-- Named, since a search may run through all characters instead.
instance (text : List Char) : Decidable (Detached text) :=
  (Option.decidableForallMem text.head? : Decidable (∀ c ∈ text.head?, c.isDigit = false))

section

variable {text rest : List Char}

theorem Detached.takeWhile_append (detached : Detached rest) :
    (text ++ rest).takeWhile Char.isDigit = text.takeWhile Char.isDigit := by
  induction text with
  | nil => cases rest <;> simp_all [Detached]
  | cons c text ih => simp [List.takeWhile_cons, ih]

theorem Detached.dropWhile_append (detached : Detached rest) :
    (text ++ rest).dropWhile Char.isDigit = text.dropWhile Char.isDigit ++ rest := by
  induction text with
  | nil => cases rest <;> simp_all [Detached]
  | cons c text ih =>
    rw [List.cons_append, List.dropWhile_cons, List.dropWhile_cons, ih]
    split <;> rfl

/-- What stands in a row is read in a row. -/
theorem marks_append (detached : Detached rest) : marks (text ++ rest) = marks text ++ marks rest := by
  fun_induction marks text with
  | case1 => rfl
  | case2 text ih =>
    rw [List.cons_append, marks, if_pos rfl, detached.takeWhile_append, detached.dropWhile_append, ih, List.cons_append]
  | case3 c text other ih => rw [List.cons_append, marks, if_neg other, ih, List.cons_append]

end

/-! The placeholders of a fragment. -/

def Piece.marks : Piece → List Mark
  | text content => content.toList.map .char
  | name identifier => identifier.toList.map .char
  | placeholder index => [.placeholder index]

namespace Fragment

def marks (fragment : Fragment) : List Mark := fragment.flatMap Piece.marks

/-- The numbers of the placeholders of a fragment, in their order. -/
def slots (fragment : Fragment) : List Nat := fragment.marks.filterMap Mark.index?

/-- The letters of a fragment with each placeholder replaced. -/
def fill (filling : Nat → String) (fragment : Fragment) : List Char := fragment.marks.flatMap (Mark.fill filling)

theorem filterMap_char (text : List Char) : (text.map Mark.char).filterMap Mark.index? = [] := by
  induction text with
  | nil => rfl
  | cons c text ih => exact ih

theorem flatMap_char (filling : Nat → String) (text : List Char) :
    (text.map Mark.char).flatMap (Mark.fill filling) = text := by
  induction text with
  | nil => rfl
  | cons c text ih => exact congrArg (c :: ·) ih

variable (filling : Nat → String)

@[simp]
theorem marks_append (first second : Fragment) : marks (first ++ second) = first.marks ++ second.marks :=
  List.flatMap_append

@[simp]
theorem marks_sql (content : String) : (sql content).marks = content.toList.map .char := List.append_nil _

@[simp]
theorem marks_name (identifier : String) : (name identifier).marks = identifier.toList.map .char := List.append_nil _

@[simp]
theorem marks_slot (index : Nat) : (slot index).marks = [.placeholder index] := rfl

@[simp]
theorem slots_append (first second : Fragment) : slots (first ++ second) = first.slots ++ second.slots := by
  unfold slots
  rw [marks_append, List.filterMap_append]

@[simp]
theorem slots_sql (content : String) : (sql content).slots = [] := by
  unfold slots
  rw [marks_sql, filterMap_char]

@[simp]
theorem slots_name (identifier : String) : (name identifier).slots = [] := by
  unfold slots
  rw [marks_name, filterMap_char]

@[simp]
theorem slots_slot (index : Nat) : (slot index).slots = [index] := rfl

@[simp]
theorem fill_append (first second : Fragment) :
    fill filling (first ++ second) = first.fill filling ++ second.fill filling := by
  unfold fill
  rw [marks_append, List.flatMap_append]

@[simp]
theorem fill_sql (content : String) : (sql content).fill filling = content.toList := by
  unfold fill
  rw [marks_sql, flatMap_char]

@[simp]
theorem fill_name (identifier : String) : (name identifier).fill filling = identifier.toList := by
  unfold fill
  rw [marks_name, flatMap_char]

@[simp]
theorem fill_slot (index : Nat) : (slot index).fill filling = (filling index).toList := List.append_nil _

theorem join_cons (separator : String) (first second : Fragment) (rest : List Fragment) :
    join separator (first :: second :: rest) = first ++ (sql separator ++ join separator (second :: rest)) := rfl

theorem slots_join (separator : String) (fragments : List Fragment) :
    (join separator fragments).slots = fragments.flatMap slots := by
  induction fragments with
  | nil => rfl
  | cons first rest ih =>
    cases rest with
    | nil => rw [join_single, List.flatMap_singleton]
    | cons second rest => rw [join_cons, slots_append, slots_append, slots_sql, List.nil_append, ih]; rfl

theorem fill_join (separator : String) (fragments : List Fragment) :
    (join separator fragments).fill filling = separator.toList.intercalate (fragments.map (fill filling)) := by
  induction fragments with
  | nil => rfl
  | cons first rest ih =>
    cases rest with
    | nil => rw [join_single, List.map_singleton, List.intercalate_singleton]
    | cons second rest =>
      rw [join_cons, fill_append, fill_append, fill_sql, ih]
      simp only [List.map_cons, List.intercalate_cons_cons, List.append_assoc]

/-- The text of the fragment is read as the fragment itself. -/
def Legible (fragment : Fragment) : Prop := ReadsAs fragment.letters fragment.marks

namespace Legible

variable {first second : Fragment}

theorem sql {content : String} (plain : '$' ∉ content.toList) : Legible (sql content) := by
  unfold Legible
  rw [letters_sql, marks_sql]
  exact .plain plain

theorem slot (index : Nat) : Legible (slot index) := by
  unfold Legible
  rw [letters_slot, marks_slot]
  exact .slot index

theorem afterSql {content : String} (plain : '$' ∉ content.toList) (later : Legible second) :
    Legible (Sql.sql content ++ second) := by
  unfold Legible
  rw [letters_append, marks_append, letters_sql, marks_sql]
  exact later.after plain

theorem afterName {identifier : String} (plain : '$' ∉ identifier.toList) (later : Legible second) :
    Legible (name identifier ++ second) := by
  unfold Legible
  rw [letters_append, marks_append, letters_name, marks_name]
  exact later.after plain

/-- Text that begins with a space or a closing parenthesis may stand behind anything. -/
theorem before (earlier : Legible first) {content : String} {more : List Char}
    (begins : content.toList = ' ' :: more ∨ content.toList = ')' :: more)
    (later : Legible (Sql.sql content ++ second)) : Legible (first ++ (Sql.sql content ++ second)) := by
  unfold Legible
  rw [letters_append, marks_append]
  refine earlier.append later fun rest _ => ?_
  rw [letters_append, letters_sql]
  rcases begins with begins | begins <;> rw [begins]
  · exact .space _
  · exact .closing _

theorem group (inner : Legible first) : Legible (Sql.sql "(" ++ (first ++ Sql.sql ")")) := by
  have closed : Legible (Sql.sql ")" ++ []) := .sql (by decide)
  exact .afterSql (by decide) (inner.before (.inr rfl) closed)

theorem join {separator : String} {more : List Char} (plain : '$' ∉ separator.toList)
    (begins : separator.toList = ' ' :: more) {fragments : List Fragment}
    (each : ∀ fragment ∈ fragments, Legible fragment) : Legible (join separator fragments) := by
  induction fragments with
  | nil => exact fun rest _ => rfl
  | cons first rest ih =>
    have later := ih fun fragment member => each fragment (List.mem_cons_of_mem _ member)
    cases rest with
    | nil => rw [join_single]; exact each first List.mem_cons_self
    | cons second rest =>
      rw [join_cons]
      exact (each first List.mem_cons_self).before (.inl begins) (later.afterSql plain)

end Legible

end Fragment

end LeaseQueue.Sql
