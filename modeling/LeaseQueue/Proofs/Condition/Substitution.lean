import LeaseQueue.Proofs.Running
import LeaseQueue.Proofs.Sql.Apart
import LeaseQueue.Proofs.Text.Numeral

/-!
What becomes of a pattern. It is read once from the left: each position that it has is replaced by its column, and all
other text stays, broken and nested braces included. Around the text of a filter nothing changes.
-/
namespace LeaseQueue

open Sql (Expr Fragment)

namespace NativePiece

/-- What may stand between the braces of a position. -/
def Marks (digits : List Char) : Prop := digits ≠ [] ∧ ∀ c ∈ digits, c.isDigit = true

/-- A text cut up from the left: a position wherever one begins, and every other character as it is. -/
inductive Reads : List Char → List NativePiece → Prop
  | done : Reads [] []
  | position {digits rest : List Char} {pieces : List NativePiece} (marks : Marks digits) (others : Reads rest pieces) :
      Reads ('{' :: (digits ++ '}' :: rest)) (.position digits :: pieces)
  | char {c : Char} {rest : List Char} {pieces : List NativePiece}
      (plain : ∀ digits after, Marks digits → c :: rest ≠ '{' :: (digits ++ '}' :: after))
      (others : Reads rest pieces) : Reads (c :: rest) (.char c :: pieces)

variable {c : Char} {digits rest text : List Char} {pieces : List NativePiece} {count : Nat} {columns : List String}

theorem detached_cons (other : c.isDigit = false) : Sql.Detached (c :: rest) := by simpa [Sql.Detached] using other

theorem takeWhile_digits (decimal : ∀ c ∈ digits, c.isDigit = true) (ends : Sql.Detached rest) :
    (digits ++ rest).takeWhile Char.isDigit = digits := by
  have stops : rest.takeWhile Char.isDigit = [] := @Sql.Detached.takeWhile_append [] rest ends
  rw [List.takeWhile_append_of_pos decimal, stops, List.append_nil]

/-- Digits end where something else begins. -/
theorem digits_unique {other after : List Char} (decimal : ∀ c ∈ digits, c.isDigit = true)
    (decimal' : ∀ c ∈ other, c.isDigit = true) (ends : Sql.Detached rest)
    (same : digits ++ rest = other ++ '}' :: after) : digits = other ∧ rest = '}' :: after := by
  have front : digits = other := by
    rw [← takeWhile_digits decimal ends, same, takeWhile_digits decimal' (detached_cons rfl)]
  subst front
  exact ⟨rfl, List.append_cancel_left same⟩

theorem Reads.plainChar (other : c ≠ '{') (others : Reads rest pieces) : Reads (c :: rest) (.char c :: pieces) :=
  .char (fun _ _ _ same => other (List.cons.inj same).1) others

theorem Reads.digit_text (decimal : ∀ c ∈ digits, c.isDigit = true) (others : Reads rest pieces) :
    Reads (digits ++ rest) (digits.map .char ++ pieces) := by
  induction digits with
  | nil => exact others
  | cons c digits ih =>
    obtain ⟨digit, decimal⟩ := List.forall_mem_cons.mp decimal
    refine .plainChar ?_ (ih decimal)
    rintro rfl
    exact absurd digit (by decide)

/-- Digits behind a brace are text unless a brace closes them. -/
theorem Reads.held (decimal : ∀ c ∈ digits, c.isDigit = true) (ends : Sql.Detached rest)
    (unclosed : rest.head? = some '}' → digits = []) (others : Reads rest pieces) :
    Reads ('{' :: (digits ++ rest)) (heldText digits ++ pieces) := by
  refine .char (fun other after marks same => ?_) (.digit_text decimal others)
  obtain ⟨rfl, rfl⟩ := digits_unique decimal marks.2 ends (List.cons.inj same).2
  exact marks.1 (unclosed rfl)

theorem isSome_digit?_iff : (Numeral.digit? c).isSome ↔ c.isDigit = true := by
  simp [Option.isSome_iff_exists, Numeral.digit?_eq_some_iff]

/-- The text that the scanner has before it, with what it holds back. -/
def pending (held : Option (List Char)) (text : List Char) : List Char :=
  match held with
  | none => text
  | some digits => '{' :: (digits ++ text)

/-- The scanner cuts a text up from the left. What it holds back are digits, so that no position begins there but at the
brace in front of them. -/
theorem reads_scan (held : Option (List Char)) (text : List Char)
    (decimal : ∀ digits, held = some digits → ∀ c ∈ digits, c.isDigit = true) :
    Reads (pending held text) (scan held text) := by
  fun_induction scan held text with
  | case1 => exact .done
  | case2 digits =>
    have whole : Reads ('{' :: (digits ++ [])) (heldText digits ++ []) :=
      .held (decimal digits rfl) (by simp [Sql.Detached]) (by simp) .done
    rwa [List.append_nil (heldText digits)] at whole
  | case3 rest ih => exact ih fun digits none => by cases none; simp
  | case4 c rest other ih => exact .plainChar other (ih (by simp))
  | case5 digits c rest digit ih =>
    have next := ih fun more same => by
      cases same
      exact List.forall_mem_append.mpr ⟨decimal digits rfl, by simpa using isSome_digit?_iff.mp digit⟩
    rwa [pending, List.append_assoc] at next
  | case6 digits c rest _ closed ih =>
    obtain ⟨rfl, filled⟩ := closed
    exact .position ⟨filled, decimal digits rfl⟩ (ih (by simp))
  | case7 digits rest _ _ ih =>
    have others : Reads ('{' :: rest) (scan (some []) rest) := ih fun _ none => by cases none; simp
    exact .held (decimal digits rfl) (detached_cons rfl) (by simp) others
  | case8 digits c rest other unclosed brace ih =>
    have ends : Sql.Detached (c :: rest) := detached_cons (Bool.eq_false_iff.mpr (mt isSome_digit?_iff.mpr other))
    refine .held (decimal digits rfl) ends (fun first => ?_) (.plainChar brace (ih (by simp)))
    cases first
    by_contra filled
    exact unclosed ⟨rfl, filled⟩

/-- There is one way to cut a text up. -/
theorem Reads.unique {others : List NativePiece} (first : Reads text pieces) (second : Reads text others) :
    pieces = others := by
  induction first generalizing others with
  | done => cases second; rfl
  | @position digits rest pieces marks _ ih =>
    generalize same : '{' :: (digits ++ '}' :: rest) = text at second
    cases second with
    | done => cases same
    | position marks' later =>
      obtain ⟨rfl, rest⟩ := digits_unique marks.2 marks'.2 (detached_cons rfl) (List.cons.inj same).2
      cases rest
      rw [ih later]
    | char plain _ => exact absurd same.symm (plain _ _ marks)
  | @char c rest pieces plain _ ih =>
    generalize same : c :: rest = text at second
    cases second with
    | done => cases same
    | position marks _ => exact absurd same (plain _ _ marks)
    | char _ later =>
      cases same
      rw [ih later]

theorem reads_iff : Reads text pieces ↔ pieces = scan none text := by
  have scanned := reads_scan none text (by simp)
  exact ⟨fun reads => reads.unique scanned, fun same => same ▸ scanned⟩

theorem Reads.marks (reads : Reads text pieces) (member : .position digits ∈ pieces) : Marks digits := by
  induction reads with
  | done => cases member
  | position marks _ ih =>
    rcases List.mem_cons.mp member with same | later
    · cases same
      exact marks
    · exact ih later
  | char _ _ ih => exact ih (List.mem_of_ne_of_mem (by simp) member)

/-- A position has one of so many places, as far as those can be counted in 64 bits. -/
def Fits (count : Nat) : NativePiece → Prop
  | char _ => True
  | position digits => Nat.ofDigitChars 10 digits 0 < min count positionLimit

/-- What stands for a piece when the places are those of the columns. -/
def replaced (columns : List String) : NativePiece → List Char
  | char c => [c]
  | position digits => (columns.getD (Nat.ofDigitChars 10 digits 0) "").toList

theorem resolve_ok_iff {pattern : String} {part : List Char} {piece : NativePiece}
    (marked : ∀ digits, piece = .position digits → Marks digits) :
    resolve pattern columns piece = .ok part ↔ piece.Fits columns.length ∧ part = piece.replaced columns := by
  cases piece with
  | char c => simp [resolve, Fits, replaced, eq_comm]
  | position digits =>
    have read : Numeral.continueNat? 0 digits = some (Nat.ofDigitChars 10 digits 0) :=
      Numeral.continueNat?_eq_some_iff.mpr ⟨(marked digits rfl).2, rfl⟩
    simp only [resolve, read, Option.getD_some, Fits, replaced, lt_min_iff]
    split
    · rename_i large
      simp [refuse, large]
    · rename_i small
      rcases Nat.lt_or_ge (Nat.ofDigitChars 10 digits 0) columns.length with inside | outside
      · simp [inside, Nat.not_le.mp small, eq_comm]
      · simp [refuse, Nat.not_lt.mpr outside]

/-- Substitution succeeds if every position fits, and then replaces each piece, whatever the columns look like. -/
theorem substituteColumns_ok_iff {pattern sql : String} (reads : Reads pattern.toList pieces) :
    substituteColumns pattern columns = .ok sql ↔
      (∀ piece ∈ pieces, piece.Fits columns.length) ∧ sql.toList = pieces.flatMap (replaced columns) := by
  have each : ∀ piece ∈ pieces, ∀ part, resolve pattern columns piece = .ok part ↔
      piece.Fits columns.length ∧ part = piece.replaced columns :=
    fun piece member part => resolve_ok_iff fun digits same => reads.marks (same ▸ member)
  have whole (parts : List (List Char)) : pieces.mapM (resolve pattern columns) = .ok parts ↔
      (∀ piece ∈ pieces, piece.Fits columns.length) ∧ parts = pieces.map (replaced columns) := mapM_eq_ok_iff each
  unfold substituteColumns
  rw [← reads_iff.mp reads, List.flatMap_def]
  constructor
  · intro done
    obtain ⟨parts, found, rest⟩ := exists_of_bind_ok done
    obtain ⟨fits, rfl⟩ := (whole parts).mp found
    cases rest
    exact ⟨fits, String.toList_ofList⟩
  · rintro ⟨fits, same⟩
    rw [(whole _).mpr ⟨fits, rfl⟩]
    exact congrArg Except.ok ((congrArg String.ofList same.symm).trans String.ofList_toList)

end NativePiece

open NativePiece

variable {pattern : String} {names : List String} {fields : List FieldName} {filter : NativeFilter}

theorem FieldName.ofString_eq_ok_iff {name : String} {field : FieldName} :
    FieldName.ofString name = .ok field ↔ field.text = name := by
  unfold FieldName.ofString
  constructor
  · intro named
    split at named
    · cases named
      rfl
    · cases named
  · rintro rfl
    split
    · rfl
    · rename_i fault faulty
      cases faulty.symm.trans field.accepted

theorem FieldName.mapM_ofString_eq_ok_iff :
    names.mapM FieldName.ofString = .ok fields ↔ fields.map FieldName.text = names := by
  constructor
  · intro done
    have steps := forall₂_of_mapM done
    clear done
    induction steps with
    | nil => rfl
    | cons named _ ih => rw [List.map_cons, FieldName.ofString_eq_ok_iff.mp named, ih]
  · rintro rfl
    induction fields with
    | nil => rfl
    | cons field rest ih => rw [List.map_cons, List.mapM_cons, FieldName.ofString_eq_ok_iff.mpr rfl, ih]; rfl

/-- A filter comes of its own pattern and of the names of its own fields. -/
theorem NativeFilter.ofNames_eq_ok_iff :
    NativeFilter.ofNames pattern names = .ok filter ↔
      filter.pattern = pattern ∧ filter.fields.map FieldName.text = names := by
  constructor
  · intro done
    obtain ⟨fields, named, made⟩ := exists_of_bind_ok done
    unfold ofPattern at made
    split at made
    · cases made
      exact ⟨rfl, FieldName.mapM_ofString_eq_ok_iff.mp named⟩
    · cases made
  · rintro ⟨rfl, rfl⟩
    unfold ofNames
    rw [FieldName.mapM_ofString_eq_ok_iff.mpr rfl]
    show ofPattern filter.pattern filter.fields = .ok filter
    unfold ofPattern
    split
    · rename_i sql resolved
      obtain ⟨pattern, fields, text, given⟩ := filter
      cases resolved.symm.trans given
      rfl
    · rename_i failure refused
      cases refused.symm.trans filter.resolved

namespace Condition

/-- A condition with a place in it for one of its leaves. -/
inductive Frame
  | here
  | all (before : List Condition) (frame : Frame) (after : List Condition)
  | any (before : List Condition) (frame : Frame) (after : List Condition)
  | not (frame : Frame)

def Frame.plug (leaf : Condition) : Frame → Condition
  | here => leaf
  | all before frame after => .all (before ++ frame.plug leaf :: after)
  | any before frame after => .any (before ++ frame.plug leaf :: after)
  | not frame => .not (frame.plug leaf)

theorem groups_cons (child : Condition) (rest : List Condition) (next : Nat) :
    groups next (child :: rest) =
      (.group (child.expr next).1 :: (groups (child.expr next).2 rest).1, (groups (child.expr next).2 rest).2) := rfl

theorem groups_split (before after : List Condition) (child : Condition) (next : Nat) :
    groups next (before ++ child :: after) =
      ((groups next before).1 ++ .group (child.expr (groups next before).2).1 ::
        (groups (child.expr (groups next before).2).2 after).1,
      (groups (child.expr (groups next before).2).2 after).2) := by
  induction before generalizing next with
  | nil => rfl
  | cons first rest ih => rw [List.cons_append, groups_cons, ih, groups_cons, List.cons_append]

theorem paramsAll_split (before after : List Condition) (child : Condition) :
    paramsAll (before ++ child :: after) = paramsAll before ++ (child.params ++ paramsAll after) := by
  induction before with
  | nil => rfl
  | cons first rest ih => rw [List.cons_append, paramsAll, paramsAll, ih, List.append_assoc]

end Condition

/-- Around one of several fragments nothing depends on it. -/
theorem Sql.Fragment.join_split (separator : String) (front back : List Fragment) :
    ∃ before after : Fragment, ∀ middle : Fragment,
      join separator (front ++ middle :: back) = before ++ middle ++ after := by
  induction front with
  | nil =>
    cases back with
    | nil => exact ⟨[], [], fun middle => by simp [join_single]⟩
    | cons next rest => exact ⟨[], _, fun middle => join_cons ..⟩
  | cons first rest ih =>
    obtain ⟨before, after, same⟩ := ih
    refine ⟨first ++ (sql separator ++ before), after, fun middle => ?_⟩
    have step : join separator (first :: (rest ++ middle :: back)) =
        first ++ (sql separator ++ join separator (rest ++ middle :: back)) := by
      cases rest <;> exact join_cons ..
    rw [List.cons_append, step, same]
    simp only [List.append_assoc]

namespace Condition

/-- The text around a filter, the parameters and the number that follows the last placeholder are those of the frame. -/
structure Surrounds (frame : Frame) (start : Nat) (before after : Fragment) (params : List Sql.Param) (next : Nat)
    (filter : NativeFilter) : Prop where
  text : ((frame.plug (.native filter)).expr start).1.fragment = before ++ Sql.sql filter.sql ++ after
  bound : (frame.plug (.native filter)).params = params
  counted : ((frame.plug (.native filter)).expr start).2 = next

variable {frame : Frame} {before after : Fragment} {params : List Sql.Param} {start last : Nat}

/-- Other terms of a chain come before and behind what is around the filter in its own term. -/
theorem chain_around (separator : String) (front back : List Condition)
    (inner : ∀ filter, Surrounds frame (groups start front).2 before after params last filter) :
    ∃ (first rest : Fragment), ∀ filter : NativeFilter,
      Fragment.join separator (Expr.fragments (groups start (front ++ frame.plug (.native filter) :: back)).1) =
        first ++ Sql.sql filter.sql ++ rest ∧
      (groups start (front ++ frame.plug (.native filter) :: back)).2 = (groups last back).2 ∧
      paramsAll (front ++ frame.plug (.native filter) :: back) = paramsAll front ++ (params ++ paramsAll back) := by
  obtain ⟨first, rest, same⟩ := Fragment.join_split separator ((groups start front).1.map Expr.fragment)
    ((groups last back).1.map Expr.fragment)
  refine ⟨first ++ Sql.sql "(" ++ before, after ++ Sql.sql ")" ++ rest, fun filter => ?_⟩
  obtain ⟨text, bound, counted⟩ := inner filter
  rw [groups_split, paramsAll_split, counted, bound]
  refine ⟨?_, rfl, rfl⟩
  rw [Sql.fragments_eq, List.map_append, List.map_cons, same, Expr.fragment, text]
  simp only [List.append_assoc]

/-- The placeholders around a filter are numbered without a gap. -/
theorem Surrounds.numbered (surrounds : Surrounds frame start before after params last filter) :
    (before ++ after).slots = List.range' start params.length ∧ last = start + params.length := by
  obtain ⟨text, rfl, rfl⟩ := surrounds
  refine ⟨?_, expr_next _ start⟩
  rw [← slots_expr, text]
  simp only [Fragment.slots_append, Fragment.slots_sql, List.append_nil]

theorem surrounds (frame : Frame) (start : Nat) : ∃ (before after : Fragment) (params : List Sql.Param) (next : Nat),
    ∀ filter, Surrounds frame start before after params next filter := by
  induction frame generalizing start with
  | here => exact ⟨[], [], [], start, fun filter => ⟨rfl, rfl, rfl⟩⟩
  | all front frame back ih =>
    obtain ⟨before, after, params, last, inner⟩ := ih (groups start front).2
    obtain ⟨first, rest, same⟩ := chain_around " and " front back inner
    exact ⟨first, rest, _, _, fun filter => ⟨(same filter).1, (same filter).2.2, (same filter).2.1⟩⟩
  | any front frame back ih =>
    obtain ⟨before, after, params, last, inner⟩ := ih (groups start front).2
    obtain ⟨first, rest, same⟩ := chain_around " or " front back inner
    exact ⟨first, rest, _, _, fun filter => ⟨(same filter).1, (same filter).2.2, (same filter).2.1⟩⟩
  | not frame ih =>
    obtain ⟨before, after, params, last, inner⟩ := ih start
    refine ⟨Sql.sql "not " ++ (Sql.sql "(" ++ before), after ++ Sql.sql ")", params, last, fun filter => ?_⟩
    obtain ⟨text, bound, counted⟩ := inner filter
    refine ⟨?_, bound, counted⟩
    show Sql.sql "not " ++ (Sql.sql "(" ++ ((frame.plug (.native filter)).expr start).1.fragment ++ Sql.sql ")") = _
    rw [text]
    simp only [List.append_assoc]

end Condition

/-- What a pattern and names of fields make, given the pieces of the pattern. -/
structure NativeFilter.OnePass (pattern : String) (names : List String) (pieces : List NativePiece) : Prop where
  accepted : (∃ filter, NativeFilter.ofNames pattern names = .ok filter) ↔
    (∀ name ∈ names, fieldNameFault? name = none) ∧ ∀ piece ∈ pieces, piece.Fits names.length
  written : ∀ filter, NativeFilter.ofNames pattern names = .ok filter →
    filter.sql.toList = pieces.flatMap (replaced (names.map (metaColumnPrefix ++ ·)))
  /-- Columns are not read as patterns, whatever is in them. -/
  verbatim : ∀ columns sql, substituteColumns pattern columns = .ok sql → sql.toList = pieces.flatMap (replaced columns)
  /-- A filter can be compiled from its pattern again at any time. -/
  compiled : ∀ filter start, NativeFilter.ofNames pattern names = .ok filter →
    substituteColumns filter.pattern (filter.fields.map FieldName.column) =
      .ok ((Condition.native filter).compile start).expr.text ∧
    ((Condition.native filter).compile start).expr.text = filter.sql ∧
    ((Condition.native filter).compile start).params = [] ∧
    ((Condition.native filter).compile start).next = firstPlaceholder start

theorem NativeFilter.onePass (names : List String) {pieces : List NativePiece} (reads : Reads pattern.toList pieces) :
    OnePass pattern names pieces where
  accepted := by
    constructor
    · rintro ⟨filter, made⟩
      obtain ⟨rfl, rfl⟩ := NativeFilter.ofNames_eq_ok_iff.mp made
      obtain ⟨fits, _⟩ := (substituteColumns_ok_iff reads).mp filter.resolved
      refine ⟨fun name member => ?_, by simpa using fits⟩
      obtain ⟨field, _, rfl⟩ := List.mem_map.mp member
      exact field.accepted
    · rintro ⟨valid, fits⟩
      have texts : (names.pmap FieldName.mk valid).map FieldName.text = names := by simp [List.map_pmap]
      have resolved : substituteColumns pattern ((names.pmap FieldName.mk valid).map FieldName.column) =
          .ok (String.ofList (pieces.flatMap (replaced ((names.pmap FieldName.mk valid).map FieldName.column)))) :=
        (substituteColumns_ok_iff reads).mpr ⟨by simpa using fits, String.toList_ofList⟩
      exact ⟨⟨pattern, _, _, resolved⟩, NativeFilter.ofNames_eq_ok_iff.mpr ⟨rfl, texts⟩⟩
  written filter made := by
    obtain ⟨rfl, rfl⟩ := NativeFilter.ofNames_eq_ok_iff.mp made
    rw [((substituteColumns_ok_iff reads).mp filter.resolved).2, List.map_map]
    rfl
  verbatim columns sql done := ((substituteColumns_ok_iff reads).mp done).2
  compiled filter start _ := by
    have text : ((Condition.native filter).compile start).expr.text = filter.sql := by
      show String.join [filter.sql] = filter.sql
      simp [String.join]
    exact ⟨text ▸ filter.resolved, text, rfl, rfl⟩

/-- A pattern is read in one way, once, and a filter that is accepted is what the pattern says. Wherever a filter stands
in a condition, nothing else that is compiled depends on it, and placeholders are numbered as if it were not there. -/
theorem native_substitutes_once (pattern : String) (names : List String) :
    (∃ pieces, (∀ others, Reads pattern.toList others ↔ others = pieces) ∧ NativeFilter.OnePass pattern names pieces) ∧
    ∀ (frame : Condition.Frame) (start : Nat), ∃ (before after : Fragment) (params : List Sql.Param) (next : Nat),
      ∀ filter, Condition.Surrounds frame start before after params next filter ∧
        (before ++ after).slots = List.range' start params.length ∧ next = start + params.length := by
  refine ⟨⟨_, fun _ => reads_iff, NativeFilter.onePass names (reads_iff.mpr rfl)⟩, fun frame start => ?_⟩
  obtain ⟨before, after, params, next, around⟩ := Condition.surrounds frame start
  exact ⟨before, after, params, next, fun filter => ⟨around filter, (around filter).numbered⟩⟩

example : (NativeFilter.ofNames "\x7b\x7b0\x7d\x7d \x7b1 \x7b01\x7d \x7b\x7d" ["a", "b"]).map NativeFilter.sql =
    .ok "\x7bmeta_a\x7d \x7b1 meta_b \x7b\x7d" := by
  decide +kernel

end LeaseQueue
