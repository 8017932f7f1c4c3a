import LeaseQueue.Proofs.Condition.Agreement
import LeaseQueue.Proofs.Running
import LeaseQueue.Proofs.Sql.Placeholders

/-!
The literals of a condition and its placeholders belong together. The placeholders of the text are numbered without a
gap, and with its parameter in the place of each one the text is the one that has every literal where it is compared.
-/
namespace LeaseQueue

open Sql (Param Fragment)

/-! SQL text has no dollar sign that its pattern does not have. -/

namespace NativePiece

/-- The characters of the pieces are those of the pattern; what was held back began with a brace. -/
theorem mem_scan {c : Char} {held : Option (List Char)} {text : List Char} (member : .char c ∈ scan held text) :
    c = '{' ∨ c ∈ held.getD [] ∨ c ∈ text := by
  fun_induction scan held text with
  | case1 => cases member
  | case2 digits => grind [heldText]
  | case3 rest ih => grind
  | case4 => grind
  | case5 => grind
  | case6 => grind
  | case7 => grind [heldText]
  | case8 => grind [heldText]

/-- A character of a column, or one that the pattern has itself. -/
theorem mem_resolve {pattern : String} {columns : List String} {piece : NativePiece} {part : List Char}
    (resolved : resolve pattern columns piece = .ok part) {c : Char} (member : c ∈ part) :
    piece = .char c ∨ ∃ column ∈ columns, c ∈ column.toList := by
  cases piece with
  | char d =>
    cases resolved
    obtain rfl := List.mem_singleton.mp member
    exact .inl rfl
  | position digits =>
    simp only [resolve] at resolved
    split at resolved
    · cases resolved
    · split at resolved
      next column found =>
        cases resolved
        exact .inr ⟨column, List.mem_of_getElem? found, member⟩
      · cases resolved

end NativePiece

theorem FieldName.dollar_not_mem (field : FieldName) : '$' ∉ field.column.toList := by
  intro member
  unfold FieldName.column metaColumnPrefix at member
  rw [String.toList_append] at member
  rcases List.mem_append.mp member with front | inside
  · exact absurd front (by decide)
  · exact absurd (List.all_eq_true.mp (field.symbols) _ inside) (by decide)

theorem NativeFilter.dollar_not_mem {filter : NativeFilter} (free : '$' ∉ filter.pattern.toList) :
    '$' ∉ filter.sql.toList := by
  intro member
  have resolved := filter.resolved
  unfold substituteColumns at resolved
  cases parts : (NativePiece.scan none filter.pattern.toList).mapM
      (NativePiece.resolve filter.pattern (filter.fields.map FieldName.column)) with
  | error failure => rw [parts] at resolved; cases resolved
  | ok found =>
    rw [parts] at resolved
    have same : String.ofList found.flatten = filter.sql := Except.ok.inj resolved
    rw [← same, String.toList_ofList, List.mem_flatten] at member
    obtain ⟨part, inside, here⟩ := member
    obtain ⟨piece, scanned, gives⟩ := exists_of_mem_mapM parts inside
    rcases NativePiece.mem_resolve gives here with rfl | ⟨column, listed, there⟩
    · rcases NativePiece.mem_scan scanned with brace | held | own
      · exact absurd brace (by decide)
      · cases held
      · exact free own
    · obtain ⟨field, _, rfl⟩ := List.mem_map.mp listed
      exact field.dollar_not_mem there

namespace Condition

mutual

/-- Whether no SQL pattern of a condition has a dollar sign. -/
def dollarFree : Condition → Bool
  | native filter => decide ('$' ∉ filter.pattern.toList)
  | all children | any children => dollarFreeAll children
  | not child => child.dollarFree
  | _ => true

def dollarFreeAll : List Condition → Bool
  | [] => true
  | child :: rest => child.dollarFree && dollarFreeAll rest

end

mutual

/-- A condition with every literal in its own place, as `write` renders it. -/
def literal (write : Param → String) : Condition → String
  | compare field comparison value => field.column ++ " " ++ comparison.relation.text ++ " " ++ write (.value value)
  | like field pattern => field.column ++ " like " ++ write (.text pattern)
  | between field type low high =>
    field.column ++ " between " ++ write (.value (type.value low)) ++ " and " ++ write (.value (type.value high))
  | among field list => field.column ++ " = ANY (" ++ write (.array list) ++ ")"
  | isNull field => field.column ++ " is null"
  | isNotNull field => field.column ++ " is not null"
  | all children => " and ".intercalate (literals write children)
  | any children => " or ".intercalate (literals write children)
  | not child => "not (" ++ child.literal write ++ ")"
  | native filter => filter.sql

/-- The terms of a chain, each in parentheses. -/
def literals (write : Param → String) : List Condition → List String
  | [] => []
  | child :: rest => ("(" ++ child.literal write ++ ")") :: literals write rest

end

mutual

/-- Collects the parameters with the placeholders they are bound to, counting along from `next` in a walk of its own,
and gives the number that follows the last one. -/
def collect (next : Nat) : Condition → List (Nat × Param) × Nat
  | compare _ _ value => ([(next, .value value)], next + 1)
  | like _ pattern => ([(next, .text pattern)], next + 1)
  | between _ type low high => ([(next, .value (type.value low)), (next + 1, .value (type.value high))], next + 2)
  | among _ list => ([(next, .array list)], next + 1)
  | isNull _ | isNotNull _ | native _ => ([], next)
  | all children | any children => collectAll next children
  | not child => child.collect next

def collectAll (next : Nat) : List Condition → List (Nat × Param) × Nat
  | [] => ([], next)
  | child :: rest =>
    let (first, after) := child.collect next
    let (others, last) := collectAll after rest
    (first ++ others, last)

end

mutual

/-- The walk that collects the parameters numbers them in their order. -/
theorem collect_eq : ∀ (condition : Condition) (next : Nat), condition.collect next =
    ((List.range' next condition.params.length).zip condition.params, next + condition.params.length)
  | .compare .., _ | .like .., _ | .between .., _ | .among .., _ | .isNull _, _ | .isNotNull _, _ | .native _, _ => rfl
  | .all children, next => collectAll_eq children next
  | .any children, next => collectAll_eq children next
  | .not child, next => collect_eq child next

theorem collectAll_eq : ∀ (children : List Condition) (next : Nat), collectAll next children =
    ((List.range' next (paramsAll children).length).zip (paramsAll children), next + (paramsAll children).length)
  | [], _ => rfl
  | child :: rest, next => by
    rw [collectAll, collect_eq child]
    dsimp only
    rw [collectAll_eq rest, paramsAll, List.length_append, ← List.range'_append_1, List.zip_append (by simp),
      Nat.add_assoc]

end

/-! The text of a condition shows its placeholders as they are. -/

mutual

theorem legible_expr : ∀ (condition : Condition) (next : Nat), condition.dollarFree →
    Fragment.Legible (condition.expr next).1.fragment
  | .compare field comparison _, next, _ => by
    show Fragment.Legible (Sql.name field.column ++ Sql.sql s!" {comparison.relation.text} " ++ Sql.slot next)
    rw [List.append_assoc]
    refine .afterName field.dollar_not_mem (.afterSql ?_ (.slot next))
    cases comparison <;> decide
  | .like field _, next, _ => by
    show Fragment.Legible (Sql.name field.column ++ Sql.sql " like " ++ Sql.slot next)
    rw [List.append_assoc]
    exact .afterName field.dollar_not_mem (.afterSql (by decide) (.slot next))
  | .between field _ _ _, next, _ => by
    show Fragment.Legible
      (Sql.name field.column ++ Sql.sql " between " ++ Sql.slot next ++ Sql.sql " and " ++ Sql.slot (next + 1))
    simp only [List.append_assoc]
    have high : Fragment.Legible (Sql.sql " and " ++ Sql.slot (next + 1)) := .afterSql (by decide) (.slot _)
    have low : Fragment.Legible (Sql.slot next ++ (Sql.sql " and " ++ Sql.slot (next + 1))) :=
      (Fragment.Legible.slot next).before (.inl rfl) high
    exact .afterName field.dollar_not_mem (.afterSql (by decide) low)
  | .among field _, next, _ => by
    show Fragment.Legible (Sql.name field.column ++ Sql.sql " = ANY (" ++ Sql.slot next ++ Sql.sql ")")
    simp only [List.append_assoc]
    have closed : Fragment.Legible (Sql.sql ")" ++ []) := .sql (by decide)
    have list : Fragment.Legible (Sql.slot next ++ (Sql.sql ")" ++ [])) :=
      (Fragment.Legible.slot next).before (.inr rfl) closed
    exact .afterName field.dollar_not_mem (.afterSql (by decide) list)
  | .isNull field, _, _ => .afterName field.dollar_not_mem (.sql (by decide))
  | .isNotNull field, _, _ => .afterName field.dollar_not_mem (.sql (by decide))
  | .all children, next, free => .join (by decide) rfl (legible_groups children next free)
  | .any children, next, free => .join (by decide) rfl (legible_groups children next free)
  | .not child, next, free => by
    show Fragment.Legible (Sql.sql "not " ++ (Sql.sql "(" ++ (child.expr next).1.fragment ++ Sql.sql ")"))
    rw [List.append_assoc]
    exact .afterSql (by decide) (legible_expr child next free).group
  | .native filter, _, free => .sql (NativeFilter.dollar_not_mem (of_decide_eq_true free))

theorem legible_groups : ∀ (children : List Condition) (next : Nat), dollarFreeAll children →
    ∀ fragment ∈ Sql.Expr.fragments (groups next children).1, Fragment.Legible fragment
  | [], _, _ => nofun
  | child :: rest, next, free => by
    rw [dollarFreeAll, Bool.and_eq_true] at free
    intro fragment member
    rcases List.mem_cons.mp member with rfl | later
    · exact (legible_expr child next free.1).group
    · exact legible_groups rest _ free.2 fragment later

end

/-! The placeholders are numbered from left to right. -/

mutual

theorem slots_expr : ∀ (condition : Condition) (next : Nat),
    Fragment.slots (condition.expr next).1.fragment = List.range' next condition.params.length
  | .compare field comparison _, next => by
    show Fragment.slots (Sql.name field.column ++ Sql.sql s!" {comparison.relation.text} " ++ Sql.slot next) = [next]
    simp
  | .like field _, next => by
    show Fragment.slots (Sql.name field.column ++ Sql.sql " like " ++ Sql.slot next) = [next]
    simp
  | .between field _ _ _, next => by
    show Fragment.slots (Sql.name field.column ++ Sql.sql " between " ++ Sql.slot next ++ Sql.sql " and " ++
      Sql.slot (next + 1)) = [next, next + 1]
    simp
  | .among field _, next => by
    show Fragment.slots (Sql.name field.column ++ Sql.sql " = ANY (" ++ Sql.slot next ++ Sql.sql ")") = [next]
    simp
  | .isNull field, _ => by
    show Fragment.slots (Sql.name field.column ++ Sql.sql " is null") = []
    simp
  | .isNotNull field, _ => by
    show Fragment.slots (Sql.name field.column ++ Sql.sql " is not null") = []
    simp
  | .all children, next => (Fragment.slots_join _ _).trans (slots_groups children next)
  | .any children, next => (Fragment.slots_join _ _).trans (slots_groups children next)
  | .not child, next => by
    show Fragment.slots (Sql.sql "not " ++ (Sql.sql "(" ++ (child.expr next).1.fragment ++ Sql.sql ")")) =
      List.range' next child.params.length
    simpa using slots_expr child next
  | .native filter, _ => Fragment.slots_sql filter.sql

theorem slots_groups : ∀ (children : List Condition) (next : Nat),
    (Sql.Expr.fragments (groups next children).1).flatMap Fragment.slots =
      List.range' next (paramsAll children).length
  | [], _ => rfl
  | child :: rest, next => by
    show Fragment.slots (Sql.sql "(" ++ (child.expr next).1.fragment ++ Sql.sql ")") ++
      (Sql.Expr.fragments (groups (child.expr next).2 rest).1).flatMap Fragment.slots = _
    rw [slots_groups rest, expr_next, paramsAll, List.length_append, ← List.range'_append_1, ← slots_expr child next]
    simp

end

/-! With the literals in the places of their placeholders. -/

section

variable (write : Param → String) (bound : Nat → Option Param)

/-- How the parameter of a placeholder is rendered. -/
def shown (index : Nat) : String := (bound index).elim "" write

variable {write bound}

theorem shown_eq {index : Nat} {param : Param} (given : bound index = some param) :
    shown write bound index = write param := by
  unfold shown
  rw [given]
  rfl

mutual

theorem fill_expr : ∀ (condition : Condition) (next : Nat), Binds bound next condition.params →
    Fragment.fill (shown write bound) (condition.expr next).1.fragment = (condition.literal write).toList
  | .compare field comparison value, next, binds => by
    have given : bound next = some (.value value) := binds 0 _ rfl
    show Fragment.fill _ (Sql.name field.column ++ Sql.sql s!" {comparison.relation.text} " ++ Sql.slot next) = _
    simp [literal, shown_eq given, toString]
  | .like field pattern, next, binds => by
    have given : bound next = some (.text pattern) := binds 0 _ rfl
    show Fragment.fill _ (Sql.name field.column ++ Sql.sql " like " ++ Sql.slot next) = _
    simp [literal, shown_eq given]
  | .between field type low high, next, binds => by
    have least : bound next = some (.value (type.value low)) := binds 0 _ rfl
    have most : bound (next + 1) = some (.value (type.value high)) := binds 1 _ rfl
    show Fragment.fill _ (Sql.name field.column ++ Sql.sql " between " ++ Sql.slot next ++ Sql.sql " and " ++
      Sql.slot (next + 1)) = _
    simp [literal, shown_eq least, shown_eq most]
  | .among field list, next, binds => by
    have given : bound next = some (.array list) := binds 0 _ rfl
    show Fragment.fill _ (Sql.name field.column ++ Sql.sql " = ANY (" ++ Sql.slot next ++ Sql.sql ")") = _
    simp [literal, shown_eq given]
  | .isNull field, _, _ => by
    show Fragment.fill _ (Sql.name field.column ++ Sql.sql " is null") = _
    simp [literal]
  | .isNotNull field, _, _ => by
    show Fragment.fill _ (Sql.name field.column ++ Sql.sql " is not null") = _
    simp [literal]
  | .all children, next, binds => by
    show Fragment.fill _ (Fragment.join " and " _) = _
    rw [Fragment.fill_join, fill_groups children next binds, literal, String.toList_intercalate]
  | .any children, next, binds => by
    show Fragment.fill _ (Fragment.join " or " _) = _
    rw [Fragment.fill_join, fill_groups children next binds, literal, String.toList_intercalate]
  | .not child, next, binds => by
    show Fragment.fill _ (Sql.sql "not " ++ (Sql.sql "(" ++ (child.expr next).1.fragment ++ Sql.sql ")")) = _
    simp [literal, fill_expr child next binds]
  | .native filter, _, _ => Fragment.fill_sql _ filter.sql

theorem fill_groups : ∀ (children : List Condition) (next : Nat), Binds bound next (paramsAll children) →
    (Sql.Expr.fragments (groups next children).1).map (Fragment.fill (shown write bound)) =
      (literals write children).map String.toList
  | [], _, _ => rfl
  | child :: rest, next, binds => by
    have later : Binds bound (child.expr next).2 (paramsAll rest) := by
      rw [expr_next]
      exact binds.right
    show Fragment.fill _ (Sql.sql "(" ++ (child.expr next).1.fragment ++ Sql.sql ")") ::
      (Sql.Expr.fragments (groups (child.expr next).2 rest).1).map (Fragment.fill (shown write bound)) = _
    rw [fill_groups rest _ later]
    simp [literals, fill_expr child next binds.left]

end

end

/-- The placeholders of a compiled condition, read from its text, are the numbers from the first one on, one for each
parameter; the walk over the text and the walk over the parameters end with the same number; and with each parameter in
the place of its placeholder the text is that of the condition with its literals written out. -/
theorem compile_binds_in_order (condition : Condition) (start : Nat) (write : Param → String)
    (free : condition.dollarFree) :
    Sql.placeholders (condition.compile start).expr.text =
      List.range' (firstPlaceholder start) (condition.compile start).params.length ∧
    (condition.compile start).next = firstPlaceholder start + (condition.compile start).params.length ∧
    condition.collect (firstPlaceholder start) =
      ((List.range' (firstPlaceholder start) (condition.compile start).params.length).zip
        (condition.compile start).params, (condition.compile start).next) ∧
    Sql.fillText (shown write (Sql.bindings (firstPlaceholder start) (condition.compile start).params))
      (condition.compile start).expr.text = condition.literal write := by
  have next := expr_next condition (firstPlaceholder start)
  have read := (legible_expr condition (firstPlaceholder start) free).marks
  refine ⟨?_, next, ?_, ?_⟩
  · unfold Sql.placeholders
    rw [show Sql.marks (condition.compile start).expr.text.toList = _ from read]
    exact slots_expr condition _
  · exact (collect_eq condition _).trans (congrArg (Prod.mk _) next.symm)
  · unfold Sql.fillText
    rw [show Sql.marks (condition.compile start).expr.text.toList = _ from read]
    exact (congrArg String.ofList (fill_expr condition _ (binds_bindings _ _))).trans String.ofList_toList

/-- Values as they are shown in messages, lists of them in brackets. -/
def spelled : Param → String
  | .value value => value.display
  | .array list => "[" ++ ", ".intercalate (list.values.map Value.display) ++ "]"
  | _ => ""

/-- Old rows of some weights, or rows outside of a list of grades that a piece of SQL picks. -/
def picked : Condition :=
  let age : FieldName := ⟨"age", by decide⟩
  let weight : FieldName := ⟨"weight", by decide⟩
  let grade : FieldName := ⟨"grade", by decide⟩
  ((compare age .gt (.int 9)).and (between weight .int 1 5)).or
    ((not (among grade ⟨.bigInt, [3, 4]⟩)).and (native ⟨"\x7b0\x7d is true", [age], "meta_age is true", by decide⟩))

theorem picked_binds_in_order : picked.dollarFree ∧
    Sql.placeholders (picked.compile 4).expr.text = [4, 5, 6, 7] ∧
    (picked.compile 4).next = 8 ∧
    (picked.collect 4).1.map (·.1) = [4, 5, 6, 7] ∧
    Sql.fillText (shown spelled (Sql.bindings 4 (picked.compile 4).params)) (picked.compile 4).expr.text =
      "((meta_age > 9) and (meta_weight between 1 and 5)) or " ++
        "((not (meta_grade = ANY ([3, 4]))) and (meta_age is true))" := by
  have free : picked.dollarFree := by decide
  obtain ⟨placeholders, next, collected, filled⟩ := compile_binds_in_order picked 4 spelled free
  refine ⟨free, placeholders, next, ?_, filled.trans (by decide +kernel)⟩
  rw [show picked.collect 4 = _ from collected]
  rfl

end Condition

end LeaseQueue
