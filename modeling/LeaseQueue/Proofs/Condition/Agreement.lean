import LeaseQueue.Condition.Compile
import LeaseQueue.Proofs.Condition.Built
import LeaseQueue.Proofs.Queue.Columns
import LeaseQueue.Proofs.Sql.Meaning
import LeaseQueue.Proofs.Sql.Reading

/-!
A condition has the same truth in memory and in the database. The database reads the text of the compiled condition,
with the parameters bound to the placeholders in order; unknown there is unknown here.
-/
namespace LeaseQueue.Condition

open Sql (Expr Param Formula Token Tokenizes Means)

/-! Columns are read as names. -/

theorem wordToken_name {c : Char} {more : List Char}
    (other : ∀ entry ∈ Sql.keywords, entry.1.toList.head? ≠ some c.toLower) :
    Sql.wordToken (c :: more) = .name (String.ofList (c :: more)) := by
  have absent : (Sql.keywords.find? fun entry => entry.1.toList = (c :: more).map Char.toLower) = none := by
    rw [List.find?_eq_none]
    intro entry member same
    exact other entry member (by rw [of_decide_eq_true same]; rfl)
  unfold Sql.wordToken
  rw [absent]

theorem tokenizes_column (field : FieldName) : Tokenizes field.column.toList [.name field.column] := by
  have letters : field.column.toList = 'm' :: ("eta_".toList ++ field.text.toList) := by
    unfold FieldName.column metaColumnPrefix
    rw [String.toList_append]
    rfl
  have token : Sql.wordToken field.column.toList = .name field.column := by
    rw [letters, wordToken_name (by decide), ← letters, String.ofList_toList]
  rw [← token, letters]
  refine .word rfl rfl ?_
  rw [List.all_append, field.symbols]
  rfl

/-! The placeholders of a condition are bound to its own parameters. -/

/-- The parameters are bound in order, from a placeholder on. -/
def Binds (bound : Nat → Option Param) (next : Nat) (params : List Param) : Prop :=
  ∀ index param, params[index]? = some param → bound (next + index) = some param

theorem Binds.left {bound : Nat → Option Param} {next : Nat} {params others : List Param}
    (binds : Binds bound next (params ++ others)) : Binds bound next params := by
  intro index param found
  obtain ⟨inside, _⟩ := List.getElem?_eq_some_iff.mp found
  exact binds index param ((List.getElem?_append_left inside).trans found)

theorem Binds.right {bound : Nat → Option Param} {next : Nat} {params others : List Param}
    (binds : Binds bound next (params ++ others)) : Binds bound (next + params.length) others := by
  intro index param found
  rw [Nat.add_assoc]
  refine binds _ param ?_
  rw [List.getElem?_append_right (Nat.le_add_right _ _), Nat.add_sub_cancel_left]
  exact found

theorem binds_bindings (first : Nat) (params : List Param) : Binds (Sql.bindings first params) first params := by
  intro index param found
  unfold Sql.bindings
  rw [if_pos (Nat.le_add_right _ _), Nat.add_sub_cancel_left]
  exact found

mutual

theorem expr_next : ∀ (condition : Condition) (next : Nat), (condition.expr next).2 = next + condition.params.length
  | .compare .., _ | .like .., _ | .between .., _ | .among .., _ | .isNull _, _ | .isNotNull _, _ | .native _, _ => rfl
  | .all children, next => groups_next children next
  | .any children, next => groups_next children next
  | .not child, next => expr_next child next

theorem groups_next : ∀ (children : List Condition) (next : Nat),
    (groups next children).2 = next + (paramsAll children).length
  | [], _ => rfl
  | child :: rest, next => by
    show (groups (child.expr next).2 rest).2 = next + (child.params ++ paramsAll rest).length
    rw [groups_next rest, expr_next child, List.length_append, Nat.add_assoc]

end

/-- The expression has a truth on a row wherever its parameters are bound. -/
def Agrees (row : Meta) (next : Nat) (expr : Expr) (params : List Param) (truth : Truth) : Prop :=
  ∃ formula, Means expr formula ∧ ∀ bound, Binds bound next params → formula.evaluate? row bound = some truth

/-! Comparisons. -/

section

variable {row : Meta} {field : FieldName}

/-- The column is null, or has a value of the type that is a number if it is floating. -/
theorem holds_cases {type : ValueType} (held : holds row field type) :
    row[field.column]? = none ∨ ∃ value, row[field.column]? = some value ∧ value.type = type ∧ value.isNaN = false := by
  unfold holds at held
  cases found : row[field.column]? with
  | none => exact .inl rfl
  | some value =>
    rw [found, Option.all_some, Bool.and_eq_true, decide_eq_true_eq, Bool.not_eq_true'] at held
    exact .inr ⟨value, rfl, held⟩

/-- Two values of one type are in one order in memory and in the database. -/
theorem ordered {x y : Value} (same : x.type = y.type) (first : x.isNaN = false) (second : y.isNaN = false) :
    ∃ ordering, x.compare? y = some ordering ∧ Sql.order? x y = some ordering := by
  obtain ⟨ordering, here⟩ := Value.compare?_isSome same first second
  exact ⟨ordering, here, (Sql.order?_eq first second).trans here⟩

theorem holds?_relation (comparison : Comparison) {x y : Value} {ordering : Ordering}
    (order : Sql.order? x y = some ordering) : comparison.relation.holds? x y = some (comparison.holds ordering) := by
  cases comparison <;> exact congrArg (Option.map _) order

theorem compare?_relation (comparison : Comparison) {x y : Value} {ordering : Ordering}
    (order : Sql.order? x y = some ordering) :
    comparison.relation.compare? (some x) (some y) = some (some (comparison.holds ordering)) :=
  congrArg (Option.map some) (holds?_relation comparison order)

theorem agrees_compare (comparison : Comparison) {value : Value} (held : holds row field value.type)
    (number : value.isNaN = false) (next : Nat) :
    Agrees row next (.compare (.column field.column) comparison.relation (.placeholder next)) [.value value]
      (row[field.column]?.bind fun actual => actual.comparedWith comparison value) := by
  refine ⟨_, .compare (tokenizes_column field) comparison.relation next, fun bound binds => ?_⟩
  have given : bound next = some (.value value) := binds 0 _ rfl
  simp only [Formula.evaluate?, Sql.Term.value?, given, Option.bind_eq_bind, Option.bind_some]
  rcases holds_cases held with missing | ⟨actual, found, same, finite⟩
  · rw [missing]
    rfl
  · obtain ⟨ordering, here, there⟩ := ordered same finite number
    rw [found, compare?_relation comparison there, Option.bind_some, Value.comparedWith, here]
    rfl

theorem agrees_like {pattern : String} (held : holds row field .text) (complete : patternComplete pattern.toList)
    (next : Nat) :
    Agrees row next (.compare (.column field.column) .like (.placeholder next)) [.text pattern]
      (row[field.column]?.bind fun actual => actual.likePattern pattern) := by
  refine ⟨_, .compare (tokenizes_column field) .like next, fun bound binds => ?_⟩
  have given : bound next = some (.value (.text pattern)) := binds 0 _ rfl
  simp only [Formula.evaluate?, Sql.Term.value?, given, Option.bind_eq_bind, Option.bind_some]
  rcases holds_cases held with missing | ⟨actual, found, same, _⟩
  · rw [missing]
    rfl
  · rw [found]
    cases actual with
    | text content =>
      simp only [Sql.Relation.compare?, Sql.Relation.holds?, complete, if_true, Option.bind_some, Value.likePattern,
        likeMatches_eq]
      rfl
    | smallInt | int | bigInt | boolean | real | double => cases same

theorem agrees_between {type : ValueType} {low high : type.Carrier} (held : holds row field type)
    (least : (type.value low).isNaN = false) (most : (type.value high).isNaN = false) (next : Nat) :
    Agrees row next (.between (.column field.column) (.placeholder next) (.placeholder (next + 1)))
      [.value (type.value low), .value (type.value high)]
      (row[field.column]?.bind fun actual => actual.within (type.value low) (type.value high)) := by
  refine ⟨_, .between (tokenizes_column field) next (next + 1), fun bound binds => ?_⟩
  have givenLow : bound next = some (.value (type.value low)) := binds 0 _ rfl
  have givenHigh : bound (next + 1) = some (.value (type.value high)) := binds 1 _ rfl
  simp only [Formula.evaluate?, Sql.Term.value?, givenLow, givenHigh, Option.bind_eq_bind, Option.bind_some]
  rcases holds_cases held with missing | ⟨actual, found, same, finite⟩
  · rw [missing]
    rfl
  · obtain ⟨fromLow, lowHere, lowThere⟩ := ordered (same.trans (Value.type_value type low).symm) finite least
    obtain ⟨toHigh, highHere, highThere⟩ := ordered (same.trans (Value.type_value type high).symm) finite most
    have above : Sql.Relation.ge.compare? (some actual) (some (type.value low)) = _ := compare?_relation .ge lowThere
    have below : Sql.Relation.le.compare? (some actual) (some (type.value high)) = _ := compare?_relation .le highThere
    rw [found, above, below]
    simp only [Option.bind_some, Value.within, lowHere, highHere]
    cases fromLow <;> cases toHigh <;> rfl

theorem contains_eq {list : ValueList} {value : Value} (same : value.type = list.type) :
    list.contains value = list.values.any fun item => item.equals value := by
  obtain ⟨type, items⟩ := list
  obtain ⟨datum, rfl⟩ : ∃ datum, value = type.value datum := by
    cases same
    exact ⟨value.datum, by cases value <;> rfl⟩
  unfold ValueList.contains ValueList.values
  rw [Value.as?_type, List.any_map]
  show items.any _ = items.any _
  congr 1
  funext item
  cases type <;> rfl

/-- Membership of null in a list is unknown, unless the list is empty. -/
theorem amongAll?_null {items : List Value} (filled : items ≠ []) : Sql.amongAll? none items = some none := by
  induction items with
  | nil => exact absurd rfl filled
  | cons item rest ih =>
    cases rest with
    | nil => rfl
    | cons next rest =>
      rw [Sql.amongAll?, ih (List.cons_ne_nil _ _)]
      rfl

theorem amongAll?_value {actual : Value} {items : List Value}
    (each : ∀ item ∈ items, Sql.Relation.eq.holds? actual item = some (item.equals actual)) :
    Sql.amongAll? (some actual) items = some (some (items.any fun item => item.equals actual)) := by
  induction items with
  | nil => rfl
  | cons item rest ih =>
    rw [Sql.amongAll?, ih fun other member => each other (List.mem_cons_of_mem _ member), Sql.Relation.compare?,
      each item List.mem_cons_self, List.any_cons]
    cases item.equals actual <;> cases rest.any fun item => item.equals actual <;> rfl

theorem agrees_among {list : ValueList} (held : holds row field list.type) (filled : list.items ≠ [])
    (numbers : ∀ item ∈ list.values, item.isNaN = false) (next : Nat) :
    Agrees row next (.among (.column field.column) next) [.array list]
      (row[field.column]?.map fun actual => list.contains actual) := by
  refine ⟨_, .among (tokenizes_column field) next, fun bound binds => ?_⟩
  have given : bound next = some (.array list) := binds 0 _ rfl
  simp only [Formula.evaluate?, Sql.Term.value?, given, Option.bind_eq_bind, Option.bind_some]
  rcases holds_cases held with missing | ⟨actual, found, same, finite⟩
  · rw [missing]
    exact amongAll?_null (by simpa [ValueList.values] using filled)
  · rw [found, Option.map_some, contains_eq same]
    refine amongAll?_value fun item member => ?_
    obtain ⟨datum, inside, rfl⟩ := List.mem_map.mp member
    obtain ⟨ordering, here, there⟩ :=
      ordered (same.trans (Value.type_value list.type datum).symm) finite (numbers _ member)
    rw [Value.equals_comm, Value.equals, here]
    exact (holds?_relation .eq there).trans rfl

end

/-! Chains. -/

theorem evaluateAll_cons {row : Meta} {child : Condition} {rest : List Condition} {truth others : Truth}
    (first : child.evaluate row = .ok truth) (later : evaluateAll row rest = .ok others) :
    evaluateAll row (child :: rest) = .ok (truth.and others) := by
  rw [evaluateAll, first]
  rcases truth with _ | _ | _
  · rw [later]
  · rfl
  · rw [later]

theorem evaluateAny_cons {row : Meta} {child : Condition} {rest : List Condition} {truth others : Truth}
    (first : child.evaluate row = .ok truth) (later : evaluateAny row rest = .ok others) :
    evaluateAny row (child :: rest) = .ok (truth.or others) := by
  rw [evaluateAny, first]
  rcases truth with _ | _ | _
  · rw [later]
  · rw [later]
  · rfl

theorem and_true (truth : Truth) : truth.and (some true) = truth := by
  rcases truth with _ | _ | _ <;> rfl

theorem or_false (truth : Truth) : truth.or (some false) = truth := by
  rcases truth with _ | _ | _ <;> rfl

section

variable {row : Meta} {next : Nat} {first : Expr} {rest : List Expr} {params others : List Param} {truth behind : Truth}

theorem Agrees.not (agrees : Agrees row next first params truth) :
    Agrees row next (.not (.group first)) params truth.not := by
  obtain ⟨formula, means, evaluates⟩ := agrees
  refine ⟨_, .not means, fun bound binds => ?_⟩
  rw [Formula.evaluate?, evaluates bound binds]
  rfl

theorem Agrees.allLast (agrees : Agrees row next first params truth) :
    Agrees row next (.all [.group first]) params truth := by
  obtain ⟨formula, means, evaluates⟩ := agrees
  exact ⟨_, .allLast means, evaluates⟩

theorem Agrees.allNext (agrees : Agrees row next first params truth)
    (later : Agrees row (next + params.length) (.all rest) others behind) :
    Agrees row next (.all (.group first :: rest)) (params ++ others) (truth.and behind) := by
  obtain ⟨formula, means, evaluates⟩ := agrees
  obtain ⟨chain, chained, evaluatesChain⟩ := later
  refine ⟨_, .allNext means chained, fun bound binds => ?_⟩
  rw [Formula.evaluate?, evaluates bound binds.left, evaluatesChain bound binds.right]
  rfl

theorem Agrees.anyLast (agrees : Agrees row next first params truth) :
    Agrees row next (.any [.group first]) params truth := by
  obtain ⟨formula, means, evaluates⟩ := agrees
  exact ⟨_, .anyLast means, evaluates⟩

theorem Agrees.anyNext (agrees : Agrees row next first params truth)
    (later : Agrees row (next + params.length) (.any rest) others behind) :
    Agrees row next (.any (.group first :: rest)) (params ++ others) (truth.or behind) := by
  obtain ⟨formula, means, evaluates⟩ := agrees
  obtain ⟨chain, chained, evaluatesChain⟩ := later
  refine ⟨_, .anyNext means chained, fun bound binds => ?_⟩
  rw [Formula.evaluate?, evaluates bound binds.left, evaluatesChain bound binds.right]
  rfl

end

mutual

/-- A plain condition has a truth on a row that it fits, and its expression has the same one. -/
theorem agrees (row : Meta) : ∀ (condition : Condition) (next : Nat), condition.plain → condition.fits row →
    ∃ truth, condition.evaluate row = .ok truth ∧ Agrees row next (condition.expr next).1 condition.params truth
  | .compare field comparison value, next, _, fit => by
    rw [fits, Bool.and_eq_true, Bool.not_eq_true'] at fit
    exact ⟨_, rfl, agrees_compare comparison fit.1 fit.2 next⟩
  | .like field pattern, next, _, fit => by
    rw [fits, Bool.and_eq_true] at fit
    exact ⟨_, rfl, agrees_like fit.1 fit.2 next⟩
  | .between field type low high, next, _, fit => by
    rw [fits, Bool.and_eq_true, Bool.and_eq_true, Bool.not_eq_true', Bool.not_eq_true'] at fit
    exact ⟨_, rfl, agrees_between fit.1.1 fit.1.2 fit.2 next⟩
  | .among field list, next, filled, fit => by
    rw [plain, Bool.not_eq_true', List.isEmpty_eq_false_iff] at filled
    rw [fits, Bool.and_eq_true, List.all_eq_true] at fit
    refine ⟨_, rfl, agrees_among fit.1 filled (fun item member => ?_) next⟩
    simpa using fit.2 item member
  | .isNull field, next, _, _ =>
    ⟨_, rfl, _, .isNull (tokenizes_column field), fun _ _ => rfl⟩
  | .isNotNull field, next, _, _ =>
    ⟨_, rfl, _, .isNotNull (tokenizes_column field), fun _ _ => rfl⟩
  | .all children, next, each, fit => by
    rw [plain, Bool.and_eq_true, Bool.not_eq_true', List.isEmpty_eq_false_iff] at each
    exact agreesAll row children next each.1 each.2 fit
  | .any children, next, each, fit => by
    rw [plain, Bool.and_eq_true, Bool.not_eq_true', List.isEmpty_eq_false_iff] at each
    exact agreesAny row children next each.1 each.2 fit
  | .not child, next, simple, fit => by
    obtain ⟨truth, evaluated, agreed⟩ := agrees row child next simple fit
    exact ⟨truth.not, by rw [evaluate, evaluated], agreed.not⟩
  | .native _, _, simple, _ => nomatch simple

theorem agreesAll (row : Meta) : ∀ (children : List Condition) (next : Nat), children ≠ [] → plainAll children →
    fitsAll row children → ∃ truth, evaluateAll row children = .ok truth ∧
      Agrees row next (.all (groups next children).1) (paramsAll children) truth
  | [], _, filled, _, _ => absurd rfl filled
  | child :: rest, next, _, each, fit => by
    rw [plainAll, Bool.and_eq_true] at each
    rw [fitsAll, Bool.and_eq_true] at fit
    obtain ⟨truth, evaluated, agreed⟩ := agrees row child next each.1 fit.1
    cases rest with
    | nil =>
      refine ⟨truth, ?_, ?_⟩
      · rw [evaluateAll_cons evaluated rfl, and_true]
      · rw [paramsAll, paramsAll, List.append_nil]
        exact agreed.allLast
    | cons second rest =>
      obtain ⟨behind, later, chained⟩ :=
        agreesAll row (second :: rest) (next + child.params.length) (List.cons_ne_nil _ _) each.2 fit.2
      refine ⟨truth.and behind, evaluateAll_cons evaluated later, ?_⟩
      -- The other terms are numbered from where the expression of the first one stopped.
      have continued : Agrees row (next + child.params.length) (.all (groups (child.expr next).2 (second :: rest)).1)
          (paramsAll (second :: rest)) behind := by
        rw [expr_next]
        exact chained
      exact agreed.allNext continued

theorem agreesAny (row : Meta) : ∀ (children : List Condition) (next : Nat), children ≠ [] → plainAll children →
    fitsAll row children → ∃ truth, evaluateAny row children = .ok truth ∧
      Agrees row next (.any (groups next children).1) (paramsAll children) truth
  | [], _, filled, _, _ => absurd rfl filled
  | child :: rest, next, _, each, fit => by
    rw [plainAll, Bool.and_eq_true] at each
    rw [fitsAll, Bool.and_eq_true] at fit
    obtain ⟨truth, evaluated, agreed⟩ := agrees row child next each.1 fit.1
    cases rest with
    | nil =>
      refine ⟨truth, ?_, ?_⟩
      · rw [evaluateAny_cons evaluated rfl, or_false]
      · rw [paramsAll, paramsAll, List.append_nil]
        exact agreed.anyLast
    | cons second rest =>
      obtain ⟨behind, later, chained⟩ :=
        agreesAny row (second :: rest) (next + child.params.length) (List.cons_ne_nil _ _) each.2 fit.2
      refine ⟨truth.or behind, evaluateAny_cons evaluated later, ?_⟩
      have continued : Agrees row (next + child.params.length) (.any (groups (child.expr next).2 (second :: rest)).1)
          (paramsAll (second :: rest)) behind := by
        rw [expr_next]
        exact chained
      exact agreed.anyNext continued

end

/-- The text of a compiled condition has a value in the database, which is the truth of the condition in memory; so a
row matches exactly if that is true. -/
theorem matchesRow_compiled {condition : Condition} (built : Built condition) {row : Meta} (fit : condition.fits row)
    (start : Nat) :
    ∃ truth, Sql.evaluateText? row (Sql.bindings (firstPlaceholder start) (condition.compile start).params)
        (condition.compile start).expr.text = some truth ∧
      condition.matchesRow row = .ok (truth == some true) := by
  obtain ⟨truth, evaluated, formula, means, evaluates⟩ :=
    agrees row condition (firstPlaceholder start) built.plain fit
  refine ⟨truth, ?_, ?_⟩
  · unfold Sql.evaluateText?
    rw [show Formula.ofText? (condition.compile start).expr.text = some formula from means.ofText?]
    exact evaluates _ (binds_bindings _ _)
  · unfold matchesRow
    rw [evaluated]
    rfl

/-- Labels with an underscore behind an `a`, or sizes of at least three that have no small rate. -/
def mixed : Condition :=
  let label : FieldName := ⟨"label", by decide⟩
  let size : FieldName := ⟨"size", by decide⟩
  let rate : FieldName := ⟨"rate", by decide⟩
  (like label "a%\\_%").or ((compare size .ge (.int 3)).and
    (not (among rate ⟨.double, [Binary.ofInt 1, Binary.ofInt 2]⟩)))

/-- A row without a rate. -/
def mixedRow : Meta := (∅ : Meta).insert "meta_label" (.text "b_a") |>.insert "meta_size" (.int 7)

/-- The truth of `mixed` on that row is unknown. -/
theorem mixed_compiled : mixed.Built ∧ mixed.fits mixedRow ∧
    ∃ truth, Sql.evaluateText? mixedRow (Sql.bindings (firstPlaceholder 4) (mixed.compile 4).params)
        (mixed.compile 4).expr.text = some truth ∧
      mixed.matchesRow mixedRow = .ok (truth == some true) := by
  have built : mixed.Built := .or (.like _ _) (.and (.compare _ _ _) (.not (.among _ _ (List.cons_ne_nil _ _))))
  have fit : mixed.fits mixedRow := by decide +kernel
  exact ⟨built, fit, matchesRow_compiled built fit 4⟩

end LeaseQueue.Condition
