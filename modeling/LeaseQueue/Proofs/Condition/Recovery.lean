import LeaseQueue.Proofs.Condition.Agreement
import LeaseQueue.Proofs.Condition.Exchange

/-!
Conditions recovered from what they are compiled to. The text is read as a formula, and the condition is built from the
formula by its constructors, each test with the parameters that are next. So no two conditions become the same
statement.
-/
namespace LeaseQueue

namespace FieldName

/-- The field that a column is named after. -/
def ofColumn? (column : String) : Option FieldName :=
  (ofString (String.ofList (column.toList.drop metaColumnPrefix.toList.length))).toOption

theorem ofString_text (field : FieldName) : ofString field.text = .ok field := by
  unfold ofString
  split
  · rfl
  · rename_i fault found
    cases field.accepted.symm.trans found

theorem ofColumn?_column (field : FieldName) : ofColumn? field.column = some field := by
  unfold ofColumn? column
  rw [String.toList_append, List.drop_left, String.ofList_toList, ofString_text]
  rfl

end FieldName

namespace Condition

open Sql (Expr Param Formula Relation Means)

/-- The test of a column by a relation to a value. -/
def ofRelation? (field : FieldName) : Relation → Value → Option Condition
  | .eq, value => some (compare field .eq value)
  | .ne, value => some (compare field .ne value)
  | .gt, value => some (compare field .gt value)
  | .ge, value => some (compare field .ge value)
  | .lt, value => some (compare field .lt value)
  | .le, value => some (compare field .le value)
  | .like, .text pattern => some (like field pattern)
  | .like, _ => none

/-- The condition that a formula was compiled from, given the parameters from its own on, and those that are left. -/
def ofFormula? : Formula → List Param → Option (Condition × List Param)
  | .compare (.column column) relation (.parameter _), .value value :: rest => do
    let field ← FieldName.ofColumn? column
    some (← ofRelation? field relation value, rest)
  | .between (.column column) (.parameter _) (.parameter _), .value low :: .value high :: rest => do
    let field ← FieldName.ofColumn? column
    some (between field low.type low.datum (← high.as? low.type), rest)
  | .among (.column column) _, .array list :: rest => do some (among (← FieldName.ofColumn? column) list, rest)
  | .isNull (.column column), given => do some (isNull (← FieldName.ofColumn? column), given)
  | .isNotNull (.column column), given => do some (isNotNull (← FieldName.ofColumn? column), given)
  | .not inner, given => do
    let (child, rest) ← ofFormula? inner given
    some (not child, rest)
  | .and left right, given => do
    let (first, rest) ← ofFormula? left given
    let (second, last) ← ofFormula? right rest
    some (first.and second, last)
  | .or left right, given => do
    let (first, rest) ← ofFormula? left given
    let (second, last) ← ofFormula? right rest
    some (first.or second, last)
  | _, _ => none

section

variable {column : String} {given : List Param}

theorem ofFormula?_compare (relation : Relation) (index : Nat) (value : Value) :
    ofFormula? (.compare (.column column) relation (.parameter index)) (.value value :: given) =
      (FieldName.ofColumn? column).bind fun field =>
        (ofRelation? field relation value).bind fun condition => some (condition, given) := rfl

theorem ofFormula?_between (first second : Nat) (low high : Value) :
    ofFormula? (.between (.column column) (.parameter first) (.parameter second)) (.value low :: .value high :: given) =
      (FieldName.ofColumn? column).bind fun field =>
        (high.as? low.type).bind fun datum => some (between field low.type low.datum datum, given) := rfl

theorem ofFormula?_among (index : Nat) (list : ValueList) :
    ofFormula? (.among (.column column) index) (.array list :: given) =
      (FieldName.ofColumn? column).bind fun field => some (among field list, given) := rfl

theorem ofFormula?_isNull : ofFormula? (.isNull (.column column)) given =
    (FieldName.ofColumn? column).bind fun field => some (isNull field, given) := rfl

theorem ofFormula?_isNotNull : ofFormula? (.isNotNull (.column column)) given =
    (FieldName.ofColumn? column).bind fun field => some (isNotNull field, given) := rfl

theorem ofFormula?_not (inner : Formula) : ofFormula? (.not inner) given =
    (ofFormula? inner given).bind fun child => some (not child.1, child.2) := rfl

theorem ofFormula?_and (left right : Formula) : ofFormula? (.and left right) given =
    (ofFormula? left given).bind fun first =>
      (ofFormula? right first.2).bind fun second => some (join false first.1 second.1, second.2) := rfl

theorem ofFormula?_or (left right : Formula) : ofFormula? (.or left right) given =
    (ofFormula? left given).bind fun first =>
      (ofFormula? right first.2).bind fun second => some (join true first.1 second.1, second.2) := rfl

end

/-- The condition that was compiled to a text and parameters. -/
def ofCompiled? (text : String) (params : List Param) : Option Condition := do
  match ← ofFormula? (← Formula.ofText? text) params with
  | (condition, []) => some condition
  | _ => none

/-- The condition is built again from what its expression means, with its own parameters and whatever follows them. -/
def Recovered (expr : Expr) (params : List Param) (condition : Condition) : Prop :=
  ∃ formula, Means expr formula ∧ ∀ rest, ofFormula? formula (params ++ rest) = some (condition, rest)

/-! Tests. -/

theorem recovered_compare (field : FieldName) (comparison : Comparison) (value : Value) (next : Nat) :
    Recovered ((compare field comparison value).expr next).1 [.value value] (compare field comparison value) := by
  refine ⟨_, .compare (tokenizes_column field) comparison.relation next, fun rest => ?_⟩
  have test : ofRelation? field comparison.relation value = some (compare field comparison value) := by
    cases comparison <;> cases value <;> rfl
  rw [List.singleton_append, ofFormula?_compare, FieldName.ofColumn?_column, Option.bind_some, test, Option.bind_some]

theorem recovered_like (field : FieldName) (pattern : String) (next : Nat) :
    Recovered ((like field pattern).expr next).1 [.text pattern] (like field pattern) := by
  refine ⟨_, .compare (tokenizes_column field) .like next, fun rest => ?_⟩
  rw [List.singleton_append, Param.text, ofFormula?_compare, FieldName.ofColumn?_column]
  rfl

theorem recovered_between (field : FieldName) (type : ValueType) (low high : type.Carrier) (next : Nat) :
    Recovered ((between field type low high).expr next).1 [.value (type.value low), .value (type.value high)]
      (between field type low high) := by
  refine ⟨_, .between (tokenizes_column field) next (next + 1), fun rest => ?_⟩
  rw [List.cons_append, List.singleton_append, ofFormula?_between, FieldName.ofColumn?_column, Option.bind_some]
  cases type <;> rfl

theorem recovered_among (field : FieldName) (list : ValueList) (next : Nat) :
    Recovered ((among field list).expr next).1 [.array list] (among field list) := by
  refine ⟨_, .among (tokenizes_column field) next, fun rest => ?_⟩
  rw [List.singleton_append, ofFormula?_among, FieldName.ofColumn?_column, Option.bind_some]

theorem recovered_isNull (field : FieldName) (next : Nat) :
    Recovered ((isNull field).expr next).1 [] (isNull field) := by
  refine ⟨_, .isNull (tokenizes_column field), fun rest => ?_⟩
  rw [List.nil_append, ofFormula?_isNull, FieldName.ofColumn?_column, Option.bind_some]

theorem recovered_isNotNull (field : FieldName) (next : Nat) :
    Recovered ((isNotNull field).expr next).1 [] (isNotNull field) := by
  refine ⟨_, .isNotNull (tokenizes_column field), fun rest => ?_⟩
  rw [List.nil_append, ofFormula?_isNotNull, FieldName.ofColumn?_column, Option.bind_some]

/-! Chains. -/

/-- The expression of a chain with given terms. -/
def chainExpr : Bool → List Expr → Expr
  | false => .all
  | true => .any

theorem expr_chain (settling : Bool) (children : List Condition) (next : Nat) :
    ((chain settling children).expr next).1 = chainExpr settling (groups next children).1 := by
  cases settling <;> rfl

theorem params_chain (settling : Bool) (children : List Condition) :
    (chain settling children).params = paramsAll children := by
  cases settling <;> rfl

section

variable {settling : Bool} {first : Expr} {rest : List Expr} {params others : List Param} {condition later : Condition}

theorem Recovered.not (recovered : Recovered first params condition) :
    Recovered (.not (.group first)) params (not condition) := by
  obtain ⟨formula, means, built⟩ := recovered
  refine ⟨_, .not means, fun rest => ?_⟩
  rw [ofFormula?_not, built, Option.bind_some]

theorem Recovered.last (recovered : Recovered first params condition) :
    Recovered (chainExpr settling [.group first]) params condition := by
  obtain ⟨formula, means, built⟩ := recovered
  cases settling with
  | false => exact ⟨formula, .allLast means, built⟩
  | true => exact ⟨formula, .anyLast means, built⟩

theorem Recovered.next (recovered : Recovered first params condition)
    (behind : Recovered (chainExpr settling rest) others later) :
    Recovered (chainExpr settling (.group first :: rest)) (params ++ others) (join settling condition later) := by
  obtain ⟨formula, means, built⟩ := recovered
  obtain ⟨chained, meansChain, builtChain⟩ := behind
  cases settling with
  | false =>
    refine ⟨_, .allNext means meansChain, fun rest => ?_⟩
    rw [ofFormula?_and, List.append_assoc, built, Option.bind_some, builtChain, Option.bind_some]
  | true =>
    refine ⟨_, .anyNext means meansChain, fun rest => ?_⟩
    rw [ofFormula?_or, List.append_assoc, built, Option.bind_some, builtChain, Option.bind_some]

end

theorem terms_of_apart {settling : Bool} {condition : Condition} (apart : ∀ others, chain settling others ≠ condition) :
    condition.terms settling = [condition] := by
  rcases terms_cases settling condition with whole | ⟨alone, _⟩
  · exact absurd whole.symm (apart _)
  · exact alone

/-- Terms of which none is a chain of the kind itself are joined to a condition with these terms. -/
theorem recovered_terms {settling : Bool} {children : List Condition} (filled : children ≠ [])
    (apart : ∀ others, chain settling others ∉ children)
    (each : ∀ child ∈ children, ∀ next, Recovered (child.expr next).1 child.params child) (next : Nat) :
    ∃ result, result.terms settling = children ∧
      Recovered (chainExpr settling (groups next children).1) (paramsAll children) result := by
  induction children generalizing next with
  | nil => exact absurd rfl filled
  | cons child rest ih =>
    have alone : child.terms settling = [child] :=
      terms_of_apart fun others same => apart others (same ▸ List.mem_cons_self)
    have first := each child List.mem_cons_self next
    cases rest with
    | nil =>
      refine ⟨child, alone, ?_⟩
      rw [paramsAll, paramsAll, List.append_nil]
      exact first.last
    | cons second rest =>
      obtain ⟨result, same, recovered⟩ := ih (List.cons_ne_nil _ _)
        (fun others member => apart others (List.mem_cons_of_mem _ member))
        (fun child member => each child (List.mem_cons_of_mem _ member)) (child.expr next).2
      refine ⟨join settling child result, ?_, first.next recovered⟩
      rw [join, terms_chain, alone, same]
      rfl

theorem Flat.of_chain {settling : Bool} {children : List Condition} {child : Condition}
    (flat : (chain settling children).Flat) (member : child ∈ children) : child.Flat :=
  fun kind others inside => flat kind others (occurs_chain.mpr (.inr ⟨child, member, inside⟩))

/-- Flat conditions without SQL text are recovered, whatever number their placeholders start with. -/
theorem Flat.recovered {condition : Condition} (flat : condition.Flat) (free : condition.TextFree) (next : Nat) :
    Recovered (condition.expr next).1 condition.params condition := by
  induction condition using Condition.induct generalizing next with
  | compare field comparison value => exact recovered_compare field comparison value next
  | like field pattern => exact recovered_like field pattern next
  | between field type low high => exact recovered_between field type low high next
  | among field list => exact recovered_among field list next
  | isNull field => exact recovered_isNull field next
  | isNotNull field => exact recovered_isNotNull field next
  | chain settling children ih =>
    obtain ⟨long, apart⟩ := flat settling children .here
    have filled : children ≠ [] := List.ne_nil_of_length_pos (Nat.zero_lt_of_lt long)
    obtain ⟨result, terms, recovered⟩ := recovered_terms filled apart
      (fun child member => ih child member (flat.of_chain member) (free.of_chain member)) next
    have whole : result = chain settling children := by
      rcases terms_cases settling result with whole | ⟨alone, _⟩
      · rw [whole, terms]
      · rw [← terms, alone, List.length_singleton] at long
        omega
    rw [expr_chain, params_chain, ← whole]
    exact recovered
  | not child ih => exact (ih (fun kind others inside => flat kind others (.not inside)) free next).not
  | native filter => exact absurd (List.mem_singleton.mpr rfl) (free filter)

theorem Recovered.ofCompiled? {expr : Expr} {params : List Param} {condition : Condition}
    (recovered : Recovered expr params condition) : Condition.ofCompiled? expr.text params = some condition := by
  obtain ⟨formula, means, built⟩ := recovered
  have all := built []
  rw [List.append_nil] at all
  simp [Condition.ofCompiled?, means.ofText?, all]

/-- A condition that the constructors make, without SQL text, is recovered from its text and its parameters; so two of
them that are compiled to the same are the same tree. -/
theorem compile_uniquely_readable (start : Nat) :
    (∀ condition : Condition, condition.Constructed → condition.TextFree →
      ofCompiled? (condition.compile start).expr.text (condition.compile start).params = some condition) ∧
    ∀ first second : Condition, first.Constructed → second.Constructed → first.TextFree → second.TextFree →
      (first.compile start).expr.text = (second.compile start).expr.text →
      (first.compile start).params = (second.compile start).params → first = second := by
  have recovers (condition : Condition) (constructed : condition.Constructed) (free : condition.TextFree) :
      ofCompiled? (condition.compile start).expr.text (condition.compile start).params = some condition :=
    (constructed.flat.recovered free (firstPlaceholder start)).ofCompiled?
  refine ⟨recovers, fun first second built built' free free' sameText sameParams => ?_⟩
  have read := recovers first built free
  rw [sameText, sameParams, recovers second built' free'] at read
  exact (Option.some.inj read).symm

/-- Depths from three on, or a shape that is there, or no price of a list; joined from the left. -/
def listed : Condition :=
  ((compare ⟨"depth", by decide⟩ .ge (.int 3)).or (not (isNull ⟨"shape", by decide⟩))).or
    (not ((among ⟨"price", by decide⟩ ⟨.double, [Binary.ofInt 1]⟩).and (isNotNull ⟨"price", by decide⟩)))

/-- The same, joined from the right. -/
def relisted : Condition :=
  (compare ⟨"depth", by decide⟩ .ge (.int 3)).or ((not (isNull ⟨"shape", by decide⟩)).or
    (not ((among ⟨"price", by decide⟩ ⟨.double, [Binary.ofInt 1]⟩).and (isNotNull ⟨"price", by decide⟩))))

theorem listed_uniquely_readable : listed.Constructed ∧ relisted.Constructed ∧ listed.TextFree ∧ relisted.TextFree ∧
    (listed.compile 4).expr.text = "(meta_depth >= $4) or (not (meta_shape is null)) or " ++
      "(not ((meta_price = ANY ($5)) and (meta_price is not null)))" ∧
    ofCompiled? (listed.compile 4).expr.text (listed.compile 4).params = some listed ∧ listed = relisted := by
  have built : listed.Constructed :=
    .or (.or (.compare _ _ _) (.not (.isNull _))) (.not (.and (.among _ _) (.isNotNull _)))
  have rebuilt : relisted.Constructed :=
    .or (.compare _ _ _) (.or (.not (.isNull _)) (.not (.and (.among _ _) (.isNotNull _))))
  have free : listed.TextFree := by
    intro filter inside
    simp [listed, Condition.and, Condition.or, conjuncts, disjuncts, leaves, leavesAll] at inside
  have refree : relisted.TextFree := by
    intro filter inside
    simp [relisted, Condition.and, Condition.or, conjuncts, disjuncts, leaves, leavesAll] at inside
  obtain ⟨recovers, same⟩ := compile_uniquely_readable 4
  exact ⟨built, rebuilt, free, refree, by decide +kernel, recovers listed built free,
    same listed relisted built rebuilt free refree rfl rfl⟩

end Condition

end LeaseQueue
