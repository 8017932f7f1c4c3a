import LeaseQueue.Condition.Evaluate

/-!
Chains of conditions. Joining keeps the tree flat and the terms in order, so the tree does not tell how the joins were
grouped. What a chain comes to on a row, an error included, is what its terms come to one after the other.
-/
namespace LeaseQueue

namespace Truth

/-- What truths come to together, where one of them settles the matter: that one if it is among them, or else unknown
if that is, or else the other one. -/
def settle (settling : Bool) (truths : List Truth) : Truth :=
  if some settling ∈ truths then some settling else if none ∈ truths then none else some !settling

section

variable (settling : Bool) {truths others : List Truth}

/-- Neither the order nor the number of the truths matters. -/
theorem settle_congr (same : ∀ truth, truth ∈ truths ↔ truth ∈ others) :
    settle settling truths = settle settling others := by
  simp only [settle, same]

theorem settle_eq_settling : settle settling truths = some settling ↔ some settling ∈ truths := by
  constructor
  · intro settled
    unfold settle at settled
    split at settled
    · assumption
    · split at settled
      · cases settled
      · cases settling <;> cases settled
  · exact fun member => if_pos member

/-- Truths can be taken together one at a time. -/
theorem settle_cons (truth : Truth) (truths : List Truth) :
    settle settling [truth, settle settling truths] = settle settling (truth :: truths) := by
  unfold settle
  by_cases settled : some settling ∈ truths <;> by_cases unknown : none ∈ truths <;> cases settling <;>
    rcases truth with _ | _ | _ <;> simp [settled, unknown]

end

end Truth

namespace Condition

/-- A conjunction or a disjunction, by the truth that settles it. -/
def chain : Bool → List Condition → Condition
  | false => all
  | true => any

/-- The terms of a condition in such a chain; any other condition is its only term. -/
def terms : Bool → Condition → List Condition
  | false => conjuncts
  | true => disjuncts

def join (settling : Bool) (first second : Condition) : Condition :=
  chain settling (first.terms settling ++ second.terms settling)

/-- Induction over the tree, with the terms of a chain taken together. -/
@[elab_as_elim]
theorem induct {motive : Condition → Prop}
    (compare : ∀ field comparison value, motive (.compare field comparison value))
    (like : ∀ field pattern, motive (.like field pattern))
    (between : ∀ field type low high, motive (.between field type low high))
    (among : ∀ field list, motive (.among field list))
    (isNull : ∀ field, motive (.isNull field))
    (isNotNull : ∀ field, motive (.isNotNull field))
    (chain : ∀ settling children, (∀ child ∈ children, motive child) → motive (chain settling children))
    (not : ∀ child, motive child → motive (.not child))
    (native : ∀ filter, motive (.native filter)) (condition : Condition) : motive condition := by
  refine @Condition.rec motive (fun children => ∀ child ∈ children, motive child) compare like between among isNull
    isNotNull (chain false) (chain true) not native nofun (fun first rest early later child member => ?_) condition
  rcases List.mem_cons.mp member with rfl | behind
  · exact early
  · exact later child behind

/-- The conditions that the constructors make. -/
inductive Constructed : Condition → Prop
  | compare (field : FieldName) (comparison : Comparison) (value : Value) :
      Constructed (.compare field comparison value)
  | like (field : FieldName) (pattern : String) : Constructed (.like field pattern)
  | between (field : FieldName) (type : ValueType) (low high : type.Carrier) :
      Constructed (.between field type low high)
  | among (field : FieldName) (list : ValueList) : Constructed (.among field list)
  | isNull (field : FieldName) : Constructed (.isNull field)
  | isNotNull (field : FieldName) : Constructed (.isNotNull field)
  | native (filter : NativeFilter) : Constructed (.native filter)
  | and {first second : Condition} (left : Constructed first) (right : Constructed second) :
      Constructed (first.and second)
  | or {first second : Condition} (left : Constructed first) (right : Constructed second) :
      Constructed (first.or second)
  | not {child : Condition} (inner : Constructed child) : Constructed (.not child)

/-- A condition stands somewhere in the tree of another, or is that one. -/
inductive Occurs (node : Condition) : Condition → Prop
  | here : Occurs node node
  | all {child : Condition} {children : List Condition} (member : child ∈ children) (inside : Occurs node child) :
      Occurs node (.all children)
  | any {child : Condition} {children : List Condition} (member : child ∈ children) (inside : Occurs node child) :
      Occurs node (.any children)
  | not {child : Condition} (inside : Occurs node child) : Occurs node (.not child)

/-- Every chain of the tree has two terms at least, and none of its own kind among them. -/
def Flat (condition : Condition) : Prop :=
  ∀ settling children, Occurs (chain settling children) condition →
    2 ≤ children.length ∧ ∀ others, chain settling others ∉ children

section

variable {settling : Bool} {condition term first second node : Condition} {children : List Condition}

/-! The tree. -/

theorem chain_inj {other : Bool} {others : List Condition} (same : chain settling children = chain other others) :
    settling = other ∧ children = others := by
  cases settling <;> cases other <;> cases same <;> exact ⟨rfl, rfl⟩

/-- A condition is a chain itself, or the only term of one. -/
theorem terms_cases (settling : Bool) (condition : Condition) :
    condition = chain settling (condition.terms settling) ∨
      condition.terms settling = [condition] ∧ ∀ others, condition ≠ chain settling others := by
  cases settling with
  | false =>
    cases condition with
    | all children => exact .inl rfl
    | compare | like | between | among | isNull | isNotNull | any | not | native => exact .inr ⟨rfl, nofun⟩
  | true =>
    cases condition with
    | any children => exact .inl rfl
    | compare | like | between | among | isNull | isNotNull | all | not | native => exact .inr ⟨rfl, nofun⟩

theorem occurs_chain :
    Occurs node (chain settling children) ↔ node = chain settling children ∨ ∃ child ∈ children, Occurs node child := by
  constructor
  · intro inside
    cases settling with
    | false =>
      cases inside with
      | here => exact .inl rfl
      | all member inside => exact .inr ⟨_, member, inside⟩
    | true =>
      cases inside with
      | here => exact .inl rfl
      | any member inside => exact .inr ⟨_, member, inside⟩
  · rintro (rfl | ⟨child, member, inside⟩)
    · exact .here
    · cases settling
      · exact .all member inside
      · exact .any member inside

/-- What stands in a term of a condition stands in the condition. -/
theorem occurs_of_mem_terms (member : term ∈ condition.terms settling) (inside : Occurs node term) :
    Occurs node condition := by
  rcases terms_cases settling condition with whole | ⟨alone, _⟩
  · rw [whole]
    exact occurs_chain.mpr (.inr ⟨term, member, inside⟩)
  · rw [alone] at member
    exact List.mem_singleton.mp member ▸ inside

theorem Flat.terms (flat : condition.Flat) (settling : Bool) :
    condition.terms settling ≠ [] ∧ ∀ others, chain settling others ∉ condition.terms settling := by
  rcases terms_cases settling condition with whole | ⟨alone, apart⟩
  · obtain ⟨long, apart⟩ := flat settling (condition.terms settling) (by rw [← whole]; exact .here)
    exact ⟨List.ne_nil_of_length_pos (Nat.zero_lt_of_lt long), apart⟩
  · rw [alone]
    exact ⟨List.cons_ne_nil _ _, fun others member => apart others (List.mem_singleton.mp member).symm⟩

theorem Flat.join (settling : Bool) (left : first.Flat) (right : second.Flat) : (join settling first second).Flat := by
  intro kind children inside
  rcases occurs_chain.mp inside with same | ⟨term, member, inside⟩
  · obtain ⟨rfl, rfl⟩ := chain_inj same
    obtain ⟨someFirst, apartFirst⟩ := left.terms kind
    obtain ⟨someSecond, apartSecond⟩ := right.terms kind
    have longFirst := List.length_pos_iff.mpr someFirst
    have longSecond := List.length_pos_iff.mpr someSecond
    refine ⟨?_, fun others member => ?_⟩
    · rw [List.length_append]
      omega
    · exact (List.mem_append.mp member).elim (apartFirst others) (apartSecond others)
  · rcases List.mem_append.mp member with early | late
    · exact left kind children (occurs_of_mem_terms early inside)
    · exact right kind children (occurs_of_mem_terms late inside)

theorem Constructed.flat (constructed : condition.Constructed) : condition.Flat := by
  induction constructed with
  | and _ _ left right => exact .join false left right
  | or _ _ left right => exact .join true left right
  | not _ inner =>
    intro settling children inside
    cases settling <;> cases inside with
    | not inside => exact inner _ children inside
  | compare | like | between | among | isNull | isNotNull | native =>
    intro settling children inside
    cases settling <;> cases inside

theorem terms_chain (settling : Bool) (children : List Condition) :
    (chain settling children).terms settling = children := by
  cases settling <;> rfl

theorem join_assoc (settling : Bool) (first second third : Condition) :
    join settling (join settling first second) third = join settling first (join settling second third) := by
  simp only [join, terms_chain, List.append_assoc]

/-! The leaves. -/

mutual

/-- The tests of a condition, from the left. -/
def leaves : Condition → List Condition
  | all children | any children => leavesAll children
  | not child => child.leaves
  | condition => [condition]

def leavesAll : List Condition → List Condition
  | [] => []
  | child :: rest => child.leaves ++ leavesAll rest

end

theorem leaves_chain (settling : Bool) (children : List Condition) :
    (chain settling children).leaves = children.flatMap leaves := by
  have each : leavesAll children = children.flatMap leaves := by
    induction children with
    | nil => rfl
    | cons child rest ih => rw [leavesAll, ih, List.flatMap_cons]
  cases settling <;> exact each

theorem leaves_terms (settling : Bool) (condition : Condition) :
    (condition.terms settling).flatMap leaves = condition.leaves := by
  rcases terms_cases settling condition with whole | ⟨alone, _⟩
  · rw [← leaves_chain settling, ← whole]
  · rw [alone, List.flatMap_singleton]

theorem leaves_join (settling : Bool) (first second : Condition) :
    (join settling first second).leaves = first.leaves ++ second.leaves := by
  rw [join, leaves_chain, List.flatMap_append, leaves_terms, leaves_terms]

end

/-! The meaning. -/

/-- What two answers come to, one after the other, where one truth settles the matter. The second one counts only if
the first leaves the matter open. -/
def inTurn (settling : Bool) (first second : Except Error Truth) : Except Error Truth :=
  match first with
  | .error error => .error error
  | .ok truth =>
    if truth = some settling then .ok truth
    else
      match second with
      | .error error => .error error
      | .ok later => .ok (Truth.settle settling [truth, later])

section

variable (settling : Bool) (first second third : Except Error Truth)

theorem inTurn_ok (truth later : Truth) :
    inTurn settling (.ok truth) (.ok later) = .ok (Truth.settle settling [truth, later]) := by
  by_cases settled : truth = some settling
  · rw [inTurn, if_pos settled, (Truth.settle_eq_settling settling).mpr (settled ▸ List.mem_cons_self), settled]
  · rw [inTurn, if_neg settled]

theorem inTurn_assoc :
    inTurn settling (inTurn settling first second) third = inTurn settling first (inTurn settling second third) := by
  rcases first with error | truth
  · rfl
  by_cases settled : truth = some settling
  · simp only [inTurn, settled, if_true]
  rcases second with error | later
  · simp only [inTurn, settled, if_false]
  rw [inTurn_ok]
  rcases third with error | last
  · -- The last answer is not asked for if one of the others settles the matter.
    have settles : Truth.settle settling [truth, later] = some settling ↔ later = some settling := by
      rw [Truth.settle_eq_settling, List.mem_cons, List.mem_singleton, eq_comm, or_iff_right settled, eq_comm]
    by_cases settledLater : later = some settling
    · rw [inTurn, if_pos (settles.mpr settledLater), inTurn, if_pos settledLater, inTurn_ok]
    · simp only [inTurn, settled, settledLater, settles, if_false]
  · rw [inTurn_ok, inTurn_ok, inTurn_ok]
    congr 1
    calc Truth.settle settling [Truth.settle settling [truth, later], last]
      _ = Truth.settle settling [last, Truth.settle settling [truth, later]] :=
        Truth.settle_congr settling fun _ => (List.Perm.swap ..).mem_iff
      _ = Truth.settle settling [last, truth, later] := Truth.settle_cons settling last [truth, later]
      _ = Truth.settle settling [truth, later, last] :=
        Truth.settle_congr settling fun _ => (List.perm_append_singleton last [truth, later]).symm.mem_iff
      _ = Truth.settle settling [truth, Truth.settle settling [later, last]] :=
        (Truth.settle_cons settling truth [later, last]).symm

/-- The truth that settles nothing changes nothing. -/
theorem inTurn_first : inTurn settling (.ok (some !settling)) first = first := by
  rcases first with error | truth
  · cases settling <;> rfl
  · cases settling <;> rcases truth with _ | _ | _ <;> rfl

theorem inTurn_second : inTurn settling first (.ok (some !settling)) = first := by
  rcases first with error | truth
  · rfl
  · cases settling <;> rcases truth with _ | _ | _ <;> rfl

end

section

variable {row : Meta} (settling : Bool)

theorem evaluate_chain_nil : (chain settling []).evaluate row = .ok (some !settling) := by
  cases settling <;> rfl

theorem evaluate_chain_cons (child : Condition) (rest : List Condition) :
    (chain settling (child :: rest)).evaluate row =
      inTurn settling (child.evaluate row) ((chain settling rest).evaluate row) := by
  cases settling with
  | false =>
    simp only [chain, evaluate, evaluateAll]
    rcases child.evaluate row with error | _ | _ | _
    · rfl
    · rcases evaluateAll row rest with error | _ | _ | _ <;> rfl
    · rfl
    · rcases evaluateAll row rest with error | _ | _ | _ <;> rfl
  | true =>
    simp only [chain, evaluate, evaluateAny]
    rcases child.evaluate row with error | _ | _ | _
    · rfl
    · rcases evaluateAny row rest with error | _ | _ | _ <;> rfl
    · rcases evaluateAny row rest with error | _ | _ | _ <;> rfl
    · rfl

theorem evaluate_chain_append (early late : List Condition) :
    (chain settling (early ++ late)).evaluate row =
      inTurn settling ((chain settling early).evaluate row) ((chain settling late).evaluate row) := by
  induction early with
  | nil => rw [List.nil_append, evaluate_chain_nil, inTurn_first]
  | cons child rest ih => rw [List.cons_append, evaluate_chain_cons, ih, ← inTurn_assoc, ← evaluate_chain_cons]

theorem evaluate_chain_terms (condition : Condition) :
    (chain settling (condition.terms settling)).evaluate row = condition.evaluate row := by
  rcases terms_cases settling condition with whole | ⟨alone, _⟩
  · rw [← whole]
  · rw [alone, evaluate_chain_cons, evaluate_chain_nil, inTurn_second]

theorem evaluate_join (first second : Condition) :
    (join settling first second).evaluate row = inTurn settling (first.evaluate row) (second.evaluate row) := by
  rw [join, evaluate_chain_append, evaluate_chain_terms, evaluate_chain_terms]

end

/-- Chains are flat whichever way they are joined, and neither the grouping nor the flattening can be told from the
leaves or from the answers. -/
theorem chains_join_flat :
    (∀ condition : Condition, condition.Constructed → condition.Flat) ∧
    (∀ first second third : Condition,
      (first.and second).and third = first.and (second.and third) ∧
      (first.or second).or third = first.or (second.or third)) ∧
    (∀ first second : Condition,
      (first.and second).leaves = first.leaves ++ second.leaves ∧
      (first.or second).leaves = first.leaves ++ second.leaves) ∧
    ∀ (first second : Condition) (row : Meta),
      (first.and second).evaluate row = inTurn false (first.evaluate row) (second.evaluate row) ∧
      (first.or second).evaluate row = inTurn true (first.evaluate row) (second.evaluate row) := by
  refine ⟨fun condition constructed => constructed.flat, fun first second third => ?_, fun first second => ?_,
    fun first second row => ?_⟩
  · exact ⟨join_assoc false first second third, join_assoc true first second third⟩
  · exact ⟨leaves_join false first second, leaves_join true first second⟩
  · exact ⟨evaluate_join false first second, evaluate_join true first second⟩

/-- Two conjunctions joined, the second with a disjunction and SQL text in it. -/
def nested : Condition :=
  let tag : FieldName := ⟨"tag", by decide⟩
  let mass : FieldName := ⟨"mass", by decide⟩
  let heavy : NativeFilter := ⟨"{0} > 1", [mass], "meta_mass > 1", by cbv⟩
  ((isNotNull tag).and (like tag "a%")).and (((isNull mass).or (native heavy)).and (not (isNull tag)))

theorem chains_join_flat_nested : nested.Constructed ∧ nested.Flat := by
  have constructed : nested.Constructed :=
    .and (.and (.isNotNull _) (.like _ _)) (.and (.or (.isNull _) (.native _)) (.not (.isNull _)))
  exact ⟨constructed, chains_join_flat.1 nested constructed⟩

end Condition

end LeaseQueue
