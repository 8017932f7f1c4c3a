import LeaseQueue.Proofs.Condition.Agreement
import LeaseQueue.Proofs.Condition.Exchange

/-!
Membership in a list as a disjunction of equalities, wherever it stands in a condition. In the database the two always
have the same truth. In memory they differ in one place: for a missing column the membership in an empty list is
unknown and the empty disjunction is false.
-/
namespace LeaseQueue

theorem Truth.settle_map_some {α : Type} (items : List α) (holds : α → Bool) :
    settle true (items.map fun item => some (holds item)) = some (items.any holds) := by
  induction items with
  | nil => rfl
  | cons item rest ih =>
    rw [List.map_cons, ← settle_cons, ih, List.any_cons]
    cases holds item <;> cases rest.any holds <;> rfl

namespace Condition

/-- The disjunction of the equalities with the items of a list, false if there are none. -/
def oneOf (field : FieldName) (list : ValueList) : Condition := chain true (list.values.map (compare field .eq))

/-- A condition with a place in it for another one. -/
inductive Context
  | hole
  | joinFirst (settling : Bool) (context : Context) (second : Condition)
  | joinSecond (settling : Bool) (first : Condition) (context : Context)
  | not (context : Context)

namespace Context

/-- Puts a condition in its place. -/
def fill (condition : Condition) : Context → Condition
  | hole => condition
  | joinFirst settling context second => join settling (context.fill condition) second
  | joinSecond settling first context => join settling first (context.fill condition)
  | not context => .not (context.fill condition)

/-- No SQL text stands around the place. -/
def TextFree : Context → Prop
  | hole => True
  | joinFirst _ context second => context.TextFree ∧ second.TextFree
  | joinSecond _ first context => first.TextFree ∧ context.TextFree
  | not context => context.TextFree

variable {condition other : Condition} {row : Meta}

theorem fill_evaluate (same : condition.evaluate row = other.evaluate row) (context : Context) :
    (context.fill condition).evaluate row = (context.fill other).evaluate row := by
  induction context with
  | hole => exact same
  | joinFirst settling context second ih => rw [fill, fill, evaluate_join, evaluate_join, ih]
  | joinSecond settling first context ih => rw [fill, fill, evaluate_join, evaluate_join, ih]
  | not context ih => rw [fill, fill, evaluate, evaluate, ih]

end Context

theorem TextFree.join {first second : Condition} (settling : Bool) (left : first.TextFree) (right : second.TextFree) :
    (join settling first second).TextFree := by
  intro filter inside
  rw [leaves_join, List.mem_append] at inside
  exact inside.elim (left filter) (right filter)

namespace Context

variable {condition other : Condition} {row : Meta}

theorem textFree_fill {context : Context} (around : context.TextFree) (free : condition.TextFree) :
    (context.fill condition).TextFree := by
  induction context with
  | hole => exact free
  | joinFirst settling context second ih => exact Condition.TextFree.join settling (ih around.1) around.2
  | joinSecond settling first context ih => exact Condition.TextFree.join settling around.1 (ih around.2)
  | not context ih => exact ih around

/-- What a condition keeps settled in its place it keeps settled everywhere around. -/
theorem keptBy_fill {context : Context} (around : context.TextFree) (free : condition.TextFree)
    (free' : other.TextFree) (kept : (condition.answer row).KeptBy (other.answer row)) :
    ((context.fill condition).answer row).KeptBy ((context.fill other).answer row) := by
  -- The terms of a join as pairs of their answers before and after.
  have pair (settling : Bool) {first second later last : Truth} (left : first.KeptBy later)
      (right : second.KeptBy last) :
      (Truth.settle settling [first, second]).KeptBy (Truth.settle settling [later, last]) := by
    have each : ∀ term ∈ [(first, later), (second, last)], term.1.KeptBy term.2 := by
      intro term member
      rcases List.mem_pair.mp member with rfl | rfl
      · exact left
      · exact right
    exact Truth.settle_keptBy settling each
  induction context with
  | hole => exact kept
  | joinFirst settling context second ih =>
    rw [fill, fill, answer_join (.join settling (textFree_fill around.1 free) around.2),
      answer_join (.join settling (textFree_fill around.1 free') around.2)]
    exact pair settling (ih around.1) fun _ => id
  | joinSecond settling first context ih =>
    rw [fill, fill, answer_join (.join settling around.1 (textFree_fill around.2 free)),
      answer_join (.join settling around.1 (textFree_fill around.2 free'))]
    exact pair settling (fun _ => id) (ih around.2)
  | not context ih =>
    rw [fill, fill, answer_not, answer_not]
    exact (ih around).not

end Context

theorem textFree_oneOf (field : FieldName) (list : ValueList) : (oneOf field list).TextFree := by
  intro filter inside
  rw [oneOf, leaves_chain, List.flatMap_map, List.mem_flatMap] at inside
  obtain ⟨value, _, inside⟩ := inside
  cases List.mem_singleton.mp inside

theorem answer_oneOf (field : FieldName) (list : ValueList) (row : Meta) :
    (oneOf field list).answer row =
      Truth.settle true (list.values.map fun value => (compare field .eq value).answer row) := by
  refine (answer_chain (textFree_oneOf field list)).trans ?_
  rw [List.map_map]
  rfl

section

variable {row : Meta} {field : FieldName} {list : ValueList}

theorem answer_oneOf_missing (missing : row[field.column]? = none) (filled : list.items ≠ []) :
    (oneOf field list).answer row = none := by
  have unknown (value : Value) : (compare field .eq value).answer row = none :=
    answer_of_evaluate (by rw [evaluate, missing]; rfl)
  have some : none ∈ list.values.map fun _ : Value => (none : Truth) := by
    obtain ⟨item, member⟩ := List.exists_mem_of_ne_nil _ filled
    exact List.mem_map.mpr ⟨_, List.mem_map_of_mem member, rfl⟩
  have none : Option.some true ∉ list.values.map fun _ : Value => (none : Truth) := by simp
  rw [answer_oneOf]
  simp only [unknown]
  rw [Truth.settle, if_neg none, if_pos some]

/-- Where the column has a value, the disjunction says whether that is in the list. -/
theorem answer_oneOf_value {actual : Value} (found : row[field.column]? = some actual) (same : actual.type = list.type)
    (number : actual.isNaN = false) (numbers : ∀ item ∈ list.values, item.isNaN = false) :
    (oneOf field list).answer row = some (list.contains actual) := by
  have each : ∀ item ∈ list.values, (compare field .eq item).answer row = some (item.equals actual) := by
    intro item member
    obtain ⟨datum, _, rfl⟩ := List.mem_map.mp member
    obtain ⟨ordering, order, _⟩ :=
      ordered (same.trans (Value.type_value list.type datum).symm) number (numbers _ member)
    refine answer_of_evaluate ?_
    rw [evaluate, found, Option.bind_some, Value.comparedWith, Value.equals_comm, Value.equals, order]
    rfl
  rw [answer_oneOf, List.map_congr_left each, Truth.settle_map_some, contains_eq same]

/-- In memory the membership is the disjunction, unless the list is empty and the column is missing. -/
theorem evaluate_among (held : holds row field list.type) (numbers : ∀ item ∈ list.values, item.isNaN = false)
    (present : list.items ≠ [] ∨ row[field.column]?.isSome) :
    (among field list).evaluate row = (oneOf field list).evaluate row := by
  rw [(textFree_oneOf field list).evaluate_eq, evaluate]
  rcases holds_cases held with missing | ⟨actual, found, same, number⟩
  · rw [missing] at present ⊢
    rw [answer_oneOf_missing missing (present.resolve_right nofun)]
    rfl
  · rw [found, answer_oneOf_value found same number numbers]
    rfl

/-- What the membership settles the disjunction settles, too. -/
theorem among_keptBy (held : holds row field list.type) (numbers : ∀ item ∈ list.values, item.isNaN = false) :
    ((among field list).answer row).KeptBy ((oneOf field list).answer row) := by
  by_cases present : list.items ≠ [] ∨ row[field.column]?.isSome
  · rw [answer, evaluate_among held numbers present]
    exact fun _ => id
  · intro truth settled
    rw [not_or, Option.not_isSome_iff_eq_none] at present
    rw [answer_of_evaluate (by rw [evaluate, present.2])] at settled
    cases settled

theorem TextFree.matchesRow_iff {condition : Condition} (free : condition.TextFree) :
    condition.matchesRow row = .ok true ↔ condition.answer row = some true := by
  rw [matchesRow, free.evaluate_eq]
  rcases condition.answer row with _ | _ | _ <;> simp [Except.map]

/-- In the database the membership is the disjunction. -/
theorem agrees_oneOf (held : holds row field list.type) (numbers : ∀ item ∈ list.values, item.isNaN = false)
    (next : Nat) :
    Agrees row next (.among (.column field.column) next) [.array list] ((oneOf field list).answer row) := by
  by_cases filled : list.items = []
  · refine ⟨_, .among (tokenizes_column field) next, fun bound binds => ?_⟩
    have given : bound next = some (.array list) := binds 0 _ rfl
    have empty : list.values = [] := by rw [ValueList.values, filled, List.map_nil]
    simp only [Sql.Formula.evaluate?, Sql.Term.value?, given, answer_oneOf, empty]
    rfl
  · have same := evaluate_among held numbers (.inl filled)
    rw [(textFree_oneOf field list).evaluate_eq, evaluate] at same
    rw [← Except.ok.inj same]
    exact agrees_among held filled numbers next

end

/-- Unless the list is empty and the column is missing, a membership can be exchanged for the disjunction of the
equalities wherever it stands. In any case a row that matches with the membership matches with the disjunction, and
the disjunction has the truth of the membership in the database. -/
theorem membership_is_disjunction (context : Context) {field : FieldName} {list : ValueList} {row : Meta}
    (held : holds row field list.type) (numbers : ∀ item ∈ list.values, item.isNaN = false) :
    (list.items ≠ [] ∨ row[field.column]?.isSome →
      (context.fill (among field list)).matchesRow row = (context.fill (oneOf field list)).matchesRow row) ∧
    (context.TextFree → (context.fill (among field list)).matchesRow row = .ok true →
      (context.fill (oneOf field list)).matchesRow row = .ok true) ∧
    ∀ start, Sql.evaluateText? row (Sql.bindings (firstPlaceholder start) ((among field list).compile start).params)
      ((among field list).compile start).expr.text = some ((oneOf field list).answer row) := by
  refine ⟨fun present => ?_, fun around matched => ?_, fun start => ?_⟩
  · rw [matchesRow, matchesRow, Context.fill_evaluate (evaluate_among held numbers present)]
  · have free : (among field list).TextFree := fun filter inside => by cases List.mem_singleton.mp inside
    have kept := Context.keptBy_fill around free (textFree_oneOf field list) (among_keptBy held numbers)
    rw [(Context.textFree_fill around free).matchesRow_iff] at matched
    exact (Context.textFree_fill around (textFree_oneOf field list)).matchesRow_iff.mpr (kept true matched)
  · obtain ⟨formula, means, evaluates⟩ := agrees_oneOf held numbers (firstPlaceholder start)
    unfold Sql.evaluateText?
    rw [show Sql.Formula.ofText? ((among field list).compile start).expr.text = some formula from means.ofText?]
    exact evaluates _ (binds_bindings _ _)

def levelField : FieldName := ⟨"level", by decide⟩

/-- Rows of a ward that have a width and do not pass a test. -/
def wideWithout : Context :=
  .joinSecond false (isNotNull ⟨"ward", by decide⟩) (.not (.joinFirst true .hole (isNull ⟨"width", by decide⟩)))

/-- A row of a ward with a width, on the third level. -/
def thirdLevel : Meta :=
  (∅ : Meta).insert "meta_ward" (.text "a") |>.insert "meta_width" (.int 7) |>.insert "meta_level" (.int 3)

theorem third_level_membership :
    holds thirdLevel levelField .int ∧
    (wideWithout.fill (among levelField ⟨.int, [1, 2]⟩)).matchesRow thirdLevel = .ok true ∧
    (wideWithout.fill (oneOf levelField ⟨.int, [1, 2]⟩)).matchesRow thirdLevel = .ok true := by
  have held : holds thirdLevel levelField .int := by decide +kernel
  have numbers : ∀ item ∈ (⟨.int, [1, 2]⟩ : ValueList).values, item.isNaN = false := by decide
  obtain ⟨same, _⟩ := membership_is_disjunction wideWithout held numbers
  have matched : (wideWithout.fill (among levelField ⟨.int, [1, 2]⟩)).matchesRow thirdLevel = .ok true := by rfl
  exact ⟨held, matched, (same (.inl (List.cons_ne_nil _ _))).symm.trans matched⟩

/-- A row without a level is outside an empty list of levels by the disjunction, and in the database; in memory it does
not match the negated membership. -/
theorem missing_level_unlisted :
    (not (among levelField ⟨.int, []⟩)).matchesRow ∅ = .ok false ∧
    (not (oneOf levelField ⟨.int, []⟩)).matchesRow ∅ = .ok true ∧
    Sql.evaluateText? ∅ (Sql.bindings 1 ((not (among levelField ⟨.int, []⟩)).compile 1).params)
      ((not (among levelField ⟨.int, []⟩)).compile 1).expr.text = some (some true) :=
  ⟨by rfl, by rfl, by decide +kernel⟩

end Condition

end LeaseQueue
