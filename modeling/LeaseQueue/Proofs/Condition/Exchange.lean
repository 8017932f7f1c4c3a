import LeaseQueue.Proofs.Condition.Chains

/-!
Answers under more information and under exchange of terms. A value that is written to a missing column can only settle
an answer that was unknown, and trees that the laws of three-valued logic relate have the same answer on every row.
-/
namespace LeaseQueue

namespace Truth

/-- An answer that was settled stays; an unknown one may become any. -/
def KeptBy (truth later : Truth) : Prop := ∀ answer, truth = some answer → later = some answer

section

variable (settling : Bool) {truth later : Truth} {truths : List Truth}

theorem settle_eq_other : settle settling truths = some !settling ↔ ∀ truth ∈ truths, truth = some !settling := by
  constructor
  · intro other truth member
    unfold settle at other
    split at other
    · cases settling <;> cases other
    · split at other
      · cases other
      · rename_i unsettled known
        rcases truth with _ | answer
        · exact absurd member known
        · have differs : answer ≠ settling := fun same => unsettled (same ▸ member)
          rw [Bool.eq_not.mpr differs]
  · intro each
    have unsettled : some settling ∉ truths := fun member => by cases settling <;> cases each _ member
    have known : none ∉ truths := fun member => by cases each _ member
    rw [settle, if_neg unsettled, if_neg known]

theorem not_not (truth : Truth) : truth.not.not = truth := by
  rcases truth with _ | _ | _ <;> rfl

theorem not_eq_some {answer : Bool} : truth.not = some answer ↔ truth = some !answer := by
  cases answer <;> rcases truth with _ | _ | _ <;> decide

theorem KeptBy.not (kept : truth.KeptBy later) : truth.not.KeptBy later.not := by
  intro answer known
  exact not_eq_some.mpr (kept (!answer) (not_eq_some.mp known))

/-- The law of De Morgan, for any number of truths. -/
theorem not_settle (truths : List Truth) : (settle settling truths).not = settle (!settling) (truths.map not) := by
  have settles : some (!settling) ∈ truths.map not ↔ some settling ∈ truths := by
    simp only [List.mem_map, not_eq_some, Bool.not_not, exists_eq_right]
  have unknown : none ∈ truths.map not ↔ none ∈ truths := by
    constructor
    · intro member
      obtain ⟨truth, inside, same⟩ := List.mem_map.mp member
      rcases truth with _ | answer
      · exact inside
      · cases same
    · exact fun member => List.mem_map.mpr ⟨none, member, rfl⟩
  simp only [settle, settles, unknown]
  split
  · rfl
  · split <;> rfl

end

/-- Terms that keep their settled answers keep the settled answer of the chain. -/
theorem settle_keptBy {α : Type} (settling : Bool) {terms : List α} {before after : α → Truth}
    (each : ∀ term ∈ terms, (before term).KeptBy (after term)) :
    (settle settling (terms.map before)).KeptBy (settle settling (terms.map after)) := by
  intro answer known
  by_cases same : answer = settling
  · subst same
    obtain ⟨term, member, settles⟩ := List.mem_map.mp ((settle_eq_settling _).mp known)
    exact (settle_eq_settling _).mpr (List.mem_map.mpr ⟨term, member, each term member _ settles⟩)
  · obtain rfl := Bool.eq_not.mpr same
    refine (settle_eq_other settling).mpr fun truth member => ?_
    obtain ⟨term, inside, rfl⟩ := List.mem_map.mp member
    exact each term inside _ ((settle_eq_other settling).mp known _ (List.mem_map_of_mem inside))

end Truth

namespace Condition

/-- No SQL text stands in a condition. -/
def TextFree (condition : Condition) : Prop := ∀ filter, native filter ∉ condition.leaves

/-- A condition does not ask whether a value is there. -/
def NullFree (condition : Condition) : Prop :=
  ∀ field, isNull field ∉ condition.leaves ∧ isNotNull field ∉ condition.leaves

/-- The answer of a condition on a row, if it has one. -/
def answer (row : Meta) (condition : Condition) : Truth := (condition.evaluate row).toOption.join

section

variable {row : Meta} {settling : Bool} {condition child first second : Condition} {children : List Condition}

theorem mem_leaves_chain {leaf : Condition} (member : child ∈ children) (inside : leaf ∈ child.leaves) :
    leaf ∈ (chain settling children).leaves := by
  rw [leaves_chain]
  exact List.mem_flatMap.mpr ⟨child, member, inside⟩

theorem TextFree.of_chain (free : (chain settling children).TextFree) (member : child ∈ children) :
    child.TextFree :=
  fun filter inside => free filter (mem_leaves_chain member inside)

theorem NullFree.of_chain (free : (chain settling children).NullFree) (member : child ∈ children) :
    child.NullFree :=
  fun field => (free field).imp (· ∘ mem_leaves_chain member) (· ∘ mem_leaves_chain member)

theorem TextFree.of_join (free : (join settling first second).TextFree) : first.TextFree ∧ second.TextFree := by
  simp only [TextFree, leaves_join, List.mem_append, not_or] at free
  exact ⟨fun filter => (free filter).1, fun filter => (free filter).2⟩

theorem answer_of_evaluate {truth : Truth} (evaluated : condition.evaluate row = .ok truth) :
    condition.answer row = truth := by
  rw [answer, evaluated]
  rfl

theorem evaluate_chain (settling : Bool) (each : ∀ child ∈ children, child.evaluate row = .ok (child.answer row)) :
    (chain settling children).evaluate row = .ok (Truth.settle settling (children.map (answer row))) := by
  induction children with
  | nil => exact evaluate_chain_nil settling
  | cons child rest ih =>
    rw [evaluate_chain_cons, each child List.mem_cons_self, ih fun child member => each child (.tail _ member),
      inTurn_ok, Truth.settle_cons, List.map_cons]

/-- Without SQL text there is always an answer. -/
theorem TextFree.evaluate_eq (free : condition.TextFree) : condition.evaluate row = .ok (condition.answer row) := by
  induction condition using Condition.induct with
  | compare | like | between | among | isNull | isNotNull => rfl
  | chain settling children ih =>
    have evaluated := evaluate_chain settling fun child member => ih child member (free.of_chain member)
    rw [evaluated, answer_of_evaluate evaluated]
  | not child ih =>
    have evaluated : (Condition.not child).evaluate row = .ok (child.answer row).not := by
      rw [evaluate, ih free]
    rw [evaluated, answer_of_evaluate evaluated]
  | native filter => exact absurd (List.mem_singleton.mpr rfl) (free filter)

theorem answer_chain (free : (chain settling children).TextFree) :
    (chain settling children).answer row = Truth.settle settling (children.map (answer row)) :=
  answer_of_evaluate (evaluate_chain settling fun _ member => (free.of_chain member).evaluate_eq)

theorem answer_not (child : Condition) : (Condition.not child).answer row = (child.answer row).not := by
  rw [answer, evaluate, answer]
  rcases child.evaluate row with error | _ | _ | _ <;> rfl

theorem answer_join (free : (join settling first second).TextFree) :
    (join settling first second).answer row = Truth.settle settling [first.answer row, second.answer row] := by
  obtain ⟨left, right⟩ := free.of_join
  refine answer_of_evaluate ?_
  rw [evaluate_join, left.evaluate_eq, right.evaluate_eq, inTurn_ok]

end

/-! More information. -/

/-- A row has the values of another one, and may have more. -/
def Extends (larger row : Meta) : Prop := ∀ (column : String) (value : Value),
  row[column]? = some value → larger[column]? = some value

section

variable {row larger : Meta} {condition : Condition}

/-- What is asked of the value of a column. -/
theorem Extends.keptBy (extended : Extends larger row) (column : String) (ask : Value → Truth) :
    Truth.KeptBy (row[column]?.bind ask) (larger[column]?.bind ask) := by
  intro answer known
  obtain ⟨value, found, settled⟩ := Option.bind_eq_some_iff.mp known
  rw [extended column value found]
  exact settled

theorem Extends.answer_keptBy (extended : Extends larger row) (free : condition.TextFree) (plain : condition.NullFree) :
    (condition.answer row).KeptBy (condition.answer larger) := by
  induction condition using Condition.induct with
  | compare field comparison value => exact extended.keptBy field.column _
  | like field pattern => exact extended.keptBy field.column _
  | between field type low high => exact extended.keptBy field.column _
  | among field list =>
    have bound := extended.keptBy field.column fun actual => some (list.contains actual)
    rw [answer, answer, evaluate, evaluate, Option.map_eq_bind, Option.map_eq_bind]
    exact bound
  | isNull field => exact absurd (List.mem_singleton.mpr rfl) (plain field).1
  | isNotNull field => exact absurd (List.mem_singleton.mpr rfl) (plain field).2
  | chain settling children ih =>
    rw [answer_chain free, answer_chain free]
    refine Truth.settle_keptBy settling fun child member => ?_
    exact ih child member (free.of_chain member) (plain.of_chain member)
  | not child ih =>
    rw [answer_not, answer_not]
    exact (ih free plain).not
  | native filter => exact absurd (List.mem_singleton.mpr rfl) (free filter)

end

/-! Exchange. -/

/-- Trees that come of each other by reordering the terms of chains, by the laws of De Morgan and by double negation,
anywhere in the tree and in either direction. -/
inductive Exchanges : Condition → Condition → Prop
  | refl (condition : Condition) : Exchanges condition condition
  | symm {condition other : Condition} (exchanges : Exchanges condition other) : Exchanges other condition
  | trans {condition middle other : Condition} (first : Exchanges condition middle) (second : Exchanges middle other) :
      Exchanges condition other
  | reorder (settling : Bool) {children others : List Condition} (order : children.Perm others) :
      Exchanges (chain settling children) (chain settling others)
  | notNot (condition : Condition) : Exchanges (.not (.not condition)) condition
  | notChain (settling : Bool) (children : List Condition) :
      Exchanges (.not (chain settling children)) (chain (!settling) (children.map .not))
  | notJoin (settling : Bool) (first second : Condition) :
      Exchanges (.not (join settling first second)) (join (!settling) (.not first) (.not second))
  | term (settling : Bool) {child other : Condition} (before after : List Condition)
      (exchanges : Exchanges child other) :
      Exchanges (chain settling (before ++ child :: after)) (chain settling (before ++ other :: after))
  | not {child other : Condition} (exchanges : Exchanges child other) : Exchanges (.not child) (.not other)

section

variable {row : Meta} {condition other : Condition}

theorem Exchanges.leaves_perm (exchanges : Exchanges condition other) : condition.leaves.Perm other.leaves := by
  induction exchanges with
  | refl => exact .refl _
  | symm _ ih => exact ih.symm
  | trans _ _ first second => exact first.trans second
  | reorder settling order =>
    rw [leaves_chain, leaves_chain]
    exact order.flatMap_right _
  | notNot => exact .refl _
  | notChain settling children =>
    rw [leaves, leaves_chain, leaves_chain, List.flatMap_map]
    exact .refl _
  | notJoin settling first second =>
    rw [leaves, leaves_join, leaves_join]
    exact .refl _
  | term settling before after _ ih =>
    simp only [leaves_chain, List.flatMap_append, List.flatMap_cons]
    exact (ih.append_right _).append_left _
  | not _ ih => exact ih

theorem Exchanges.textFree (exchanges : Exchanges condition other) (free : condition.TextFree) : other.TextFree :=
  fun filter inside => free filter (exchanges.leaves_perm.mem_iff.mpr inside)

theorem Exchanges.answer_eq (exchanges : Exchanges condition other) (free : condition.TextFree) :
    condition.answer row = other.answer row := by
  induction exchanges with
  | refl => rfl
  | symm exchanges ih => exact (ih (exchanges.symm.textFree free)).symm
  | trans first _ ih ih' => exact (ih free).trans (ih' (first.textFree free))
  | reorder settling order =>
    rw [answer_chain free, answer_chain ((Exchanges.reorder settling order).textFree free)]
    exact Truth.settle_congr settling fun _ => (order.map _).mem_iff
  | notNot condition => rw [answer_not, answer_not, Truth.not_not]
  | notChain settling children =>
    have swapped := (Exchanges.notChain settling children).textFree free
    have commutes : answer row ∘ Condition.not = Truth.not ∘ answer row := funext fun child => answer_not child
    rw [answer_not, answer_chain free, answer_chain swapped, Truth.not_settle, List.map_map, List.map_map, commutes]
  | notJoin settling first second =>
    have swapped := (Exchanges.notJoin settling first second).textFree free
    rw [answer_not, answer_join free, answer_join swapped, Truth.not_settle, answer_not, answer_not, List.map_cons,
      List.map_cons, List.map_nil]
  | term settling before after exchanges ih =>
    have swapped := (Exchanges.term settling before after exchanges).textFree free
    have same := ih (free.of_chain (List.mem_append_right _ List.mem_cons_self))
    rw [answer_chain free, answer_chain swapped]
    simp only [List.map_append, List.map_cons, same]
  | not _ ih => rw [answer_not, answer_not, ih free]

end

/-- Without SQL text, and unless it is asked whether values are there, values for missing columns leave a settled answer
as it is; and trees that come of each other by the laws of the connectives have one answer. -/
theorem answers_stay {condition : Condition} (free : condition.TextFree) (row : Meta) :
    (condition.NullFree → ∀ larger, Extends larger row → ∀ answer,
      condition.evaluate row = .ok (some answer) → condition.evaluate larger = .ok (some answer)) ∧
    ∀ other, Exchanges condition other →
      ∃ truth, condition.evaluate row = .ok truth ∧ other.evaluate row = .ok truth := by
  constructor
  · intro plain larger extended answer known
    have kept := extended.answer_keptBy free plain answer (answer_of_evaluate known)
    rw [free.evaluate_eq, kept]
  · intro other exchanges
    refine ⟨condition.answer row, free.evaluate_eq, ?_⟩
    rw [(exchanges.textFree free).evaluate_eq, exchanges.answer_eq free]

/-- Heights from three on, without a title that starts with `a`. -/
def tall : Condition :=
  (compare ⟨"height", by decide⟩ .ge (.int 3)).and (not (like ⟨"title", by decide⟩ "a%"))

/-- The same by the law of De Morgan. -/
def notSmall : Condition :=
  not ((not (compare ⟨"height", by decide⟩ .ge (.int 3))).or (like ⟨"title", by decide⟩ "a%"))

/-- The title of a small row is missing at first. -/
def smallRow : Meta := (∅ : Meta).insert "meta_height" (.int 1)

theorem answers_stay_tall : tall.TextFree ∧ tall.NullFree ∧
    Extends (smallRow.insert "meta_title" (.text "b")) smallRow ∧ Exchanges tall notSmall ∧
    tall.evaluate (smallRow.insert "meta_title" (.text "b")) = .ok (some false) ∧
    ∃ truth, tall.evaluate smallRow = .ok truth ∧ notSmall.evaluate smallRow = .ok truth := by
  have free : tall.TextFree := by
    intro filter inside
    simp [tall, Condition.and, conjuncts, leaves, leavesAll] at inside
  have plain : tall.NullFree := by
    intro field
    simp [tall, Condition.and, conjuncts, leaves, leavesAll]
  have extended : Extends (smallRow.insert "meta_title" (.text "b")) smallRow := by
    intro column value found
    have other : column ≠ "meta_title" := by
      rintro rfl
      cases found
    rw [Std.ExtTreeMap.getElem?_insert, if_neg (fun same => other (Std.LawfulEqCmp.eq_of_compare same).symm)]
    exact found
  have exchanges : Exchanges tall notSmall :=
    .trans (.symm (.term false [] _ (.notNot _))) (.symm (.notChain true _))
  obtain ⟨stays, exchanged⟩ := answers_stay free smallRow
  exact ⟨free, plain, extended, exchanges, stays plain _ extended false (by rfl), exchanged notSmall exchanges⟩

end Condition

end LeaseQueue
