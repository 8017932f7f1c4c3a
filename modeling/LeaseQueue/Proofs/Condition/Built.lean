import LeaseQueue.Condition.Evaluate
import LeaseQueue.Proofs.Condition.Patterns
import LeaseQueue.Proofs.Meta.Order

/-!
Conditions as they can be built, and the rows that they can be asked about. Building keeps chains flat, so that a chain
is never empty.
-/
namespace LeaseQueue.Condition

/-- The conditions that the constructors make, other than SQL text and membership in an empty list. -/
inductive Built : Condition → Prop
  | compare (field : FieldName) (comparison : Comparison) (value : Value) : Built (.compare field comparison value)
  | like (field : FieldName) (pattern : String) : Built (.like field pattern)
  | between (field : FieldName) (type : ValueType) (low high : type.Carrier) : Built (.between field type low high)
  | among (field : FieldName) (list : ValueList) (filled : list.items ≠ []) : Built (.among field list)
  | isNull (field : FieldName) : Built (.isNull field)
  | isNotNull (field : FieldName) : Built (.isNotNull field)
  | and {first second : Condition} (left : Built first) (right : Built second) : Built (first.and second)
  | or {first second : Condition} (left : Built first) (right : Built second) : Built (first.or second)
  | not {child : Condition} (inner : Built child) : Built (.not child)

mutual

/-- Whether a condition is free of SQL text, empty lists and empty chains. -/
def plain : Condition → Bool
  | compare _ _ _ | like _ _ | between _ _ _ _ | isNull _ | isNotNull _ => true
  | among _ list => !list.items.isEmpty
  | all children | any children => !children.isEmpty && plainAll children
  | not child => child.plain
  | native _ => false

def plainAll : List Condition → Bool
  | [] => true
  | child :: rest => child.plain && plainAll rest

end

theorem plainAll_append (first second : List Condition) :
    plainAll (first ++ second) = (plainAll first && plainAll second) := by
  induction first with
  | nil => rfl
  | cons child rest ih => rw [List.cons_append, plainAll, plainAll, ih, Bool.and_assoc]

/-- The terms of a plain condition in a conjunction. -/
theorem plain_conjuncts {condition : Condition} (plain : condition.plain) :
    condition.conjuncts ≠ [] ∧ plainAll condition.conjuncts := by
  cases condition with
  | all children =>
    obtain ⟨filled, each⟩ := Bool.and_eq_true_iff.mp plain
    exact ⟨by simpa [conjuncts] using filled, each⟩
  | compare | like | between | among | isNull | isNotNull | any | not | native =>
    exact ⟨List.cons_ne_nil _ _, Bool.and_eq_true_iff.mpr ⟨plain, rfl⟩⟩

/-- The terms of a plain condition in a disjunction. -/
theorem plain_disjuncts {condition : Condition} (plain : condition.plain) :
    condition.disjuncts ≠ [] ∧ plainAll condition.disjuncts := by
  cases condition with
  | any children =>
    obtain ⟨filled, each⟩ := Bool.and_eq_true_iff.mp plain
    exact ⟨by simpa [disjuncts] using filled, each⟩
  | compare | like | between | among | isNull | isNotNull | all | not | native =>
    exact ⟨List.cons_ne_nil _ _, Bool.and_eq_true_iff.mpr ⟨plain, rfl⟩⟩

theorem Built.plain {condition : Condition} (built : Built condition) : condition.plain := by
  induction built with
  | compare | like | between | isNull | isNotNull => rfl
  | among field list filled => simpa [Condition.plain] using filled
  | and _ _ left right =>
    obtain ⟨filled, each⟩ := plain_conjuncts left
    obtain ⟨_, others⟩ := plain_conjuncts right
    simp [Condition.and, Condition.plain, plainAll_append, filled, each, others]
  | or _ _ left right =>
    obtain ⟨filled, each⟩ := plain_disjuncts left
    obtain ⟨_, others⟩ := plain_disjuncts right
    simp [Condition.or, Condition.plain, plainAll_append, filled, each, others]
  | not _ ih => exact ih

/-- Whether a column holds no value of another type than the given one, and no NaN. -/
def holds (row : Meta) (field : FieldName) (type : ValueType) : Bool :=
  row[field.column]?.all fun value => decide (value.type = type) && !value.isNaN

mutual

/-- Whether the columns hold values of the types they are compared with, nothing is a NaN, and no pattern ends in a
backslash that stands alone. -/
def fits (row : Meta) : Condition → Bool
  | compare field _ value => holds row field value.type && !value.isNaN
  | like field pattern => holds row field .text && patternComplete pattern.toList
  | between field type low high => holds row field type && !(type.value low).isNaN && !(type.value high).isNaN
  | among field list => holds row field list.type && list.values.all fun value => !value.isNaN
  | isNull _ | isNotNull _ | native _ => true
  | all children | any children => fitsAll row children
  | not child => child.fits row

def fitsAll (row : Meta) : List Condition → Bool
  | [] => true
  | child :: rest => child.fits row && fitsAll row rest

end

end LeaseQueue.Condition
