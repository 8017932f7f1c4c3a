import LeaseQueue.Condition.Native

/-!
Filters over the metadata columns of a queue. Conjunctions and disjunctions are kept flat: joining two of a kind
makes one longer chain.
-/
namespace LeaseQueue

/-- The comparisons of a column with a value of its type. -/
inductive Comparison
  | eq
  | ne
  | gt
  | ge
  | lt
  | le
deriving DecidableEq, Repr

inductive Condition
  | compare (field : FieldName) (comparison : Comparison) (value : Value)
  | like (field : FieldName) (pattern : String)
  /-- Within two bounds of one type, both included. -/
  | between (field : FieldName) (type : ValueType) (low high : type.Carrier)
  /-- Equal to one of a list. -/
  | among (field : FieldName) (list : ValueList)
  | isNull (field : FieldName)
  | isNotNull (field : FieldName)
  | all (children : List Condition)
  | any (children : List Condition)
  | not (child : Condition)
  | native (filter : NativeFilter)

namespace Condition

/-- The terms of a conjunction; any other condition is its only term. -/
def conjuncts : Condition → List Condition
  | all children => children
  | condition => [condition]

/-- The terms of a disjunction; any other condition is its only term. -/
def disjuncts : Condition → List Condition
  | any children => children
  | condition => [condition]

def and (first second : Condition) : Condition := all (first.conjuncts ++ second.conjuncts)

def or (first second : Condition) : Condition := any (first.disjuncts ++ second.disjuncts)

/-- Joins conditions from the left; one condition stays as it is. -/
def allOf (first : Condition) (others : List Condition) : Condition := others.foldl and first

def anyOf (first : Condition) (others : List Condition) : Condition := others.foldl or first

mutual

/-- Equality of trees, in which floating values are compared as numbers. -/
def equals : Condition → Condition → Bool
  | compare field comparison value, compare field' comparison' value' =>
    decide (field = field') && decide (comparison = comparison') && value.equals value'
  | like field pattern, like field' pattern' => decide (field = field') && decide (pattern = pattern')
  | between field type low high, between field' type' low' high' =>
    decide (field = field') && (type.value low).equals (type'.value low') &&
      (type.value high).equals (type'.value high')
  | among field list, among field' list' => decide (field = field') && list.equals list'
  | isNull field, isNull field' => decide (field = field')
  | isNotNull field, isNotNull field' => decide (field = field')
  | all children, all children' => equalsAll children children'
  | any children, any children' => equalsAll children children'
  | not child, not child' => child.equals child'
  | native filter, native filter' => decide (filter = filter')
  | _, _ => false

def equalsAll : List Condition → List Condition → Bool
  | [], [] => true
  | condition :: rest, condition' :: rest' => condition.equals condition' && equalsAll rest rest'
  | _, _ => false

end

end Condition

end LeaseQueue
