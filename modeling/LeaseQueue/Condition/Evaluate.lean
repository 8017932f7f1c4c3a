import LeaseQueue.Condition.Basic
import LeaseQueue.Condition.Like
import LeaseQueue.Condition.Truth

/-!
Evaluation of a condition on one row. A comparison with a missing column is unknown, and a row matches only if the
condition is definitely true. SQL text cannot be evaluated here, so reaching it is an error.
-/
namespace LeaseQueue

/-- Whether an order of two values is what the comparison asks for. -/
def Comparison.holds : Comparison → Ordering → Bool
  | eq, ordering => ordering == .eq
  | ne, ordering => ordering != .eq
  | gt, ordering => ordering == .gt
  | ge, ordering => ordering != .lt
  | lt, ordering => ordering == .lt
  | le, ordering => ordering != .gt

namespace Value

/-- Unknown for values that are unordered. -/
def comparedWith (actual : Value) (comparison : Comparison) (value : Value) : Truth :=
  (actual.compare? value).map comparison.holds

/-- Unknown unless the value is a text. -/
def likePattern (pattern : String) : Value → Truth
  | text content => some (likeMatches content pattern)
  | _ => none

def within (actual low high : Value) : Truth := do
  let fromLow ← actual.compare? low
  let toHigh ← actual.compare? high
  some (fromLow != .lt && toHigh != .gt)

end Value

namespace Condition

mutual

/-- The truth of a condition on a row. The terms of a chain are evaluated from the left until the answer is settled,
so text behind a settling term is not reached. -/
def evaluate (row : Meta) : Condition → Except Error Truth
  | compare field comparison value => .ok (row[field.column]?.bind fun actual => actual.comparedWith comparison value)
  | like field pattern => .ok (row[field.column]?.bind fun actual => actual.likePattern pattern)
  | between field type low high =>
    .ok (row[field.column]?.bind fun actual => actual.within (type.value low) (type.value high))
  | among field list => .ok (row[field.column]?.map fun actual => list.contains actual)
  | isNull field => .ok (some row[field.column]?.isNone)
  | isNotNull field => .ok (some row[field.column]?.isSome)
  | all children => evaluateAll row children
  | any children => evaluateAny row children
  | not child =>
    match evaluate row child with
    | .ok truth => .ok truth.not
    | .error error => .error error
  | native filter => refuse (.nativeInMemory filter.pattern)

def evaluateAll (row : Meta) : List Condition → Except Error Truth
  | [] => .ok (some true)
  | child :: rest =>
    match evaluate row child with
    | .error error => .error error
    | .ok (some false) => .ok (some false)
    | .ok truth =>
      match evaluateAll row rest with
      | .error error => .error error
      | .ok others => .ok (truth.and others)

def evaluateAny (row : Meta) : List Condition → Except Error Truth
  | [] => .ok (some false)
  | child :: rest =>
    match evaluate row child with
    | .error error => .error error
    | .ok (some true) => .ok (some true)
    | .ok truth =>
      match evaluateAny row rest with
      | .error error => .error error
      | .ok others => .ok (truth.or others)

end

/-- Whether a row satisfies the condition. -/
def matchesRow (condition : Condition) (row : Meta) : Except Error Bool :=
  (condition.evaluate row).map fun truth => truth == some true

end Condition

/-- Whether a row satisfies a filter, if there is one. -/
def rowPasses (filter : Option Condition) (row : Meta) : Except Error Bool :=
  match filter with
  | none => .ok true
  | some condition => condition.matchesRow row

end LeaseQueue
