import LeaseQueue.Condition.Basic
import LeaseQueue.Sql.Expr
import LeaseQueue.Sql.Param

/-!
Compilation of a condition to SQL. The literals of a condition are bound, never written: the expression has
placeholders, numbered from left to right from a given start, and the parameters stand in the same order.
-/
namespace LeaseQueue

def Comparison.relation : Comparison → Sql.Relation
  | eq => .eq
  | ne => .ne
  | gt => .gt
  | ge => .ge
  | lt => .lt
  | le => .le

namespace Condition

open Sql (Expr Param)

mutual

/-- The expression with placeholders from `next` on, and the number that follows the last one used. -/
def expr (next : Nat) : Condition → Expr × Nat
  | compare field comparison _ =>
    (.compare (.column field.column) comparison.relation (.placeholder next), next + 1)
  | like field _ => (.compare (.column field.column) .like (.placeholder next), next + 1)
  | between field _ _ _ => (.between (.column field.column) (.placeholder next) (.placeholder (next + 1)), next + 2)
  | among field _ => (.among (.column field.column) next, next + 1)
  | isNull field => (.isNull field.column, next)
  | isNotNull field => (.isNotNull field.column, next)
  | all children =>
    let (parts, after) := groups next children
    (.all parts, after)
  | any children =>
    let (parts, after) := groups next children
    (.any parts, after)
  | not child =>
    let (inner, after) := expr next child
    (.not (.group inner), after)
  | native filter => (.native filter.sql, next)

/-- The terms of a chain, each in parentheses. -/
def groups (next : Nat) : List Condition → List Expr × Nat
  | [] => ([], next)
  | child :: rest =>
    let (inner, after) := expr next child
    let (others, last) := groups after rest
    (.group inner :: others, last)

end

mutual

/-- The literals of a condition in the order of their placeholders. -/
def params : Condition → List Param
  | compare _ _ value => [.value value]
  | like _ pattern => [.text pattern]
  | between _ type low high => [.value (type.value low), .value (type.value high)]
  | among _ list => [.array list]
  | isNull _ | isNotNull _ | native _ => []
  | all children | any children => paramsAll children
  | not child => child.params

def paramsAll : List Condition → List Param
  | [] => []
  | child :: rest => child.params ++ paramsAll rest

end

end Condition

/-- Placeholders are numbered from one. -/
def firstPlaceholder (start : Nat) : Nat := max start 1

/-- A condition in SQL, with what is bound and the number of the next placeholder. -/
structure CompiledCondition where
  expr : Sql.Expr
  params : List Sql.Param
  next : Nat

def Condition.compile (condition : Condition) (start : Nat) : CompiledCondition :=
  let (expr, next) := condition.expr (firstPlaceholder start)
  ⟨expr, condition.params, next⟩

end LeaseQueue
