import LeaseQueue.Name

/-!
Sort orders over metadata columns, with the place of rows that have no value, and sorting by them.
-/
namespace LeaseQueue

/-- A direction, and where rows without a value go. By default they count as greater than any value. -/
inductive SortOrder
  | asc
  | ascNullsFirst
  | ascNullsLast
  | desc
  | descNullsFirst
  | descNullsLast
deriving DecidableEq, Repr

namespace SortOrder

def sql : SortOrder → String
  | asc => "asc"
  | ascNullsFirst => "asc nulls first"
  | ascNullsLast => "asc nulls last"
  | desc => "desc"
  | descNullsFirst => "desc nulls first"
  | descNullsLast => "desc nulls last"

def isDescending : SortOrder → Bool
  | desc | descNullsFirst | descNullsLast => true
  | _ => false

def nullsFirst : SortOrder → Bool
  | ascNullsFirst | desc | descNullsFirst => true
  | _ => false

end SortOrder

/-- One term of an order. -/
structure Order where
  field : FieldName
  sort : SortOrder
deriving DecidableEq

namespace Order

def sql (order : Order) : String := s!"{order.field.column} {order.sort.sql}"

/-- The order of two column values; values that cannot be compared count as equal. -/
def compareValues (sort : SortOrder) : Option Value → Option Value → Ordering
  | none, none => .eq
  | none, some _ => if sort.nullsFirst then .lt else .gt
  | some _, none => if sort.nullsFirst then .gt else .lt
  | some x, some y =>
    let ordering := (x.compare? y).getD .eq
    if sort.isDescending then ordering.swap else ordering

def compareRows (order : Order) (first second : Meta) : Ordering :=
  compareValues order.sort first[order.field.column]? second[order.field.column]?

/-- The first term that tells two rows apart decides. -/
def compareAll : List Order → Meta → Meta → Ordering
  | [], _, _ => .eq
  | order :: rest, first, second => (order.compareRows first second).then (compareAll rest first second)

end Order

/-- Puts an element behind all that it does not precede. The list is kept from the last element to the first. -/
def insertLast {α : Type} (cmp : α → α → Ordering) (x : α) : List α → List α
  | [] => [x]
  | last :: before => if cmp x last = .lt then last :: insertLast cmp x before else x :: last :: before

/-- Sorts by insertion from the left; elements that compare as equal keep their order. -/
def sortBy {α : Type} (cmp : α → α → Ordering) (xs : List α) : List α :=
  (xs.foldl (fun sorted x => insertLast cmp x sorted) []).reverse

end LeaseQueue
