/-!
Boolean SQL expressions over the columns of a row. An expression is kept as a tree with its parentheses; its text is
a list of pieces in which a placeholder is still a number.
-/
namespace LeaseQueue.Sql

/-- A part of a statement's text. -/
inductive Piece
  | text (content : String)
  /-- The name of a table or a column. -/
  | name (identifier : String)
  /-- Stands for the parameter with this number, written `$n`. -/
  | placeholder (index : Nat)
deriving DecidableEq, Repr

/-- A statement's text with its placeholders. -/
abbrev Fragment := List Piece

def sql (content : String) : Fragment := [.text content]

def name (identifier : String) : Fragment := [.name identifier]

def slot (index : Nat) : Fragment := [.placeholder index]

def Piece.render : Piece → String
  | text content => content
  | name identifier => identifier
  | placeholder index => s!"${index}"

def Fragment.render (fragment : Fragment) : String := String.join (fragment.map Piece.render)

/-- Fragments side by side, with a separator between neighbours. -/
def Fragment.join (separator : String) (fragments : List Fragment) : Fragment :=
  (fragments.intersperse (sql separator)).flatten

/-- The clocks of the database: `transaction` stands still while a transaction runs, `wall` does not. -/
inductive Clock
  | transaction
  | wall
deriving DecidableEq, Repr

inductive Operand
  | column (identifier : String)
  | clock (source : Clock)
  | number (n : Int)
  | placeholder (index : Nat)
deriving DecidableEq, Repr

inductive Relation
  | eq
  | ne
  | gt
  | ge
  | lt
  | le
  | like
deriving DecidableEq, Repr

inductive Expr
  | compare (left : Operand) (relation : Relation) (right : Operand)
  | between (subject low high : Operand)
  /-- Whether the subject is among the elements of an array parameter. -/
  | among (subject : Operand) (index : Nat)
  | isNull (column : String)
  | isNotNull (column : String)
  /-- Text that is passed on as it is. -/
  | native (content : String)
  /-- An expression in parentheses. -/
  | group (inner : Expr)
  | not (inner : Expr)
  | all (parts : List Expr)
  | any (parts : List Expr)

def Clock.text : Clock → String
  | transaction => "current_timestamp"
  | wall => "clock_timestamp()"

def Operand.fragment : Operand → Fragment
  | column identifier => name identifier
  | clock source => sql source.text
  | number n => sql (toString n)
  | placeholder index => slot index

def Relation.text : Relation → String
  | eq => "="
  | ne => "<>"
  | gt => ">"
  | ge => ">="
  | lt => "<"
  | le => "<="
  | like => "like"

namespace Expr

mutual

def fragment : Expr → Fragment
  | compare left relation right => left.fragment ++ sql s!" {relation.text} " ++ right.fragment
  | between subject low high =>
    subject.fragment ++ sql " between " ++ low.fragment ++ sql " and " ++ high.fragment
  | among subject index => subject.fragment ++ sql " = ANY (" ++ slot index ++ sql ")"
  | isNull column => name column ++ sql " is null"
  | isNotNull column => name column ++ sql " is not null"
  | native content => sql content
  | group inner => sql "(" ++ inner.fragment ++ sql ")"
  | not inner => sql "not " ++ inner.fragment
  | all parts => Fragment.join " and " (fragments parts)
  | any parts => Fragment.join " or " (fragments parts)

def fragments : List Expr → List Fragment
  | [] => []
  | part :: rest => part.fragment :: fragments rest

end

def text (expr : Expr) : String := expr.fragment.render

end Expr

end LeaseQueue.Sql
