import LeaseQueue.Error
import LeaseQueue.Sql.Expr
import LeaseQueue.Sql.Param
import LeaseQueue.Text.Blank

/-!
Statements and their results. A result row gives its cells by column name; a cell that is missing, null where a value
is needed, or of another type cannot be read.
-/
namespace LeaseQueue.Sql

/-- A text with the values for its placeholders, the first of which is for placeholder one. -/
structure Statement where
  text : Fragment
  params : List Param

/-- The text on one line, placeholders included. -/
def Statement.line (statement : Statement) : String := oneLine statement.text.render

inductive Cell
  | null
  | value (value : Value)
  | time (instant : Instant)
  | bytes (bytes : ByteArray)

/-- The cells of a row with the names of their columns. -/
abbrev Row := List (String × Cell)

structure ResultSet where
  rows : List Row
  /-- The number of rows that the statement wrote. -/
  affected : Nat

namespace Cell

/-- A time, of which a table keeps whole microseconds. -/
def time? : Cell → Option Instant
  | time instant => some (instant / 1000 * 1000)
  | _ => none

def bytes? : Cell → Option ByteArray
  | bytes content => some content
  | _ => none

/-- The value of a cell of a given type. -/
def value? (type : ValueType) : Cell → Option type.Carrier
  | value found => found.as? type
  | _ => none

def bool? (cell : Cell) : Option Bool := cell.value? .boolean

def text? (cell : Cell) : Option String := cell.value? .text

def double? (cell : Cell) : Option Double := cell.value? .double

/-- A number of 32 bits. -/
def int? (cell : Cell) : Option Int := (cell.value? .int).map fun n : Int32 => n.toInt

/-- A number of 64 bits. -/
def bigInt? (cell : Cell) : Option Int := (cell.value? .bigInt).map fun n : Int64 => n.toInt

end Cell

namespace Row

variable {α : Type}

def unreadable (column : String) : Except Error α := .error (.persistence (.unreadable column))

/-- Of several columns of one name the last counts. -/
def cell? (row : Row) (column : String) : Option Cell := row.reverse.lookup column

/-- Reads a column that may be null. -/
def optional (row : Row) (column : String) (read : Cell → Option α) : Except Error (Option α) :=
  match row.cell? column with
  | none => unreadable column
  | some .null => .ok none
  | some cell =>
    match read cell with
    | some content => .ok (some content)
    | none => unreadable column

/-- Reads a column that must not be null. -/
def required (row : Row) (column : String) (read : Cell → Option α) : Except Error α := do
  match ← row.optional column read with
  | some content => .ok content
  | none => unreadable column

end Row

end LeaseQueue.Sql
