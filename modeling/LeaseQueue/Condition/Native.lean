import LeaseQueue.Name
import LeaseQueue.Text.Numeral

/-!
Filters written in SQL. A pattern names its columns by position, as `{0}`, `{1}` and so on; every other brace is
text. A pattern is accepted with its fields if each position it names has a field.
-/
namespace LeaseQueue

/-- A character that is kept, or the digits of a position between braces. -/
inductive NativePiece
  | char (c : Char)
  | position (digits : List Char)
deriving DecidableEq, Repr

namespace NativePiece

/-- What was held back since an opening brace, given the digits behind it, when no position came of it. -/
def heldText (digits : List Char) : List NativePiece := .char '{' :: digits.map .char

/-- Cuts a pattern up. `held` has the digits read since an opening brace that may still become a position. -/
def scan : Option (List Char) → List Char → List NativePiece
  | none, [] => []
  | some digits, [] => heldText digits
  | none, c :: rest => if c = '{' then scan (some []) rest else .char c :: scan none rest
  | some digits, c :: rest =>
    if (Numeral.digit? c).isSome then scan (some (digits ++ [c])) rest
    else if c = '}' ∧ digits ≠ [] then .position digits :: scan none rest
    else if c = '{' then heldText digits ++ scan (some []) rest
    else heldText digits ++ .char c :: scan none rest

/-- Positions are counted in 64 bits. -/
def positionLimit : Nat := UInt64.size

/-- The text that takes the place of a piece. -/
def resolve (pattern : String) (columns : List String) : NativePiece → Except Error (List Char)
  | char c => .ok [c]
  | position digits =>
    let n := (Numeral.continueNat? 0 digits).getD positionLimit
    if positionLimit ≤ n then refuse (.nativePlaceholder pattern)
    else match columns[n]? with
      | some column => .ok column.toList
      | none => refuse (.nativeField pattern n columns.length)

end NativePiece

/-- Puts the columns in the places of their positions; columns themselves are not read as patterns. -/
def substituteColumns (pattern : String) (columns : List String) : Except Error String := do
  let parts ← (NativePiece.scan none pattern.toList).mapM (NativePiece.resolve pattern columns)
  .ok (String.ofList parts.flatten)

/-- A pattern with its fields and the SQL they make together. -/
structure NativeFilter where
  pattern : String
  fields : List FieldName
  sql : String
  resolved : substituteColumns pattern (fields.map FieldName.column) = .ok sql
deriving DecidableEq

namespace NativeFilter

def ofPattern (pattern : String) (fields : List FieldName) : Except Error NativeFilter :=
  match h : substituteColumns pattern (fields.map FieldName.column) with
  | .ok sql => .ok ⟨pattern, fields, sql, h⟩
  | .error error => .error error

/-- Checks the field names in order, then the positions. -/
def ofNames (pattern : String) (names : List String) : Except Error NativeFilter := do
  let fields ← names.mapM FieldName.ofString
  ofPattern pattern fields

end NativeFilter

end LeaseQueue
