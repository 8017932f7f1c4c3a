import LeaseQueue.Number.Positional
import Std.Data.ExtTreeMap

/-!
Typed values of metadata columns. Values are ordered and equal only within their type; numbers of the two floating
types compare as numbers, so a NaN equals nothing and the zeros are equal.
-/
namespace LeaseQueue

/-- The types a metadata column can have. -/
inductive ValueType
  | smallInt
  | int
  | bigInt
  | boolean
  | real
  | double
  | text
deriving DecidableEq, Repr

/-- A value of one of the column types. -/
inductive Value
  | smallInt (datum : Int16)
  | int (datum : Int32)
  | bigInt (datum : Int64)
  | boolean (datum : Bool)
  | real (datum : Single)
  | double (datum : Double)
  | text (datum : String)
deriving DecidableEq

namespace ValueType

/-- The data a column of this type holds. -/
abbrev Carrier : ValueType → Type
  | smallInt => Int16
  | int => Int32
  | bigInt => Int64
  | boolean => Bool
  | real => Single
  | double => Double
  | text => String

/-- The name of the type in messages. -/
def name : ValueType → String
  | smallInt => "SmallInt"
  | int => "Int"
  | bigInt => "BigInt"
  | boolean => "Boolean"
  | real => "Real"
  | double => "Double"
  | text => "Text"

/-- The type of the column in a table definition. -/
def sqlType : ValueType → String
  | smallInt => "smallint"
  | int => "int"
  | bigInt => "bigint"
  | boolean => "boolean"
  | real => "real"
  | double => "double precision"
  | text => "varchar"

/-- The order of two data of one type; texts are ordered by code point, which is their order as bytes. -/
def compare? : (type : ValueType) → type.Carrier → type.Carrier → Option Ordering
  | smallInt, x, y => some (compare x.toInt y.toInt)
  | int, x, y => some (compare x.toInt y.toInt)
  | bigInt, x, y => some (compare x.toInt y.toInt)
  | boolean, x, y => some (compare x y)
  | real, x, y => Binary.compare? x y
  | double, x, y => Binary.compare? x y
  | text, x, y => some (compare x y)

def equals (type : ValueType) (x y : type.Carrier) : Bool := type.compare? x y == some .eq

/-- The value with given data. -/
def value : (type : ValueType) → type.Carrier → Value
  | smallInt, x => .smallInt x
  | int, x => .int x
  | bigInt, x => .bigInt x
  | boolean, x => .boolean x
  | real, x => .real x
  | double, x => .double x
  | text, x => .text x

end ValueType

namespace Value

def type : Value → ValueType
  | smallInt _ => .smallInt
  | int _ => .int
  | bigInt _ => .bigInt
  | boolean _ => .boolean
  | real _ => .real
  | double _ => .double
  | text _ => .text

def datum : (value : Value) → value.type.Carrier
  | smallInt x => x
  | int x => x
  | bigInt x => x
  | boolean x => x
  | real x => x
  | double x => x
  | text x => x

/-- The data of a value that is of the given type. -/
def as? : (type : ValueType) → Value → Option type.Carrier
  | .smallInt, smallInt x => some x
  | .int, int x => some x
  | .bigInt, bigInt x => some x
  | .boolean, boolean x => some x
  | .real, real x => some x
  | .double, double x => some x
  | .text, text x => some x
  | _, _ => none

/-- Values of different types are unordered. -/
def compare? (x y : Value) : Option Ordering :=
  (y.as? x.type).bind fun datum => x.type.compare? x.datum datum

def equals (x y : Value) : Bool := x.compare? y == some .eq

/-- The text of a value in messages; only texts are quoted, and nothing in them is escaped. -/
def display : Value → String
  | smallInt x => toString x.toInt
  | int x => toString x.toInt
  | bigInt x => toString x.toInt
  | boolean x => toString x
  | real x => x.text
  | double x => x.text
  | text x => s!"'{x}'"

end Value

/-- Data of one type, handed to the database as one array. -/
structure ValueList where
  type : ValueType
  items : List type.Carrier

namespace ValueList

def values (list : ValueList) : List Value := list.items.map list.type.value

/-- Whether a value of the list's type equals one of the items. -/
def contains (list : ValueList) (value : Value) : Bool :=
  match value.as? list.type with
  | none => false
  | some datum => list.items.any fun item => list.type.equals item datum

/-- Equality item by item, floating items as numbers. -/
def equals (first second : ValueList) : Bool :=
  decide (first.type = second.type) && first.items.length == second.items.length &&
    (first.values.zip second.values).all fun (x, y) => x.equals y

end ValueList

/-- The metadata of one message: the columns that are not null, by name. -/
abbrev Meta := Std.ExtTreeMap String Value

end LeaseQueue
