import LeaseQueue.Error
import LeaseQueue.Hash

/-!
Names of queues and metadata fields. A name is accepted if the table or column named after it is a valid identifier
and cannot be mistaken for one of the internal tables.
-/
namespace LeaseQueue

def queueTablePrefix : String := "q_"

def metaColumnPrefix : String := "meta_"

/-- The symbols of names: ASCII letters and digits and the underscore. -/
def isNameSymbol (c : Char) : Bool :=
  ('0' ≤ c && c ≤ '9') || ('a' ≤ c && c ≤ 'z') || ('A' ≤ c && c ≤ 'Z') || c == '_'

/-- What is wrong with the name of a queue, if anything. Names that start like a table, or like the rest of the name
of an internal table, are refused before their length and symbols are looked at. -/
def queueNameFault? (name : String) : Option ConfigFault :=
  if name.toList.isEmpty then some .emptyQueueName
  else if "q_".toList.isPrefixOf name.toList then some (.queueNameStart "q_" name)
  else if "_".toList.isPrefixOf name.toList then some (.queueNameStart "_" name)
  else if queueNameMaxLength < name.utf8ByteSize then some (.longQueueName name)
  else if !name.toList.all isNameSymbol then some (.queueNameSymbols name)
  else none

/-- What is wrong with the name of a metadata field, if anything. -/
def fieldNameFault? (field : String) : Option ConfigFault :=
  if field.toList.isEmpty then some .emptyFieldName
  else if fieldNameMaxLength < field.utf8ByteSize then some (.longFieldName field)
  else if !field.toList.all isNameSymbol then some (.fieldNameSymbols field)
  else none

/-- An accepted queue name. -/
structure QueueName where
  text : String
  accepted : queueNameFault? text = none
deriving DecidableEq

namespace QueueName

def ofString (text : String) : Except Error QueueName :=
  match h : queueNameFault? text with
  | none => .ok ⟨text, h⟩
  | some fault => refuse fault

/-- The table that holds the queue. -/
def table (name : QueueName) : String := queueTablePrefix ++ name.text

/-- The advisory lock that guards sweeping the queue unless the sweep settings say otherwise. -/
def sweepLockId (name : QueueName) : Int := lockIdFor ("sweep-" ++ name.text)

end QueueName

/-- An accepted name of a metadata field. -/
structure FieldName where
  text : String
  accepted : fieldNameFault? text = none
deriving DecidableEq

namespace FieldName

def ofString (text : String) : Except Error FieldName :=
  match h : fieldNameFault? text with
  | none => .ok ⟨text, h⟩
  | some fault => refuse fault

/-- The column that holds the field. -/
def column (field : FieldName) : String := metaColumnPrefix ++ field.text

/-- Name and column side by side, for logs. -/
def describe (field : FieldName) : String :=
  let name := quoted field.text
  let column := quoted field.column
  s!"Field \x7b name: {name}, column: {column} \x7d"

end FieldName

end LeaseQueue
