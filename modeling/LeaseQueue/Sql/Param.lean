import LeaseQueue.Meta.Value

/-!
Values bound to the placeholders of a statement.
-/
namespace LeaseQueue.Sql

inductive Param
  | null
  | value (value : Value)
  /-- A whole list bound to one placeholder. -/
  | array (list : ValueList)
  | bytes (bytes : ByteArray)
  /-- The id a node has drawn for itself. -/
  | serverId (id : String)

namespace Param

def smallInt (n : Int) : Param := .value (.smallInt (Int16.ofInt n))

def int (n : Int) : Param := .value (.int (Int32.ofInt n))

def bigInt (n : Int) : Param := .value (.bigInt (Int64.ofInt n))

def text (content : String) : Param := .value (.text content)

def bigInts (numbers : List Int) : Param := .array ⟨.bigInt, numbers.map Int64.ofInt⟩

def ints (numbers : List Int) : Param := .array ⟨.int, numbers.map Int32.ofInt⟩

def texts (contents : List String) : Param := .array ⟨.text, contents⟩

end Param

end LeaseQueue.Sql
