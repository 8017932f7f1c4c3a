import LeaseQueue.Text.Printable

/-!
Quoted text: a string between double quotes, on one line, with nothing in it that cannot be seen.
-/
namespace LeaseQueue

/-- One character of quoted text. A character without a shape is written by its code point. -/
def escapedChar : Char → List Char
  | '"' => ['\\', '"']
  | '\\' => ['\\', '\\']
  | '\n' => ['\\', 'n']
  | '\r' => ['\\', 'r']
  | '\t' => ['\\', 't']
  | '\x00' => ['\\', '0']
  | c => if isPrintable c then [c] else '\\' :: 'u' :: '{' :: Nat.toDigits 16 c.toNat ++ ['}']

def quoted (text : String) : String :=
  String.ofList ('"' :: text.toList.flatMap escapedChar ++ ['"'])

/-- An optional text with its presence spelled out. -/
def quotedOption : Option String → String
  | none => "None"
  | some text => s!"Some({quoted text})"

end LeaseQueue
