import LeaseQueue.Text.Numeral

/-!
JSON texts. A value keeps what its readers may want to know: the digits of a number, the order of members and their
repetitions, and whether the escapes of a string make sense.
-/
namespace LeaseQueue

/-- A number as it is written. -/
structure JsonNumber where
  negative : Bool
  whole : List Char
  /-- The digits behind the point; none without a point. -/
  fraction : List Char
  /-- Whether the exponent is negative, and its digits. -/
  exponent : Option (Bool × List Char)
deriving DecidableEq, Repr

inductive Json
  | null
  | bool (b : Bool)
  | number (number : JsonNumber)
  /-- Absent if escapes of surrogates do not pair up. -/
  | string (content : Option String)
  | array (items : List Json)
  | object (members : List (Option String × Json))

namespace Json

def isSpace (c : Char) : Bool := c == ' ' || c == '\n' || c == '\t' || c == '\r'

def skipSpace (text : List Char) : List Char := text.dropWhile isSpace

def isDigit (c : Char) : Bool := (Numeral.digit? c).isSome

/-- Splits off digits, of which there has to be one. -/
def digits? (text : List Char) : Option (List Char × List Char) :=
  match text.span isDigit with
  | ([], _) => none
  | split => some split

/-- A zero stands alone before the point. -/
def whole? : List Char → Option (List Char × List Char)
  | '0' :: rest => if (rest.head?.any isDigit) then none else some (['0'], rest)
  | text => digits? text

def fraction? : List Char → Option (List Char × List Char)
  | '.' :: rest => digits? rest
  | text => some ([], text)

def exponent? : List Char → Option (Option (Bool × List Char) × List Char)
  | c :: rest =>
    if c = 'e' ∨ c = 'E' then
      match rest with
      | '-' :: rest => (digits? rest).map fun (digits, rest) => (some (true, digits), rest)
      | '+' :: rest => (digits? rest).map fun (digits, rest) => (some (false, digits), rest)
      | rest => (digits? rest).map fun (digits, rest) => (some (false, digits), rest)
    else some (none, c :: rest)
  | [] => some (none, [])

def number? (negative : Bool) (text : List Char) : Option (JsonNumber × List Char) := do
  let (whole, text) ← whole? text
  let (fraction, text) ← fraction? text
  let (exponent, text) ← exponent? text
  some (⟨negative, whole, fraction, exponent⟩, text)

def hexDigit? (c : Char) : Option Nat :=
  if 'a' ≤ c ∧ c ≤ 'f' then some (c.toNat - 'a'.toNat + 10)
  else if 'A' ≤ c ∧ c ≤ 'F' then some (c.toNat - 'A'.toNat + 10)
  else Numeral.digit? c

def hex4? : List Char → Option (Nat × List Char)
  | a :: b :: c :: d :: rest => do
    some (((← hexDigit? a) * 16 + (← hexDigit? b)) * 256 + (← hexDigit? c) * 16 + (← hexDigit? d), rest)
  | _ => none

/-- The character behind a backslash. -/
def escaped? : Char → Option Char
  | '"' => some '"'
  | '\\' => some '\\'
  | '/' => some '/'
  | 'b' => some '\x08'
  | 'f' => some '\x0c'
  | 'n' => some '\n'
  | 'r' => some '\r'
  | 't' => some '\t'
  | _ => none

/-- Reads the rest of a string as code points, which may be surrogates. Every step takes a character. -/
def codes? : Nat → List Char → Option (List Nat × List Char)
  | 0, _ => none
  | _, [] => none
  | _, '"' :: rest => some ([], rest)
  | steps + 1, '\\' :: 'u' :: rest => do
    let (code, rest) ← hex4? rest
    let (codes, rest) ← codes? steps rest
    some (code :: codes, rest)
  | steps + 1, '\\' :: c :: rest => do
    let meant ← escaped? c
    let (codes, rest) ← codes? steps rest
    some (meant.toNat :: codes, rest)
  | steps + 1, c :: rest =>
    if c = '\\' ∨ c.toNat < 0x20 then none
    else do
      let (codes, rest) ← codes? steps rest
      some (c.toNat :: codes, rest)

/-- Joins pairs of surrogates; a surrogate without its other half is no text. -/
def pairUp? : List Nat → Option (List Char)
  | [] => some []
  | code :: rest =>
    if 0xD800 ≤ code ∧ code < 0xDC00 then
      match rest with
      | low :: rest =>
        if 0xDC00 ≤ low ∧ low < 0xE000 then
          (pairUp? rest).map (Char.ofNat (0x10000 + (code - 0xD800) * 0x400 + (low - 0xDC00)) :: ·)
        else none
      | [] => none
    else if 0xDC00 ≤ code ∧ code < 0xE000 then none
    else (pairUp? rest).map (Char.ofNat code :: ·)

/-- Reads the rest of a string behind its opening quote. -/
def string? (text : List Char) : Option (Option String × List Char) :=
  (codes? (text.length + 1) text).map fun (codes, rest) => ((pairUp? codes).map String.ofList, rest)

mutual

/-- Reads a value and what follows it. A value takes at least one character, so as many steps as there are
characters suffice. -/
def value? (steps : Nat) (text : List Char) : Option (Json × List Char) :=
  match steps with
  | 0 => none
  | steps + 1 =>
    match skipSpace text with
    | 'n' :: 'u' :: 'l' :: 'l' :: rest => some (null, rest)
    | 't' :: 'r' :: 'u' :: 'e' :: rest => some (bool true, rest)
    | 'f' :: 'a' :: 'l' :: 's' :: 'e' :: rest => some (bool false, rest)
    | '"' :: rest => (string? rest).map fun (content, rest) => (string content, rest)
    | '-' :: rest => (number? true rest).map fun (n, rest) => (number n, rest)
    | '[' :: rest =>
      match skipSpace rest with
      | ']' :: rest => some (array [], rest)
      | rest => (items? steps rest).map fun (items, rest) => (array items, rest)
    | '{' :: rest =>
      match skipSpace rest with
      | '}' :: rest => some (object [], rest)
      | rest => (members? steps rest).map fun (members, rest) => (object members, rest)
    | rest => (number? false rest).map fun (n, rest) => (number n, rest)

/-- Reads the values of an array up to its end. -/
def items? (steps : Nat) (text : List Char) : Option (List Json × List Char) :=
  match steps with
  | 0 => none
  | steps + 1 => do
    let (item, rest) ← value? steps text
    match skipSpace rest with
    | ',' :: rest =>
      let (items, rest) ← items? steps rest
      some (item :: items, rest)
    | ']' :: rest => some ([item], rest)
    | _ => none

/-- Reads the members of an object up to its end. -/
def members? (steps : Nat) (text : List Char) : Option (List (Option String × Json) × List Char) :=
  match steps with
  | 0 => none
  | steps + 1 =>
    match skipSpace text with
    | '"' :: rest => do
      let (key, rest) ← string? rest
      let ':' :: rest := skipSpace rest | none
      let (value, rest) ← value? steps rest
      match skipSpace rest with
      | ',' :: rest =>
        let (members, rest) ← members? steps rest
        some ((key, value) :: members, rest)
      | '}' :: rest => some ([(key, value)], rest)
      | _ => none
    | _ => none

end

/-- Reads a text that is one value with nothing but space around it. Going down into a value takes two steps for its
one bracket. -/
def ofText? (text : String) : Option Json := do
  let chars := text.toList
  let (value, rest) ← value? (2 * chars.length + 1) chars
  if (skipSpace rest).isEmpty then some value else none

end Json

end LeaseQueue
