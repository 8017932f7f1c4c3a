/-!
Blank characters, and text with its blanks evened out.
-/
namespace LeaseQueue

/-- The characters with the property White_Space. -/
def isBlank (c : Char) : Bool :=
  let code := c.toNat
  (9 ≤ code && code ≤ 13) || code == 0x20 || code == 0x85 || code == 0xA0 || code == 0x1680 ||
    (0x2000 ≤ code && code ≤ 0x200A) || code == 0x2028 || code == 0x2029 || code == 0x202F || code == 0x205F ||
    code == 0x3000

def skipBlanks (text : List Char) : List Char := text.dropWhile isBlank

/-- Writes one space for each run of blanks. `gap` says whether a run is open behind something already written. -/
def evenBlanks (gap started : Bool) : List Char → List Char
  | [] => []
  | c :: rest =>
    if isBlank c then evenBlanks started started rest
    else if gap then ' ' :: c :: evenBlanks false true rest
    else c :: evenBlanks false true rest

/-- A text on one line: runs of blanks become one space, and there are none at the ends. -/
def oneLine (text : String) : String := String.ofList (evenBlanks false false text.toList)

end LeaseQueue
