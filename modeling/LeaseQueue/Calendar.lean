import LeaseQueue.Text.Blank
import LeaseQueue.Text.Numeral
import LeaseQueue.Time

/-!
Dates of the Gregorian calendar and timestamps in the notation of RFC 3339. Days are counted from 1970-01-01.
-/
namespace LeaseQueue

/-- A day of the calendar, month and day counted from one. -/
structure Date where
  year : Int
  month : Nat
  day : Nat
deriving DecidableEq, Repr

namespace Date

def isLeapYear (year : Int) : Bool := year % 4 == 0 && (year % 100 != 0 || year % 400 == 0)

def daysInMonth (year : Int) (month : Nat) : Nat :=
  if month = 2 then (if isLeapYear year then 29 else 28)
  else if month ∈ [4, 6, 9, 11] then 30
  else 31

/-- The days from the first of January of year one to that of another year. -/
def daysBeforeYear (year : Int) : Int :=
  let past := year - 1
  365 * past + past / 4 - past / 100 + past / 400

/-- The days of a year before a month. -/
def daysBeforeMonth (year : Int) (month : Nat) : Nat :=
  ((List.range' 1 (month - 1)).map (daysInMonth year)).foldl (· + ·) 0

/-- The days from year one to 1970. -/
def epoch : Int := 719162

def isValid (date : Date) : Bool :=
  1 ≤ date.month && date.month ≤ 12 && 1 ≤ date.day && date.day ≤ daysInMonth date.year date.month

def toDays (date : Date) : Int :=
  daysBeforeYear date.year + daysBeforeMonth date.year date.month + date.day - 1 - epoch

/-- The year that a day counted from year one lies in. The average length of a year misses it by one at most. -/
def yearOf (days : Int) : Int :=
  let guess := 400 * days / 146097 + 1
  if daysBeforeYear (guess + 1) ≤ days then guess + 1
  else if daysBeforeYear guess ≤ days then guess
  else guess - 1

def ofDays (count : Int) : Date :=
  let days := count + epoch
  let year := yearOf days
  let inYear := (days - daysBeforeYear year).toNat
  let month := (List.range' 1 12).countP fun month => daysBeforeMonth year month ≤ inYear
  ⟨year, month, inYear - daysBeforeMonth year month + 1⟩

end Date

/-- A point of time as written down: whole seconds since 1970 and a fraction in nanoseconds, of which a leap second
has twice as many. -/
structure Timestamp where
  seconds : Int
  nanos : Nat
deriving DecidableEq, Repr

namespace Timestamp

def secondsPerDay : Int := 86400

/-- Reads at least one and at most `most` digits. -/
def number? (most : Nat) (text : List Char) : Option (Nat × List Char) :=
  let digits := (text.take most).takeWhile fun c => (Numeral.digit? c).isSome
  (Numeral.readNat? digits).map fun n => (n, text.drop digits.length)

/-- Reads a number with blanks before it, of any length behind a sign. -/
def signed? (most : Nat) (text : List Char) : Option (Int × List Char) :=
  match skipBlanks text with
  | '-' :: rest => (number? rest.length rest).map fun (n, rest) => (-(n : Int), rest)
  | '+' :: rest => (number? rest.length rest).map fun (n, rest) => ((n : Int), rest)
  | rest => (number? most rest).map fun (n, rest) => ((n : Int), rest)

/-- Reads a character, with blanks before it. -/
def mark? (mark : Char) (text : List Char) : Option (List Char) :=
  match skipBlanks text with
  | c :: rest => if c = mark then some rest else none
  | [] => none

/-- Reads a mark and a number of at most two digits behind it, with blanks between them. -/
def part? (mark : Char) (text : List Char) : Option (Nat × List Char) := do
  number? 2 (skipBlanks (← mark? mark text))

def date? (text : List Char) : Option (Date × List Char) := do
  let (year, text) ← signed? 4 text
  let (month, text) ← part? '-' text
  let (day, text) ← part? '-' text
  let date : Date := ⟨year, month, day⟩
  if date.isValid then some (date, text) else none

/-- Reads a fraction of a second in nanoseconds; digits beyond the ninth are dropped. -/
def fraction? : List Char → Option (Nat × List Char)
  | '.' :: text => do
    let (n, rest) ← number? 9 text
    let places := text.length - rest.length
    some (n * Nat.pow 10 (9 - places), rest.dropWhile fun c => (Numeral.digit? c).isSome)
  | text => some (0, text)

/-- Reads the seconds of a day with their fraction. The sixtieth second of a minute is a leap second. -/
def timeOfDay? (text : List Char) : Option ((Nat × Nat) × List Char) := do
  let (hour, text) ← number? 2 (skipBlanks text)
  let (minute, text) ← part? ':' text
  let (second, text) ← part? ':' text
  let (nanos, text) ← fraction? text
  if hour < 24 ∧ minute < 60 ∧ second ≤ 60 then
    let whole := hour * 3600 + minute * 60 + min second 59
    some ((whole, if second = 60 then nanos + nanosPerSecond else nanos), text)
  else none

/-- Exactly two digits. -/
def twoDigits? : List Char → Option (Nat × List Char)
  | tens :: ones :: rest => do
    some (10 * (← Numeral.digit? tens) + (← Numeral.digit? ones), rest)
  | _ => none

/-- Reads how many seconds a clock is ahead of UTC. -/
def offset? (text : List Char) : Option (Int × List Char) :=
  match text with
  | sign :: rest =>
    if sign ∈ ['Z', 'z'] then some (0, rest)
    else if (text.take 3).map Char.toLower = ['u', 't', 'c'] then some (0, text.drop 3)
    else if sign ∈ ['+', '-', '−'] then do
      let (hours, rest) ← twoDigits? rest
      let (minutes, rest) ← twoDigits? (rest.dropWhile fun c => c == ':' || isBlank c)
      if hours < 24 ∧ minutes < 60 then
        let ahead : Int := hours * 3600 + minutes * 60
        some (if sign = '+' then ahead else -ahead, rest)
      else none
    else none
  | [] => none

/-- Whether the calendar has the timestamp. -/
def isValid (stamp : Timestamp) : Bool :=
  Instant.earliest ≤ stamp.seconds * nanosPerSecond && stamp.seconds * nanosPerSecond ≤ Instant.latest

/-- Reads a timestamp; it is kept in UTC. The calendar has to have it there and in UTC. -/
def ofText? (text : List Char) : Option Timestamp := do
  let (date, text) ← date? text
  let separator :: text := text | none
  guard (separator ∈ ['T', 't', ' '])
  let ((whole, nanos), text) ← timeOfDay? text
  let (ahead, text) ← offset? (skipBlanks text)
  let there : Timestamp := ⟨date.toDays * secondsPerDay + whole, nanos⟩
  let stamp := { there with seconds := there.seconds - ahead }
  if (skipBlanks text).isEmpty && there.isValid && stamp.isValid then some stamp else none

/-- A number with leading zeros. -/
def padded (places n : Nat) : List Char :=
  let digits := Nat.toDigits 10 n
  List.replicate (places - digits.length) '0' ++ digits

/-- Years of more than four digits, and those before year zero, have a sign. -/
def yearText (year : Int) : List Char :=
  if 0 ≤ year ∧ year ≤ 9999 then padded 4 year.toNat
  else (if year < 0 then '-' else '+') :: padded 4 year.natAbs

/-- A fraction of a second in milli-, micro- or nanoseconds, whichever is exact first. -/
def fractionText (nanos : Nat) : List Char :=
  if nanos = 0 then []
  else if nanos % 1000000 = 0 then '.' :: padded 3 (nanos / 1000000)
  else if nanos % 1000 = 0 then '.' :: padded 6 (nanos / 1000)
  else '.' :: padded 9 nanos

def toText (stamp : Timestamp) : List Char :=
  let date := Date.ofDays (stamp.seconds / secondsPerDay)
  let second := (stamp.seconds % secondsPerDay).toNat
  let leap := if nanosPerSecond ≤ stamp.nanos then 1 else 0
  yearText date.year ++ '-' :: padded 2 date.month ++ '-' :: padded 2 date.day ++
    'T' :: padded 2 (second / 3600) ++ ':' :: padded 2 (second / 60 % 60) ++ ':' :: padded 2 (second % 60 + leap) ++
    fractionText (stamp.nanos % nanosPerSecond) ++ ['Z']

end Timestamp

end LeaseQueue
