import PreviewEnv.Text.Blank
import PreviewEnv.WordRange

/-!
Points in time as manifests write them. A timestamp is read from a date, a time of day and an offset
from UTC, with blanks allowed between the parts, and is always written in UTC and in whole seconds:
`2024-05-01T10:00:00Z`. A fraction of a second is dropped. Sixty seconds are a leap second, which is
written as it was read.
-/

namespace PreviewEnv

/-- A day, counted from 1970-01-01, and a time of that day in UTC. -/
structure Timestamp where
  day : Int
  minute : Nat
  second : Nat
deriving DecidableEq, Repr

namespace Timestamp

def isLeapYear (y : Int) : Bool := y % 4 == 0 && (y % 100 != 0 || y % 400 == 0)

def daysInMonth (y : Int) (m : Nat) : Nat :=
  match m with
  | 2 => if isLeapYear y then 29 else 28
  | 4 | 6 | 9 | 11 => 30
  | _ => 31

/-- The number of days from 1970-01-01 to a date. The year is taken to begin in March, so that a
leap day is its last one. -/
def dayNumber (y : Int) (m d : Nat) : Int :=
  let y := if m ≤ 2 then y - 1 else y
  let era := y / 400
  let yearOfEra := y % 400
  let dayOfYear : Int := (153 * ((m + 9) % 12) + 2) / 5 + d - 1
  era * 146097 + (yearOfEra * 365 + yearOfEra / 4 - yearOfEra / 100 + dayOfYear) - 719468

/-- The year, month and day of the month of a day. -/
def date (day : Int) : Int × Nat × Nat :=
  let z := day + 719468
  let era := z / 146097
  let dayOfEra := z % 146097
  let yearOfEra := (dayOfEra - dayOfEra / 1460 + dayOfEra / 36524 - dayOfEra / 146096) / 365
  let dayOfYear := dayOfEra - (365 * yearOfEra + yearOfEra / 4 - yearOfEra / 100)
  let shifted := (5 * dayOfYear + 2) / 153
  let d := (dayOfYear - (153 * shifted + 2) / 5 + 1).toNat
  let m := if shifted < 10 then (shifted + 3).toNat else (shifted - 9).toNat
  (yearOfEra + era * 400 + (if m ≤ 2 then 1 else 0), m, d)

/-- What is wrong with a text that is no timestamp. -/
inductive Problem where
  /-- The text ends too early. -/
  | short
  /-- A character stands where it cannot. -/
  | invalid
  /-- A part has a value that it cannot have, or the parts are no date. -/
  | range
  /-- The text goes on after the timestamp. -/
  | trailing
  /-- The time in UTC is beyond the first or the last day. -/
  | impossible
deriving DecidableEq, Repr

def Problem.text : Problem → String
  | short => "premature end of input"
  | invalid => "input contains invalid characters"
  | range => "input is out of range"
  | trailing => "trailing input"
  | impossible => "no possible date and time matching input"

def skipBlanks (cs : List Char) : List Char := cs.dropWhile Text.isBlank

def digitsValue (cs : List Char) : Nat := cs.foldl (fun n c => 10 * n + (c.toNat - '0'.toNat)) 0

/-- The problem of a text in which something else should come. -/
def unexpected (cs : List Char) : Problem := if cs.isEmpty then .short else .invalid

/-- A number of at least one and at most `width` digits. -/
def number (width : Nat) (cs : List Char) : Except Problem (Nat × List Char) :=
  let digits := (cs.take width).takeWhile Char.isDigit
  if digits.isEmpty then .error (unexpected cs)
  else .ok (digitsValue digits, cs.drop digits.length)

/-- A number of up to two digits between two bounds, with blanks before it. -/
def bounded (low high : Nat) (cs : List Char) : Except Problem (Nat × List Char) := do
  let (n, rest) ← number 2 (skipBlanks cs)
  if low ≤ n ∧ n ≤ high then return (n, rest) else throw .range

/-- The text after the separator `c`, which may have blanks before it. -/
def after (c : Char) (cs : List Char) : Except Problem (List Char) :=
  match skipBlanks cs with
  | x :: rest => if x = c then .ok rest else .error .invalid
  | [] => .error .short

/-- A year: four digits, or any number of them after a sign. It has to fit 32 bits. -/
def year (cs : List Char) : Except Problem (Int × List Char) := do
  let (y, rest) ← match skipBlanks cs with
    | '-' :: rest => do let (n, rest) ← number rest.length rest; pure (-(n : Int), rest)
    | '+' :: rest => do let (n, rest) ← number rest.length rest; pure ((n : Int), rest)
    | cs => do let (n, rest) ← number 4 cs; pure ((n : Int), rest)
  if fitsSigned 32 y then return (y, rest) else throw .range

/-- The text after the letter or the blank between a date and a time of day. -/
def afterDate : List Char → Except Problem (List Char)
  | 'T' :: rest | 't' :: rest | ' ' :: rest => .ok rest
  | cs => .error (unexpected cs)

/-- The text after the fraction of a second, if there is one. -/
def afterFraction : List Char → Except Problem (List Char)
  | '.' :: rest => do
    let _ ← number rest.length rest
    return rest.dropWhile Char.isDigit
  | cs => .ok cs

/-- Two digits, of which the first is at most `most`. -/
def twoDigits (most : Char) : List Char → Except Problem (Nat × List Char)
  | a :: b :: rest =>
    if a.isDigit ∧ b.isDigit then
      if a ≤ most then .ok (digitsValue [a, b], rest) else .error .range
    else .error .invalid
  | [a] => .error (if a.utf8Size = 1 then .short else .invalid)
  | [] => .error .short

/-- An offset from UTC in minutes: the letter of UTC, its name, or a sign with hours and minutes. -/
def offset (cs : List Char) : Except Problem (Int × List Char) :=
  let signed (sign : Int) (cs : List Char) : Except Problem (Int × List Char) := do
    let (hours, cs) ← twoDigits '9' cs
    let (minutes, cs) ← twoDigits '5' (cs.dropWhile fun c => c = ':' || Text.isBlank c)
    return (sign * (hours * 60 + minutes), cs)
  if (cs.take 3).map Char.toUpper = ['U', 'T', 'C'] then .ok (0, cs.drop 3) else
  match cs with
  | 'Z' :: rest | 'z' :: rest => .ok (0, rest)
  | '+' :: rest => signed 1 rest
  | '-' :: rest | '\u2212' :: rest => signed (-1) rest
  | cs => .error (unexpected cs)

/-- The first and the last year of which there are timestamps. -/
def firstYear : Int := -262143
def lastYear : Int := 262142

/-- The timestamp that a text stands for. -/
def ofString (s : String) : Except Problem Timestamp := do
  let (y, cs) ← year s.toList
  let (m, cs) ← bounded 1 12 (← after '-' cs)
  let (d, cs) ← bounded 1 31 (← after '-' cs)
  let (hour, cs) ← bounded 0 23 (← afterDate cs)
  let (minute, cs) ← bounded 0 59 (← after ':' cs)
  let (second, cs) ← bounded 0 60 (← after ':' cs)
  let (shift, cs) ← offset (skipBlanks (← afterFraction cs))
  if !(skipBlanks cs).isEmpty then throw .trailing
  if y < firstYear ∨ lastYear < y ∨ daysInMonth y m < d ∨ 24 * 60 ≤ shift.natAbs then throw .range
  let total : Int := 60 * hour + minute - shift
  let day := dayNumber y m d + total / (24 * 60)
  if day < dayNumber firstYear 1 1 ∨ dayNumber lastYear 12 31 < day then throw .impossible
  return ⟨day, (total % (24 * 60)).toNat, second⟩

/-- The digits of `n`, with zeros before them up to a width. -/
def padded (width n : Nat) : String :=
  let digits := Nat.toDigits 10 n
  .ofList (List.replicate (width - digits.length) '0' ++ digits)

def yearText (y : Int) : String :=
  if 0 ≤ y ∧ y ≤ 9999 then padded 4 y.toNat
  else (if y < 0 then "-" else "+") ++ padded 4 y.natAbs

/-- The timestamp as text, in UTC. -/
def text (t : Timestamp) : String :=
  let (y, m, d) := date t.day
  yearText y ++ "-" ++ padded 2 m ++ "-" ++ padded 2 d ++ "T" ++ padded 2 (t.minute / 60) ++ ":" ++
    padded 2 (t.minute % 60) ++ ":" ++ padded 2 t.second ++ "Z"

end Timestamp

end PreviewEnv
