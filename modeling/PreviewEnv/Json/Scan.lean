import PreviewEnv.Json.Fault

/-!
Reading a JSON text from left to right: the parts that values are made of. A reader that fails
leaves the text where it stopped, so that the place of a fault can be told. There are two readers of
numbers and of strings: one that gives what it has read, and one that only passes it over, which
minds neither how large a number is nor whether the surrogates of a string are paired.
-/

namespace PreviewEnv.Json

/-- The text still to be read, and the place that has been reached. -/
structure Cursor where
  rest : List Char
  place : Place
  /-- A number that is greater than that of the characters of the whole text, so that nothing in the
  text can be repeated so often. -/
  bound : Nat

abbrev Reader := EStateM Fault Cursor

variable {α : Type}

/-- Fails at the place that has been reached. -/
def failHere (cause : Cause) : Reader α := do throw ⟨cause, some (← get).place⟩

/-- Fails at the first byte of what comes next. -/
def failNext (cause : Cause) : Reader α := do
  let c ← get
  throw ⟨cause, some (match c.rest with
    | [] => c.place
    | '\n' :: _ => ⟨c.place.line + 1, 0⟩
    | _ => ⟨c.place.line, c.place.column + 1⟩)⟩

/-- Fails because of a value, without a place. -/
def failValue (what : String) : Reader α := throw ⟨.value what, none⟩

/-- Gives a fault without a place the place that has been reached. -/
def placed (p : Reader α) : Reader α := fun c =>
  match p c with
  | .ok a c => .ok a c
  | .error f c => .error (f.placed c.place) c

def bound : Reader Nat := return (← get).bound

/-- The next character, which stays unread. -/
def peek : Reader (Option Char) := return (← get).rest.head?

/-- Reads one character. -/
def next : Reader (Option Char) := do
  let c ← get
  match c.rest with
  | [] => return none
  | x :: rest =>
    set { c with rest, place := c.place.after x }
    return some x

/-- Passes over one character. -/
def pass : Reader Unit := do let _ ← next

/-- Reads the characters of a kind that come next. -/
def readWhile (p : Char → Bool) : Reader (List Char) := do
  let c ← get
  let read := c.rest.takeWhile p
  let place := read.foldl (fun place x => place.after x) c.place
  set { c with rest := c.rest.dropWhile p, place := place }
  return read

def isBlank (c : Char) : Bool := c = ' ' || c = '\t' || c = '\n' || c = '\r'

/-- Passes over blanks; gives the character after them, which stays unread. -/
def peekAfterBlanks : Reader (Option Char) := do
  let _ ← readWhile isBlank
  peek

/-- Reads the rest of a word. -/
def word : List Char → Reader Unit
  | [] => return ()
  | w :: ws => do
    match ← peek with
    | none => failHere .endInValue
    | some c =>
      if c ≠ w then failNext .expectedWord
      pass
      word ws

/-- The parts of a number literal. -/
structure Literal where
  negative : Bool
  whole : List Char
  fraction : List Char
  exponent : Option Int

def digitsValue (ds : List Char) : Nat := ds.foldl (fun n c => n * 10 + (c.toNat - 48)) 0

/-- The digits before the point, of which the first is zero only if it is the only one. -/
def wholePart (atEnd : Cause) : Reader (List Char) := do
  let some c ← peek | failHere atEnd
  if !c.isDigit then failNext .badNumber
  pass
  if c = '0' ∧ (← peek).any Char.isDigit then failNext .badNumber
  return c :: (← readWhile Char.isDigit)

/-- The digits after the point, none if there is no point. -/
def fractionPart (atEnd : Cause) : Reader (List Char) := do
  if (← peek) ≠ some '.' then return []
  pass
  match ← readWhile Char.isDigit with
  | [] => if (← peek).isNone then failNext atEnd else failNext .badNumber
  | ds => return ds

/-- The mark of an exponent, its sign and its first digit. -/
def exponentStart (atEnd : Cause) : Reader (Option (Bool × Char)) := do
  unless (← peek) = some 'e' || (← peek) = some 'E' do return none
  pass
  let sign ← peek
  if sign = some '+' || sign = some '-' then pass
  let some c ← peek | failHere atEnd
  if !c.isDigit then failNext .badNumber
  pass
  return some (sign = some '-', c)

/-- The greatest exponent that is told apart from larger ones. -/
def exponentLimit : Nat := 0x7fffffff

/-- The further digits of an exponent. Where it is too large for any number but zero, the digit that
makes it so is at fault. -/
def exponentDigits (mayBeLarge : Bool) : Nat → Nat → Reader Nat
  | 0, n => return n
  | fuel + 1, n => do
    match ← peek with
    | none => return n
    | some c =>
      unless c.isDigit do return n
      pass
      let longer := n * 10 + (c.toNat - 48)
      if exponentLimit < longer ∧ !mayBeLarge then failHere .numberTooLarge
      exponentDigits mayBeLarge fuel longer

/-- A number literal, after its sign. -/
def literal (negative : Bool) : Reader Literal := do
  let whole ← wholePart .endInValue
  let fraction ← fractionPart .endInValue
  match ← exponentStart .endInValue with
  | none => return ⟨negative, whole, fraction, none⟩
  | some (below, first) =>
    let isZero := (whole ++ fraction).all (· = '0')
    let n ← exponentDigits (below || isZero) (← bound) (digitsValue [first])
    return ⟨negative, whole, fraction, some (if below then -n else n)⟩

/-- Passes over a number literal, after its sign. -/
def skipNumber : Reader Unit := do
  let _ ← wholePart .badNumber
  let _ ← fractionPart .badNumber
  if (← exponentStart .badNumber).isSome then
    let _ ← readWhile Char.isDigit

def hexDigit? (c : Char) : Option Nat :=
  if '0' ≤ c ∧ c ≤ '9' then some (c.toNat - 48)
  else if 'a' ≤ c ∧ c ≤ 'f' then some (c.toNat - 87)
  else if 'A' ≤ c ∧ c ≤ 'F' then some (c.toNat - 55)
  else none

/-- Reads characters up to a number of bytes; gives the bytes that are missing. One byte of a
character counts like the character. -/
def readBytes : Nat → List Char → Place → Nat × List Char × Place
  | 0, cs, p => (0, cs, p)
  | n + 1, [], p => (n + 1, [], p)
  | n + 1, c :: cs, p =>
    if c.utf8Size ≤ n + 1 then readBytes (n + 1 - c.utf8Size) cs (p.after c)
    else (0, cs, ⟨p.line, p.column + n + 1⟩)
termination_by _ cs => cs.length

/-- A UTF-16 unit in four hexadecimal digits. -/
def unit : Reader Nat := do
  let c ← get
  let (missing, rest, place) := readBytes 4 c.rest c.place
  set { c with rest, place }
  if 0 < missing then failHere .endInString
  match (c.rest.take 4).mapM hexDigit? with
  | some [a, b, c, d] => return ((a * 16 + b) * 16 + c) * 16 + d
  | _ => failHere .badEscape

/-- The character of a short escape. -/
def shortEscape? : Char → Option Char
  | '\x22' => some '\x22'
  | '\\' => some '\\'
  | '/' => some '/'
  | 'b' => some '\x08'
  | 'f' => some '\x0c'
  | 'n' => some '\n'
  | 'r' => some '\r'
  | 't' => some '\t'
  | _ => none

/-- Reads the character that has to come between the units of a pair. -/
def pairMark (mark : Char) : Reader Unit := do
  let some c ← peek | failHere .endInString
  if c ≠ mark then failNext .brokenPair
  pass

/-- The character of an escape that is given by its code: a unit, or two that form a pair. -/
def codeEscape : Reader Char := do
  let high ← unit
  if high < 0xd800 ∨ 0xe000 ≤ high then return .ofNat high
  if 0xdc00 ≤ high then failHere .loneSurrogate
  pairMark '\\'
  pairMark 'u'
  let low ← unit
  if low < 0xdc00 ∨ 0xe000 ≤ low then failHere .loneSurrogate
  return .ofNat (0x10000 + (high - 0xd800) * 0x400 + (low - 0xdc00))

/-- An escape, after its mark. -/
def escape : Reader Char := do
  let some e ← peek | failHere .endInString
  if e = 'u' then
    pass
    codeEscape
  else
    let some c := shortEscape? e | failNext .badEscape
    pass
    return c

/-- The rest of a string after its opening quote; `done` is what has been read, last first. -/
def stringRest : Nat → List Char → Reader String
  | 0, _ => failHere .endInString
  | fuel + 1, done => do
    match ← next with
    | none => failHere .endInString
    | some '\x22' => return .ofList done.reverse
    | some '\\' => stringRest fuel ((← escape) :: done)
    | some c => if c.toNat < 0x20 then failHere .controlCharacter else stringRest fuel (c :: done)

/-- A string after its opening quote. -/
def string : Reader String := do stringRest (← bound) []

/-- Passes over an escape, after its mark. -/
def skipEscape : Reader Unit := do
  let some e ← peek | failHere .endInString
  if e ≠ 'u' ∧ (shortEscape? e).isNone then failNext .badEscape
  pass
  if e = 'u' then let _ ← unit

/-- Passes over the rest of a string after its opening quote. -/
def skipStringRest : Nat → Reader Unit
  | 0 => failHere .endInString
  | fuel + 1 => do
    let some c ← peek | failHere .endInString
    if c.toNat < 0x20 then failHere .controlCharacter
    pass
    if c = '\x22' then return
    if c = '\\' then skipEscape
    skipStringRest fuel

/-- Passes over a string after its opening quote. -/
def skipString : Reader Unit := do skipStringRest (← bound)

end PreviewEnv.Json
