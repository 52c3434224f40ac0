import PreviewEnv.Json.Scan
import PreviewEnv.Tree.Basic
import PreviewEnv.WordRange

/-!
Reading the values of a JSON text. An integer literal that fits 64 bits, signed or unsigned, is an
integer; any other number is a float and must be finite. Its digits are read as far as they fit 64
bits, and a power of ten does the rest. Of two entries with one key the later one counts. Containers
may be nested 127 levels deep, but for those that are only passed over.
-/

namespace PreviewEnv.Json

variable {α σ : Type}

/-- The digits appended to a number as long as it fits 64 bits, and how many they were. -/
def append64 (n : Nat) : List Char → Nat × Nat
  | [] => (n, 0)
  | c :: cs =>
    let longer := n * 10 + (c.toNat - 48)
    if fitsUnsigned 64 longer then
      let (m, count) := append64 longer cs
      (m, count + 1)
    else (n, 0)

/-- The float that a literal stands for. -/
def Literal.float? (l : Literal) : Option Binary64 :=
  let (n, count) := append64 0 l.whole
  let (significand, places) := append64 n l.fraction
  Binary64.ofSteps? l.negative significand
    (l.exponent.getD 0 + (l.whole.length - count : Nat) - places)

/-- The number that a literal stands for. -/
def Literal.number? (l : Literal) : Option Tree :=
  let n : Int := digitsValue l.whole
  let value := if l.negative then -n else n
  let exact := l.fraction.isEmpty && l.exponent.isNone && !(l.negative && n == 0)
  if exact && (fitsSigned 64 value || fitsUnsigned 64 value) then some (.int value)
  else l.float?.map .float

/-- A number, after its sign. -/
def number (negative : Bool) : Reader Tree := do
  match (← literal negative).number? with
  | some t => return t
  | none => failHere .numberTooLarge

/-- Reads what is in a container and then its end. A fault inside comes before one at the end; but
the end is read in any case, and a fault without a place is found where that leads. -/
def closed (inside : Reader α) (atEnd : Reader Unit) : Reader α := fun c =>
  match inside c with
  | .ok a c => (do atEnd; return a : Reader α) c
  | .error f c =>
    match atEnd c with
    | .ok _ c | .error _ c => .error f c

def endOfArray : Reader Unit := do
  match ← peekAfterBlanks with
  | none => failNext .endInArray
  | some ']' => pass
  | some ',' =>
    pass
    failNext (if (← peekAfterBlanks) = some ']' then .trailingComma else .trailingText)
  | some _ => failNext .trailingText

def endOfMap : Reader Unit := do
  match ← peekAfterBlanks with
  | none => failNext .endInMap
  | some '\x7d' => pass
  | some ',' => failNext .trailingComma
  | some _ => failNext .trailingText

/-- Whether an item of an array comes next; the comma before it is passed over. -/
def comesItem (first : Bool) : Reader Bool := do
  let some c ← peekAfterBlanks | failNext .endInArray
  if c = ']' then return false
  if first then return true
  if c ≠ ',' then failNext .expectedArrayEnd
  pass
  match ← peekAfterBlanks with
  | none => failNext .endInValue
  | some ']' => failNext .trailingComma
  | some _ => return true

/-- Whether the key of an entry comes next, with its opening quote, which is passed over with the
comma before it. -/
def comesKey (first : Bool) : Reader Bool := do
  let some c ← peekAfterBlanks | failNext .endInMap
  if c = '\x7d' then return false
  unless first do
    if c ≠ ',' then failNext .expectedMapEnd
    pass
    match ← peekAfterBlanks with
    | none => failNext .endInValue
    | some '\x7d' => failNext .trailingComma
    | some _ => pure ()
  if (← peek) ≠ some '\x22' then failNext .keyNotText
  pass
  return true

/-- Passes over the colon after a key. -/
def colon : Reader Unit := do
  match ← peekAfterBlanks with
  | none => failNext .endInMap
  | some ':' => pass
  | some _ => failNext .expectedColon

def items (item : Reader α) : Nat → Bool → Reader (List α)
  | 0, _ => failNext .endInArray
  | fuel + 1, first => do
    unless ← comesItem first do return []
    let a ← item
    return a :: (← items item fuel false)

/-- An array. -/
def array (item : Reader α) : Reader (List α) := do
  pass
  closed (do items item (← bound) true) endOfArray

def entries (entry : σ → String → Reader σ) : Nat → Bool → σ → Reader σ
  | 0, _, _ => failNext .endInMap
  | fuel + 1, first, s => do
    unless ← comesKey first do return s
    entries entry fuel false (← entry s (← string))

/-- A map, of which each entry is read by `entry` after its key, from the colon on, and of which
`finish` makes something before its end is read. -/
def map (entry : σ → String → Reader σ) (finish : σ → Reader α) (s : σ) : Reader α := do
  pass
  closed (do finish (← entries entry (← bound) true s)) endOfMap

/-- A value that is no container. -/
def scalar : Reader Tree := do
  match ← peekAfterBlanks with
  | none => failNext .endInValue
  | some 'n' => word "null".toList; return .null
  | some 't' => word "true".toList; return .bool true
  | some 'f' => word "false".toList; return .bool false
  | some '\x22' => pass; return .str (← string)
  | some '-' => pass; number true
  | some c => if c.isDigit then number false else failNext .expectedValue

/-- A value whose kind decides how it is read. -/
def byKind (list record other : Reader α) : Reader α := placed do
  match ← peekAfterBlanks with
  | some '[' => list
  | some '\x7b' => record
  | _ => other

/-- A map whose values are read in one way. -/
def mapOf (value : Reader Tree) : Reader Tree :=
  map (fun es k => do colon; return (k, ← value) :: es) (fun es => return .ofEntries es.reverse) []

/-- A value with so many levels of containers at most. -/
def value : Nat → Reader Tree
  | 0 => byKind (failNext .tooDeep) (failNext .tooDeep) scalar
  | depth + 1 => byKind
    (Tree.arr <$> array (value depth))
    (mapOf (value depth))
    scalar

/-- How deep the containers of a value may be nested. -/
def maxDepth : Nat := 127

/-- The end of the text. -/
def endOfText : Reader Unit := do
  if (← peekAfterBlanks).isSome then failNext .trailingText

/-- What a reader makes of a text and nothing but the text. -/
def readText (p : Reader α) (text : String) : Except Fault α :=
  let cs := text.toList
  match (do let a ← p; endOfText; return a : Reader α) ⟨cs, ⟨1, 0⟩, cs.length + 1⟩ with
  | .ok a _ => .ok a
  | .error f _ => .error f

def skipScalar : Reader Unit := do
  match ← peekAfterBlanks with
  | none => failNext .endInValue
  | some 'n' => word "null".toList
  | some 't' => word "true".toList
  | some 'f' => word "false".toList
  | some '\x22' => pass; skipString
  | some '-' => pass; skipNumber
  | some c => if c.isDigit then skipNumber else failNext .expectedValue

/-- Passes over the comma before the next part of a container, or over the end of the container;
says whether a part comes next. -/
def skipsTo (close : Char) (inside unfinished : Cause) (first : Bool) : Reader Bool := do
  let some c ← peekAfterBlanks | failNext inside
  if c = close then
    pass
    return false
  if first then return true
  if c ≠ ',' then failNext unfinished
  pass
  return true

/-- Passes over the key of an entry with its colon. -/
def skipKey : Reader Unit := do
  match ← peekAfterBlanks with
  | none => failNext .endInMap
  | some '\x22' => pass
  | some _ => failNext .keyNotText
  skipString
  colon

def skipItems (skip : Reader Unit) : Nat → Bool → Reader Unit
  | 0, _ => failNext .endInArray
  | fuel + 1, first => do
    if ← skipsTo ']' .endInArray .expectedArrayEnd first then
      skip
      skipItems skip fuel false

def skipEntries (skip : Reader Unit) : Nat → Bool → Reader Unit
  | 0, _ => failNext .endInMap
  | fuel + 1, first => do
    if ← skipsTo '\x7d' .endInMap .expectedMapEnd first then
      skipKey
      skip
      skipEntries skip fuel false

/-- Passes over a value with so many levels of containers at most. -/
def skipValue : Nat → Reader Unit
  | 0 => byKind (failNext .tooDeep) (failNext .tooDeep) skipScalar
  | depth + 1 => byKind
    (do pass; skipItems (skipValue depth) (← bound) true)
    (do pass; skipEntries (skipValue depth) (← bound) true)
    skipScalar

/-- Passes over a value. It has no more levels than the text has characters. -/
def skip : Reader Unit := do skipValue (← bound)

end PreviewEnv.Json

namespace PreviewEnv.Tree

/-- The tree that a JSON text stands for. -/
def ofJson? (text : String) : Option Tree :=
  (Json.readText (Json.value Json.maxDepth) text).toOption

end PreviewEnv.Tree
