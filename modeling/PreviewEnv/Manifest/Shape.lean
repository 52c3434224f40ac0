import PreviewEnv.Decimal.Layout
import PreviewEnv.Manifest.Timestamp
import PreviewEnv.Text.Quoted
import PreviewEnv.Tree.Basic

/-!
The shapes of typed values. A tree is read by a shape: what comes out holds the fields that the
shape names and no others, and a value of another type makes the whole unreadable.
-/

namespace PreviewEnv

/-- What a value is, as a message about a value of the wrong type says it. -/
def Tree.kindText : Tree → String
  | .null => "null"
  | .bool b => "boolean \x60" ++ (if b then "true" else "false") ++ "\x60"
  | .int n => "integer \x60" ++ toString n ++ "\x60"
  | .float x => "floating point \x60" ++ Decimal.Layout.compact.text x ++ "\x60"
  | .str s => "string " ++ Text.quote s
  | .arr _ => "sequence"
  | .map _ => "map"

/-- What a record has for a field that is missing, and for one that is null. -/
structure Presence where
  /-- What a missing field is, if it may be missing: a value, or nothing. -/
  missing : Option (Option Tree)
  /-- What a null field is, if null is not read as a value. -/
  null : Option (Option Tree)
  /-- Whether a list that stands for the record has to have an item for the field. -/
  positional : Bool

namespace Presence

/-- The field has to have a value. -/
def required : Presence := ⟨none, none, true⟩

/-- A field that is missing or null is left out. -/
def optional : Presence := ⟨some none, some none, false⟩

/-- A field that is missing or null is `t`. -/
def orElse (t : Tree) : Presence := ⟨some (some t), some (some t), false⟩

/-- A field that is missing is `t`. -/
def default (t : Tree) : Presence := ⟨some (some t), none, false⟩

end Presence

/-- How a record is read besides its fields. -/
inductive RecordStyle where
  /-- Other entries are dropped, and the last entry of a field counts. -/
  | lenient
  /-- Other entries are dropped, and a field is given once at most. A list stands for the record
  whose fields it gives in order. -/
  | strict
  /-- Other entries are kept after the fields, in the order in which they come. A field is given
  once at most. -/
  | extensible
deriving DecidableEq, Repr

mutual

inductive Shape where
  | any
  | truth
  /-- An integer of so many bits. -/
  | integer (signed : Bool) (bits : Nat)
  | text
  | time
  /-- One text and no other. -/
  | constant (s : String)
  | textMap
  | listOf (item : Shape)
  /-- A record, with what messages call it. -/
  | record (name : String) (style : RecordStyle) (fields : List Field)

/-- A field of a record. -/
inductive Field where
  | mk (name : String) (presence : Presence) (shape : Shape)

end

namespace Field

/-- A field that is left out where it is missing or null. -/
def optional (name : String) (shape : Shape) : Field := mk name .optional shape

/-- A text that is empty where it is missing or null. -/
def textOrEmpty (name : String) : Field := mk name (.orElse (.str "")) .text

/-- A text that says of what type a value is, which may be missing. -/
def constant (name s : String) : Field :=
  mk name { Presence.optional with null := none } (.constant s)

end Field

namespace Shape

def mismatchText (expected : String) (t : Tree) : String :=
  "invalid type: " ++ t.kindText ++ ", expected " ++ expected

def mismatch {α : Type} (expected : String) (t : Tree) : Except String α :=
  .error (mismatchText expected t)

def wrongValue {α : Type} (expected : String) (t : Tree) : Except String α :=
  .error ("invalid value: " ++ t.kindText ++ ", expected " ++ expected)

def readTruth : Tree → Except String Tree
  | .bool b => .ok (.bool b)
  | t => mismatch "a boolean" t

/-- The name of a type of integers. -/
def integerName (signed : Bool) (bits : Nat) : String :=
  (if signed then "i" else "u") ++ toString bits

def readInteger (signed : Bool) (bits : Nat) : Tree → Except String Tree
  | .int n =>
    if if signed then fitsSigned bits n else fitsUnsigned bits n then .ok (.int n)
    else wrongValue (integerName signed bits) (.int n)
  | t => mismatch (integerName signed bits) t

def readText : Tree → Except String Tree
  | .str s => .ok (.str s)
  | t => mismatch "a string" t

def readTime : Tree → Except String Tree
  | .str s =>
    match Timestamp.ofString s with
    | .ok stamp => .ok (.str stamp.text)
    | .error problem => .error problem.text
  | t => mismatch "an RFC 3339 formatted date and time string" t

def readConstant (s : String) (t : Tree) : Except String Tree := do
  let t ← readText t
  if t = .str s then return t else wrongValue s t

/-- What has been read of a record: its fields, the last one first, each a value or nothing; and its
other entries, the last one first. -/
structure Filling where
  fields : List (String × Option Tree)
  others : List (String × Tree)

namespace Filling

def empty : Filling := ⟨[], []⟩

def duplicateText (field : String) : String := "duplicate field \x60" ++ field ++ "\x60"

/-- The fields in the order of their shapes, with what the missing ones are. -/
def complete (s : Filling) : List (String × Presence) → Except String (List (String × Tree))
  | [] => return []
  | (name, presence) :: rest => do
    let some value := s.fields.lookup name <|> presence.missing
      | throw ("missing field \x60" ++ name ++ "\x60")
    let es ← s.complete rest
    return match value with
      | some t => (name, t) :: es
      | none => es

/-- The record that has been read. -/
def toTree (s : Filling) (style : RecordStyle) (fields : List (String × Presence)) :
    Except String Tree := do
  let es ← s.complete fields
  return match style with
    | .extensible => .map (es ++ s.others.reverse)
    | _ => .ofEntries es

end Filling

/-- What is wrong with a list that does not go up to the field with the given index. -/
def tooShortText (name : String) (count index : Nat) : String :=
  "invalid length " ++ toString index ++ ", expected " ++ name ++ " with " ++ toString count ++
    (if count = 1 then " element" else " elements")

/-- A field and how it is read from a tree. -/
abbrev FieldReader := String × Presence × (Tree → Except String Tree)

/-- The value of a field that is given. -/
def fieldValue (presence : Presence) (read : Tree → Except String Tree) (t : Tree) :
    Except String (Option Tree) :=
  match presence.null, t with
  | some value, .null => .ok value
  | _, t => some <$> read t

/-- Reads an entry of a record. -/
def readEntry (style : RecordStyle) (readers : List FieldReader) (s : Filling)
    (e : String × Tree) : Except String Filling := do
  match readers.lookup e.1 with
  | some (presence, read) =>
    return { s with fields := (e.1, ← fieldValue presence read e.2) :: s.fields }
  | none => return if style = .extensible then { s with others := e :: s.others } else s

/-- Reads the items of a list that stands for a record of `count` fields, of which the first `index`
have been read. -/
def readItems (name : String) (count : Nat) :
    Nat → List FieldReader → List Tree → Filling → Except String Filling
  | _, [], [], s => return s
  | _, [], items, _ => throw ("invalid length " ++ toString (count + items.length) ++
      ", expected fewer elements in array")
  | index, (field, presence, read) :: rest, t :: items, s => do
    let value ← fieldValue presence read t
    readItems name count (index + 1) rest items { s with fields := (field, value) :: s.fields }
  | index, (_, presence, _) :: rest, [], s =>
    if presence.positional then throw (tooShortText name count index)
    else readItems name count (index + 1) rest [] s

def presences {α : Type} (readers : List (String × Presence × α)) : List (String × Presence) :=
  readers.map fun r => (r.1, r.2.1)

def readRecord (name : String) (style : RecordStyle) (readers : List FieldReader) (t : Tree) :
    Except String Tree := do
  let s ← match t, style with
    | .map es, _ => es.foldlM (readEntry style readers) .empty
    | .arr items, .strict => readItems name readers.length 0 readers items .empty
    | t, _ => mismatch name t
  s.toTree style (presences readers)

def readTextMap : Tree → Except String Tree
  | .map es => Tree.map <$> es.mapM fun e => (e.1, ·) <$> readText e.2
  | t => mismatch "a map" t

mutual

/-- The tree as the shape reads it, or what is wrong with it. -/
def read : Shape → Tree → Except String Tree
  | any, t => .ok t
  | truth, t => readTruth t
  | integer signed bits, t => readInteger signed bits t
  | text, t => readText t
  | time, t => readTime t
  | constant s, t => readConstant s t
  | textMap, t => readTextMap t
  | listOf item, t =>
    match t with
    | .arr items => Tree.arr <$> items.mapM fun t => read item t
    | _ => mismatch "a sequence" t
  | record name style fields, t => readRecord name style (fieldReaders fields) t

def fieldReaders : List Field → List FieldReader
  | [] => []
  | .mk name presence shape :: fields =>
    (name, presence, fun t => read shape t) :: fieldReaders fields

end

end Shape

end PreviewEnv
