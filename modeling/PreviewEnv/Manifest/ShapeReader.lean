import PreviewEnv.Json.Value
import PreviewEnv.Manifest.Shape

/-!
Reading a JSON text by a shape. What comes out is what the shape makes of the tree that the text
stands for, but a fault tells where in the text it is; a text is not read beyond the first fault,
and what is dropped is only passed over.
-/

namespace PreviewEnv.Shape

open Json

variable {α : Type}

/-- What a rule makes of a value. -/
def ofRule : Except String α → Reader α
  | .ok a => return a
  | .error what => failValue what

/-- A value that is no container, by the rule for it, which says what is wrong with a container. -/
def scalarReader (rule : Tree → Except String Tree) : Reader Tree := byKind
  (ofRule (rule (.arr [])))
  (ofRule (rule .empty))
  (do ofRule (rule (← scalar)))

/-- What a reader with one level of containers less makes of a container. -/
def inside (depth : Nat) (p : Nat → Reader α) : Reader α :=
  match depth with
  | 0 => failNext .tooDeep
  | depth + 1 => p depth

/-- A field and how it is read from a text. -/
abbrev FieldTextReader := String × Presence × Reader Tree

/-- The value of a field that is given. -/
def fieldTextValue (presence : Presence) (read : Reader Tree) : Reader (Option Tree) := do
  match presence.null, ← peekAfterBlanks with
  | some value, some 'n' => word "null".toList; return value
  | _, _ => some <$> read

/-- Reads an entry of a record after its key. -/
def readTextEntry (style : RecordStyle) (depth : Nat) (readers : List FieldTextReader) (s : Filling)
    (key : String) : Reader Filling := do
  match readers.lookup key with
  | some (presence, read) =>
    if style ≠ .lenient ∧ (s.fields.lookup key).isSome then
      failValue (Filling.duplicateText key)
    colon
    return { s with fields := (key, ← fieldTextValue presence read) :: s.fields }
  | none =>
    colon
    match style with
    | .extensible => return { s with others := (key, ← value depth) :: s.others }
    | _ => skip; return s

/-- Reads the items of a list that stands for a record of `count` fields, of which the first `index`
have been read. -/
def readTextItems (name : String) (count : Nat) :
    Nat → List FieldTextReader → Filling → Reader Filling
  | _, [], s => return s
  | index, (field, presence, read) :: rest, s => do
    if ← comesItem (index = 0) then
      let value ← fieldTextValue presence read
      readTextItems name count (index + 1) rest { s with fields := (field, value) :: s.fields }
    else if presence.positional then failValue (tooShortText name count index)
    else readTextItems name count (index + 1) rest s

/-- The record that has been read. -/
def finish (style : RecordStyle) (readers : List FieldTextReader) (s : Filling) : Reader Tree :=
  ofRule (s.toTree style (presences readers))

/-- A list that stands for a record, or that does not if the style is not strict. -/
def recordFromList (name : String) (style : RecordStyle) (readers : List FieldTextReader) :
    Reader Tree := do
  pass
  let fields : Reader Tree := do
    if style ≠ .strict then failValue (mismatchText name (.arr []))
    finish style readers (← readTextItems name readers.length 0 readers .empty)
  closed fields endOfArray

mutual

/-- Reads what the shape describes, with so many levels of containers at most. -/
def reader : Shape → Nat → Reader Tree
  | any, depth => value depth
  | truth, _ => scalarReader readTruth
  | integer signed bits, _ => scalarReader (readInteger signed bits)
  | text, _ => scalarReader readText
  | time, _ => scalarReader readTime
  | constant s, _ => do ofRule (readConstant s (← scalarReader readText))
  | textMap, depth => byKind
    (ofRule (readTextMap (.arr [])))
    (inside depth fun _ => mapOf (scalarReader readText))
    (do ofRule (readTextMap (← scalar)))
  | listOf item, depth => byKind
    (inside depth fun depth => Tree.arr <$> array (reader item depth))
    (failValue (mismatchText "a sequence" .empty))
    (do failValue (mismatchText "a sequence" (← scalar)))
  | record name style fields, depth => byKind
    (if style = .extensible then failValue (mismatchText name (.arr []))
      else inside depth fun depth => recordFromList name style (fieldTextReaders fields depth))
    (inside depth fun depth =>
      let readers := fieldTextReaders fields depth
      map (readTextEntry style depth readers) (finish style readers) .empty)
    (do failValue (mismatchText name (← scalar)))

def fieldTextReaders : List Field → Nat → List FieldTextReader
  | [], _ => []
  | .mk name presence shape :: fields, depth =>
    (name, presence, reader shape depth) :: fieldTextReaders fields depth

end

/-- What a text stands for, or what is wrong with it. -/
def ofJson (shape : Shape) (text : String) : Except Fault Tree :=
  Json.readText (shape.reader maxDepth) text

end PreviewEnv.Shape
