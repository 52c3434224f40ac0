import PreviewEnv.Template.Operation
import PreviewEnv.Text.Blank
import PreviewEnv.Text.Case

namespace PreviewEnv.Template

namespace Filter

variable {α : Type}

/-- The text of an argument, which has to be defined. -/
def textOf (v : Value) : Outcome (List Char) := do
  Operation.defined v
  return v.text.toList

/-- The text of an argument that may be missing. -/
def optionalText : Option Value → Outcome (Option (List Char))
  | none | some (.undefined true) | some .none => .ok none
  | some v => some <$> textOf v

/-- The argument at a position that has to be there. -/
def argument (args : List Value) (i : Nat) : Outcome Value :=
  match args[i]? with
  | some v => .ok v
  | none => .error ⟨.missingArgument, none⟩

/-- Fails if there are more arguments than a filter takes. -/
def atMost (n : Nat) (args : List Value) : Outcome Unit :=
  if n < args.length then .error ⟨.tooManyArguments, none⟩ else .ok ()

def onText (f : List Char → List Char) (v : Value) (args : List Value) : Outcome Value := do
  let cs ← textOf v
  atMost 0 args
  return .str (.ofList (f cs))

/-- The value, or the first argument if the value is undefined or, when the second argument holds,
counts as false. -/
def default (v : Value) (args : List Value) : Outcome Value := do
  atMost 2 args
  let lax ← match args[1]? with
    | some w => Operation.holds w
    | none => pure false
  return if v.isUndefined || (lax && !v.isTrue) then args[0]?.getD (.str "") else v

def length (v : Value) (args : List Value) : Outcome Value := do
  atMost 0 args
  match v.length? with
  | some n => return .int n
  | none => Operation.invalid ("cannot calculate length of value of type " ++ v.kindText)

def first (v : Value) (args : List Value) : Outcome Value := do
  atMost 0 args
  match v with
  | .str _ | .list _ _ | .map _ =>
    return ((v.elements?.getD []).head?).getD (.undefined false)
  | _ => Operation.invalid "cannot get first item from value"

def last (v : Value) (args : List Value) : Outcome Value := do
  atMost 0 args
  match v with
  | .str _ | .list _ _ => return ((v.elements?.getD []).getLast?).getD (.undefined false)
  | _ => Operation.invalid "cannot get last item from value"

def join (v : Value) (args : List Value) : Outcome Value := do
  let separator ← optionalText args[0]?
  atMost 1 args
  match v.elements? with
  | some vs => return .str (.ofList (List.intercalate (separator.getD []) (vs.map (·.text.toList))))
  | none => Operation.invalid ("cannot join value of type " ++ v.kindText)

/-- The text with `to` in the place of every `from`, found from left to right; an empty `from`
stands before every character and at the end. -/
def replaceAll (old new : List Char) : Nat → List Char → List Char
  | 0, cs => cs
  | fuel + 1, cs =>
    if old.isEmpty then
      match cs with
      | [] => new
      | c :: rest => new ++ c :: replaceAll old new fuel rest
    else if old.isPrefixOf cs then new ++ replaceAll old new fuel (cs.drop old.length)
    else match cs with
      | [] => []
      | c :: rest => c :: replaceAll old new fuel rest

def replace (v : Value) (args : List Value) : Outcome Value := do
  let cs ← textOf v
  let old ← textOf (← argument args 0)
  let new ← textOf (← argument args 1)
  atMost 2 args
  return .str (.ofList (replaceAll old new (cs.length + 1) cs))

/-- The text without white space at its ends, or without the characters of the argument. -/
def trim (v : Value) (args : List Value) : Outcome Value := do
  let cs ← textOf v
  let chars ← optionalText args[0]?
  atMost 1 args
  let drop := match chars with
    | some set => fun c => set.contains c
    | none => Text.isBlank
  return .str (.ofList ((cs.dropWhile drop).reverse.dropWhile drop).reverse)

/-- The text with the first letter of each word in upper case and the others in lower case. -/
def titleCase (atStart : Bool) : List Char → List Char
  | [] => []
  | c :: rest =>
    if Text.isPunctuation c || Text.isBlank c then c :: titleCase true rest
    else (if atStart then Text.upperChar c else Text.lowerChar c) ++ titleCase false rest

def capitalize : List Char → List Char
  | [] => []
  | c :: rest => Text.upperChar c ++ Text.lower rest

/-- The filter of a name, on a value and further arguments. -/
def find? : String → Option (Value → List Value → Outcome Value)
  | "upper" => some (onText Text.upper)
  | "lower" => some (onText Text.lower)
  | "title" => some (onText (titleCase true))
  | "capitalize" => some (onText capitalize)
  | "default" | "d" => some default
  | "length" | "count" => some length
  | "first" => some first
  | "last" => some last
  | "join" => some join
  | "replace" => some replace
  | "trim" => some trim
  | _ => none

end Filter

namespace Test

/-- The test of a name on a value. -/
def find? : String → Option (Value → Bool)
  | "defined" => some fun v => !v.isUndefined
  | "undefined" => some Value.isUndefined
  | "none" => some fun v => v.kindRank == 1
  | "boolean" => some fun v => v.kindRank == 2
  | "number" => some fun v => v.kindRank == 3
  | "string" => some fun v => v.kindRank == 4
  | "sequence" => some fun v => v.kindRank == 5
  | "mapping" => some fun v => v.kindRank == 6
  | "true" => some fun v => v.kindRank == 2 && v.isTrue
  | "false" => some fun v => v.kindRank == 2 && !v.isTrue
  | _ => none

end Test

end PreviewEnv.Template
