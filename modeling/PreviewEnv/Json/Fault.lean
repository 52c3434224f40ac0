/-!
What is wrong with a JSON text, and where. A place is a line and the number of bytes of the line
that have been read; what is wrong with a value rather than with the text has no place of its own.
-/

namespace PreviewEnv.Json

inductive Cause where
  | endInArray
  | endInMap
  | endInString
  | endInValue
  | expectedColon
  | expectedArrayEnd
  | expectedMapEnd
  | expectedWord
  | expectedValue
  | badEscape
  | badNumber
  | numberTooLarge
  | controlCharacter
  | keyNotText
  | loneSurrogate
  | brokenPair
  | trailingComma
  | trailingText
  | tooDeep
  /-- A value that is not what it should be. -/
  | value (what : String)
deriving DecidableEq, Repr

def Cause.text : Cause → String
  | endInArray => "EOF while parsing a list"
  | endInMap => "EOF while parsing an object"
  | endInString => "EOF while parsing a string"
  | endInValue => "EOF while parsing a value"
  | expectedColon => "expected \x60:\x60"
  | expectedArrayEnd => "expected \x60,\x60 or \x60]\x60"
  | expectedMapEnd => "expected \x60,\x60 or \x60\x7d\x60"
  | expectedWord => "expected ident"
  | expectedValue => "expected value"
  | badEscape => "invalid escape"
  | badNumber => "invalid number"
  | numberTooLarge => "number out of range"
  | controlCharacter => "control character (\\u0000-\\u001F) found while parsing a string"
  | keyNotText => "key must be a string"
  | loneSurrogate => "lone leading surrogate in hex escape"
  | brokenPair => "unexpected end of hex escape"
  | trailingComma => "trailing comma"
  | trailingText => "trailing characters"
  | tooDeep => "recursion limit exceeded"
  | value what => what

/-- Whether the text ends where it should go on. -/
def Cause.isEnd : Cause → Bool
  | endInArray | endInMap | endInString | endInValue => true
  | _ => false

/-- A line, counted from one, and a number of bytes in it. -/
structure Place where
  line : Nat
  column : Nat
deriving DecidableEq, Repr

/-- The place after a character. -/
def Place.after (c : Char) (p : Place) : Place :=
  if c = '\n' then ⟨p.line + 1, 0⟩ else ⟨p.line, p.column + c.utf8Size⟩

structure Fault where
  cause : Cause
  place : Option Place
deriving DecidableEq, Repr

/-- The fault at a place, unless it has a place already. -/
def Fault.placed (p : Place) (f : Fault) : Fault := { f with place := f.place.or (some p) }

def Fault.text (f : Fault) : String :=
  match f.place with
  | none => f.cause.text
  | some p => f.cause.text ++ " at line " ++ toString p.line ++ " column " ++ toString p.column

end PreviewEnv.Json
