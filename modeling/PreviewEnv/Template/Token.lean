import PreviewEnv.Template.Fault

namespace PreviewEnv.Template

/-- Operators and brackets. -/
inductive Symbol where
  | plus
  | minus
  | times
  | divide
  | floorDivide
  | power
  | percent
  | bang
  | dot
  | comma
  | colon
  | tilde
  | assign
  | pipe
  | eq
  | ne
  | gt
  | ge
  | lt
  | le
  | openParen
  | closeParen
  | openBracket
  | closeBracket
  | openBrace
  | closeBrace
deriving DecidableEq, Repr

/-- The symbols of two characters. -/
def Symbol.ofPair? : Char → Char → Option Symbol
  | '/', '/' => some floorDivide
  | '*', '*' => some power
  | '=', '=' => some eq
  | '!', '=' => some ne
  | '>', '=' => some ge
  | '<', '=' => some le
  | _, _ => none

/-- The symbols of one character. -/
def Symbol.ofChar? : Char → Option Symbol
  | '+' => some plus
  | '-' => some minus
  | '*' => some times
  | '/' => some divide
  | '%' => some percent
  | '!' => some bang
  | '.' => some dot
  | ',' => some comma
  | ':' => some colon
  | '~' => some tilde
  | '=' => some assign
  | '|' => some pipe
  | '>' => some gt
  | '<' => some lt
  | '(' => some openParen
  | ')' => some closeParen
  | '[' => some openBracket
  | ']' => some closeBracket
  | '\x7b' => some openBrace
  | '\x7d' => some closeBrace
  | _ => none

inductive Token where
  | text (s : String)
  | variableStart
  | variableEnd
  | blockStart
  | blockEnd
  | name (s : String)
  | str (s : String)
  | int (n : Nat)
  | float (x : Float)
  | symbol (s : Symbol)
  /-- Text that is no token; reading it is a fault. -/
  | broken (kind : FaultKind) (detail : Option String)

/-- A token with the line on which it begins. -/
structure Located where
  token : Token
  line : Nat

end PreviewEnv.Template
