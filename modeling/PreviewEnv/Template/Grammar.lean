import PreviewEnv.Template.Expr
import PreviewEnv.Template.Token

/-!
The grammar of templates. Of the operators, `or` binds least, then `and`, `not`, the comparisons,
`+ -`, `~`, `* / // %`, `**`, and most of all the minus sign. Comparisons form chains, the inline
`if` leads to the right and all else from left to right. Attributes, items and calls belong to what
stands before them, a minus sign included, and filters and tests to all of that. Expressions,
operands and statements may be nested a hundred and fifty deep in all.
-/

namespace PreviewEnv.Template

namespace Grammar

/-- The tokens still to be read, the line of the last one that was, and how many expressions,
operands and statements are open. -/
structure Position where
  rest : List Located
  line : Nat
  depth : Nat

abbrev Parser := StateT Position (Except Fault)

variable {α : Type}

def failWith (detail : String) : Parser α := do
  throw ⟨.syntaxError, some detail, (← get).line⟩

/-- The next token, which stays unread. -/
def peek : Parser (Option Token) := do
  match (← get).rest with
  | [] => return none
  | ⟨.broken kind detail, line⟩ :: _ => throw ⟨kind, detail, line⟩
  | t :: _ => return some t.token

/-- Reads one token. -/
def advance : Parser Unit :=
  modify fun p => match p.rest with
    | [] => p
    | t :: rest => { p with rest, line := t.line }

/-- How deep expressions, operands and statements may be nested. -/
def deepest : Nat := 150

/-- What the fault of too deep a template is called. -/
def tooDeep : Parser α := failWith "template exceeds maximum recursion limits"

/-- Reads one level deeper. -/
def nested (p : Parser α) : Parser α := do
  if deepest ≤ (← get).depth then tooDeep
  modify fun p => { p with depth := p.depth + 1 }
  let a ← p
  modify fun p => { p with depth := p.depth - 1 }
  return a

def symbolText : Symbol → String
  | .plus => "+"
  | .minus => "-"
  | .times => "*"
  | .divide => "/"
  | .floorDivide => "//"
  | .power => "**"
  | .percent => "%"
  | .bang => "!"
  | .dot => "."
  | .comma => ","
  | .colon => ":"
  | .tilde => "~"
  | .assign => "="
  | .pipe => "|"
  | .eq => "=="
  | .ne => "!="
  | .gt => ">"
  | .ge => ">="
  | .lt => "<"
  | .le => "<="
  | .openParen => "("
  | .closeParen => ")"
  | .openBracket => "["
  | .closeBracket => "]"
  | .openBrace => "\x7b"
  | .closeBrace => "\x7d"

def quotedSymbol (s : Symbol) : String := "\x60" ++ symbolText s ++ "\x60"

/-- What a message calls a token. -/
def tokenText : Token → String
  | .text _ => "template-data"
  | .variableStart => "start of variable block"
  | .variableEnd => "end of variable block"
  | .blockStart => "start of block"
  | .blockEnd => "end of block"
  | .name _ => "identifier"
  | .str _ => "string"
  | .int _ => "integer"
  | .float _ => "float"
  | .symbol s => quotedSymbol s
  | .broken _ _ => "broken token"

/-- Fails because the next token is not what is expected; the token is read first. -/
def unexpected (expected : String) : Parser α := do
  let found := match ← peek with
    | some t => tokenText t
    | none => "end of input"
  advance
  failWith ("unexpected " ++ found ++ ", expected " ++ expected)

def nextIsSymbol (s : Symbol) : Parser Bool := do
  match ← peek with
  | some (.symbol t) => return t = s
  | _ => return false

def nextIsName (word : String) : Parser Bool := do
  match ← peek with
  | some (.name t) => return t == word
  | _ => return false

/-- Reads a symbol if it comes next. -/
def skipSymbol (s : Symbol) : Parser Bool := do
  if ← nextIsSymbol s then
    advance
    return true
  return false

/-- Reads a word if it comes next. -/
def skipName (word : String) : Parser Bool := do
  if ← nextIsName word then
    advance
    return true
  return false

def expectSymbol (s : Symbol) : Parser Unit := do
  unless ← skipSymbol s do unexpected (quotedSymbol s)

def expectWord (word : String) : Parser Unit := do
  unless ← skipName word do unexpected word

def expectName : Parser String := do
  match ← peek with
  | some (.name s) =>
    advance
    return s
  | _ => unexpected "identifier"

def expectVariableEnd : Parser Unit := do
  match ← peek with
  | some .variableEnd => advance
  | _ => unexpected "end of variable block"

def expectBlockEnd : Parser Unit := do
  match ← peek with
  | some .blockEnd => advance
  | _ => unexpected "end of block"

/-- The operator that a token is at a level of binding, the least binding level being 0. -/
def operatorAt? : Nat → Token → Option Operator
  | 0, .name "or" => some .or
  | 1, .name "and" => some .and
  | 4, .symbol .plus => some .add
  | 4, .symbol .minus => some .sub
  | 5, .symbol .tilde => some .concat
  | 6, .symbol .times => some .mul
  | 6, .symbol .divide => some .div
  | 6, .symbol .floorDivide => some .floorDiv
  | 6, .symbol .percent => some .rem
  | 7, .symbol .power => some .pow
  | _, _ => none

/-- The level of prefix negation. -/
def notLevel : Nat := 2

def comparisonLevel : Nat := 3

/-- The level past the last operator. -/
def operandLevel : Nat := 8

/-- Reads a comparison if it comes next. -/
def comparison? : Parser (Option Comparison) := do
  let found : Option Comparison := match ← peek with
    | some (.symbol .eq) => some .eq
    | some (.symbol .ne) => some .ne
    | some (.symbol .lt) => some .lt
    | some (.symbol .le) => some .le
    | some (.symbol .gt) => some .gt
    | some (.symbol .ge) => some .ge
    | some (.name "in") => some .within
    | some (.name "not") => some .outside
    | _ => none
  if found.isSome then advance
  if found = some .outside then expectWord "in"
  return found

/-- Whether the tag or the brackets end before another item. -/
def atEnd : Parser Bool := do
  match ← peek with
  | some (.symbol .closeParen) | some .variableEnd | some .blockEnd => return true
  | _ => return false

/-- The text of the string literals that come next, one after the other. -/
def adjacentTexts : Nat → String → Parser String
  | 0, _ => tooDeep
  | fuel + 1, done => do
    match ← peek with
    | some (.str s) =>
      advance
      adjacentTexts fuel (done ++ s)
    | _ => return done

/-- Names between dots, as one name. -/
def dottedName : Nat → String → Parser String
  | 0, _ => tooDeep
  | fuel + 1, done => do
    let name := done ++ (← expectName)
    if ← skipSymbol .dot then dottedName fuel (name ++ ".") else return name

mutual

/-- An expression, which may be an inline `if`. -/
def expr : Nat → Parser Expr
  | 0 => tooDeep
  | fuel + 1 => nested (conditional fuel)

/-- An expression that stands where an `if` may follow it. -/
def plainExpr : Nat → Parser Expr
  | 0 => tooDeep
  | fuel + 1 => nested (operation fuel 0)

def conditional : Nat → Parser Expr
  | 0 => tooDeep
  | fuel + 1 => do
    let e ← operation fuel 0
    conditionTail fuel e

/-- The inline conditions after an expression. -/
def conditionTail : Nat → Expr → Parser Expr
  | 0, _ => tooDeep
  | fuel + 1, e => do
    if ← skipName "if" then
      let condition ← operation fuel 0
      if ← skipName "else" then
        let no ← conditional fuel
        conditionTail fuel (.condElse condition e no)
      else conditionTail fuel (.cond condition e)
    else return e

/-- An expression whose operators bind at least as much as a level. -/
def operation : Nat → Nat → Parser Expr
  | 0, _ => tooDeep
  | fuel + 1, level => do
    if level = notLevel then
      if ← skipName "not" then return .not (← operation fuel level)
      operation fuel (level + 1)
    else if operandLevel ≤ level then operand fuel
    else
      let left ← operation fuel (level + 1)
      if level = comparisonLevel then
        match ← comparisons fuel [] with
        | [] => return left
        | rest => return .compare left rest
      else operationTail fuel level left

/-- The comparisons that follow an expression, with their right sides; `done` are those already
read, last first. -/
def comparisons : Nat → List (Comparison × Expr) → Parser (List (Comparison × Expr))
  | 0, _ => tooDeep
  | fuel + 1, done => do
    let some c ← comparison? | return done.reverse
    let e ← operation fuel (comparisonLevel + 1)
    comparisons fuel ((c, e) :: done)

/-- The operators of one level that follow an expression, with their right sides. -/
def operationTail : Nat → Nat → Expr → Parser Expr
  | 0, _, _ => tooDeep
  | fuel + 1, level, left => do
    match (← peek).bind (operatorAt? level) with
    | some op =>
      advance
      let right ← operation fuel (level + 1)
      operationTail fuel level (.binary op left right)
    | none => return left

/-- A primary expression with its minus signs, attributes, items, calls, filters and tests. -/
def operand : Nat → Parser Expr
  | 0 => tooDeep
  | fuel + 1 => do
    let e ← signed fuel
    let e ← postfixes fuel e
    filters fuel e

def signed : Nat → Parser Expr
  | 0 => tooDeep
  | fuel + 1 => do
    if ← skipSymbol .minus then return .neg (← signed fuel)
    primary fuel

def postfixes : Nat → Expr → Parser Expr
  | 0, _ => tooDeep
  | fuel + 1, e => do
    match ← peek with
    | some (.symbol .dot) =>
      advance
      match ← peek with
      | some (.name s) =>
        advance
        postfixes fuel (.attr e s)
      | some (.int n) =>
        advance
        postfixes fuel (.item e (.int n))
      | some _ => unexpected "identifier or integer"
      | none => unexpected "identifier"
    | some (.symbol .openBracket) =>
      advance
      let start ← if ← nextIsSymbol .colon then pure none else some <$> expr fuel
      if ← skipSymbol .colon then
        let isOpen := (← nextIsSymbol .closeBracket) || (← nextIsSymbol .colon)
        let stop ← if isOpen then pure Expr.none else expr fuel
        let stepped ← skipSymbol .colon
        let step ← if stepped ∧ !(← nextIsSymbol .closeBracket) then expr fuel else pure Expr.none
        expectSymbol .closeBracket
        postfixes fuel (.slice e (start.getD .none) stop step)
      else
        expectSymbol .closeBracket
        match start with
        | some index => postfixes fuel (.item e index)
        | none => failWith "empty subscript"
    | some (.symbol .openParen) =>
      advance
      let args ← items fuel .closeParen []
      postfixes fuel (.call e args)
    | _ => return e

def filters : Nat → Expr → Parser Expr
  | 0, _ => tooDeep
  | fuel + 1, e => do
    match ← peek with
    | some (.symbol .pipe) =>
      advance
      let call ← filterCall fuel
      filters fuel (.filter call.name e call.args)
    | some (.name "is") =>
      advance
      let negated ← skipName "not"
      let call ← filterCall fuel
      let e := Expr.test call.name e call.args
      filters fuel (if negated then .not e else e)
    | _ => return e

/-- A name with the arguments in parentheses after it, if there are any. -/
def filterCall : Nat → Parser FilterCall
  | 0 => tooDeep
  | fuel + 1 => do
    let name ← dottedName fuel ""
    let args ← if ← skipSymbol .openParen then items fuel .closeParen [] else pure []
    return ⟨name, args⟩

def primary : Nat → Parser Expr
  | 0 => tooDeep
  | fuel + 1 => nested do
    match ← peek with
    | some (.name s) =>
      advance
      match s with
      | "true" | "True" => return .bool true
      | "false" | "False" => return .bool false
      | "none" | "None" => return .none
      | s => return .var s
    | some (.str _) => return .str (← adjacentTexts fuel "")
    | some (.int n) =>
      advance
      return .int n
    | some (.float x) =>
      advance
      return .float x
    | some (.symbol .openParen) =>
      advance
      if ← skipSymbol .closeParen then return .list []
      let first ← expr fuel
      if ← skipSymbol .comma then return .list (first :: (← items fuel .closeParen []))
      expectSymbol .closeParen
      return first
    | some (.symbol .openBracket) =>
      advance
      return .list (← items fuel .closeBracket [])
    | some (.symbol .openBrace) =>
      advance
      return .map (← entries fuel [])
    | some t =>
      advance
      failWith ("unexpected " ++ tokenText t)
    | none => unexpected "expression"

/-- Expressions between commas up to a closing symbol, after which a last comma may stand; `done`
are those already read, last first. -/
def items : Nat → Symbol → List Expr → Parser (List Expr)
  | 0, _, _ => tooDeep
  | fuel + 1, close, done => do
    if ← skipSymbol close then return done.reverse
    let e ← expr fuel
    if ← skipSymbol .comma then items fuel close (e :: done)
    else
      unless ← skipSymbol close do unexpected (quotedSymbol .comma)
      return (e :: done).reverse

/-- The entries of a map up to its closing brace. -/
def entries : Nat → List (Expr × Expr) → Parser (List (Expr × Expr))
  | 0, _ => tooDeep
  | fuel + 1, done => do
    if ← skipSymbol .closeBrace then return done.reverse
    let k ← expr fuel
    expectSymbol .colon
    let v ← expr fuel
    if ← skipSymbol .comma then entries fuel ((k, v) :: done)
    else
      unless ← skipSymbol .closeBrace do unexpected (quotedSymbol .comma)
      return ((k, v) :: done).reverse

end

/-- The names that cannot be given a value. -/
def reserved : List String := ["true", "True", "false", "False", "none", "None", "loop", "self"]

/-- A name that is given a value, or an attribute that is reached from it through dots. -/
def targetName (dotted : Bool) : Nat → Target → Parser Target
  | 0, _ => tooDeep
  | fuel + 1, t => do
    unless dotted && (← skipSymbol .dot) do return t
    let name ← expectName
    let owner : Expr := match t with
      | .attr e s => .attr e s
      | .name s => .var s
      | .items _ => .none
    targetName dotted fuel (.attr owner name)

/-- The targets between commas; `done` are those already read, last first. -/
def targets (dotted : Bool) : Nat → List Target → Parser Target
  | 0, _ => tooDeep
  | fuel + 1, done => do
    if (← atEnd) || (← nextIsName "in") then return .items done.reverse
    let t ← if ← skipSymbol .openParen then do
        let t ← targets dotted fuel []
        expectSymbol .closeParen
        pure t
      else do
        let name ← expectName
        if reserved.contains name then
          failWith ("cannot assign to reserved variable name " ++ name)
        targetName dotted fuel (.name name)
    if ← skipSymbol .comma then targets dotted fuel (t :: done)
    else if done.isEmpty then return t
    else return .items (t :: done).reverse

/-- Expressions between commas up to the end of a tag, after which a last comma may stand; one
expression without a comma stands for itself. -/
def exprs : Nat → List Expr → Parser Expr
  | 0, _ => tooDeep
  | fuel + 1, done => do
    if !done.isEmpty && (← atEnd) then return .list done.reverse
    let e ← expr fuel
    if ← skipSymbol .comma then exprs fuel (e :: done)
    else if done.isEmpty then return e
    else return .list (e :: done).reverse

/-- Filters between bars up to the end of a tag. -/
def filterCalls : Nat → Parser (List FilterCall)
  | 0 => tooDeep
  | fuel + 1 => do
    let call ← filterCall fuel
    if ← skipSymbol .pipe then return call :: (← filterCalls fuel) else return [call]

mutual

/-- The statements up to a tag that begins with one of the words, which stays unread, or up to the
end of the template. -/
def body : Nat → List String → List Stmt → Parser (List Stmt)
  | 0, _, _ => tooDeep
  | fuel + 1, stops, done => do
    match ← peek with
    | none => return done.reverse
    | some (.text s) =>
      advance
      body fuel stops (.text s :: done)
    | some .variableStart =>
      advance
      let line := (← get).line
      let e ← expr fuel
      expectVariableEnd
      body fuel stops (.emit line e :: done)
    | some .blockStart =>
      advance
      match ← peek with
      | none => unexpected "keyword"
      | some (.name word) =>
        if stops.contains word then return done.reverse
        let s ← statement fuel word
        expectBlockEnd
        body fuel stops (s :: done)
      | some t =>
        advance
        failWith ("unknown " ++ tokenText t ++ ", expected statement")
    | some _ => unexpected "template text"

/-- The statement that begins with a word. -/
def statement : Nat → String → Parser Stmt
  | 0, _ => tooDeep
  | fuel + 1, word => nested do
    advance
    let line := (← get).line
    match word with
    | "if" => ifElse fuel line
    | "for" => forEach fuel line
    | "set" => assignment fuel line
    | word => failWith ("unknown statement " ++ word)

/-- A loop, after `for`. -/
def forEach : Nat → Nat → Parser Stmt
  | 0, _ => tooDeep
  | fuel + 1, line => do
    let target ← targets false fuel []
    expectWord "in"
    let subject ← plainExpr fuel
    let condition ← if ← skipName "if" then some <$> expr fuel else pure none
    expectBlockEnd
    let each ← body fuel ["endfor", "else"] []
    let otherwise ← if ← skipName "else" then do
        expectBlockEnd
        body fuel ["endfor"] []
      else pure []
    advance
    return .forEach line target subject condition each otherwise

/-- An assignment, after `set`: of values, or of the text that a body prints. -/
def assignment : Nat → Nat → Parser Stmt
  | 0, _ => tooDeep
  | fuel + 1, line => do
    let target ← targets true fuel []
    if ← skipSymbol .assign then return .set line target (← exprs fuel [])
    let filters ← if ← skipSymbol .pipe then filterCalls fuel else pure []
    match ← peek with
    | some .blockEnd => advance
    | _ => unexpected "assignment operator"
    let inner ← body fuel ["endset"] []
    advance
    return .capture line target filters inner

/-- A condition with its branches, after `if` or `elif`. -/
def ifElse : Nat → Nat → Parser Stmt
  | 0, _ => tooDeep
  | fuel + 1, line => do
    let condition ← plainExpr fuel
    expectBlockEnd
    let yes ← body fuel ["endif", "else", "elif"] []
    if ← skipName "else" then
      expectBlockEnd
      let no ← body fuel ["endif"] []
      advance
      return .ifElse line condition yes no
    if ← skipName "elif" then
      let line := (← get).line
      return .ifElse line condition yes [← ifElse fuel line]
    advance
    return .ifElse line condition yes []

end

end Grammar

/-- The statements of a template. Between two tokens the grammar goes down at most as many levels as
there are operator levels and forms of operands. -/
def statements (tokens : List Located) : Except Fault (List Stmt) := do
  let (stmts, _) ← (Grammar.body (32 * (tokens.length + 2)) [] []).run ⟨tokens, 1, 0⟩
  return stmts

end PreviewEnv.Template
