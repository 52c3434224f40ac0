import PreviewEnv.Template.Filter
import PreviewEnv.Template.Slice

/-!
Evaluation of expressions and statements against named values. A name that nothing is known by is
undefined; to print it, test it, compare it, loop over it or look into it is a fault. Each round of
a loop has a scope of its own.
-/

namespace PreviewEnv.Template

/-- The names of one scope with their values. -/
abbrev Frame := List (String × Value)

/-- The scopes that are open, the innermost first. -/
abbrev Scopes := List Frame

namespace Scopes

/-- The value of a name in the innermost scope that has it. -/
def get? (scopes : Scopes) (name : String) : Option Value :=
  scopes.findSome? fun frame => frame.lookup name

/-- Gives a name a value in the innermost scope. -/
def set (scopes : Scopes) (name : String) (v : Value) : Scopes :=
  match scopes with
  | [] => [[(name, v)]]
  | frame :: rest => ((name, v) :: frame.filter fun e => e.1 != name) :: rest

end Scopes

/-- What looking into a value gives where there is nothing. -/
def missingIn (parent : Value) : Outcome Value :=
  if parent.isUndefined then .error ⟨.undefinedValue, none⟩ else .ok (.undefined false)

/-- The value of an integer literal. -/
def literal (n : Nat) : Value := if fitsUnsigned 64 n then .int n else .word n

/-- What the filter of a name makes of a value and arguments. -/
def applyFilter (name : String) (v : Value) (args : List Value) : Outcome Value :=
  match Filter.find? name with
  | some f => f v args
  | none => throw ⟨.unknownFilter, some ("filter " ++ name ++ " is unknown")⟩

open Operation (holds)

mutual

/-- The value of an expression. -/
def Expr.eval (scopes : Scopes) : Expr → Outcome Value
  | .none => .ok .none
  | .bool b => .ok (.bool b)
  | .int n => .ok (literal n)
  | .float x => .ok (.float x)
  | .str s => .ok (.str s)
  | .var name => .ok ((scopes.get? name).getD (.undefined false))
  | .list es => Value.list .whole <$> evalAll scopes es
  | .map es => Value.ofPairs <$> evalEntries scopes es
  | .attr e name => do
    let v ← Expr.eval scopes e
    match v.attribute? name with
    | some w => return w
    | none => missingIn v
  | .item e index => do
    let v ← Expr.eval scopes e
    let i ← Expr.eval scopes index
    match v.item? i with
    | some w => return w
    | none => missingIn v
  | .slice e start stop step => do
    let v ← Expr.eval scopes e
    let start ← Expr.eval scopes start
    let stop ← Expr.eval scopes stop
    let step ← Expr.eval scopes step
    Slice.take v start stop step
  | .call (.var name) args => do
    let _ ← evalAll scopes args
    match scopes.get? name with
    | some v => Operation.invalid ("value of type " ++ v.kindText ++ " is not callable")
    | none => throw ⟨.unknownFunction, some (name ++ " is unknown")⟩
  | .call (.attr e name) args => do
    let v ← Expr.eval scopes e
    let _ ← evalAll scopes args
    match v.attribute? name with
    | some w => Operation.invalid ("value of type " ++ w.kindText ++ " is not callable")
    | none =>
      if v.isUndefined then throw ⟨.undefinedValue, none⟩
      throw ⟨.unknownMethod, some (v.kindText ++ " has no method named " ++ name)⟩
  | .call f args => do
    let v ← Expr.eval scopes f
    let _ ← evalAll scopes args
    Operation.invalid ("value of type " ++ v.kindText ++ " is not callable")
  | .filter name e args => do
    let v ← Expr.eval scopes e
    applyFilter name v (← evalAll scopes args)
  | .test name e args => do
    let v ← Expr.eval scopes e
    let args ← evalAll scopes args
    match Test.find? name with
    | some p =>
      Filter.atMost 0 args
      return .bool (p v)
    | none => throw ⟨.unknownTest, some ("test " ++ name ++ " is unknown")⟩
  | .neg e => do Operation.neg (← Expr.eval scopes e)
  | .not e => do return .bool (!(← holds (← Expr.eval scopes e)))
  | .binary op left right => do
    let a ← Expr.eval scopes left
    match op with
    | .or => if ← holds a then return a else Expr.eval scopes right
    | .and => if ← holds a then Expr.eval scopes right else return a
    | op => Operation.apply op a (← Expr.eval scopes right)
  | .compare first rest => do evalChain scopes (← Expr.eval scopes first) rest
  | .cond condition yes => do
    if ← holds (← Expr.eval scopes condition) then Expr.eval scopes yes else return .undefined true
  | .condElse condition yes no => do
    if ← holds (← Expr.eval scopes condition) then Expr.eval scopes yes else Expr.eval scopes no

def evalAll (scopes : Scopes) : List Expr → Outcome (List Value)
  | [] => .ok []
  | e :: es => do
    let v ← Expr.eval scopes e
    return v :: (← evalAll scopes es)

def evalEntries (scopes : Scopes) : List (Expr × Expr) → Outcome (List (Value × Value))
  | [] => .ok []
  | (k, e) :: es => do
    let k ← Expr.eval scopes k
    let v ← Expr.eval scopes e
    return (k, v) :: (← evalEntries scopes es)

/-- Whether the comparisons of a value with what follows it hold. The first that does not ends the
chain, and what comes after it is not evaluated. -/
def evalChain (scopes : Scopes) (left : Value) : List (Comparison × Expr) → Outcome Value
  | [] => .ok (.bool true)
  | (c, e) :: rest => do
    let right ← Expr.eval scopes e
    if ← Operation.compare c left right then evalChain scopes right rest else return .bool false

end

/-- What has been printed, and the scopes that are open. -/
structure Page where
  scopes : Scopes
  text : String

abbrev PageM := StateT Page (Except Fault)

/-- An outcome as part of the statement on a line. -/
def onLine {α : Type} (line : Nat) : Outcome α → PageM α
  | .ok a => return a
  | .error f => throw ⟨f.kind, f.detail, line⟩

def print (s : String) : PageM Unit :=
  modify fun p => { p with text := p.text ++ s }

def scopes : PageM Scopes := return (← get).scopes

mutual

/-- Gives the names of a target their values. -/
def Target.assign (line : Nat) (v : Value) : Target → PageM Unit
  | .name s => modify fun p => { p with scopes := p.scopes.set s v }
  | .attr e _ => do
    let owner ← onLine line (e.eval (← scopes))
    onLine line (Operation.invalid ("cannot assign to an attribute of " ++ owner.kindText))
  | .items ts => do
    match v.items? with
    | some vs =>
      if vs.length ≠ ts.length then
        throw ⟨.cannotUnpack, some "sequence of wrong length", line⟩
      assignAll line vs ts
    | none => throw ⟨.cannotUnpack, some "not a sequence", line⟩

def assignAll (line : Nat) : List Value → List Target → PageM Unit
  | v :: vs, t :: ts => do
    Target.assign line v t
    assignAll line vs ts
  | _, _ => return ()

end

/-- What a loop knows about its round: of `total` rounds the one with the index `i`. -/
def loopValue (i total : Nat) (values : List Value) : Value :=
  let at? (i : Nat) : Value := (values[i]?).getD (.undefined false)
  .map [
    (.str "depth", .int 1),
    (.str "depth0", .int 0),
    (.str "first", .bool (i = 0)),
    (.str "index", .int (i + 1)),
    (.str "index0", .int i),
    (.str "last", .bool (i + 1 = total)),
    (.str "length", .int total),
    (.str "nextitem", at? (i + 1)),
    (.str "previtem", if i = 0 then .undefined false else at? (i - 1)),
    (.str "revindex", .int (total - i)),
    (.str "revindex0", .int (total - i - 1))]

/-- Runs a block in a scope of its own. -/
def inScope (frame : Frame) (run : PageM Unit) : PageM Unit := do
  modify fun p => { p with scopes := frame :: p.scopes }
  run
  modify fun p => { p with scopes := p.scopes.drop 1 }

/-- The values of a loop for which its condition holds. -/
def kept (line : Nat) (target : Target) (condition : Expr) : List Value → PageM (List Value)
  | [] => return []
  | v :: vs => do
    Target.assign line v target
    let keep ← onLine line (condition.eval (← scopes) >>= holds)
    let rest ← kept line target condition vs
    return if keep then v :: rest else rest

/-- Runs the body of a loop for each value, the first of which has the index `i`. -/
def eachRound (line : Nat) (target : Target) (run : PageM Unit) (all : List Value) (i : Nat) :
    List Value → PageM Unit
  | [] => return ()
  | v :: vs => do
    inScope [("loop", loopValue i all.length all)] do
      Target.assign line v target
      run
    eachRound line target run all (i + 1) vs

/-- What filters make of a value, one after the other. -/
def filtered (line : Nat) : List FilterCall → Value → PageM Value
  | [], v => return v
  | f :: fs, v => do
    let args ← onLine line (evalAll (← scopes) f.args)
    filtered line fs (← onLine line (applyFilter f.name v args))

mutual

/-- Runs a statement. -/
def Stmt.run : Stmt → PageM Unit
  | .text s => print s
  | .emit line e => do
    let v ← onLine line (e.eval (← scopes))
    match v with
    | .undefined false => throw ⟨.undefinedValue, none, line⟩
    | v => print v.text
  | .forEach line target subject condition body otherwise => do
    let v ← onLine line (subject.eval (← scopes))
    let values ← match v, v.elements? with
      | .undefined false, _ => throw ⟨.undefinedValue, none, line⟩
      | _, some vs => pure vs
      | _, none => throw ⟨.invalidOperation, some (v.kindText ++ " is not iterable"), line⟩
    let values ← match condition with
      | none => pure values
      | some c => do
        modify fun p => { p with scopes := [] :: p.scopes }
        let vs ← kept line target c values
        modify fun p => { p with scopes := p.scopes.drop 1 }
        pure vs
    if values.isEmpty then runAll otherwise
    else eachRound line target (runAll body) values 0 values
  | .ifElse line condition yes no => do
    if ← onLine line (condition.eval (← scopes) >>= holds) then runAll yes else runAll no
  | .set line target e => do
    let v ← onLine line (e.eval (← scopes))
    Target.assign line v target
  | .capture line target filters body => do
    let before ← get
    set { before with text := "" }
    runAll body
    let inner ← get
    set { inner with text := before.text }
    Target.assign line (← filtered line filters (.str inner.text)) target

def runAll : List Stmt → PageM Unit
  | [] => return ()
  | s :: ss => do
    Stmt.run s
    runAll ss

end

end PreviewEnv.Template
