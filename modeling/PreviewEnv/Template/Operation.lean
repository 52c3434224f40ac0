import PreviewEnv.Template.Fault
import PreviewEnv.Template.Expr
import PreviewEnv.Template.Value
import PreviewEnv.WordRange

/-!
What the operators compute. Integers are exact up to 128 bits and a float on either side makes the
result a float; `/` always gives a float. Texts are joined by `+`, and so are sequences; what `+`
and `*` make of sequences is derived. An undefined value, unless it is a silent one, can be neither
compared nor joined to a text.
-/

namespace PreviewEnv.Template

-- Powers are those of the core library, whatever else is imported.
attribute [local instance (high)] instPowNat

/-- The place of the sign in a word of 128 bits. -/
def signBit : Nat := 127

/-- Why an operation cannot be carried out. -/
structure Failure where
  kind : FaultKind
  detail : Option String

abbrev Outcome := Except Failure

namespace Operation

variable {α : Type}

def invalid (detail : String) : Outcome α := .error ⟨.invalidOperation, some detail⟩

def impossible (op : String) (a b : Value) : Outcome α :=
  invalid ("tried to use " ++ op ++ " operator on unsupported types " ++ a.kindText ++ " and " ++
    b.kindText)

def unable (op : String) (a b : Value) : Outcome α :=
  invalid ("unable to calculate " ++ a.nestedText ++ " " ++ op ++ " " ++ b.nestedText)

/-- Fails for an undefined value that is not silent. -/
def defined : Value → Outcome Unit
  | .undefined false => .error ⟨.undefinedValue, none⟩
  | _ => .ok ()

/-- Whether a value holds, which an undefined one cannot tell. -/
def holds (v : Value) : Outcome Bool := do
  defined v
  return v.isTrue

/-- Two numbers brought to one form. -/
inductive Pair where
  | ints (m n : Int)
  | floats (x y : Float)

/-- The signed word that has the bits of an unsigned one. -/
def signedWord (bits n : Nat) : Int :=
  if fitsSigned bits n then n else n - 2 ^ bits

/-- Two unsigned words are taken as signed ones; beside anything else a word has to fit a signed one
as it is. -/
def Pair.of? (a b : Value) : Option Pair :=
  match a, b with
  | .float _, _ | _, .float _ => do return .floats (← a.toFloat?) (← b.toFloat?)
  | .word m, .word n => some (.ints (signedWord 128 m) (signedWord 128 n))
  | _, _ => do return .ints (← a.toInt?) (← b.toInt?)

/-- An integer result, which has to fit 128 bits. -/
def fit (op : String) (a b : Value) (n : Int) : Outcome Value :=
  if fitsSigned 128 n then .ok (.int n) else unable op a b

def arithmetic (op : String) (ints : Int → Int → Int) (floats : Float → Float → Float)
    (a b : Value) : Outcome Value :=
  match Pair.of? a b with
  | some (.ints m n) => fit op a b (ints m n)
  | some (.floats x y) => .ok (.float (floats x y))
  | none => impossible op a b

def add (a b : Value) : Outcome Value :=
  match a, b with
  | .str s, .str t => .ok (.str (s ++ t))
  | .list _ vs, .list _ ws => .ok (.list .derived (vs ++ ws))
  | _, _ => arithmetic "+" (· + ·) (· + ·) a b

/-- The number of repetitions that a value asks for. -/
def times (v : Value) : Outcome Nat :=
  match v.toInt? with
  | some n =>
    if fitsUnsigned 64 n then .ok n.toNat else invalid "cannot repeat so many times"
  | none => invalid "strings can only be multiplied with integers"

def mul (a b : Value) : Outcome Value :=
  match a, b with
  | .str s, n | n, .str s => do
    return .str (.ofList (List.replicate (← times n) s.toList).flatten)
  | .list _ vs, n | n, .list _ vs => do
    return .list .derived (List.replicate (← times n) vs).flatten
  | _, _ => arithmetic "*" (· * ·) (· * ·) a b

def div (a b : Value) : Outcome Value :=
  match a.toFloat?, b.toFloat? with
  | some x, some y => .ok (.float (x / y))
  | _, _ => impossible "/" a b

/-- The rest of a division that rounds toward zero, exact and with the sign of the dividend. -/
def floatRemainder (x y : Float) : Float :=
  match Binary64.ofFloat? x, Binary64.ofFloat? y with
  | some a, some b => ((a.rest? b).map Binary64.toFloat).getD (0.0 / 0.0)
  | some _, none => if y.isNaN then y else x
  | none, _ => 0.0 / 0.0

/-- The whole part of a quotient, chosen so that the rest is not negative. -/
def euclideanQuotient (x y : Float) : Float :=
  let q := x / y
  let whole := if q < 0.0 then q.ceil else q.floor
  if floatRemainder x y < 0.0 then (if 0.0 < y then whole - 1.0 else whole + 1.0) else whole

def floorDiv (a b : Value) : Outcome Value :=
  match Pair.of? a b with
  | some (.ints m n) => if n = 0 then unable "//" a b else fit "//" a b (m / n)
  | some (.floats x y) => .ok (.float (euclideanQuotient x y))
  | none => impossible "//" a b

def rem (a b : Value) : Outcome Value :=
  match Pair.of? a b with
  | some (.ints m n) => if n = 0 then unable "%" a b else .ok (.int (m % n))
  | some (.floats x y) => .ok (.float (floatRemainder x y))
  | none => impossible "%" a b

def pow (a b : Value) : Outcome Value :=
  match Pair.of? a b with
  | some (.ints m n) =>
    if !fitsUnsigned 32 n || (2 ≤ m.natAbs && 128 < n) then unable "**" a b
    else if m.natAbs < 2 then .ok (.int (m ^ (n.toNat % 2 + if n = 0 then 0 else 2)))
    else fit "**" a b (m ^ n.toNat)
  | some (.floats x y) => .ok (.float (x ^ y))
  | none => impossible "**" a b

/-- The number with the other sign. The least number of a signed word has no counterpart among the
signed ones, and as an unsigned word it stays as it is. -/
def neg : Value → Outcome Value
  | .int n => fit "-" (.int 0) (.int n) (-n)
  | .word n =>
    if n = 2 ^ signBit then .ok (.word n)
    else if fitsSigned 128 n then .ok (.int (-n))
    else .error ⟨.invalidOperation, none⟩
  | .float x => .ok (.float (-x))
  | _ => .error ⟨.invalidOperation, none⟩

/-- Whether a text occurs in another one. -/
def occursIn (part : List Char) : List Char → Bool
  | [] => part.isEmpty
  | c :: rest => part.isPrefixOf (c :: rest) || occursIn part rest

/-- Whether a container holds a value: a part of a text, an item of a list or a key of a map. -/
def contains (container v : Value) : Outcome Bool :=
  match container with
  | .undefined _ => .ok false
  | .str s => .ok (occursIn v.text.toList s.toList)
  | .list _ vs => .ok (vs.any fun w => w.equal v)
  | .map es => .ok (Value.entry? v es).isSome
  | _ => invalid "cannot perform a containment check on this value"

/-- Whether a comparison holds between two values. -/
def compare (c : Comparison) (a b : Value) : Outcome Bool := do
  defined a
  defined b
  match c with
  | .eq => return a.equal b
  | .ne => return !a.equal b
  | .lt => return a.order b == .lt
  | .le => return a.order b != .gt
  | .gt => return a.order b == .gt
  | .ge => return a.order b != .lt
  | .within => contains b a
  | .outside => return !(← contains b a)

/-- The texts of two values, one after the other. -/
def concat (a b : Value) : Outcome Value := do
  defined a
  defined b
  return .str (a.text ++ b.text)

/-- The result of an operator on two values. The two sides of `and` and `or` are weighed by the
evaluation, which may not need the second one. -/
def apply (op : Operator) (a b : Value) : Outcome Value :=
  match op with
  | .or => .ok (if a.isTrue then a else b)
  | .and => .ok (if a.isTrue then b else a)
  | .add => add a b
  | .sub => arithmetic "-" (· - ·) (· - ·) a b
  | .concat => concat a b
  | .mul => mul a b
  | .div => div a b
  | .floorDiv => floorDiv a b
  | .rem => rem a b
  | .pow => pow a b

end Operation

end PreviewEnv.Template
