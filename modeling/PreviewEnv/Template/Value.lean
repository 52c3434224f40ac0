import PreviewEnv.Decimal.Layout
import PreviewEnv.Text.Quoted
import PreviewEnv.Tree.Basic
import PreviewEnv.WordRange

/-!
The values that expressions have: what a manifest can hold, and the undefined value of a name or an
item that is not there. Values of different kinds are ordered by their kinds; truth values count as
numbers where they meet numbers in a test of equality, and numbers are compared exactly, whether
they are whole or not.
-/

namespace PreviewEnv.Template

-- Powers are those of the core library, whatever else is imported.
attribute [local instance (high)] instPowNat

/-- Whether a sequence stands in the template or the context as a whole, or was made from other
sequences by an operator or a slice. -/
inductive Origin where
  | whole
  | derived
deriving DecidableEq, Repr

inductive Value where
  /-- What a missing name has. The silent one, of an inline condition without an `else`, prints as
  nothing; the other is a fault when it is printed, tested or compared. -/
  | undefined (silent : Bool)
  | none
  | bool (b : Bool)
  | int (n : Int)
  /-- A whole number that was written with more than 64 bits, as an unsigned word of 128 bits. -/
  | word (n : Nat)
  | float (x : Float)
  | str (s : String)
  | list (origin : Origin) (items : List Value)
  | map (entries : List (Value × Value))
deriving Inhabited

namespace Value

mutual

def ofTree : Tree → Value
  | .null => none
  | .bool b => bool b
  | .int n => int n
  | .float x => float x.toFloat
  | .str s => str s
  | .arr items => list .whole (ofItems items)
  | .map es => map (ofEntries es)

def ofItems : List Tree → List Value
  | [] => []
  | t :: ts => ofTree t :: ofItems ts

def ofEntries : List (String × Tree) → List (Value × Value)
  | [] => []
  | (k, t) :: es => (str k, ofTree t) :: ofEntries es

end

/-- The characters of a text, each as a text. -/
def characters (s : String) : List Value := s.toList.map fun c => str (.singleton c)

/-- The text of a float in a layout, and of what is not finite. -/
def floatText (layout : Decimal.Layout) (x : Float) : String :=
  match Binary64.ofFloat? x with
  | some b => layout.text b
  | Option.none => if x.isNaN then "NaN" else if x < 0.0 then "-inf" else "inf"

mutual

/-- The text of a value inside a container, where strings are quoted. -/
def nestedText : Value → String
  | undefined _ => "undefined"
  | none => "None"
  | bool b => if b then "True" else "False"
  | int n => toString n
  | word n => toString n
  | float x => floatText .terse x
  | str s => Text.quote s
  | list _ vs => "[" ++ ", ".intercalate (itemTexts vs) ++ "]"
  | map es => "\x7b" ++ ", ".intercalate (entryTexts es) ++ "\x7d"

def itemTexts : List Value → List String
  | [] => []
  | v :: vs => nestedText v :: itemTexts vs

def entryTexts : List (Value × Value) → List String
  | [] => []
  | (k, v) :: es => (nestedText k ++ ": " ++ nestedText v) :: entryTexts es

end

/-- The text that a value prints as. -/
def text : Value → String
  | undefined _ => ""
  | float x => floatText .plain x
  | str s => s
  | v => nestedText v

def isUndefined : Value → Bool
  | undefined _ => true
  | _ => false

/-- Whether a value counts as true in a condition. -/
def isTrue : Value → Bool
  | undefined _ => false
  | none => false
  | bool b => b
  | int n => n != 0
  | word n => n != 0
  | float x => x != 0.0
  | str s => !s.isEmpty
  | list _ vs => !vs.isEmpty
  | map es => !es.isEmpty

/-- The whole number that a value is, truth values included. -/
def whole? : Value → Option Int
  | bool b => some (if b then 1 else 0)
  | int n => some n
  | word n => some n
  | _ => Option.none

/-- The integer that a value stands for as an index or an amount. -/
def toInt? : Value → Option Int
  | float x => (Binary64.ofFloat? x).bind Binary64.toInt?
  | v => v.whole?.filter (fitsSigned 128)

/-- The float nearest to an integer. -/
def nearestFloat (n : Int) : Float :=
  match Binary64.ofRatio? (n < 0) n.natAbs 1 with
  | some x => x.toFloat
  | Option.none => 1.0 / 0.0

/-- The float that a value stands for in arithmetic. -/
def toFloat? : Value → Option Float
  | float x => some x
  | v => v.whole?.map nearestFloat

/-- The place of a value's kind in the order of kinds. -/
def kindRank : Value → Nat
  | undefined _ => 0
  | none => 1
  | bool _ => 2
  | int _ | word _ | float _ => 3
  | str _ => 4
  | list .whole _ => 5
  | map _ => 6
  | list .derived _ => 7

/-- What a message calls the kind of a value. -/
def kindText : Value → String
  | undefined _ => "undefined"
  | none => "none"
  | bool _ => "bool"
  | int _ | word _ | float _ => "number"
  | str _ => "string"
  | list .whole _ => "sequence"
  | list .derived _ => "iterator"
  | map _ => "map"

/-- The order of floats. -/
def compareFloats (x y : Float) : Ordering :=
  if x < y then .lt else if y < x then .gt else .eq

/-- The order of a float and an integer. -/
def compareFloatInt (x : Float) (n : Int) : Ordering :=
  match Binary64.ofFloat? x with
  | some b => b.compareInt n
  | Option.none => compareFloats x 0.0

/-- The order of two numbers or truth values. -/
def compareNumbers (a b : Value) : Ordering :=
  match a, b with
  | float x, float y => compareFloats x y
  | float x, b => compareFloatInt x (b.whole?.getD 0)
  | a, float y => (compareFloatInt y (a.whole?.getD 0)).swap
  | a, b => compare (a.whole?.getD 0) (b.whole?.getD 0)

/-- Whether two values are equal as scalars. -/
def scalarEq (a b : Value) : Bool :=
  match a, b with
  | undefined _, undefined _ => true
  | none, none => true
  | str s, str t => s == t
  | float x, float y => x == y
  | float x, b => b.whole?.any fun n => !x.isNaN && compareFloatInt x n == .eq
  | a, float y => a.whole?.any fun n => !y.isNaN && compareFloatInt y n == .eq
  | a, b => a.whole?.any fun m => b.whole?.any fun n => m == n

mutual

/-- The order of values: first by kind. -/
def order : Value → Value → Ordering
  | str s, str t => compare s t
  | map as, map bs => orderEntries as bs
  | list o as, list p bs =>
    match o, p with
    | .whole, .derived => .lt
    | .derived, .whole => .gt
    | _, _ => orderItems as bs
  | undefined _, undefined _ => .eq
  | none, none => .eq
  | a, b =>
    match compare a.kindRank b.kindRank with
    | .eq => compareNumbers a b
    | o => o

def orderItems : List Value → List Value → Ordering
  | [], [] => .eq
  | [], _ => .lt
  | _, [] => .gt
  | a :: as, b :: bs =>
    match order a b with
    | .eq => orderItems as bs
    | o => o

def orderEntries : List (Value × Value) → List (Value × Value) → Ordering
  | [], [] => .eq
  | [], _ => .lt
  | _, [] => .gt
  | (j, a) :: as, (k, b) :: bs =>
    match order j k with
    | .eq => match order a b with
      | .eq => orderEntries as bs
      | o => o
    | o => o

end

/-- The value under a key: under the one that stands beside it in the order. -/
def entry? (key : Value) (es : List (Value × Value)) : Option Value :=
  (es.find? fun e => order key e.1 == .eq).map (·.2)

/-- The entries with `v` under a key, in the order of the keys. A key that is there already stays as
it was written. -/
def insertEntry (key v : Value) : List (Value × Value) → List (Value × Value)
  | [] => [(key, v)]
  | (k, w) :: rest =>
    match order key k with
    | .lt => (key, v) :: (k, w) :: rest
    | .eq => (k, v) :: rest
    | .gt => (k, w) :: insertEntry key v rest

/-- The map of entries, of which the later ones win. -/
def ofPairs (es : List (Value × Value)) : Value :=
  map (es.foldl (fun done e => insertEntry e.1 e.2 done) [])

mutual

/-- Whether two values are equal; numbers are compared by value. -/
def equal : Value → Value → Bool
  | list _ as, list _ bs => equalItems as bs
  | map as, map bs => as.length == bs.length && entriesWithin bs as
  | a, b => scalarEq a b

def equalItems : List Value → List Value → Bool
  | [], [] => true
  | a :: as, b :: bs => equal a b && equalItems as bs
  | _, _ => false

def entriesWithin (bs : List (Value × Value)) : List (Value × Value) → Bool
  | [] => true
  | (k, a) :: as =>
    (match entry? k bs with
      | some b => equal a b
      | Option.none => false) && entriesWithin bs as

end

/-- How many characters, items or entries a value has. -/
def length? : Value → Option Nat
  | str s => some s.length
  | list _ vs => some vs.length
  | map es => some es.length
  | _ => Option.none

/-- The items of a sequence or the keys of a map. -/
def items? : Value → Option (List Value)
  | list _ vs => some vs
  | map es => some (es.map (·.1))
  | _ => Option.none

/-- The values that a loop over a value goes through: characters, items or keys. -/
def elements? : Value → Option (List Value)
  | undefined _ => some []
  | none => some []
  | str s => some (characters s)
  | v => v.items?

/-- The attribute of a value under a name. -/
def attribute? (name : String) : Value → Option Value
  | map es => entry? (str name) es
  | _ => Option.none

/-- The element of a list at an index, which counts from the end if it is negative. -/
def elementAt? (i : Int) (vs : List Value) : Option Value :=
  if 0 ≤ i then vs[i.toNat]?
  else if i.natAbs ≤ vs.length then vs[vs.length - i.natAbs]?
  else Option.none

/-- The item of a value under a key or at an index. -/
def item? (v key : Value) : Option Value :=
  match v with
  | map es => entry? key es
  | list _ vs => key.toInt?.bind fun i => elementAt? i vs
  | str s => key.toInt?.bind fun i => elementAt? i (characters s)
  | _ => Option.none

end Value

end PreviewEnv.Template
