import PreviewEnv.Tree.Basic

/-!
Two comparisons of trees. `same` tells integers from floats and takes floats by value. `equal` is
the comparison for stored objects: a map entry that holds null counts as absent, and numbers are
compared as floats. `canonical` is the form in which equal trees are one and the same tree.
-/

namespace PreviewEnv.Tree

mutual

/-- Whether two trees are the same, the two zeros of floats being one value. -/
def same : Tree → Tree → Bool
  | null, null => true
  | bool a, bool b => a == b
  | int a, int b => a == b
  | float a, float b => a.sameValue b
  | str a, str b => a == b
  | arr as, arr bs => sameItems as bs
  | map as, map bs => sameEntries as bs
  | _, _ => false

def sameItems : List Tree → List Tree → Bool
  | [], [] => true
  | a :: as, b :: bs => same a b && sameItems as bs
  | _, _ => false

def sameEntries : List (String × Tree) → List (String × Tree) → Bool
  | [], [] => true
  | (j, a) :: as, (k, b) :: bs => j == k && (same a b && sameEntries as bs)
  | _, _ => false

end

/-- How many entries of a map hold something other than null. -/
def presentCount (es : List (String × Tree)) : Nat :=
  es.countP fun e => !e.2.isNull

mutual

/-- Whether two trees are equal when null entries count as absent and numbers as floats. -/
def equal : Tree → Tree → Bool
  | map as, map bs => presentCount as == presentCount bs && entriesWithin bs as
  | arr as, arr bs => equalItems as bs
  | int a, int b => a == b || Binary64.nearestInt a == Binary64.nearestInt b
  | int a, float b => b.toInt? == some (Binary64.nearestInt a)
  | float a, int b => a.toInt? == some (Binary64.nearestInt b)
  | float a, float b => a.sameValue b
  | null, null => true
  | bool a, bool b => a == b
  | str a, str b => a == b
  | _, _ => false

def equalItems : List Tree → List Tree → Bool
  | [], [] => true
  | a :: as, b :: bs => equal a b && equalItems as bs
  | _, _ => false

/-- Whether every entry that holds something other than null has an equal partner in `bs`. -/
def entriesWithin (bs : List (String × Tree)) : List (String × Tree) → Bool
  | [] => true
  | (k, a) :: as =>
    (a.isNull || match Entries.get? k bs with
      | some b => equal a b
      | none => false) && entriesWithin bs as

end

/-- A number as the value of its float: a whole one as an integer. -/
def canonicalNumber : Tree → Tree
  | int n => int (Binary64.nearestInt n)
  | float x => match x.toInt? with
    | some n => int n
    | none => float x
  | t => t

mutual

/-- The tree without the map entries that hold null, at any depth, and with every number as the
value of its float. -/
def canonical : Tree → Tree
  | arr items => arr (canonicalItems items)
  | map es => map (canonicalEntries es)
  | t => canonicalNumber t

def canonicalItems : List Tree → List Tree
  | [] => []
  | t :: ts => canonical t :: canonicalItems ts

def canonicalEntries : List (String × Tree) → List (String × Tree)
  | [] => []
  | (k, t) :: es =>
    if t.isNull then canonicalEntries es else (k, canonical t) :: canonicalEntries es

end

end PreviewEnv.Tree
