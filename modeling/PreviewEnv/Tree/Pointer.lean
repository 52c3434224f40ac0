import PreviewEnv.Tree.Basic

/-!
Pointers into a tree: a slash before every step, a step being a key of a map or an index of an
array. In a step `~1` stands for a slash and `~0` for a tilde.
-/

namespace PreviewEnv.Tree

/-- The text that a step of a pointer stands for; a tilde that starts no escape stands for
itself. -/
def unescapeStep : List Char → List Char
  | '~' :: '1' :: rest => '/' :: unescapeStep rest
  | '~' :: '0' :: rest => '~' :: unescapeStep rest
  | c :: rest => c :: unescapeStep rest
  | [] => []

/-- The index that a step stands for: digits without a zero before them. -/
def indexStep? (cs : List Char) : Option Nat :=
  if cs.isEmpty || !cs.all Char.isDigit || (cs.head? == some '0' && cs.length ≠ 1) then none
  else some (cs.foldl (fun n c => 10 * n + (c.toNat - '0'.toNat)) 0)

/-- The value one step below. -/
def stepInto? (cs : List Char) : Tree → Option Tree
  | map es => Entries.get? (.ofList cs) es
  | arr items => (indexStep? cs).bind fun i => items[i]?
  | _ => none

/-- The value that a pointer points to. -/
def pointer? (p : String) (t : Tree) : Option Tree :=
  match p.splitOn "/" with
  | "" :: steps => steps.foldlM (fun t step => t.stepInto? (unescapeStep step.toList)) t
  | _ => none

end PreviewEnv.Tree
