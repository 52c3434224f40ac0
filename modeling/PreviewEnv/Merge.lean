import PreviewEnv.Reduce.Traced
import PreviewEnv.Tree.NamedArray

/-!
Merging one tree on top of another. A strategy decides, place by place, whether the two values are
merged by structure, arrays by the names of their elements, or not merged at all. By structure, maps
are united, arrays are merged position by position and anything else is replaced by the patch; null
clears the key that it is set on, and an empty map leaves its base alone.
-/

namespace PreviewEnv

/-- What is to be done with a base and a patch that meet at one place. -/
inductive Decision where
  /-- Merge by structure. -/
  | structural
  /-- Merge by structure, but arrays by the names of their elements where both arrays have them. -/
  | byName
  /-- Take this value. -/
  | take (t : Tree)
  | reject (e : ReduceError)

/-- How two trees are combined: a decision for every place at which they meet. -/
structure Strategy where
  decide : Tree → Tree → Decision

namespace Strategy

/-- Merges by structure everywhere. -/
def default : Strategy := ⟨fun _ _ => .structural⟩

/-- Merges arrays of named elements by name and everything else by structure. -/
def named : Strategy := ⟨fun _ _ => .byName⟩

/-- Refuses the patches that `bad` has an error for, and merges by structure otherwise. -/
def rejecting (bad : Tree → Option ReduceError) : Strategy :=
  ⟨fun _ patch => match bad patch with
    | some e => .reject e
    | none => .structural⟩

/-- Joins arrays end to end and merges everything else by structure. -/
def concatenating : Strategy :=
  ⟨fun base patch => match base, patch with
    | .arr bs, .arr ps => .take (.arr (bs ++ ps))
    | _, _ => .structural⟩

mutual

/-- The patch merged on top of the base. -/
def merge (s : Strategy) (base : Tree) : Tree → Except ReduceError Tree
  | .arr ps =>
    match s.decide base (.arr ps), base with
    | .reject e, _ => .error e
    | .take t, _ => .ok t
    | .structural, .arr bs => .arr <$> mergeItems s 0 bs ps
    | .byName, .arr bs =>
      match NamedArray.ofItems? bs, NamedArray.ofItems? ps with
      | some array, some _ => (fun a => .arr a.items) <$> mergeNamed s array ps
      | _, _ => .arr <$> mergeItems s 0 bs ps
    | _, _ => .ok (.arr ps)
  | .map ps =>
    match s.decide base (.map ps), base with
    | .reject e, _ => .error e
    | .take t, _ => .ok t
    | _, .null => .ok (.map ps)
    | _, .map bs => .map <$> mergeEntries s bs ps
    | _, _ => .ok (if ps.isEmpty then base else .map ps)
  | patch =>
    match s.decide base patch with
    | .reject e => .error e
    | .take t => .ok t
    | _ => .ok patch

/-- The entries of the patch, in order, merged into those of the base. -/
def mergeEntries (s : Strategy) (base : List (String × Tree)) :
    List (String × Tree) → Except ReduceError (List (String × Tree))
  | [] => .ok base
  | (k, p) :: ps => do
    let merged ← match Entries.get? k base with
      | some b => (merge s b p).mapError (.atKey k)
      | none => .ok p
    mergeEntries s (if merged.isNull then Entries.erase k base else Entries.insert k merged base) ps

/-- The items of the patch, the first of which has the index `i`, merged into those of the base
position by position. -/
def mergeItems (s : Strategy) (i : Nat) (base : List Tree) :
    List Tree → Except ReduceError (List Tree)
  | [] => .ok base
  | p :: ps =>
    match base with
    | [] => .ok (p :: ps)
    | b :: bs => do
      let merged ← (merge s b p).mapError (.atIndex i)
      let rest ← mergeItems s (i + 1) bs ps
      return merged :: rest

/-- The items of the patch merged into the elements of the base that have their names; an item with
a new name goes to the end. -/
def mergeNamed (s : Strategy) (base : NamedArray) : List Tree → Except ReduceError NamedArray
  | [] => .ok base
  | p :: ps =>
    match p.name? with
    | none => mergeNamed s base ps
    | some name => do
      let merged ← match base.get? name with
        | some b => (merge s b p).mapError (.atName name)
        | none => .ok p
      mergeNamed s (base.set name merged) ps

end

end Strategy

/-- Merges `source` on top of the input. -/
def Reducer.mergeWith (s : Strategy) (source : Tree) : Reducer := fun t =>
  .ofExcept (s.merge t source)

end PreviewEnv
