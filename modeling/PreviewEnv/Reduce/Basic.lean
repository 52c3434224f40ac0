import PreviewEnv.Reduce.Traced

namespace PreviewEnv.Reducer

/-- The items of an array from index `i` on, each reduced. -/
def mapItems (r : Reducer) (i : Nat) : List Tree → Traced (List Tree)
  | [] => pure []
  | t :: ts => do
    let t ← (r t).locate (.atIndex i)
    let ts ← mapItems r (i + 1) ts
    return t :: ts

/-- The entries of a map, each value reduced. -/
def mapEntries (r : Reducer) : List (String × Tree) → Traced (List (String × Tree))
  | [] => pure []
  | (k, t) :: es => do
    let t ← (r t).locate (.atKey k)
    let es ← mapEntries r es
    return (k, t) :: es

/-- Applies a reducer to every element of an array or every value of a map. -/
def mapValue (r : Reducer) : Reducer
  | .arr items => Tree.arr <$> mapItems r 0 items
  | .map es => Tree.map <$> mapEntries r es
  | _ => .fail .notArrayOrMap

/-- Keeps the entries of a map whose key satisfies `p`. -/
def filterKey (p : String → Bool) : Reducer
  | .map es => pure (.map (es.filter fun e => p e.1))
  | _ => .fail .notMap

/-- Keeps the elements of an array, or the entries of a map, whose value satisfies `p`. -/
def filterValue (p : Tree → Bool) : Reducer
  | .arr items => pure (.arr (items.filter p))
  | .map es => pure (.map (es.filter fun e => p e.2))
  | _ => .fail .notArrayOrMap

/-- Removes keys from a map and leaves anything else as it is. -/
def deleteKeys (keys : List String) : Reducer
  | .map es => filterKey (fun k => !keys.contains k) (.map es)
  | t => pure t

/-- Applies a reducer to anything but null. -/
def whenPresent (r : Reducer) : Reducer := fun t =>
  if t.isNull then pure t else r t

/-- Applies a reducer and, when tracing is on and it succeeds, leaves an event behind. -/
def debug (tracing : Bool) (label : String) (r : Reducer) : Reducer := fun t =>
  if tracing then do
    let u ← r t
    Traced.emit ⟨label, t.json, u.json⟩
    return u
  else r t

end PreviewEnv.Reducer
