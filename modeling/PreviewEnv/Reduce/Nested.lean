import PreviewEnv.Reduce.Basic

/-!
Applying a reducer at the end of a path of map keys. Maps that are missing on the way, or null, are
made on demand, but only for a result other than null.
-/

namespace PreviewEnv.Reducer

/-- The value with the part under `keys` reduced; no value for one that is still missing. -/
def reducePath (r : Reducer) : List String → Option Tree → Traced (Option Tree)
  | [], input => do
    let output ← r (input.getD .null)
    return if input.isNone && output.isNull then none else some output
  | k :: ks, input => do
    let (es, absent) ← match input with
      | none | some .null => pure ([], true)
      | some (.map es) => pure (es, false)
      | some _ => Traced.fail .notMap
    match ← reducePath r ks (Entries.get? k es) with
    | some v => return some (.map (Entries.insert k v es))
    | none => return if absent then none else some (.map (Entries.erase k es))

/-- Applies a reducer to the value under `keys`, which is null if there is none. A value on the way
that is neither a map nor null is an error. -/
def reduceNested (keys : List String) (r : Reducer) : Reducer := fun t => do
  let place := if keys.isEmpty then id else ReduceError.atPath keys
  let output ← (reducePath r keys (some t)).locate place
  return output.getD .null

/-- Puts `v` under `keys`. -/
def setNested (keys : List String) (v : Tree) : Reducer :=
  reduceNested keys fun _ => pure v

/-- Removes the last key from the map under the other keys. A single key is removed from the value
itself, which has to be a map; otherwise a missing map leaves the value as it is. -/
def deleteNested (keys : List String) : Reducer :=
  let parents := keys.dropLast
  let filter := filterKey fun k => keys.getLast? != some k
  reduceNested parents fun t => if parents.isEmpty || !t.isNull then filter t else pure t

end PreviewEnv.Reducer
