import PreviewEnv.Reduce.Basic

/-!
Applying a reducer to a value and then to every value nested in what it gave back, at any depth. The
descent follows the results, so a reducer that keeps wrapping its input would never end; the number
of levels is therefore bounded. A reducer that never makes a value deeper ends within one level more
than the depth of its input.
-/

namespace PreviewEnv.Reducer

/-- Applies `r` to the value and then to all that is nested in the result, at most `levels` levels
deep. -/
def deepMapWithin (r : Reducer) : Nat → Reducer
  | 0 => fun _ => .fail .unfinished
  | levels + 1 => fun t => do
    match ← r t with
    | .arr items => mapValue (deepMapWithin r levels) (.arr items)
    | .map es => mapValue (deepMapWithin r levels) (.map es)
    | scalar => return scalar

/-- `deepMapWithin` with as many levels as a reducer needs that never makes a value deeper. -/
def deepMap (r : Reducer) : Reducer := fun t => deepMapWithin r (t.depth + 1) t

end PreviewEnv.Reducer
