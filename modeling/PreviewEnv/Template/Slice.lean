import PreviewEnv.Template.Operation

/-!
Parts of sequences between two bounds, in steps. A negative bound counts from the end, and a
negative step goes from the last element of the part to its first.
-/

namespace PreviewEnv.Template

namespace Slice

/-- The bounds of a slice and its step, which is not zero. -/
structure Range where
  start : Option Int
  stop : Option Int
  step : Int

variable {α : Type}

/-- The position that a bound stands for in a sequence of a length, zero at the least. -/
def position (length : Nat) (bound : Int) : Nat :=
  if 0 ≤ bound then bound.toNat else length - bound.natAbs

/-- Every `step`-th element from `start` on, up to `stop`. -/
def forward (step : Nat) (start stop : Option Int) (xs : List α) : List α :=
  let low := (start.map (position xs.length)).getD 0
  let high := (stop.map (position xs.length)).getD xs.length
  let part := (xs.take high).drop low
  (part.zipIdx.filter fun e => e.2 % step = 0).map (·.1)

/-- Every `step`-th element from `start` down to `stop`, which itself is left out unless it is the
first element. -/
def backward (step : Nat) (start stop : Option Int) (xs : List α) : List α :=
  let high := min ((start.map (position xs.length)).getD xs.length) (xs.length - 1)
  let low := (stop.map (position xs.length)).getD 0
  let part := ((xs.take (high + 1)).drop (if low = 0 then 0 else low + 1)).reverse
  (part.zipIdx.filter fun e => e.2 % step = 0).map (·.1)

/-- The elements in a range. -/
def Range.of (r : Range) (xs : List α) : List α :=
  if 0 ≤ r.step then forward r.step.toNat r.start r.stop xs
  else backward r.step.natAbs r.start r.stop xs

/-- A bound of a slice: a number of 64 bits, or nothing. -/
def bound : Value → Outcome (Option Int)
  | .none => .ok none
  | v => match v.toInt?.filter (fitsSigned 64) with
    | some n => .ok (some n)
    | none => Operation.invalid "cannot convert slice bound to an integer"

/-- The range between the values of two bounds and of a step. -/
def Range.read (start stop step : Value) : Outcome Range := do
  let start ← bound start
  let stop ← bound stop
  let step := (← bound step).getD 1
  if step = 0 then Operation.invalid "cannot slice by step size of 0" else
  return ⟨start, stop, step⟩

/-- The part of a value between two bounds, in steps. -/
def take (v start stop step : Value) : Outcome Value := do
  if v.isUndefined then throw ⟨.undefinedValue, none⟩
  let range ← Range.read start stop step
  match v with
  | .none => return .list .whole []
  | .str s => return .str (.ofList (range.of s.toList))
  | .list _ vs => return .list .derived (range.of vs)
  | v => Operation.invalid ("value of type " ++ v.kindText ++ " cannot be sliced")

end Slice

end PreviewEnv.Template
