import PreviewEnv.Reduce.Basic

namespace PreviewEnv

/-- Reducers that run from left to right up to the first failure. -/
structure Pipeline where
  stages : List Reducer

namespace Pipeline

def size (p : Pipeline) : Nat := p.stages.length

def isEmpty (p : Pipeline) : Bool := p.stages.isEmpty

/-- The value after the stages, the first of which has the number `n`. -/
def reduceFrom (n : Nat) : List Reducer → Reducer
  | [] => pure
  | r :: rs => fun t => do
    let u ← (r t).locate (.atStage n)
    reduceFrom (n + 1) rs u

/-- The value after all stages. -/
def reduce (p : Pipeline) : Reducer := reduceFrom 0 p.stages

/-- The label under which a stage of a debugged pipeline is traced. -/
def stageLabel (n : Nat) : String := "#" ++ toString n

/-- The stages from number `n` on, each traced under its number. -/
def debugFrom (tracing : Bool) (n : Nat) : List Reducer → List Reducer
  | [] => []
  | r :: rs => r.debug tracing (stageLabel n) :: debugFrom tracing (n + 1) rs

/-- The pipeline with every stage traced. -/
def debug (tracing : Bool) (p : Pipeline) : Pipeline := ⟨debugFrom tracing 0 p.stages⟩

end Pipeline

end PreviewEnv
