import PreviewEnv.Reduce.Error
import PreviewEnv.Tree.Json

namespace PreviewEnv

/-- A reducer has been applied: its label, and the texts of what it was given and gave back. -/
structure TraceEvent where
  label : String
  input : String
  output : String
deriving DecidableEq, Repr

/-- An outcome with the events that were left behind on the way to it, in order. A failure keeps the
events that came before it. -/
structure Traced (α : Type) where
  events : List TraceEvent
  outcome : Except ReduceError α

namespace Traced

variable {α β : Type}

instance : Monad Traced where
  pure a := ⟨[], .ok a⟩
  bind x f :=
    match x.outcome with
    | .ok a => ⟨x.events ++ (f a).events, (f a).outcome⟩
    | .error e => ⟨x.events, .error e⟩

def fail (e : ReduceError) : Traced α := ⟨[], .error e⟩

def ofExcept (r : Except ReduceError α) : Traced α := ⟨[], r⟩

/-- Leaves an event behind. -/
def emit (e : TraceEvent) : Traced Unit := ⟨[e], .ok ()⟩

/-- Puts a place around the error, if there is one. -/
def locate (place : ReduceError → ReduceError) (x : Traced α) : Traced α :=
  ⟨x.events, x.outcome.mapError place⟩

end Traced

/-- A fallible transformation of trees. -/
abbrev Reducer := Tree → Traced Tree

end PreviewEnv
