import PreviewEnv.Proofs.Reduce.Outcomes

namespace PreviewEnv

/-- On every input the two give back the same value or fail with the same error. What they leave
behind may differ. -/
def Reducer.Alike (r s : Reducer) : Prop := ∀ t, (r t).outcome = (s t).outcome

/-- A stage of a pipeline as it is put together: some reducer, a stage that is traced under a label,
or a pipeline of its own, debugged or not. -/
inductive Stage where
  | plain (r : Reducer)
  | labelled (label : String) (stage : Stage)
  | pipeline (debugged : Bool) (stages : List Stage)

namespace Stage

mutual

/-- The reducer that a stage is while tracing is on or off. -/
def reducer (tracing : Bool) : Stage → Reducer
  | plain r => r
  | labelled label s => (s.reducer tracing).debug tracing label
  | pipeline true ss => (Pipeline.debug tracing ⟨reducers tracing ss⟩).reduce
  | pipeline false ss => Pipeline.reduce ⟨reducers tracing ss⟩

def reducers (tracing : Bool) : List Stage → List Reducer
  | [] => []
  | s :: ss => s.reducer tracing :: reducers tracing ss

end

/-- The pipeline of the stages while tracing is on or off. -/
def assemble (tracing : Bool) (stages : List Stage) : Pipeline := ⟨reducers tracing stages⟩

end Stage

namespace Pipeline

open Reducer

variable {r : Reducer} {rs ss : List Reducer} {n : Nat} {tracing : Bool}

theorem alike_debug (label : String) : (r.debug tracing label).Alike r := by
  intro t
  cases tracing with
  | false => rfl
  | true =>
    have hrun : r.debug true label t =
        r t >>= fun u => Traced.emit ⟨label, t.json, u.json⟩ >>= fun _ => pure u := rfl
    rw [hrun, Traced.outcome_bind]
    cases (r t).outcome <;> rfl

/-- Pipelines of stages that end alike end alike, with the same numbers in their errors. -/
theorem alike_reduceFrom (h : List.Forall₂ Alike rs ss) :
    (reduceFrom n rs).Alike (reduceFrom n ss) := by
  induction h generalizing n with
  | nil => intro t; rfl
  | cons hhead _ ih =>
    intro t
    simp only [reduceFrom, Traced.outcome_bind, Traced.outcome_locate, hhead t]
    exact congrArg _ (funext fun u => ih u)

theorem forall₂_debugFrom : List.Forall₂ Alike (debugFrom tracing n rs) rs := by
  induction rs generalizing n with
  | nil => exact .nil
  | cons r rs ih => exact .cons (alike_debug _) ih

theorem alike_reduce_debug (p : Pipeline) : (p.debug tracing).reduce.Alike p.reduce :=
  alike_reduceFrom forall₂_debugFrom

end Pipeline

namespace Stage

open Reducer Pipeline

variable {tracing tracing' : Bool}

mutual

/-- How a stage ends does not depend on whether anything is traced. -/
theorem alike_reducer : ∀ s : Stage, (s.reducer tracing).Alike (s.reducer tracing')
  | plain _ => fun _ => rfl
  | labelled label s => fun t => by
    have hs := alike_reducer s t
    simp only [reducer]
    rw [alike_debug label t, alike_debug label t, hs]
  | pipeline true ss => fun t => by
    have hss := alike_reduceFrom (n := 0) (forall₂_reducers ss) t
    simp only [reducer]
    rw [alike_reduce_debug _ t, alike_reduce_debug _ t]
    exact hss
  | pipeline false ss => fun t => alike_reduceFrom (n := 0) (forall₂_reducers ss) t

theorem forall₂_reducers :
    ∀ ss : List Stage, List.Forall₂ Alike (reducers tracing ss) (reducers tracing' ss)
  | [] => .nil
  | s :: ss => .cons (alike_reducer s) (forall₂_reducers ss)

end

end Stage

/-- A stage has been run: what it was given and gave back, and the events it left behind itself. -/
structure StageRun where
  input : Tree
  output : Tree
  inner : List TraceEvent

namespace StageRun

/-- The event that a debugged pipeline leaves behind of its stage with this number. -/
def event (n : Nat) (s : StageRun) : TraceEvent :=
  ⟨Pipeline.stageLabel n, s.input.json, s.output.json⟩

/-- The events of the pipeline itself, the first of which has the number `n`. -/
def own (n : Nat) : List StageRun → List TraceEvent
  | [] => []
  | s :: ss => s.event n :: own (n + 1) ss

/-- All events: what a stage leaves behind itself comes before the one that the pipeline leaves
behind of it. -/
def all (n : Nat) : List StageRun → List TraceEvent
  | [] => []
  | s :: ss => s.inner ++ s.event n :: all (n + 1) ss

variable {runs : List StageRun} {n : Nat} {t u : Tree}

theorem labels_own : (own n runs).map (·.label) =
    (List.range' n runs.length).map Pipeline.stageLabel := by
  induction runs generalizing n with
  | nil => rfl
  | cons s ss ih =>
    rw [own, List.map_cons, ih, List.length_cons, List.range'_succ, List.map_cons]
    rfl

theorem inputs_own : (own n runs).map (·.input) = runs.map (·.input.json) := by
  induction runs generalizing n with
  | nil => rfl
  | cons s ss ih =>
    rw [own, List.map_cons, ih]
    rfl

theorem outputs_own : (own n runs).map (·.output) = runs.map (·.output.json) := by
  induction runs generalizing n with
  | nil => rfl
  | cons s ss ih =>
    rw [own, List.map_cons, ih]
    rfl

end StageRun

namespace Pipeline

open StageRun

variable {r : Reducer} {rs : List Reducer} {runs : List StageRun} {run : StageRun} {n : Nat}
  {t u : Tree} {x : Traced Tree}

/-- The first stages have been run one after the other: the first on `t`, each other one on what the
one before it gave back, and the last gave back `u`. -/
structure Chain (rs : List Reducer) (t : Tree) (runs : List StageRun) (u : Tree) : Prop where
  ran : ∀ (n : Nat) (run : StageRun), runs[n]? = some run →
    ∃ r : Reducer, rs[n]? = some r ∧ r run.input = ⟨run.inner, .ok run.output⟩
  linked : runs.map (·.input) ++ [u] = t :: runs.map (·.output)

theorem Chain.nil : Chain rs t [] t := ⟨by simp, rfl⟩

theorem Chain.cons (h : r run.input = ⟨run.inner, .ok run.output⟩)
    (hc : Chain rs run.output runs u) : Chain (r :: rs) run.input (run :: runs) u where
  ran n s hs := by
    cases n with
    | zero =>
      cases hs
      exact ⟨r, rfl, h⟩
    | succ n => exact hc.ran n s hs
  linked := by
    rw [List.map_cons, List.cons_append, hc.linked, List.map_cons]

/-- The text that an event has of its input is that of the output of the event before it. -/
theorem Chain.texts (h : Chain rs t runs u) :
    (own n runs).map (·.input) ++ [u.json] = t.json :: (own n runs).map (·.output) := by
  have htexts := congrArg (List.map Tree.json) h.linked
  rw [inputs_own, outputs_own]
  simpa [Function.comp_def] using htexts

/-- How the stages of a debugged pipeline run, the first of which has the number `n`. -/
inductive Ends (n : Nat) (rs : List Reducer) (t : Tree) : Traced Tree → Prop
  | finished {runs : List StageRun} {u : Tree} (hc : Chain rs t runs u)
      (hall : runs.length = rs.length) : Ends n rs t ⟨all n runs, .ok u⟩
  | failed {runs : List StageRun} {u : Tree} {r : Reducer} {e : ReduceError}
      (hc : Chain rs t runs u) (hr : rs[runs.length]? = some r)
      (he : (r u).outcome = .error e) :
      Ends n rs t ⟨all n runs ++ (r u).events, .error (.atStage (n + runs.length) e)⟩

/-- One more stage in front of others that have been run. -/
theorem Ends.cons (run : StageRun) (h : r run.input = ⟨run.inner, .ok run.output⟩)
    (hends : Ends (n + 1) rs run.output x) :
    Ends n (r :: rs) run.input ⟨run.inner ++ run.event n :: x.events, x.outcome⟩ := by
  cases hends with
  | finished hc hall => exact .finished (hc.cons h) (congrArg Nat.succ hall)
  | @failed runs u s e hc hr he =>
    have hnumber : n + 1 + runs.length = n + (run :: runs).length := by
      rw [List.length_cons]
      omega
    have hevents : run.inner ++ run.event n :: (all (n + 1) runs ++ (s u).events) =
        all n (run :: runs) ++ (s u).events := by
      rw [all, List.append_assoc, List.cons_append]
    rw [hnumber, hevents]
    exact .failed (hc.cons h) hr he

theorem reduceFrom_debug_of_ok {events : List TraceEvent} (h : r t = ⟨events, .ok u⟩) :
    reduceFrom n (debugFrom true n (r :: rs)) t =
      ⟨events ++ ⟨stageLabel n, t.json, u.json⟩ ::
          (reduceFrom (n + 1) (debugFrom true (n + 1) rs) u).events,
        (reduceFrom (n + 1) (debugFrom true (n + 1) rs) u).outcome⟩ := by
  have hdebug : r.debug true (stageLabel n) t =
      ⟨events ++ [⟨stageLabel n, t.json, u.json⟩], .ok u⟩ := by
    rw [Reducer.debug, h]
    rfl
  change (Traced.locate (.atStage n) (r.debug true (stageLabel n) t) >>= _) = _
  rw [hdebug]
  exact Traced.ext_of_parts (List.append_assoc _ _ _) rfl

theorem reduceFrom_debug_of_error {events : List TraceEvent} {e : ReduceError}
    (h : r t = ⟨events, .error e⟩) :
    reduceFrom n (debugFrom true n (r :: rs)) t = ⟨events, .error (.atStage n e)⟩ := by
  have hdebug : r.debug true (stageLabel n) t = ⟨events, .error e⟩ := by
    rw [Reducer.debug, h]
    rfl
  change (Traced.locate (.atStage n) (r.debug true (stageLabel n) t) >>= _) = _
  rw [hdebug]
  rfl

/-- The stages of a debugged pipeline run one after the other, up to the first that fails. -/
theorem ends_debugFrom : Ends n rs t (reduceFrom n (debugFrom true n rs) t) := by
  induction rs generalizing n t with
  | nil => exact .finished .nil rfl
  | cons r rs ih =>
    rcases hrun : r t with ⟨events, outcome⟩
    cases outcome with
    | ok u =>
      rw [reduceFrom_debug_of_ok hrun]
      exact .cons ⟨t, u, events⟩ hrun ih
    | error e =>
      rw [reduceFrom_debug_of_error hrun]
      have hfailed : (r t).outcome = .error e := by rw [hrun]
      have hchain : Chain (r :: rs) t [] t := .nil
      have hends : Ends n (r :: rs) t ⟨(r t).events, .error (.atStage n e)⟩ :=
        .failed hchain rfl hfailed
      rwa [hrun] at hends

/-- What a debugged pipeline tells of its first stages, which have led from `t` to `u`: its own
events, one for each of them, and all events there are, with what the stages left behind
themselves. -/
structure Tells (rs : List Reducer) (t : Tree) (count : Nat) (u : Tree)
    (own all : List TraceEvent) : Prop where
  labels : own.map (·.label) = (List.range count).map stageLabel
  texts : own.map (·.input) ++ [u.json] = t.json :: own.map (·.output)
  among : ∃ runs, Chain rs t runs u ∧ own = StageRun.own 0 runs ∧ all = StageRun.all 0 runs

theorem Chain.tells (h : Chain rs t runs u) :
    Tells rs t runs.length u (own 0 runs) (all 0 runs) where
  labels := by rw [labels_own, List.range_eq_range']
  texts := h.texts
  among := ⟨runs, h, rfl, rfl⟩

/-- How a debugged pipeline ends: with the value of its last stage, having told of all of them, or
with the error of a stage that was run on the last value told of. -/
inductive Told (rs : List Reducer) (t : Tree) : Traced Tree → Prop
  | finished {u : Tree} {own all : List TraceEvent} (h : Tells rs t rs.length u own all) :
      Told rs t ⟨all, .ok u⟩
  | failed {n : Nat} {r : Reducer} {u : Tree} {e : ReduceError} {own before : List TraceEvent}
      (hr : rs[n]? = some r) (he : (r u).outcome = .error e) (h : Tells rs t n u own before) :
      Told rs t ⟨before ++ (r u).events, .error (.atStage n e)⟩

theorem Ends.told (h : Ends 0 rs t x) : Told rs t x := by
  cases h with
  | finished hc hall => exact .finished (hall ▸ hc.tells)
  | failed hc hr he =>
    rw [Nat.zero_add]
    exact .failed hr he hc.tells

end Pipeline

/-- **Debugging changes nothing but the trace, and the trace is a chain.** A debugged pipeline ends
as the pipeline itself does, with the same value or the same error, whether tracing is on or off and
whatever is debugged inside its stages. While tracing is on, it tells of each stage up to the end,
or of those before the one that fails, which was given what the stage before it gave back. -/
theorem debug_transparent (stages : List Stage) (t : Tree) :
    (∀ tracing tracing' : Bool,
      (((Stage.assemble tracing stages).debug tracing).reduce t).outcome =
        ((Stage.assemble tracing' stages).reduce t).outcome) ∧
    Pipeline.Told (Stage.reducers true stages) t
      (((Stage.assemble true stages).debug true).reduce t) := by
  constructor
  · intro tracing tracing'
    rw [Pipeline.alike_reduce_debug _ t]
    exact Pipeline.alike_reduceFrom (Stage.forall₂_reducers stages) t
  · have hends : Pipeline.Ends 0 (Stage.reducers true stages) t
        (((Stage.assemble true stages).debug true).reduce t) := Pipeline.ends_debugFrom
    exact hends.told

/-- The second stage is a debugged pipeline of its own, and the third one fails. -/
def nestedStages : List Stage := [
  .plain (Reducer.setNested ["a"] (.int 1)),
  .pipeline true [
    .plain (Reducer.setNested ["b"] (.int 2)),
    .labelled "drop" (.plain (Reducer.deleteNested ["a"]))],
  .plain (Reducer.mapValue fun _ => .fail .notMap)]

example : (((Stage.assemble true nestedStages).debug true).reduce .empty).events.map (·.label) =
    ["#0", "#0", "drop", "#1", "#1"] := by decide +kernel

end PreviewEnv
