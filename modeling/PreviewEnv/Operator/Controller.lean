import PreviewEnv.Api.Events
import PreviewEnv.Api.Server
import PreviewEnv.Api.Store
import PreviewEnv.Api.Watch
import PreviewEnv.Operator.Metrics

/-!
The controller of resource sets, run against a cluster in memory for a stretch of time. It lists the
sets to see that they can be listed, and then watches them. A set is reconciled when the watch
reports it, and again after an interval if its reconciliation has failed in a way that may pass. A
watch that fails goes on after a while, which is longer the more often it has failed.
-/

namespace PreviewEnv

-- Powers are those of the core library, whatever else is imported.
attribute [local instance (high)] instPowNat

/-- What the controller is told. -/
structure ControllerSettings where
  /-- The namespace whose sets are reconciled; all of them if there is none. -/
  ns : Option String
  /-- The seconds before a failed reconciliation is tried again. -/
  interval : Nat
  /-- The seconds that the controller runs. -/
  seconds : Nat

/-- What has come of a run. -/
structure ControllerRun where
  result : Except OperatorError Unit
  /-- Whether anything has been reconciled. -/
  reconciled : Bool
  metrics : Metrics

namespace Controller

/-- Reconciles a set and counts what has come of it. -/
def reconcileCounted {m : Type → Type} [Monad m] (store : ObjectStore m)
    (recorder : EventRecorder m) (engine : Template.Engine) (rs : ResourceSet)
    (metrics : Metrics) : m (Except OperatorError (List Reason) × Metrics) := do
  let result ← reconcile store recorder engine rs
  return (result, metrics.countReconciliation rs result)

/-- The state of a run: what the clients know, on top of the cluster. -/
abbrev RunM := StateT Api.Cache (StateT Api.SentEvents (StateM Api.Server))

def send (r : Api.Request) : RunM Api.Reply := liftM (Api.Server.send r)

/-- The address of the resource sets. -/
def address (settings : ControllerSettings) : String :=
  let resource : Api.Resource :=
    ⟨ResourceSet.gvk.group, ResourceSet.gvk.apiVersion, "resourcesets", true⟩
  resource.collection settings.ns

/-- Whether a reconciliation is to be tried again. -/
def retries : Except OperatorError (List Reason) → Bool
  | .ok _ => false
  | .error e => e.requeue

/-- A set is known by its namespace and its name. -/
abbrev Key := Option String × Option String

def keyOf (rs : ResourceSet) : Key := (rs.metadata.ns?, rs.metadata.name?)

/-- What the controller knows and what it is going to do. Times are in milliseconds. -/
structure Plan where
  watch : Api.Stage
  /-- How often the watch has failed since it last reported a set. -/
  failures : Nat
  /-- When the watch goes on; it may be waiting for the cluster. -/
  watchAt : Option Nat
  sets : List (Key × ResourceSet)
  /-- When which sets are to be reconciled. -/
  agenda : List (Key × Nat)
  /-- Whether anything has been reconciled. -/
  reconciled : Bool
  metrics : Metrics

namespace Plan

/-- The plan at the beginning. -/
def start : Plan := ⟨.listing, 0, some 0, [], [], false, .empty⟩

/-- The entries with `v` under the key: in the place of what was there, or at the end. -/
def put {α : Type} (key : Key) (v : α) (es : List (Key × α)) : List (Key × α) :=
  if es.any (·.1 == key) then es.map fun e => if e.1 == key then (key, v) else e
  else es ++ [(key, v)]

/-- The agenda with a set to be reconciled at a time, unless it is to be earlier. -/
def schedule (key : Key) (time : Nat) (agenda : List (Key × Nat)) : List (Key × Nat) :=
  match agenda.lookup key with
  | some earlier => if earlier ≤ time then agenda else Entries.erase key agenda ++ [(key, time)]
  | none => agenda ++ [(key, time)]

/-- The plan with a set that the watch has reported. -/
def withSet (now : Nat) (p : Plan) (rs : ResourceSet) : Plan :=
  { p with sets := put (keyOf rs) rs p.sets, agenda := schedule (keyOf rs) now p.agenda }

def withReport (now : Nat) (p : Plan) : Api.Report → Plan
  | .listed objects => (objects.map ResourceSet.ofFields).foldl (withSet now) { p with sets := [] }
  | .applied object => p.withSet now (.ofFields object)
  | .deleted object => { p with sets := Entries.erase (keyOf (.ofFields object)) p.sets }

/-- How long a watch rests after a failure that came after so many others. The time doubles up to
half a minute, and is longer by a random part of 800 milliseconds, which are taken to be half of
it. -/
def backoff (failures : Nat) : Nat := min (800 * 2 ^ failures) 30000 + 400

/-- The plan after a step of the watch. -/
def withProgress (now : Nat) (p : Plan) (progress : Api.Progress) : Plan :=
  let p := progress.reports.foldl (withReport now) p
  let failures := if progress.reports.any Api.Report.isSignal then 0 else p.failures
  if progress.failed then
    { p with
      watch := progress.stage
      failures := failures + 1
      watchAt := some (now + backoff failures) }
  else
    let watchAt := match progress.stage with
      | .waiting => none
      | _ => some now
    { p with watch := progress.stage, failures := failures, watchAt := watchAt }

/-- The set that is to be reconciled first, of several the one that has been waiting longest. -/
def firstSet (p : Plan) : Option (Key × Nat) :=
  p.agenda.foldl (fun first e => match first with
    | some best => if e.2 < best.2 then some e else some best
    | none => some e) none

/-- What is done next: when, and for which set, if it is not a step of the watch. -/
def next? (p : Plan) : Option (Nat × Option Key) :=
  match p.watchAt, p.firstSet with
  | some time, some (key, setTime) =>
    if time ≤ setTime then some (time, none) else some (setTime, some key)
  | some time, none => some (time, none)
  | none, some (key, time) => some (time, some key)
  | none, none => none

end Plan

/-- The milliseconds before a failed reconciliation is tried again. -/
def pause (settings : ControllerSettings) : Nat := max 1 (1000 * settings.interval)

/-- Reconciles a set, if it is still there. -/
def reconcileSet (engine : Template.Engine) (settings : ControllerSettings) (now : Nat)
    (key : Key) (p : Plan) : RunM Plan := do
  let p := { p with agenda := Entries.erase key p.agenda }
  match p.sets.lookup key with
  | none => return p
  | some rs =>
    let (result, metrics) ←
      reconcileCounted (Api.cachingStore send) (Api.eventRecorder send) engine rs p.metrics
    let agenda := if retries result then p.agenda ++ [(key, now + pause settings)] else p.agenda
    return { p with agenda := agenda, reconciled := true, metrics := metrics }

/-- Does what is planned until the time is over, in so many steps at most. -/
def carryOut (engine : Template.Engine) (settings : ControllerSettings) : Nat → Plan → RunM Plan
  | 0, p => return p
  | steps + 1, p => do
    let some (now, task) := p.next? | return p
    if 1000 * settings.seconds ≤ now then return p
    match task with
    | some key => carryOut engine settings steps (← reconcileSet engine settings now key p)
    | none =>
      let progress ← Api.advance send ResourceSet.shape (address settings) p.watch
      carryOut engine settings steps (p.withProgress now progress)

/-- More steps than a run takes. -/
def maxSteps : Nat := 1000000

/-- Runs the controller. -/
def run (engine : Template.Engine) (settings : ControllerSettings) : RunM ControllerRun := do
  if settings.seconds = 0 then return ⟨.ok (), false, .empty⟩
  match ← Api.ask send (Api.listShape ResourceSet.shape) .get (address settings) none with
  | .error e => return ⟨.error (.cluster e), false, .empty⟩
  | .ok _ =>
    let p ← carryOut engine settings maxSteps .start
    return ⟨.ok (), p.reconciled, p.metrics⟩

end Controller

end PreviewEnv
