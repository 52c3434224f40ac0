import PreviewEnv.Operator.Error
import PreviewEnv.ResourceSet.Basic

namespace PreviewEnv

/-- One counted thing: the family it belongs to, its labels, and the count. -/
structure Sample where
  family : String
  help : String
  labels : List (String × String)
  count : Nat
deriving DecidableEq, Repr

/-- What the operator counts. -/
structure Metrics where
  reconciliations : Nat
  /-- How many reconciliations have been timed. -/
  timed : Nat
  /-- Counts by the label of the error and the name of the resource set. -/
  failures : List (List String × Nat)
  /-- Counts by the text of the reason. -/
  applied : List (String × Nat)
deriving DecidableEq, Repr

/-- The counts with one more under a key. -/
def Entries.increment {κ : Type} [DecidableEq κ] [LT κ] [DecidableLT κ] (k : κ)
    (es : List (κ × Nat)) : List (κ × Nat) :=
  insert k ((get? k es).getD 0 + 1) es

namespace Metrics

def empty : Metrics := ⟨0, 0, [], []⟩

/-- Metrics to be counted, unless there are some registered already. -/
def register : Option Metrics → Except OperatorError Metrics
  | none => .ok empty
  | some _ => .error .duplicateMetrics

def begin (m : Metrics) : Metrics := { m with reconciliations := m.reconciliations + 1 }

def finish (m : Metrics) : Metrics := { m with timed := m.timed + 1 }

def countReason (m : Metrics) (r : Reason) : Metrics :=
  { m with applied := Entries.increment r.text m.applied }

def countFailure (m : Metrics) (rs : ResourceSet) (e : OperatorError) : Metrics :=
  { m with failures := Entries.increment [e.label, rs.metadata.anyName] m.failures }

/-- Counts what a reconciliation has come to. One that fails counts the outcome that has ended it,
and not those before. -/
def countResult (m : Metrics) (rs : ResourceSet) : Except OperatorError (List Reason) → Metrics
  | .ok reasons => reasons.foldl countReason m
  | .error e =>
    let m := match e with
      | .apply _ source => m.countReason source.reason
      | _ => m
    m.countFailure rs e

/-- Counts a whole reconciliation. -/
def countReconciliation (m : Metrics) (rs : ResourceSet)
    (result : Except OperatorError (List Reason)) : Metrics :=
  (m.begin.countResult rs result).finish

/-- All counts, in the order of their families and labels. What has never been counted is left out,
but for the reconciliations. -/
def samples (m : Metrics) : List Sample :=
  let kind := ("kind", ResourceSet.gvk.kind)
  m.applied.map (fun (reason, n) =>
      ⟨"pullup_applied_resources_total", "resources applied, by outcome",
        [("reason", reason)], n⟩) ++
    (if m.timed = 0 then [] else
      [⟨"pullup_reconcile_duration_seconds", "The duration of reconcile to complete in seconds",
        [kind], m.timed⟩]) ++
    m.failures.map (fun (key, n) =>
      ⟨"pullup_reconciliation_errors_total", "reconciliation errors",
        ["error", "instance"].zip key ++ [kind], n⟩) ++
    [⟨"pullup_reconciliations_total", "reconciliations", [], m.reconciliations⟩]

end Metrics

end PreviewEnv
