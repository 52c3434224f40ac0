import PreviewEnv.Apply.Basic
import PreviewEnv.Operator.Error
import PreviewEnv.ResourceSet.Context

/-!
Reconciling a resource set: its declarations are applied in order, each with an event about its
outcome, up to the first that fails. What has been applied before stays applied.
-/

namespace PreviewEnv

/-- Reports what has happened to an object. -/
structure EventRecorder (m : Type → Type) where
  record (regarding : ObjectReference) (event : Event) : m (Except ClusterError Unit)

/-- Where the objects of a resource set go: next to it, under its name. -/
def Target.ofResourceSet (rs : ResourceSet) : Except OperatorError Target :=
  match rs.metadata.ns?, rs.metadata.name?, rs.metadata.uid? with
  | none, _, _ => .error (.missingKey ".metadata.namespace")
  | some ns, some name, some uid =>
    .ok ⟨name, ns, ResourceSet.gvk.apiVersion, ResourceSet.gvk.kind, name, uid⟩
  | _, _, _ => .error (.missingKey ".metadata.uid")

variable {m : Type → Type} [Monad m]

/-- Applies declarations, the first of which has the given index. A failure to report an outcome is
passed over. -/
def applyAll (store : ObjectStore m) (recorder : EventRecorder m) (engine : Template.Engine)
    (target : Target) (context : Tree) (regarding : ObjectReference) (index : Nat) :
    List Tree → m (Except OperatorError (List Reason))
  | [] => return .ok []
  | declaration :: rest => do
    let outcome ← apply store engine target context declaration
    let _ ← recorder.record regarding outcome.event
    match outcome with
    | .error e => return .error (.apply index e)
    | .ok applied =>
      let reasons ← applyAll store recorder engine target context regarding (index + 1) rest
      return reasons.map (applied.reason :: ·)

/-- Applies all that a resource set declares. -/
def reconcile (store : ObjectStore m) (recorder : EventRecorder m) (engine : Template.Engine)
    (rs : ResourceSet) : m (Except OperatorError (List Reason)) :=
  match Target.ofResourceSet rs with
  | .error e => return .error e
  | .ok target =>
    applyAll store recorder engine target rs.context rs.reference 0 rs.spec.resources

end PreviewEnv
