import PreviewEnv.Manifest.GroupVersionKind
import PreviewEnv.Manifest.Metadata
import PreviewEnv.Merge
import PreviewEnv.Reduce.Deep
import PreviewEnv.Reduce.Nested
import PreviewEnv.Reduce.Pipeline

/-!
How the object is built that a declaration describes. The original, which is the object that bears
the declaration's name, comes first, without what the cluster has assigned to it; then the object
that an earlier pass has applied; then the rendered declaration. The result is named after its
target and owned by it.
-/

namespace PreviewEnv

/-- Where applied objects go, and who owns them. -/
structure Target where
  name : String
  ns : String
  owner : OwnerReference
deriving DecidableEq, Repr

/-- Metadata that the cluster assigns. -/
def assignedMetadata : List String :=
  ["creationTimestamp", "resourceVersion", "selfLink", "uid", "generation", "managedFields"]

/-- Annotations in which tools keep their own books. -/
def bookkeepingAnnotations : List String :=
  ["deployment.kubernetes.io/revision", "kubectl.kubernetes.io/last-applied-configuration"]

/-- A whole float, which the cluster stores as an integer, as that integer. -/
def Tree.wholeNumber : Tree → Tree
  | .float x =>
    match x.toInt? with
    | some n => if fitsUnsigned 53 n.natAbs then .int n else .float x
    | none => .float x
  | t => t

namespace Patch

/-- Merges an object, arrays of named elements by name. -/
def mergeObject (object : Tree) : Reducer := .mergeWith .named object

/-- What a service has to be given anew. -/
def withoutAddresses : List Reducer := [
  .deleteNested ["spec", "clusterIP"],
  .deleteNested ["spec", "clusterIPs"],
  .reduceNested ["spec", "ports"] (.whenPresent (.mapValue (.deleteKeys ["nodePort"])))]

/-- Takes the original without what is its own. -/
def copyOriginal (kind : GroupVersionKind) (original : Tree) : List Reducer := [
  mergeObject original,
  .deleteNested ["status"],
  .reduceNested ["metadata"] (.deleteKeys assignedMetadata),
  .reduceNested ["metadata", "annotations"] (.deleteKeys bookkeepingAnnotations)] ++
  if kind.isService then withoutAddresses else []

/-- Names the object after its target and gives it its owner. -/
def adopt (target : Target) : List Reducer := [
  .setNested ["metadata", "name"] (.str target.name),
  .setNested ["metadata", "namespace"] (.str target.ns),
  .setNested ["metadata", "ownerReferences"] (.arr [target.owner.blocking])]

/-- Turns whole floats into integers, at any depth. -/
def wholeNumbers : Reducer := .deepMap fun t => pure t.wholeNumber

/-- The steps that build the object, from nothing. -/
def pipeline (kind : GroupVersionKind) (original applied : Option Tree) (rendered : Tree)
    (target : Target) : Pipeline :=
  ⟨(match original with
      | some e => copyOriginal kind e
      | none => []) ++
    (match applied with
      | some a => [mergeObject a]
      | none => []) ++
    mergeObject rendered :: adopt target ++ [wholeNumbers]⟩

/-- The object that the steps build. -/
def build (kind : GroupVersionKind) (original applied : Option Tree) (rendered : Tree)
    (target : Target) : Except ReduceError Tree :=
  ((pipeline kind original applied rendered target).reduce .null).outcome

end Patch

end PreviewEnv
