import PreviewEnv.Manifest.Shape

namespace PreviewEnv

/-- The owner of an object. The one that controls it is marked as its controller. -/
structure OwnerReference where
  apiVersion : String
  kind : String
  name : String
  uid : String
deriving DecidableEq, Repr

/-- A reference to an object, with those of its fields that are known. -/
structure ObjectReference where
  fields : Tree
deriving DecidableEq

namespace OwnerReference

def shape : Shape := .record "OwnerReference" .lenient [
  .textOrEmpty "apiVersion",
  .optional "blockOwnerDeletion" .truth,
  .optional "controller" .truth,
  .textOrEmpty "kind",
  .textOrEmpty "name",
  .textOrEmpty "uid"]

/-- The reference that marks the owner as the controller. -/
def toTree (o : OwnerReference) : Tree := .map [
  ("apiVersion", .str o.apiVersion),
  ("controller", .bool true),
  ("kind", .str o.kind),
  ("name", .str o.name),
  ("uid", .str o.uid)]

/-- The reference that marks the owner as the controller and keeps it from being deleted first. -/
def blocking (o : OwnerReference) : Tree := .map [
  ("apiVersion", .str o.apiVersion),
  ("blockOwnerDeletion", .bool true),
  ("controller", .bool true),
  ("kind", .str o.kind),
  ("name", .str o.name),
  ("uid", .str o.uid)]

/-- Whether a reference is to a controller. -/
def isController (reference : Tree) : Bool := reference.get? "controller" == some (.bool true)

/-- Whether the first controller that the object refers to has the owner's identity. -/
def controls (o : OwnerReference) (object : Tree) : Bool :=
  match ((object.at? ["metadata", "ownerReferences"]).bind Tree.items?).bind
      (List.find? isController) with
  | some reference => reference.get? "uid" == some (.str o.uid)
  | none => false

end OwnerReference

namespace ObjectReference

/-- The fields of a reference. -/
def shape : Shape := .record "ObjectReference" .lenient [
  .optional "apiVersion" .text,
  .optional "fieldPath" .text,
  .optional "kind" .text,
  .optional "name" .text,
  .optional "namespace" .text,
  .optional "resourceVersion" .text,
  .optional "uid" .text]

def read (t : Tree) : Except String ObjectReference := (⟨·⟩) <$> shape.read t

def text? (key : String) (r : ObjectReference) : Option String := (r.fields.get? key).bind Tree.str?

def name? : ObjectReference → Option String := text? "name"

def ns? : ObjectReference → Option String := text? "namespace"

end ObjectReference

/-- The metadata of an object, with no field but those that are known and hold what they should. -/
structure Metadata where
  fields : Tree
deriving DecidableEq

namespace Metadata

/-- A note of who manages which fields of an object. -/
def managedFields : Shape := .record "ManagedFieldsEntry" .lenient [
  .optional "apiVersion" .text,
  .optional "fieldsType" .text,
  .optional "fieldsV1" .any,
  .optional "manager" .text,
  .optional "operation" .text,
  .optional "subresource" .text,
  .optional "time" .time]

/-- The fields of metadata. -/
def shape : Shape := .record "ObjectMeta" .lenient [
  .optional "annotations" .textMap,
  .optional "creationTimestamp" .time,
  .optional "deletionGracePeriodSeconds" (.integer true 64),
  .optional "deletionTimestamp" .time,
  .optional "finalizers" (.listOf .text),
  .optional "generateName" .text,
  .optional "generation" (.integer true 64),
  .optional "labels" .textMap,
  .optional "managedFields" (.listOf managedFields),
  .optional "name" .text,
  .optional "namespace" .text,
  .optional "ownerReferences" (.listOf OwnerReference.shape),
  .optional "resourceVersion" .text,
  .optional "selfLink" .text,
  .optional "uid" .text]

def read (t : Tree) : Except String Metadata := (⟨·⟩) <$> shape.read t

def text? (key : String) (m : Metadata) : Option String := (m.fields.get? key).bind Tree.str?

def name? : Metadata → Option String := text? "name"

def ns? : Metadata → Option String := text? "namespace"

def uid? : Metadata → Option String := text? "uid"

/-- The name, or what it is to be generated from, or nothing. -/
def anyName (m : Metadata) : String := (m.name? <|> m.text? "generateName").getD ""

end Metadata

end PreviewEnv
