import PreviewEnv.Apply.Outcome
import PreviewEnv.Apply.Patch
import PreviewEnv.Cluster.Store
import PreviewEnv.Template.Render
import PreviewEnv.Tree.Equal

/-!
Applying one declaration: it is rendered, the object that it describes is built, and that object is
created, or updated if it differs from what is there. An object that something else controls is left
alone.
-/

namespace PreviewEnv

/-- The kind that a declaration says it is of. -/
def declaredKind (declaration : Tree) : Except ApplyError GroupVersionKind :=
  let apiVersion := declaration.textAt ["apiVersion"]
  match GroupVersionKind.splitApiVersion? apiVersion with
  | none => .error (.invalidApiVersion apiVersion)
  | some (group, version) =>
    let kind := declaration.textAt ["kind"]
    if kind.isEmpty then .error .missingKind else .ok ⟨group, version, kind⟩

/-- The kind of a declaration, which has to be a map. -/
def checkedKind : Tree → Except ApplyError GroupVersionKind
  | .map es => declaredKind (.map es)
  | _ => .error .notAnObject

/-- A declaration with its templates rendered. -/
def renderDeclaration (engine : Template.Engine) (context declaration : Tree) :
    Except ApplyError Tree :=
  (Reducer.renderTree engine context declaration).outcome.mapError .render

/-- What messages call an object. -/
def objectName (object : Tree) : String :=
  object.textAt ["apiVersion"] ++ " " ++ object.textAt ["kind"] ++ ": " ++
    Text.quote (object.textAt ["metadata", "name"])

/-- Fails if something else controls the object that is there. -/
def checkControl (owner : OwnerReference) : Option Tree → Except ApplyError Unit
  | some object =>
    if owner.controls object then .ok () else .error (.notControlled (objectName object))
  | none => .ok ()

variable {m : Type → Type} [Monad m] {α : Type}

/-- A call to the cluster whose failure is an error of the given form. -/
def callCluster (form : ClusterError → ApplyError) (call : m (Except ClusterError α)) :
    ExceptT ApplyError m α :=
  ExceptT.mk (Except.mapError form <$> call)

/-- The original of a rendered declaration: the object that bears its name, if it has a name and
there is such an object. -/
def getOriginal (store : ObjectStore m) (kind : GroupVersionKind) (ns : String) (rendered : Tree) :
    ExceptT ApplyError m (Option Tree) :=
  let name := rendered.textAt ["metadata", "name"]
  if name.isEmpty then pure none else callCluster .getOriginal (store.get kind ns name)

/-- Writes the object, unless it is there already as it should be. -/
def writeObject (store : ObjectStore m) (kind : GroupVersionKind) (ns : String) (object : Tree) :
    Option Tree → ExceptT ApplyError m Applied
  | none => do
    callCluster .create (store.create kind ns object)
    return ⟨.created, objectName object⟩
  | some applied =>
    if object.equal applied then return ⟨.unchanged, objectName object⟩
    else do
      callCluster .update (store.update kind ns object)
      return ⟨.updated, objectName object⟩

/-- Applies a declaration. Its original is looked up by the name that it has after rendering, so a
templated name finds what it renders to. -/
def apply (store : ObjectStore m) (engine : Template.Engine) (target : Target)
    (context declaration : Tree) : m Outcome :=
  ExceptT.run do
    let kind ← liftExcept (checkedKind declaration)
    let rendered ← liftExcept (renderDeclaration engine context declaration)
    let original ← getOriginal store kind target.ns rendered
    let applied ← callCluster .getApplied (store.get kind target.ns target.name)
    liftExcept (checkControl target.owner applied)
    let object ← liftExcept ((Patch.build kind original applied rendered target).mapError .reduce)
    writeObject store kind target.ns object applied
where
  /-- An outcome that no call to the cluster has part in. -/
  liftExcept {β : Type} (x : Except ApplyError β) : ExceptT ApplyError m β := ExceptT.mk (pure x)

end PreviewEnv
