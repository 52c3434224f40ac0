import PreviewEnv.Api.Object
import PreviewEnv.Api.Resource
import PreviewEnv.Cluster.Store

/-!
The objects of a cluster by way of its API. How a kind is addressed has to be found out before the
first request for an object of it; `cachingStore` remembers what it has found, and `freshStore` asks
every time.
-/

namespace PreviewEnv.Api

variable {m : Type → Type} [Monad m] {α : Type}

/-- Sends a request and reads the object in the reply. -/
def askForObject (send : Request → m Reply) (method : Method) (address : String)
    (body : Option Tree) : m (Except ClusterError Tree) :=
  (settle <$> ·) <$> ask send objectShape method address body

/-- Reads an object; what the cluster does not find is no object. -/
def getObject (send : Request → m Reply) (resource : Resource) (ns name : String) :
    m (Except ClusterError (Option Tree)) :=
  if name.isEmpty then return .error .namelessRequest
  else do
    match ← askForObject send .get (resource.addressIn ns ++ "/" ++ name) none with
    | .ok object => return .ok (some object)
    | .error e => return if e.isNotFound then .ok none else .error e

def createObject (send : Request → m Reply) (resource : Resource) (ns : String) (object : Tree) :
    m (Except ClusterError Unit) :=
  match readObject object with
  | .error detail => return .error (.unreadable detail)
  | .ok body => do
    return (← askForObject send .post (resource.addressIn ns) (some body)).map fun _ => ()

/-- Replaces an object, which has to have a name. -/
def updateObject (send : Request → m Reply) (resource : Resource) (ns : String) (object : Tree) :
    m (Except ClusterError Unit) :=
  match readObject object with
  | .error detail => return .error (.unreadable detail)
  | .ok body => do
    let name := (Metadata.mk ((body.get? "metadata").getD .empty)).anyName
    if name.isEmpty then return .error .namelessRequest
    let address := resource.addressIn ns ++ "/" ++ name
    return (← askForObject send .put address (some body)).map fun _ => ()

/-- Does something with the objects of a kind once it is found how they are addressed. -/
def withResource (find : GroupVersionKind → m (Except ClusterError Resource))
    (kind : GroupVersionKind) (act : Resource → m (Except ClusterError α)) :
    m (Except ClusterError α) := do
  match ← find kind with
  | .error e => return .error e
  | .ok resource => act resource

/-- The store that finds out by `find` how kinds are addressed. -/
def objectStore (find : GroupVersionKind → m (Except ClusterError Resource))
    (send : Request → m Reply) : ObjectStore m where
  get kind ns name := withResource find kind fun r => getObject send r ns name
  create kind ns object := withResource find kind fun r => createObject send r ns object
  update kind ns object := withResource find kind fun r => updateObject send r ns object

/-- The store that asks at every call how the kind is addressed. -/
def freshStore (send : Request → m Reply) : ObjectStore m := objectStore (discover send) send

/-- The kinds of which it is known how they are addressed. -/
structure Cache where
  entries : List (GroupVersionKind × Resource)

/-- How a kind is addressed: what is remembered, or else what the cluster says. A failure is not
remembered. -/
def findCached [MonadStateOf Cache m] (send : Request → m Reply) (kind : GroupVersionKind) :
    m (Except ClusterError Resource) := do
  match Entries.get? kind (← getThe Cache).entries with
  | some resource => return .ok resource
  | none =>
    let found ← discover send kind
    if let .ok resource := found then
      modifyThe Cache fun cache => ⟨(kind, resource) :: cache.entries⟩
    return found

/-- The store that asks once for each kind how it is addressed. -/
def cachingStore [MonadStateOf Cache m] (send : Request → m Reply) : ObjectStore m :=
  objectStore (findCached send) send

end PreviewEnv.Api
