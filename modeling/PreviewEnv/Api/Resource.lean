import PreviewEnv.Api.Request
import PreviewEnv.Manifest.Metadata

/-!
Where the objects of a kind are found in the API, and how that is learned from the cluster: it lists
the kinds of a version of a group with the names under which their objects are addressed.
-/

namespace PreviewEnv.Api

/-- A kind as it is addressed. -/
structure Resource where
  group : String
  /-- The group and the version under which the kind is listed. -/
  apiVersion : String
  plural : String
  namespaced : Bool
deriving DecidableEq, Repr

/-- The path of a version of a group; what belongs to no group is kept apart. -/
def versionPath (group apiVersion : String) : String :=
  (if group.isEmpty then "/api/" else "/apis/") ++ apiVersion

namespace Resource

/-- The address of the objects of a kind, of one namespace if one is given. -/
def collection (r : Resource) (ns : Option String) : String :=
  versionPath r.group r.apiVersion ++
    (match ns with
    | some ns => "/namespaces/" ++ ns
    | none => "") ++ "/" ++ r.plural

/-- The address of the objects of a kind in a namespace, if the kind has namespaces. -/
def addressIn (r : Resource) (ns : String) : String :=
  r.collection (if r.namespaced then some ns else none)

end Resource

/-- A kind in a list of kinds, as the cluster sends it. -/
def listedKindShape : Shape := .record "APIResource" .lenient [
  .optional "categories" (.listOf .text),
  .optional "group" .text,
  .textOrEmpty "kind",
  .textOrEmpty "name",
  .optional "namespaced" .truth,
  .optional "shortNames" (.listOf .text),
  .textOrEmpty "singularName",
  .optional "storageVersionHash" .text,
  .optional "verbs" (.listOf .text),
  .optional "version" .text]

/-- A list of the kinds of a version, as the cluster sends it. -/
def kindListShape : Shape := .record "APIResourceList" .lenient [
  .constant "apiVersion" "v1",
  .textOrEmpty "groupVersion",
  .constant "kind" "APIResourceList",
  .optional "resources" (.listOf listedKindShape)]

/-- The group of a listed version and the version as it is addressed. -/
def listedVersion (groupVersion : String) : String × String :=
  match groupVersion.toList with
  | '/' :: version => ("", .ofList version)
  | cs => (if cs.contains '/' then .ofList (cs.takeWhile (· ≠ '/')) else "", groupVersion)

/-- How a kind is addressed, by a list of the kinds of its version. The first entry of the kind
counts that does not name a part of an object; it has namespaces if the first entry of its name has
them. -/
def resourceOf (kind : GroupVersionKind) (list : Tree) : Except ClusterError Resource :=
  let entries := ((list.get? "resources").bind Tree.items?).getD []
  match entries.find? fun e =>
      e.textAt ["kind"] == kind.kind && !(e.textAt ["name"]).toList.contains '/' with
  | none => .error (.unknownKind kind)
  | some entry =>
    let name := entry.textAt ["name"]
    let (group, apiVersion) := listedVersion (list.textAt ["groupVersion"])
    let first := entries.find? fun e => e.textAt ["name"] == name
    let namespaced := first.bind (Tree.get? "namespaced")
    .ok ⟨((entry.get? "group").bind Tree.str?).getD group, apiVersion, name,
      namespaced == some (.bool true)⟩

/-- Asks the cluster how a kind is addressed. -/
def discover {m : Type → Type} [Monad m] (send : Request → m Reply) (kind : GroupVersionKind) :
    m (Except ClusterError Resource) :=
  match pathOf? (versionPath kind.group kind.apiVersion) with
  | none => return .error .badVersionAddress
  | some path => do
    let reply ← send ⟨.get, path, none⟩
    return do resourceOf kind (← reply.decode kindListShape)

end PreviewEnv.Api
