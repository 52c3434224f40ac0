import PreviewEnv.Tree.Basic

/-!
The group, version and kind that say what a manifest is. An API version is a version alone or a
group and a version with a slash between them; no part is empty or holds a slash.
-/

namespace PreviewEnv

structure GroupVersionKind where
  group : String
  version : String
  kind : String
deriving DecidableEq, Repr

namespace GroupVersionKind

/-- The group, empty if there is none, and the version of an API version. -/
def splitApiVersion? (apiVersion : String) : Option (String × String) :=
  let cs := apiVersion.toList
  let part := cs.takeWhile (· ≠ '/')
  let valid (version : List Char) : Bool := !version.isEmpty && !version.contains '/'
  match cs.dropWhile (· ≠ '/') with
  | [] => if valid part then some ("", apiVersion) else none
  | _ :: version =>
    if !part.isEmpty && valid version then some (.ofList part, .ofList version) else none

def apiVersion (k : GroupVersionKind) : String :=
  if k.group.isEmpty then k.version else k.group ++ "/" ++ k.version

/-- The group of an object: what its API version has before the first slash. -/
def groupOf (object : Tree) : String :=
  let cs := (object.textAt ["apiVersion"]).toList
  if cs.contains '/' then .ofList (cs.takeWhile (· ≠ '/')) else ""

/-- Whether the kind is the core service, whose addresses are given out by the cluster. -/
def isService (k : GroupVersionKind) : Bool :=
  k == ⟨"", "v1", "Service"⟩

end GroupVersionKind

end PreviewEnv
