import PreviewEnv.Manifest.GroupVersionKind
import PreviewEnv.Manifest.Metadata

/-!
Resource sets: the templated manifests of one pull request's preview environment, with the commits
that the request goes from and to. Fields of a set that are missing have defaults; a field that
holds what it should not, null included, makes the set unreadable. A list stands for a record whose
fields it gives in order.
-/

namespace PreviewEnv

/-- A commit on a branch. -/
structure Commit where
  ref : Option String
  sha : Option String
deriving DecidableEq, Repr

structure ResourceSetSpec where
  /-- The manifests to materialize. -/
  resources : List Tree
  /-- The number of the pull request. -/
  number : Int
  /-- The commit that the pull request merges into. -/
  base : Commit
  /-- The commit of the pull request. -/
  head : Commit
deriving DecidableEq

structure ResourceSet where
  metadata : Metadata
  spec : ResourceSetSpec
  /-- Whether a status has been reported. It holds nothing. -/
  hasStatus : Bool
deriving DecidableEq

namespace Commit

def empty : Commit := ⟨none, none⟩

/-- The fields of a commit. -/
def shape : Shape := .record "struct Commit" .strict [.optional "ref" .text, .optional "sha" .text]

/-- The commit that a tree of the shape stands for. -/
def ofFields (t : Tree) : Commit :=
  let text? (key : String) : Option String := (t.get? key).bind Tree.str?
  ⟨text? "ref", text? "sha"⟩

/-- The commit as a manifest writes it, without what is not known. -/
def toTree (c : Commit) : Tree :=
  let field (key : String) : Option String → List (String × Tree)
    | some s => [(key, .str s)]
    | none => []
  .map (field "ref" c.ref ++ field "sha" c.sha)

end Commit

namespace ResourceSetSpec

/-- The fields of the specification. -/
def shape : Shape := .record "struct ResourceSetSpec" .strict [
  .mk "resources" (.default (.arr [])) (.listOf .any),
  .mk "number" (.default (.int 0)) (.integer true 64),
  .mk "base" (.default .empty) Commit.shape,
  .mk "head" (.default .empty) Commit.shape]

/-- The specification that a tree of the shape stands for. -/
def ofFields (t : Tree) : ResourceSetSpec where
  resources := ((t.get? "resources").bind Tree.items?).getD []
  number := ((t.get? "number").bind Tree.int?).getD 0
  base := ((t.get? "base").map Commit.ofFields).getD .empty
  head := ((t.get? "head").map Commit.ofFields).getD .empty

def toTree (s : ResourceSetSpec) : Tree := .map [
  ("base", s.base.toTree),
  ("head", s.head.toTree),
  ("number", .int s.number),
  ("resources", .arr s.resources)]

end ResourceSetSpec

namespace ResourceSet

def gvk : GroupVersionKind := ⟨"pullup.dev", "v1alpha1", "ResourceSet"⟩

/-- The fields of a resource set. -/
def shape : Shape := .record "struct ResourceSet" .strict [
  .mk "metadata" .required Metadata.shape,
  .mk "spec" .required ResourceSetSpec.shape,
  .mk "status" { Presence.optional with positional := true }
    (.record "struct ResourceSetStatus" .strict [])]

/-- The resource set that a tree of the shape stands for. -/
def ofFields (t : Tree) : ResourceSet where
  metadata := ⟨(t.get? "metadata").getD .empty⟩
  spec := .ofFields ((t.get? "spec").getD .empty)
  hasStatus := (t.get? "status").isSome

/-- The resource set that a manifest describes. -/
def read? (t : Tree) : Option ResourceSet := (shape.read t).toOption.map ofFields

/-- The manifest of a resource set. -/
def toTree (rs : ResourceSet) : Tree := .map ([
  ("apiVersion", .str gvk.apiVersion),
  ("kind", .str gvk.kind),
  ("metadata", rs.metadata.fields),
  ("spec", rs.spec.toTree)] ++ if rs.hasStatus then [("status", .empty)] else [])

/-- What an event about the set refers to. -/
def reference (rs : ResourceSet) : ObjectReference :=
  let field (key : String) : List (String × Tree) :=
    match rs.metadata.text? key with
    | some s => [(key, .str s)]
    | none => []
  ⟨.map ([("apiVersion", .str gvk.apiVersion), ("kind", .str gvk.kind)] ++ field "name" ++
    field "namespace" ++ field "uid")⟩

end ResourceSet

end PreviewEnv
