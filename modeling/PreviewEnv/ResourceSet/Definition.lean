import PreviewEnv.ResourceSet.Basic

namespace PreviewEnv.ResourceSet

/-- A column in which resource sets are listed. -/
structure Column where
  name : String
  type : String
  path : String

def Column.toTree (c : Column) : Tree := .map [
  ("jsonPath", .str c.path),
  ("name", .str c.name),
  ("type", .str c.type)]

def columns : List Column := [
  ⟨"PR", "integer", ".spec.number"⟩,
  ⟨"Head", "string", ".spec.head.sha"⟩,
  ⟨"Age", "date", ".metadata.creationTimestamp"⟩]

/-- The schema of a text that may be missing. -/
def textSchema (description : String) : Tree := .map [
  ("description", .str description),
  ("nullable", .bool true),
  ("type", .str "string")]

def commitSchema (description : String) : Tree := .map [
  ("default", .empty),
  ("description", .str description),
  ("properties", .map [
    ("ref", textSchema "Git reference, e.g. a branch name"),
    ("sha", textSchema "Commit SHA")]),
  ("type", .str "object")]

def specSchema : Tree := .map [
  ("description", .str ("A group of templated Kubernetes objects that make up the preview " ++
    "environment of one pull request.")),
  ("properties", .map [
    ("base", commitSchema "The branch the pull request merges into."),
    ("head", commitSchema "The pull request branch."),
    ("number", .map [
      ("default", .int 0),
      ("description", .str "The pull request number."),
      ("format", .str "int64"),
      ("type", .str "integer")]),
    ("resources", .map [
      ("default", .arr []),
      ("description", .str ("Manifests to materialize. String values may contain template " ++
        "expressions, which are rendered against this ResourceSet before the objects are " ++
        "applied.")),
      ("items", .map [
        ("type", .str "object"),
        ("x-kubernetes-preserve-unknown-fields", .bool true)]),
      ("type", .str "array")])]),
  ("type", .str "object")]

/-- The schema of resource sets. -/
def schema : Tree := .map [
  ("description", .str ("Auto-generated derived type for ResourceSetSpec via " ++
    "\x60CustomResource\x60")),
  ("properties", .map [
    ("spec", specSchema),
    ("status", .map [
      ("nullable", .bool true),
      ("type", .str "object")])]),
  ("required", .arr [.str "spec"]),
  ("title", .str gvk.kind),
  ("type", .str "object")]

/-- The name under which resource sets are addressed. -/
def plural : String := "resourcesets"

/-- The definition of resource sets. -/
def definition : Tree := .map [
  ("apiVersion", .str "apiextensions.k8s.io/v1"),
  ("kind", .str "CustomResourceDefinition"),
  ("metadata", .map [("name", .str (plural ++ "." ++ gvk.group))]),
  ("spec", .map [
    ("group", .str gvk.group),
    ("names", .map [
      ("categories", .arr []),
      ("kind", .str gvk.kind),
      ("plural", .str plural),
      ("shortNames", .arr [.str "rs"]),
      ("singular", .str "resourceset")]),
    ("scope", .str "Namespaced"),
    ("versions", .arr [.map [
      ("additionalPrinterColumns", .arr (columns.map Column.toTree)),
      ("name", .str gvk.version),
      ("schema", .map [("openAPIV3Schema", schema)]),
      ("served", .bool true),
      ("storage", .bool true),
      ("subresources", .map [("status", .empty)])]])])]

end PreviewEnv.ResourceSet
