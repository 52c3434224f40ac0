import PreviewEnv.ResourceSet.Basic

/-!
What the templates of a resource set can name: its fields as the manifest has them, under `metadata`
and `spec`, and the same facts under capitalized names that always have a value.
-/

namespace PreviewEnv

/-- The commit under capitalized names. -/
def Commit.context (c : Commit) : Tree := .map [
  ("Ref", .str (c.ref.getD "")),
  ("SHA", .str (c.sha.getD ""))]

namespace ResourceSet

/-- The context in which the templates of the set are rendered. -/
def context (rs : ResourceSet) : Tree :=
  let m := rs.metadata
  let mapOf (key : String) : Tree := (m.fields.get? key).getD .empty
  .map [
    ("APIVersion", .str gvk.apiVersion),
    ("Annotations", mapOf "annotations"),
    ("CreationTimestamp", (m.fields.get? "creationTimestamp").getD .null),
    ("Kind", .str gvk.kind),
    ("Labels", mapOf "labels"),
    ("Name", .str m.anyName),
    ("Namespace", .str (m.ns?.getD "")),
    ("Spec", .map [
      ("Base", rs.spec.base.context),
      ("Head", rs.spec.head.context),
      ("Number", .int rs.spec.number),
      ("Resources", .arr rs.spec.resources)]),
    ("UID", .str (m.uid?.getD "")),
    ("metadata", m.fields),
    ("spec", rs.spec.toTree)]

end ResourceSet

end PreviewEnv
