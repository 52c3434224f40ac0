import PreviewEnv.Cluster.Error

namespace PreviewEnv

/-- Reading and writing objects by their kind, namespace and name. What is not there is read as no
object. -/
structure ObjectStore (m : Type → Type) where
  get (kind : GroupVersionKind) (ns name : String) : m (Except ClusterError (Option Tree))
  create (kind : GroupVersionKind) (ns : String) (object : Tree) : m (Except ClusterError Unit)
  update (kind : GroupVersionKind) (ns : String) (object : Tree) : m (Except ClusterError Unit)

end PreviewEnv
