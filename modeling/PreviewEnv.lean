import PreviewEnv.Text.Case
import PreviewEnv.Tree.Json
import PreviewEnv.Json.Value
import PreviewEnv.Tree.Yaml
import PreviewEnv.Tree.Pointer
import PreviewEnv.Tree.Equal
import PreviewEnv.Tree.NamedArray
import PreviewEnv.Reduce.Deep
import PreviewEnv.Reduce.Nested
import PreviewEnv.Reduce.Pipeline
import PreviewEnv.Merge
import PreviewEnv.Template.Page
import PreviewEnv.Manifest.GroupVersionKind
import PreviewEnv.Manifest.Metadata
import PreviewEnv.ResourceSet.Context
import PreviewEnv.ResourceSet.Definition
import PreviewEnv.Cluster.Memory
import PreviewEnv.Apply.Basic
import PreviewEnv.Operator.Reconcile
import PreviewEnv.Operator.Metrics
import PreviewEnv.Operator.Controller
import PreviewEnv.Main
import PreviewEnv.Proofs.Tree.Entries
import PreviewEnv.Proofs.Tree.Lookup
import PreviewEnv.Proofs.Binary64
import PreviewEnv.Proofs.Tree.Canonical
import PreviewEnv.Proofs.Merge.Overlay
import PreviewEnv.Proofs.Tree.NamedItems
import PreviewEnv.Proofs.Merge.Arrays
import PreviewEnv.Proofs.Merge.Stability
import PreviewEnv.Proofs.Merge.Paths
import PreviewEnv.Proofs.Reduce.Outcomes
import PreviewEnv.Proofs.Reduce.Leaves
import PreviewEnv.Proofs.Apply.WholeNumbers
import PreviewEnv.Proofs.Apply.Rendering
import PreviewEnv.Proofs.Apply.Build
import PreviewEnv.Proofs.Apply.Precedence
import PreviewEnv.Proofs.Apply.Calls
import PreviewEnv.Proofs.Apply.Stored
import PreviewEnv.Proofs.Apply.Ownership
import PreviewEnv.Proofs.Merge.Rebase
import PreviewEnv.Proofs.Reduce.Pruning
import PreviewEnv.Proofs.Apply.Copying
import PreviewEnv.Proofs.Apply.TakenUp
import PreviewEnv.Proofs.Apply.SecondPass
import PreviewEnv.Proofs.Operator.Passes
import PreviewEnv.Proofs.Operator.Steady
import PreviewEnv.Proofs.Apply.Locality
import PreviewEnv.Proofs.Apply.Failures
import PreviewEnv.Proofs.Operator.Retries
import PreviewEnv.Proofs.Operator.Independence
import PreviewEnv.Proofs.Operator.Materialized
import PreviewEnv.Proofs.Apply.Addressing
import PreviewEnv.Proofs.Merge.Idempotence
import PreviewEnv.Proofs.Operator.Reports
import PreviewEnv.Proofs.Operator.Counts
import PreviewEnv.Proofs.Reduce.Masks
import PreviewEnv.Proofs.Apply.Assigned
import PreviewEnv.Proofs.Merge.Pointwise
import PreviewEnv.Proofs.Merge.Rebased
import PreviewEnv.Proofs.Merge.Names
import PreviewEnv.Proofs.Tree.Steps
import PreviewEnv.Proofs.Merge.Objections
import PreviewEnv.Proofs.Binary64.Integers
import PreviewEnv.Proofs.Tree.Normal
import PreviewEnv.Proofs.Reduce.Updates
import PreviewEnv.Proofs.Apply.Misfits
import PreviewEnv.Proofs.Tree.Integers
import PreviewEnv.Proofs.Apply.Unchanged
import PreviewEnv.Proofs.Reduce.Debugging
import PreviewEnv.Proofs.Reduce.Visits
import PreviewEnv.Proofs.Template.Trees
import PreviewEnv.Proofs.Template.Operands
import PreviewEnv.Proofs.Apply.DeclaredKinds
import PreviewEnv.Proofs.Reduce.Descent
import PreviewEnv.Proofs.Api.Caching
