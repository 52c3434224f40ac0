import PreviewEnv.Apply.Outcome

namespace PreviewEnv

/-- Why a resource set is not reconciled, or the operator does not start. -/
inductive OperatorError where
  | cluster (e : ClusterError)
  /-- Metrics of the same names are registered already. -/
  | duplicateMetrics
  /-- The resource set lacks what its objects need. -/
  | missingKey (key : String)
  /-- The declaration at an index is not applied. -/
  | apply (index : Nat) (source : ApplyError)
deriving DecidableEq

namespace OperatorError

/-- The word under which an error is counted. -/
def label : OperatorError → String
  | cluster _ => "KubeError"
  | duplicateMetrics => "MetricsError"
  | missingKey _ => "MissingObjectKey"
  | apply _ _ => "ResourceApply"

/-- Whether reconciling again may succeed although the resource set does not change. -/
def requeue : OperatorError → Bool
  | cluster _ => true
  | duplicateMetrics | missingKey _ => false
  | apply _ source => source.requeue

def message : OperatorError → String
  | cluster e => "Kube Error: " ++ e.message
  | duplicateMetrics => "Metrics Error: Duplicate metrics collector registration attempted"
  | missingKey key => "ResourceSet has no " ++ key
  | apply index source => "Failed to apply resource #" ++ toString index ++ ": " ++ source.message

end OperatorError

end PreviewEnv
