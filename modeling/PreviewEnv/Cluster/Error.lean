import PreviewEnv.Manifest.GroupVersionKind
import PreviewEnv.Text.Quoted

namespace PreviewEnv

/-- A refusal, as the cluster words it. -/
structure Refusal where
  status : String
  message : String
  reason : String
  code : Nat
deriving DecidableEq, Repr

/-- Why the cluster does not do what it is asked to do. -/
inductive ClusterError where
  | refused (r : Refusal)
  /-- An object or a reply is not of the form that it should have. -/
  | unreadable (detail : String)
  /-- The cluster serves the version of the group, but not the kind. -/
  | unknownKind (kind : GroupVersionKind)
  /-- A request without the name that it needs. -/
  | namelessRequest
  /-- A request for an object whose address has a character that addresses do not have. -/
  | badAddress
  /-- The same of a request for the kinds of a version. -/
  | badVersionAddress
deriving DecidableEq, Repr

namespace ClusterError

/-- A refusal whose status is that of every failure. -/
def failure (code : Nat) (reason message : String) : ClusterError :=
  .refused ⟨"Failure", message, reason, code⟩

/-- Whether the cluster has answered that there is no such thing. -/
def isNotFound : ClusterError → Bool
  | refused r => r.reason == "NotFound"
  | _ => false

def message : ClusterError → String
  | refused r =>
    "ApiError: " ++ r.message ++ ": " ++ r.reason ++ " (ErrorResponse \x7b status: " ++
      Text.quote r.status ++ ", message: " ++ Text.quote r.message ++ ", reason: " ++
      Text.quote r.reason ++ ", code: " ++ toString r.code ++ " \x7d)"
  | unreadable detail => "Error deserializing response: " ++ detail
  | unknownKind k =>
    "Error from discovery: Missing Kind: GroupVersionKind \x7b group: " ++ Text.quote k.group ++
      ", version: " ++ Text.quote k.version ++ ", kind: " ++ Text.quote k.kind ++ " \x7d"
  | namelessRequest =>
    "Failed to build request: failed to validate request: A non-empty name is required"
  | badAddress => "Failed to build request: failed to build request: invalid uri character"
  | badVersionAddress => "HttpError: invalid uri character"

end ClusterError

end PreviewEnv
