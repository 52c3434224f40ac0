import PreviewEnv.Cluster.Error
import PreviewEnv.Reduce.Error

namespace PreviewEnv

/-- The word under which an outcome is reported. -/
inductive Reason where
  | created
  | createFailed
  | updated
  | updateFailed
  | unchanged
  | failed
  | invalidResource
  | resourceExists
deriving DecidableEq, Repr

namespace Reason

def text : Reason → String
  | created => "Created"
  | createFailed => "CreateFailed"
  | updated => "Updated"
  | updateFailed => "UpdateFailed"
  | unchanged => "Unchanged"
  | failed => "Failed"
  | invalidResource => "InvalidResource"
  | resourceExists => "ResourceExists"

def all : List Reason :=
  [created, createFailed, updated, updateFailed, unchanged, failed, invalidResource, resourceExists]

/-- The reason that a word stands for. -/
def ofText? (s : String) : Option Reason := all.find? fun r => r.text = s

end Reason

/-- Why a declaration is not applied. -/
inductive ApplyError where
  | notAnObject
  | invalidApiVersion (apiVersion : String)
  | missingKind
  | render (e : ReduceError)
  /-- The object that bears the name of the declaration cannot be read. -/
  | getOriginal (e : ClusterError)
  /-- The object that an earlier pass has applied cannot be read. -/
  | getApplied (e : ClusterError)
  /-- The object is there already, and something else controls it. -/
  | notControlled (name : String)
  | reduce (e : ReduceError)
  | create (e : ClusterError)
  | update (e : ClusterError)
deriving DecidableEq

namespace ApplyError

def reason : ApplyError → Reason
  | notAnObject | invalidApiVersion _ | missingKind | render _ | reduce _ => .invalidResource
  | getOriginal _ | getApplied _ => .failed
  | notControlled _ => .resourceExists
  | create _ => .createFailed
  | update _ => .updateFailed

/-- Whether applying the same declaration again may succeed. A failure of the cluster passes;
anything else needs the declaration or an object in its way to change first. -/
def requeue : ApplyError → Bool
  | getOriginal _ | getApplied _ | create _ | update _ => true
  | _ => false

def message : ApplyError → String
  | notAnObject => "resource is not an object"
  | invalidApiVersion v => "invalid API version " ++ Text.quote v
  | missingKind => "resource has no kind"
  | render e => "failed to render template: " ++ e.message
  | getOriginal e => "failed to get original resource: " ++ e.message
  | getApplied e => "failed to get last applied resource: " ++ e.message
  | notControlled name => "resource already exists and is not managed by pullup: " ++ name
  | reduce e => "failed to reduce patches: " ++ e.message
  | create e => "failed to create resource: " ++ e.message
  | update e => "failed to update resource: " ++ e.message

end ApplyError

inductive Change where
  | created
  | updated
  | unchanged
deriving DecidableEq, Repr

/-- A declaration has been applied: what has happened to which object. -/
structure Applied where
  change : Change
  name : String
deriving DecidableEq, Repr

namespace Applied

def reason (a : Applied) : Reason :=
  match a.change with
  | .created => .created
  | .updated => .updated
  | .unchanged => .unchanged

def message (a : Applied) : String :=
  (match a.change with
    | .created => "Created"
    | .updated => "Updated"
    | .unchanged => "Skipped") ++ " resource " ++ a.name

end Applied

abbrev Outcome := Except ApplyError Applied

inductive EventType where
  | normal
  | warning
deriving DecidableEq, Repr

def EventType.text : EventType → String
  | normal => "Normal"
  | warning => "Warning"

/-- A report on something that has happened to an object. -/
structure Event where
  type : EventType
  reason : String
  note : String
deriving DecidableEq, Repr

namespace Outcome

def reason : Outcome → Reason
  | .ok a => a.reason
  | .error e => e.reason

def message : Outcome → String
  | .ok a => a.message
  | .error e => e.message

def requeue : Outcome → Bool
  | .ok _ => false
  | .error e => e.requeue

def error? : Outcome → Option ApplyError
  | .ok _ => none
  | .error e => some e

def eventType : Outcome → EventType
  | .ok _ => .normal
  | .error _ => .warning

/-- The report on an outcome. -/
def event (o : Outcome) : Event :=
  ⟨eventType o, (reason o).text, message o⟩

end Outcome

end PreviewEnv
