import PreviewEnv.Api.Object
import PreviewEnv.Api.Resource
import PreviewEnv.Apply.Outcome
import PreviewEnv.Operator.Reconcile

/-!
Reporting events to the cluster. An event that repeats one of the same type and reason about the
same object is not sent anew: the first one is counted up, and keeps its note.
-/

namespace PreviewEnv.Api

/-- What events have in common that are counted as one. -/
structure EventKey where
  type : EventType
  reason : String
  regarding : ObjectReference
deriving DecidableEq

/-- An event that the cluster knows of. -/
structure SentEvent where
  name : String
  note : String
  /-- How often it has occurred, once it has occurred again. -/
  count : Option Nat

/-- The events that the cluster knows of. -/
structure SentEvents where
  entries : List (EventKey × SentEvent)

/-- How events are addressed. -/
def eventResource : Resource := ⟨"events.k8s.io", "events.k8s.io/v1", "events", true⟩

/-- The namespace in which an event about an object is kept. -/
def eventNamespace (regarding : ObjectReference) : String := regarding.ns?.getD "default"

/-- The event as the cluster keeps it. -/
def eventBody (key : EventKey) (e : SentEvent) : Tree := .ofEntries ([
  ("action", .str "Reconcile"),
  ("apiVersion", .str "events.k8s.io/v1"),
  ("kind", .str "Event"),
  ("metadata", .map [
    ("name", .str e.name),
    ("namespace", .str (eventNamespace key.regarding))]),
  ("note", .str e.note),
  ("reason", .str key.reason),
  ("regarding", key.regarding.fields),
  ("reportingController", .str "pullup-operator"),
  ("type", .str key.type.text)] ++
  match e.count with
  | some n => [("series", .map [("count", .int n)])]
  | none => [])

/-- An event, as the cluster sends it. -/
def eventShape : Shape := .record "Event" .lenient [
  .optional "action" .text,
  .constant "apiVersion" "events.k8s.io/v1",
  .optional "deprecatedCount" (.integer true 32),
  .optional "deprecatedFirstTimestamp" .time,
  .optional "deprecatedLastTimestamp" .time,
  .optional "deprecatedSource" (.record "EventSource" .lenient [
    .optional "component" .text,
    .optional "host" .text]),
  .optional "eventTime" .time,
  .constant "kind" "Event",
  .optional "metadata" Metadata.shape,
  .optional "note" .text,
  .optional "reason" .text,
  .optional "regarding" ObjectReference.shape,
  .optional "related" ObjectReference.shape,
  .optional "reportingController" .text,
  .optional "reportingInstance" .text,
  .optional "series" (.record "EventSeries" .lenient [
    .optional "count" (.integer true 32),
    .optional "lastObservedTime" .time]),
  .optional "type" .text]

variable {m : Type → Type} [Monad m]

/-- Sends an event, or counts up the one that it repeats. -/
def publish [MonadStateOf SentEvents m] (send : Request → m Reply) (regarding : ObjectReference)
    (event : Event) : m (Except ClusterError Unit) := do
  let sent := (← getThe SentEvents).entries
  let key : EventKey := ⟨event.type, event.reason, regarding⟩
  let collection := eventResource.addressIn (eventNamespace regarding)
  let (next, method, address) : SentEvent × Method × String :=
    match Entries.get? key sent with
    | some first =>
      let again := { first with count := some (first.count.getD 1 + 1) }
      (again, .patch, collection ++ "/" ++ first.name)
    | none =>
      let name := regarding.name?.getD "" ++ "." ++ toString sent.length
      (⟨name, event.note, none⟩, .post, collection)
  match ← ask send eventShape method address (some (eventBody key next)) with
  | .error e => return .error e
  | .ok _ =>
    set (SentEvents.mk ((key, next) :: Entries.erase key sent))
    return .ok ()

/-- Reports events to the cluster. -/
def eventRecorder [MonadStateOf SentEvents m] (send : Request → m Reply) : EventRecorder m where
  record := publish send

end PreviewEnv.Api
