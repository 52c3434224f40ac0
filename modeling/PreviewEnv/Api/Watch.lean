import PreviewEnv.Api.Object
import PreviewEnv.Api.Resource

/-!
Watching the objects of a kind: they are listed, in as many pages as the cluster makes of them, and
then the cluster is asked for changes. When it has told all changes, it is asked again; when
something fails, the watch goes on from where it was, or lists the objects anew if it has to.
-/

namespace PreviewEnv.Api

/-- The metadata of a list. -/
def listMetadata : Shape := .record "ListMeta" .lenient [
  .optional "continue" .text,
  .optional "remainingItemCount" (.integer true 64),
  .optional "resourceVersion" .text,
  .optional "selfLink" .text]

/-- A list of objects, as the cluster sends it. -/
def listShape (item : Shape) : Shape := .record "struct ObjectList" .extensible [
  .mk "metadata" (.default .empty) listMetadata,
  .mk "items" { Presence.required with null := some (some (.arr [])) } (.listOf item)]

/-- The objects of a list. -/
def itemsOf (list : Tree) : List Tree := ((list.get? "items").bind Tree.items?).getD []

/-- A change, as the cluster sends it. -/
def changeShape : Shape := .record "a change" .lenient [
  .mk "type" .required .text,
  .mk "object" .required .any]

/-- The metadata of a mark, which says up to where changes have been told. -/
def markShape : Shape := .record "struct Bookmark" .extensible [
  .mk "metadata" .required (.record "struct BookmarkMeta" .strict [
    .mk "annotations" (.default .empty) .textMap,
    .mk "resourceVersion" .required .text])]

/-- What a watch has to report. -/
inductive Report where
  /-- These are all objects. -/
  | listed (objects : List Tree)
  /-- An object is there, or is not what it was. -/
  | applied (object : Tree)
  | deleted (object : Tree)

/-- Whether there is an object in the report. -/
def Report.isSignal : Report → Bool
  | listed objects => !objects.isEmpty
  | applied _ => true
  | deleted _ => false

/-- What a line of changes says. -/
inductive Change where
  | nothing
  | report (r : Report)
  /-- The line is unreadable, or tells of a failure. -/
  | failure
  /-- The changes since the list are not known any more. -/
  | gone

/-- What a line says of objects of a shape. A line that is cut off says nothing. -/
def Change.ofLine (item : Shape) (line : String) : Change :=
  let read (shape : Shape) (object : Tree) (change : Tree → Change) : Change :=
    match shape.read object with
    | .ok t => change t
    | .error _ => failure
  match changeShape.ofJson line with
  | .error fault => if fault.cause.isEnd then nothing else failure
  | .ok t =>
    let object := (t.get? "object").getD .null
    match t.textAt ["type"] with
    | "ADDED" | "MODIFIED" => read item object fun object => report (.applied object)
    | "DELETED" => read item object fun object => report (.deleted object)
    | "BOOKMARK" => read markShape object fun _ => nothing
    | "ERROR" => read refusalShape object fun refusal =>
      if refusal.get? "code" = some (.int 410) then gone else failure
    | _ => failure

/-- How far a watch has come. -/
inductive Stage where
  /-- The objects are to be listed. -/
  | listing
  /-- The cluster is to be asked for changes. -/
  | starting
  /-- The cluster has told changes, a line each. -/
  | reading (lines : List String)
  /-- The cluster has been asked and has nothing to tell. -/
  | waiting

/-- What a step of a watch has come to. -/
structure Progress where
  reports : List Report
  stage : Stage
  failed : Bool

/-- Takes changes up to one that tells of a failure. -/
def takeChanges (item : Shape) : List String → Progress
  | [] => ⟨[], .starting, false⟩
  | line :: lines =>
    match Change.ofLine item line with
    | .nothing => takeChanges item lines
    | .report r =>
      let progress := takeChanges item lines
      { progress with reports := r :: progress.reports }
    | .failure => ⟨[], .reading lines, true⟩
    | .gone => ⟨[], .listing, true⟩

variable {m : Type → Type} [Monad m]

/-- Lists objects, `done` being those of the pages before. -/
def listPages (send : Request → m Reply) (item : Shape) (address : String) :
    Nat → List Tree → m Progress
  | 0, _ => return ⟨[], .listing, true⟩
  | pages + 1, done => do
    match ← ask send (listShape item) .get address none with
    | .error _ => return ⟨[], .listing, true⟩
    | .ok page =>
      let objects := done ++ itemsOf page
      if page.textAt ["metadata", "continue"] ≠ "" then listPages send item address pages objects
      else if page.textAt ["metadata", "resourceVersion"] = "" then return ⟨[], .listing, true⟩
      else return ⟨[.listed objects], .starting, false⟩

/-- The most pages of a list that are read. -/
def maxPages : Nat := 10000

/-- Goes on with a watch. -/
def advance (send : Request → m Reply) (item : Shape) (address : String) : Stage → m Progress
  | .listing => listPages send item address maxPages []
  | .starting => do
    match ← sendTo send .watch address none with
    | .error _ => return ⟨[], .starting, true⟩
    | .ok reply => match reply.body with
      | .unending => return ⟨[], .waiting, false⟩
      | body => return ⟨[], .reading (body.asText.splitOn "\n"), false⟩
  | .reading lines => return takeChanges item lines
  | .waiting => return ⟨[], .waiting, false⟩

end PreviewEnv.Api
