import PreviewEnv.Api.Resource
import PreviewEnv.Cluster.Memory

/-!
A cluster in memory behind its API. It serves the kinds that it is given, and those that the
operator cannot do without; rules make it fail some of the requests; and it keeps a log of all of
them.
-/

namespace PreviewEnv.Api

/-- A kind that is served. -/
structure ServedKind where
  apiVersion : String
  kind : String
  plural : String
  namespaced : Bool
deriving DecidableEq, Repr

/-- The kinds that are always served. -/
def basicKinds : List ServedKind := [
  ⟨"pullup.dev/v1alpha1", "ResourceSet", "resourcesets", true⟩,
  ⟨"events.k8s.io/v1", "Event", "events", true⟩]

/-- A reply to the requests of one method whose path ends in some way, to so many of them. -/
structure Rule where
  method : Method
  pathEnd : String
  times : Option Nat
  reply : Reply

namespace Rule

def applies (rule : Rule) (r : Request) : Bool :=
  rule.method == r.method && rule.times != some 0 && rule.pathEnd.toList.isSuffixOf r.path.toList

/-- The reply of the first rule that applies, with the rules as they are after it. -/
def firstReply (r : Request) : List Rule → Option Reply × List Rule
  | [] => (none, [])
  | rule :: rest =>
    if rule.applies r then (some rule.reply, { rule with times := rule.times.map (· - 1) } :: rest)
    else
      let (reply, rest) := firstReply r rest
      (reply, rule :: rest)

end Rule

structure Server where
  kinds : List ServedKind
  /-- The objects by their paths. -/
  objects : List (String × Tree)
  rules : List Rule
  /-- The requests so far, in order. -/
  log : List Request

namespace Server

/-- A server before its first request. -/
def start (kinds : List ServedKind) (objects : List (String × Tree)) (rules : List Rule) : Server :=
  ⟨kinds ++ basicKinds, Entries.ofList objects, rules, []⟩

/-- The steps of a path. -/
def steps (path : String) : List String := (path.splitOn "/").drop 1

/-- The version of a group that a path begins with, and the rest of its steps. -/
def splitVersion? : List String → Option (String × List String)
  | "api" :: version :: rest => some (version, rest)
  | "apis" :: group :: version :: rest => some (group ++ "/" ++ version, rest)
  | _ => none

/-- The list of the kinds of a version. -/
def kindList (kinds : List ServedKind) (apiVersion : String) : Reply :=
  match kinds.filter fun k => k.apiVersion = apiVersion with
  | [] => .refuse 404 "NotFound" "no such group version"
  | served => ⟨200, .tree (.map [
      ("apiVersion", .str "v1"),
      ("groupVersion", .str apiVersion),
      ("kind", .str "APIResourceList"),
      ("resources", .arr (served.map fun k => .map [
        ("kind", .str k.kind),
        ("name", .str k.plural),
        ("namespaced", .bool k.namespaced),
        ("singularName", .str ""),
        ("verbs", .arr [])]))])⟩

/-- Whether an object at a path is one of those that are listed at another path. -/
def isListed (collection object : List String) : Bool :=
  match splitVersion? collection, splitVersion? object with
  | some (v, [plural]), some (w, "namespaces" :: _ :: [p, _]) => v == w && plural == p
  | some (v, c), some (w, o) => v == w && c == o.dropLast && o.length == c.length + 1
  | _, _ => false

/-- The objects that are listed at a path, if objects are listed there. -/
def list? (s : Server) (path : String) : Option Tree :=
  let collection := steps path
  match splitVersion? collection with
  | some (apiVersion, rest) =>
    let plural? := match rest with
      | [plural] | ["namespaces", _, plural] => some plural
      | _ => none
    match s.kinds.find? fun k => k.apiVersion = apiVersion && some k.plural == plural? with
    | none => none
    | some k => some (.map [
        ("apiVersion", .str apiVersion),
        ("items", .arr ((s.objects.filter fun e => isListed collection (steps e.1)).map (·.2))),
        ("kind", .str (k.kind ++ "List")),
        ("metadata", .map [("resourceVersion", .str "1")])])
  | none => none

def notFound : Reply := .refuse 404 "NotFound" "not found"

def getReply (s : Server) (path : String) : Reply :=
  match splitVersion? (steps path) with
  | some (apiVersion, []) => kindList s.kinds apiVersion
  | _ =>
    match Entries.get? path s.objects with
    | some object => ⟨200, .tree object⟩
    | none =>
      match s.list? path with
      | some list => ⟨200, .tree list⟩
      | none => notFound

/-- Creates an object. -/
def post (s : Server) (collection : String) (object : Tree) : Reply × Server :=
  let path := collection ++ "/" ++ object.textAt ["metadata", "name"]
  match Entries.get? path s.objects with
  | some _ => (.refuse 409 "AlreadyExists" "already exists", s)
  | none =>
    let stored := Objects.identified object
    (⟨201, .tree stored⟩, { s with objects := Entries.insert path stored s.objects })

/-- Puts an object in place of the one that is there. -/
def replace (s : Server) (path : String) (object : Tree) : Reply × Server :=
  match Entries.get? path s.objects with
  | none => (notFound, s)
  | some _ =>
    let stored := Objects.updated object
    (⟨200, .tree stored⟩, { s with objects := Entries.insert path stored s.objects })

/-- What the server does when no rule has a reply. -/
def serve (s : Server) (r : Request) : Reply × Server :=
  let body := r.body.getD .null
  match r.method with
  | .get => (s.getReply r.path, s)
  | .watch => (⟨200, .unending⟩, s)
  | .post => s.post r.path body
  | .put | .patch => s.replace r.path body

/-- A request as it arrives: its body has been written as JSON and read again, which changes the
last digit of some floats. -/
def received (r : Request) : Request :=
  { r with body := r.body.map fun t => (Tree.ofJson? t.json).getD t }

/-- Takes a request into the log and replies to it. -/
def send (r : Request) : StateM Server Reply := fun s =>
  let r := received r
  let (reply?, rules) := Rule.firstReply r s.rules
  let s := { s with rules := rules, log := s.log ++ [r] }
  match reply? with
  | some reply => (reply, s)
  | none => s.serve r

/-- Whether a path is that of an event. -/
def isEventPath (path : String) : Bool :=
  "/apis/events.k8s.io/v1".toList.isPrefixOf path.toList

/-- The objects that are no events. -/
def inventory (s : Server) : List (String × Tree) := s.objects.filter fun e => !isEventPath e.1

end Server

end PreviewEnv.Api
