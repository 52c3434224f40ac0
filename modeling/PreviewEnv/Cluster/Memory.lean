import PreviewEnv.Cluster.Store
import PreviewEnv.WordRange

/-!
A cluster in memory. It assigns to an object what a cluster does when the object is written, keeps a
log of the calls, and lets some of them fail: a call that is to fail is logged and changes nothing.
-/

namespace PreviewEnv

/-- Where an object is kept. -/
structure ObjectKey where
  group : String
  kind : String
  ns : String
  name : String
deriving DecidableEq, Repr

namespace ObjectKey

def toList (k : ObjectKey) : List String := [k.group, k.kind, k.ns, k.name]

instance : LT ObjectKey := ⟨fun a b => a.toList < b.toList⟩

instance : DecidableLT ObjectKey := fun a b => inferInstanceAs (Decidable (a.toList < b.toList))

/-- Where an object belongs by what it says of itself. -/
def ofObject (object : Tree) : ObjectKey :=
  ⟨GroupVersionKind.groupOf object, object.textAt ["kind"], object.textAt ["metadata", "namespace"],
    object.textAt ["metadata", "name"]⟩

end ObjectKey

/-- The object with a value under the keys, the maps on the way made where there are none. -/
def Tree.put : Tree → List String → Tree → Tree
  | _, [], v => v
  | t, k :: ks, v =>
    let es := match t with
      | .map es => es
      | _ => []
    .map (Entries.insert k (put ((Entries.get? k es).getD .null) ks v) es)

/-- The objects of a cluster in memory. -/
abbrev Objects := List (ObjectKey × Tree)

namespace Objects

/-- Keeps an object where it belongs. -/
def store (object : Tree) (objects : Objects) : Objects :=
  Entries.insert (.ofObject object) object objects

/-- An object with the identity and the version that a new one is given. -/
def identified (object : Tree) : Tree :=
  let object := object.put ["metadata", "uid"] (.str "object-uid")
  object.put ["metadata", "resourceVersion"] (.str "1")

/-- An object as it is when it has been created. -/
def created (object : Tree) : Tree :=
  (identified object).put ["metadata", "creationTimestamp"] (.str "2024-05-01T00:00:00Z")

/-- The number that a text of digits stands for, if it fits 32 bits. A plus sign may precede it. -/
def versionNumber? (s : String) : Option Nat :=
  let digits := match s.toList with
    | '+' :: rest => rest
    | cs => cs
  if digits.isEmpty || !digits.all Char.isDigit then none
  else
    let n : Nat := digits.foldl (fun n c => 10 * n + (c.toNat - '0'.toNat)) 0
    if fitsUnsigned 32 n then some n else none

/-- An object as it is when it has been updated: its version is the next one. -/
def updated (object : Tree) : Tree :=
  let version := (versionNumber? (object.textAt ["metadata", "resourceVersion"])).getD 0
  object.put ["metadata", "resourceVersion"] (.str (toString (version + 1)))

end Objects

/-- A call to a cluster. -/
inductive Call where
  | get (kind : GroupVersionKind) (ns name : String)
  | create (kind : GroupVersionKind) (ns : String) (object : Tree)
  | update (kind : GroupVersionKind) (ns : String) (object : Tree)
deriving DecidableEq

/-- A cluster in memory with the calls made so far, in order. -/
structure Memory where
  objects : Objects
  calls : List Call

namespace Memory

/-- Which calls fail, by how many came before them, and how. -/
abbrev Schedule := Nat → Option ClusterError

/-- The outcome of a call: the failure that is due, or what the call does to the objects. -/
def serve {α : Type} (failures : Schedule) (call : Call) (act : Objects → α × Objects) :
    StateM Memory (Except ClusterError α) := fun s =>
  let calls := s.calls ++ [call]
  match failures s.calls.length with
  | some e => (.error e, ⟨s.objects, calls⟩)
  | none =>
    let (a, objects) := act s.objects
    (.ok a, ⟨objects, calls⟩)

/-- The store of a cluster in memory. -/
def store (failures : Schedule) : ObjectStore (StateM Memory) where
  get kind ns name := serve failures (.get kind ns name) fun objects =>
    (Entries.get? ⟨kind.group, kind.kind, ns, name⟩ objects, objects)
  create kind ns object := serve failures (.create kind ns object) fun objects =>
    ((), objects.store (Objects.created object))
  update kind ns object := serve failures (.update kind ns object) fun objects =>
    ((), objects.store (Objects.updated object))

end Memory

end PreviewEnv
