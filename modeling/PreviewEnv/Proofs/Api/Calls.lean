import PreviewEnv.Api.Store
import PreviewEnv.Proofs.Apply.Addressing

namespace PreviewEnv

open Api

/-- What a call comes to. A write that succeeds gives no object. -/
abbrev Answer := Except ClusterError (Option Tree)

variable {m : Type → Type} [Monad m]

/-- Makes a call to a store. -/
def ObjectStore.call (store : ObjectStore m) : Call → m Answer
  | .get kind ns name => store.get kind ns name
  | .create kind ns object => (·.map fun _ => none) <$> store.create kind ns object
  | .update kind ns object => (·.map fun _ => none) <$> store.update kind ns object

/-- The request for an object at an address. -/
def Api.requestTo (method : Method) (address : String) (body : Option Tree) :
    Except ClusterError Request :=
  match pathOf? address with
  | none => .error .badAddress
  | some path => .ok ⟨method, path, body⟩

namespace Call

/-- The request for an object that a call makes when it is known how its kind is addressed. -/
def request (r : Resource) : Call → Except ClusterError Request
  | get _ ns name =>
    if name.isEmpty then .error .namelessRequest
    else requestTo .get (r.addressIn ns ++ "/" ++ name) none
  | create _ ns object =>
    match readObject object with
    | .error detail => .error (.unreadable detail)
    | .ok body => requestTo .post (r.addressIn ns) (some body)
  | update _ ns object =>
    match readObject object with
    | .error detail => .error (.unreadable detail)
    | .ok body =>
      let name := (Metadata.mk ((body.get? "metadata").getD .empty)).anyName
      if name.isEmpty then .error .namelessRequest
      else requestTo .put (r.addressIn ns ++ "/" ++ name) (some body)

/-- What a call comes to by the reply to its request. -/
def answer (reply : Reply) : Call → Answer
  | get .. =>
    match reply.decode objectShape with
    | .ok t => .ok (some (Api.settle t))
    | .error e => if e.isNotFound then .ok none else .error e
  | create .. | update .. => (reply.decode objectShape).map fun _ => none

/-- The requests for objects that a call sends, by what has been found of its kind: one at most. -/
def requests (call : Call) : Except ClusterError Resource → List Request
  | .error _ => []
  | .ok r =>
    match call.request r with
    | .error _ => []
    | .ok q => [q]

def method : Call → Method
  | get .. => .get
  | create .. => .post
  | update .. => .put

/-- The namespace that a call names. -/
def ns : Call → String
  | get _ ns _ | create _ ns _ | update _ ns _ => ns

/-- Makes the request of a call, if it is found how its kind is addressed and the call is fit for
a request. -/
def perform (send : Request → m Reply) (call : Call) : Except ClusterError Resource → m Answer
  | .error e => pure (.error e)
  | .ok r =>
    match call.request r with
    | .error e => pure (.error e)
    | .ok q => (call.answer ·) <$> send q

end Call

section
variable {q : Request} {r : Resource} {method : Method} {address : String} {body : Option Tree}
  {call : Call} {found : Except ClusterError Resource}

theorem of_requestTo (h : requestTo method address body = .ok q) :
    q.method = method ∧ pathOf? address = some q.path := by
  rw [requestTo] at h
  split at h
  · cases h
  · next hpath =>
      cases h
      exact ⟨rfl, hpath⟩

/-- The request of a call goes to the objects of its kind, in the namespace of the call if the kind
has namespaces, or to one of them. -/
theorem of_request (h : call.request r = .ok q) : q.method = call.method ∧
    ∃ part, pathOf? (r.collection (if r.namespaced then some call.ns else none) ++ part) =
      some q.path := by
  cases call with
  | get kind ns name =>
    rw [Call.request] at h
    split at h
    · cases h
    · obtain ⟨hmethod, hpath⟩ := of_requestTo h
      exact ⟨hmethod, "/" ++ name, by rwa [← String.append_assoc]⟩
  | create kind ns object =>
    rw [Call.request] at h
    split at h
    · cases h
    · obtain ⟨hmethod, hpath⟩ := of_requestTo h
      exact ⟨hmethod, "", by rwa [String.append_empty]⟩
  | update kind ns object =>
    rw [Call.request] at h
    split at h
    · cases h
    · dsimp only at h
      split at h
      · cases h
      · obtain ⟨hmethod, hpath⟩ := of_requestTo h
        exact ⟨hmethod, "/" ++ _, by rwa [← String.append_assoc]⟩

theorem of_mem_requests (h : q ∈ call.requests found) :
    ∃ r, found = .ok r ∧ call.request r = .ok q := by
  cases found with
  | error e => cases h
  | ok r =>
    rw [Call.requests] at h
    split at h
    · cases h
    · next hrequest =>
        cases List.mem_singleton.1 h
        exact ⟨r, rfl, hrequest⟩

end

section
variable {find : GroupVersionKind → m (Except ClusterError Resource)} {send : Request → m Reply}
  {address : String} {body : Option Tree} {method : Method} {r : Resource} {ns name : String}
  {object : Tree} {kind : GroupVersionKind} [LawfulMonad m]

theorem askForObject_eq : askForObject send method address body =
    match requestTo method address body with
    | .error e => pure (.error e)
    | .ok q => (fun reply => (reply.decode objectShape).map Api.settle) <$> send q := by
  rw [askForObject, ask, sendTo, requestTo]
  cases pathOf? address with
  | none => simp [Except.bind, Functor.map, Except.map]
  | some path => simp [Except.bind, Functor.map]

theorem getObject_eq : getObject send r ns name = (Call.get kind ns name).perform send (.ok r) := by
  simp only [getObject, Call.perform, Call.request, askForObject_eq]
  split
  · rfl
  · rw [requestTo]
    cases pathOf? (r.addressIn ns ++ "/" ++ name) with
    | none => simp [ClusterError.isNotFound]
    | some path =>
      simp only [Call.answer, ← bind_pure_comp, bind_assoc, pure_bind]
      refine bind_congr fun reply => ?_
      cases reply.decode objectShape <;> rfl

/-- Of the object in the reply to a write nothing is kept. -/
theorem forget_askForObject :
    (fun x : Except ClusterError Unit => x.map fun _ => (none : Option Tree)) <$>
        (return (← askForObject send method address body).map fun _ => ()) =
      match requestTo method address body with
      | .error e => pure (.error e)
      | .ok q => (fun reply => (reply.decode objectShape).map fun _ => none) <$> send q := by
  rw [askForObject_eq]
  cases requestTo method address body with
  | error e => simp [Except.map]
  | ok q =>
    simp only [← bind_pure_comp, bind_assoc, pure_bind]
    refine bind_congr fun reply => ?_
    cases reply.decode objectShape <;> rfl

theorem createObject_eq : (·.map fun _ => none) <$> createObject send r ns object =
    (Call.create kind ns object).perform send (.ok r) := by
  simp only [createObject, Call.perform, Call.request]
  cases readObject object with
  | error detail => simp [Except.map]
  | ok body => exact forget_askForObject

theorem updateObject_eq : (·.map fun _ => none) <$> updateObject send r ns object =
    (Call.update kind ns object).perform send (.ok r) := by
  simp only [updateObject, Call.perform, Call.request]
  cases readObject object with
  | error detail => simp [Except.map]
  | ok body =>
    dsimp only
    split
    · simp [Except.map]
    · exact forget_askForObject

/-- A call finds out how its kind is addressed and then makes its request. -/
theorem call_objectStore (call : Call) :
    (objectStore find send).call call = find call.kind >>= call.perform send := by
  cases call with
  | get kind ns name =>
    refine bind_congr fun found => ?_
    cases found with
    | error e => rfl
    | ok r => exact getObject_eq
  | create kind ns object =>
    simp only [ObjectStore.call, objectStore, withResource, map_bind]
    refine bind_congr fun found => ?_
    cases found with
    | error e => simp [Call.perform, Except.map]
    | ok r => exact createObject_eq
  | update kind ns object =>
    simp only [ObjectStore.call, objectStore, withResource, map_bind]
    refine bind_congr fun found => ?_
    cases found with
    | error e => simp [Call.perform, Except.map]
    | ok r => exact updateObject_eq

end

end PreviewEnv
