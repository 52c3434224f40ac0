import PreviewEnv.Api.Server
import PreviewEnv.Proofs.Api.Calls

/-!
A store that remembers how kinds are addressed does at every call what a store
does that asks each time, but for the asking.
-/

namespace PreviewEnv.Api

/-- A cluster as a store meets it. -/
structure Cluster (σ : Type) where
  /-- The reply to a request, by the state that the cluster is in. -/
  reply : σ → Request → Reply
  /-- The state after a request. -/
  after : σ → Request → σ
  /-- The state at the next call, by what has become of it in the meantime. -/
  elapsed : σ → σ

/-- A cluster with the requests that it has been sent during a call, in order. -/
structure Line (σ : Type) where
  cluster : σ
  requests : List Request

/-- What a call has sent, and what it has come to. -/
structure Exchange where
  requests : List Request
  answer : Answer

/-- A call with the state in which it finds the cluster. -/
structure Visit (σ : Type) where
  state : σ
  call : Call

/-- The requests by which a store asks how a kind is addressed. -/
def kindRequests (kind : GroupVersionKind) : List Request :=
  ((pathOf? (versionPath kind.group kind.apiVersion)).map fun path => ⟨.get, path, none⟩).toList

namespace Cluster

variable {σ : Type} (c : Cluster σ)

def send (q : Request) : StateM (Line σ) Reply := fun l =>
  (c.reply l.cluster q, ⟨c.after l.cluster q, l.requests ++ [q]⟩)

/-- The same with a memory for kinds on top. -/
def sendOn (q : Request) : StateT Cache (StateM (Line σ)) Reply := liftM (c.send q)

/-- What is found when the cluster is asked in this state how a kind is addressed. -/
def found (s : σ) (kind : GroupVersionKind) : Except ClusterError Resource :=
  Id.run (discover (fun q => pure (c.reply s q)) kind)

/-- Asking how the kind is addressed leaves the cluster as it is. -/
def Idle (kind : GroupVersionKind) : Prop := ∀ q ∈ kindRequests kind, ∀ s, c.after s q = s

/-- A call to the store that asks at every call how the kind is addressed. -/
def fresh (s : σ) (call : Call) : Exchange × σ :=
  let (answer, line) := ((freshStore c.send).call call).run ⟨s, []⟩
  (⟨line.requests, answer⟩, line.cluster)

/-- A call to the store that remembers it. -/
def cached (cache : Cache) (s : σ) (call : Call) : Exchange × Cache × σ :=
  let ((answer, cache), line) := (((cachingStore c.sendOn).call call).run cache).run ⟨s, []⟩
  (⟨line.requests, answer⟩, cache, line.cluster)

/-- Calls made one after another to the store that asks. -/
def freshRun : σ → List Call → List Exchange
  | _, [] => []
  | s, call :: calls =>
    let (exchange, s) := c.fresh s call
    exchange :: freshRun (c.elapsed s) calls

/-- The same calls to the store that remembers. -/
def cachedRun : Cache → σ → List Call → List Exchange
  | _, _, [] => []
  | cache, s, call :: calls =>
    let (exchange, cache, s) := c.cached cache s call
    exchange :: cachedRun cache (c.elapsed s) calls

/-- The calls to the store that asks. -/
def visits : σ → List Call → List (Visit σ)
  | _, [] => []
  | s, call :: calls => ⟨s, call⟩ :: visits (c.elapsed (c.fresh s call).2) calls

/-- What has been found of a kind at a call is found at every later call for it. -/
structure Steady (s : σ) (calls : List Call) : Prop where
  idle : ∀ call ∈ calls, c.Idle call.kind
  kept : (c.visits s calls).Pairwise fun v w => v.call.kind = w.call.kind →
    ∀ r, c.found v.state v.call.kind = .ok r → c.found w.state w.call.kind = .ok r

/-- Asking how the kind is addressed has succeeded at a call before the one with this number. -/
def FoundBefore (s : σ) (calls : List Call) (i : Nat) (kind : GroupVersionKind) : Prop :=
  ∃ j < i, ∃ visit r, (c.visits s calls)[j]? = some visit ∧ visit.call.kind = kind ∧
    c.found visit.state kind = .ok r

/-- A call to the store that remembers has done what it does to the store that asks, but for the
asking if it has been known how the kind is addressed. -/
structure Matches (s : σ) (call : Call) (known : Prop) (fresh cached : Exchange) : Prop where
  answers : cached.answer = fresh.answer
  asks : fresh.requests = kindRequests call.kind ++ call.requests (c.found s call.kind)
  unknown : ¬known → cached.requests = fresh.requests
  known : known → cached.requests = call.requests (c.found s call.kind)
  /-- When the asking has failed, there is no request for an object. -/
  failed : ∀ e, c.found s call.kind = .error e →
    call.requests (c.found s call.kind) = [] ∧ cached.answer = .error e
  /-- The namespace of a call is part of the path if the kind has namespaces. -/
  addressed : ∀ q ∈ call.requests (c.found s call.kind), q.method = call.method ∧
    ∃ r part, c.found s call.kind = .ok r ∧
      pathOf? (r.collection (if r.namespaced then some call.ns else none) ++ part) = some q.path

variable {c} {s : σ} {log : List Request} {kind : GroupVersionKind}
  {cache : Cache} {call : Call} {calls : List Call} {found : Except ClusterError Resource}
  {i : Nat}

/-- What a call comes to, by what has been found of its kind. -/
def answer (c : Cluster σ) (s : σ) (call : Call) : Except ClusterError Resource → Answer
  | .error e => .error e
  | .ok r =>
    match call.request r with
    | .error e => .error e
    | .ok q => call.answer (c.reply s q)

/-- The state after the requests of a call. -/
def afterCall (c : Cluster σ) (s : σ) (call : Call) (found : Except ClusterError Resource) : σ :=
  (call.requests found).foldl c.after s

theorem perform_run : (call.perform c.send found).run ⟨s, log⟩ =
    (c.answer s call found, ⟨c.afterCall s call found, log ++ call.requests found⟩) := by
  cases found with
  | error e =>
    rw [afterCall, Call.requests, List.append_nil]
    rfl
  | ok r =>
    rw [Call.perform, answer, afterCall, Call.requests]
    cases call.request r with
    | error e =>
      rw [List.append_nil]
      rfl
    | ok q => rfl

theorem discover_run (hidle : c.Idle kind) : (discover c.send kind).run ⟨s, log⟩ =
    (c.found s kind, ⟨s, log ++ kindRequests kind⟩) := by
  rw [Idle, kindRequests] at hidle
  rw [discover, Cluster.found, discover, kindRequests]
  cases hpath : pathOf? (versionPath kind.group kind.apiVersion) with
  | none =>
    rw [Option.map_none, Option.toList_none, List.append_nil]
    rfl
  | some path =>
    rw [hpath] at hidle
    have hafter : c.after s ⟨.get, path, none⟩ = s := hidle _ (List.mem_singleton.2 rfl) s
    refine Prod.ext rfl ?_
    exact congrArg (Line.mk · (log ++ [⟨.get, path, none⟩])) hafter

/-- A call to the store that asks sends the requests by which it asks, and then its own. -/
theorem fresh_eq (hidle : c.Idle call.kind) : c.fresh s call =
    (⟨kindRequests call.kind ++ call.requests (c.found s call.kind),
        c.answer s call (c.found s call.kind)⟩,
      c.afterCall s call (c.found s call.kind)) := by
  have hrun : ((freshStore c.send).call call).run ⟨s, []⟩ =
      (c.answer s call (c.found s call.kind),
        ⟨c.afterCall s call (c.found s call.kind),
          kindRequests call.kind ++ call.requests (c.found s call.kind)⟩) := by
    rw [freshStore, call_objectStore, StateT.run_bind, discover_run hidle]
    exact perform_run
  rw [fresh, hrun]

theorem discover_sendOn : discover c.sendOn kind = liftM (discover c.send kind) := by
  rw [discover, discover]
  cases pathOf? (versionPath kind.group kind.apiVersion) <;> rfl

theorem perform_sendOn : call.perform c.sendOn found = liftM (call.perform c.send found) := by
  cases found with
  | error e => rfl
  | ok r =>
    rw [Call.perform, Call.perform]
    cases call.request r <;> rfl

theorem perform_sendOn_run : ((call.perform c.sendOn found).run cache).run ⟨s, log⟩ =
    ((c.answer s call found, cache),
      ⟨c.afterCall s call found, log ++ call.requests found⟩) := by
  simp only [perform_sendOn, StateT.run_monadLift, monadLift_self, StateT.run_bind, perform_run]
  rfl

/-- The requests by which a store asks that remembers. -/
def asking (cache : Cache) (kind : GroupVersionKind) : List Request :=
  match Entries.get? kind cache.entries with
  | some _ => []
  | none => kindRequests kind

/-- What is remembered after a call for a kind. -/
def learned (cache : Cache) (kind : GroupVersionKind) (found : Except ClusterError Resource) :
    Cache :=
  match Entries.get? kind cache.entries, found with
  | none, .ok r => ⟨(kind, r) :: cache.entries⟩
  | none, .error _ | some _, _ => cache

/-- What is remembered of the kind is what is found of it in this state. -/
def Recalls (c : Cluster σ) (s : σ) (cache : Cache) (kind : GroupVersionKind) : Prop :=
  ∀ r, Entries.get? kind cache.entries = some r → c.found s kind = .ok r

theorem findCached_run (hidle : c.Idle kind) (hcache : c.Recalls s cache kind) :
    ((findCached c.sendOn kind).run cache).run ⟨s, log⟩ =
      ((c.found s kind, learned cache kind (c.found s kind)),
        ⟨s, log ++ asking cache kind⟩) := by
  simp only [findCached, getThe, monadStateOf_get_eq_get, StateT.run_bind, StateT.run_get,
    pure_bind]
  cases h : Entries.get? kind cache.entries with
  | some r =>
    simp only [learned, asking, h, hcache r h, List.append_nil]
    rfl
  | none =>
    simp only [learned, asking, h, discover_sendOn, StateT.run_bind, StateT.run_monadLift,
      monadLift_self, bind_assoc, pure_bind, discover_run hidle]
    cases c.found s kind <;> rfl

theorem get?_learned {k : GroupVersionKind} (hcache : c.Recalls s cache kind) :
    Entries.get? k (learned cache kind (c.found s kind)).entries =
      if kind = k then (c.found s k).toOption else Entries.get? k cache.entries := by
  by_cases hk : kind = k
  · subst hk
    rw [if_pos rfl]
    cases h : Entries.get? kind cache.entries with
    | some r => simp only [learned, h, hcache r h, Except.toOption]
    | none =>
      cases hfound : c.found s kind with
      | ok r => simp only [learned, h, Entries.get?_cons, if_pos, Except.toOption]
      | error e => simp only [learned, h, Except.toOption]
  · rw [if_neg hk]
    unfold learned
    split
    · exact if_neg hk
    · rfl
    · rfl

/-- What a call does when how its kind is addressed may be remembered, and what is remembered after
it. -/
theorem cached_eq (hidle : c.Idle call.kind) (hcache : c.Recalls s cache call.kind) :
    c.cached cache s call =
      (⟨asking cache call.kind ++ call.requests (c.found s call.kind),
          c.answer s call (c.found s call.kind)⟩,
        learned cache call.kind (c.found s call.kind),
        c.afterCall s call (c.found s call.kind)) := by
  have hrun : (((cachingStore c.sendOn).call call).run cache).run ⟨s, []⟩ =
      ((c.answer s call (c.found s call.kind), learned cache call.kind (c.found s call.kind)),
        ⟨c.afterCall s call (c.found s call.kind),
          asking cache call.kind ++ call.requests (c.found s call.kind)⟩) := by
    rw [cachingStore, call_objectStore, StateT.run_bind, StateT.run_bind,
      findCached_run hidle hcache]
    exact perform_sendOn_run
  rw [cached, hrun]

theorem length_freshRun : (c.freshRun s calls).length = calls.length := by
  induction calls generalizing s with
  | nil => rfl
  | cons call calls ih => exact congrArg (· + 1) ih

theorem length_cachedRun : (c.cachedRun cache s calls).length = calls.length := by
  induction calls generalizing cache s with
  | nil => rfl
  | cons call calls ih => exact congrArg (· + 1) ih

theorem Steady.tail (h : c.Steady s (call :: calls)) :
    c.Steady (c.elapsed (c.fresh s call).2) calls where
  idle call hcall := h.idle call (List.mem_cons_of_mem _ hcall)
  kept := (List.pairwise_cons.1 h.kept).2

theorem not_foundBefore_zero : ¬c.FoundBefore s calls 0 kind := by
  rintro ⟨j, hj, -⟩
  exact absurd hj (Nat.not_lt_zero j)

/-- At a call the asking has succeeded before if it has at the first one, or at one between. -/
theorem foundBefore_succ_iff : c.FoundBefore s (call :: calls) (i + 1) kind ↔
    (call.kind = kind ∧ ∃ r, c.found s kind = .ok r) ∨
      c.FoundBefore (c.elapsed (c.fresh s call).2) calls i kind := by
  constructor
  · rintro ⟨j, hj, visit, r, hvisit, hkind, hfound⟩
    cases j with
    | zero =>
      cases hvisit
      exact .inl ⟨hkind, r, hfound⟩
    | succ j => exact .inr ⟨j, Nat.lt_of_succ_lt_succ hj, visit, r, hvisit, hkind, hfound⟩
  · rintro (⟨hkind, r, hfound⟩ | ⟨j, hj, visit, r, hvisit, hkind, hfound⟩)
    · exact ⟨0, Nat.succ_pos i, ⟨s, call⟩, r, rfl, hkind, hfound⟩
    · exact ⟨j + 1, Nat.succ_lt_succ hj, visit, r, hvisit, hkind, hfound⟩

/-- It is known how a kind is addressed: it is remembered at the start, or found since. -/
def Known (c : Cluster σ) (cache : Cache) (s : σ) (calls : List Call) (i : Nat)
    (kind : GroupVersionKind) : Prop :=
  (Entries.get? kind cache.entries).isSome ∨ c.FoundBefore s calls i kind

theorem known_succ_iff (hcache : c.Recalls s cache call.kind) :
    c.Known cache s (call :: calls) (i + 1) kind ↔
      c.Known (learned cache call.kind (c.found s call.kind))
        (c.elapsed (c.fresh s call).2) calls i kind := by
  rw [Known, Known, foundBefore_succ_iff, ← or_assoc, get?_learned hcache]
  refine or_congr_left ?_
  rw [Option.isSome_iff_exists, Option.isSome_iff_exists]
  constructor
  · rintro (⟨r, hr⟩ | ⟨rfl, r, hfound⟩)
    · refine ⟨r, ?_⟩
      split
      · next hk =>
          subst hk
          rw [hcache r hr, Except.toOption]
      · exact hr
    · exact ⟨r, by rw [if_pos rfl, hfound, Except.toOption]⟩
  · rintro ⟨r, hr⟩
    split at hr
    · next hk => exact .inr ⟨hk, r, toOption_eq_some_iff.1 hr⟩
    · exact .inl ⟨r, hr⟩

/-- What one call does, by whether it is remembered how its kind is addressed. -/
theorem matches_call (hidle : c.Idle call.kind) (hcache : c.Recalls s cache call.kind) :
    c.Matches s call ((Entries.get? call.kind cache.entries).isSome) (c.fresh s call).1
      (c.cached cache s call).1 := by
  rw [fresh_eq hidle, cached_eq hidle hcache]
  refine ⟨rfl, rfl, ?_, ?_, ?_, ?_⟩
  · intro h
    rw [asking, Option.not_isSome_iff_eq_none.1 h]
  · intro h
    obtain ⟨r, hr⟩ := Option.isSome_iff_exists.1 h
    rw [asking, hr]
    rfl
  · intro e he
    rw [he]
    exact ⟨rfl, rfl⟩
  · intro q hq
    obtain ⟨r, hfound, hrequest⟩ := of_mem_requests hq
    obtain ⟨hmethod, part, hpath⟩ := of_request hrequest
    exact ⟨hmethod, r, part, hfound, hpath⟩

/-- The two stores do the same call by call, if what is remembered at the start is found at all of
the calls. -/
theorem matches_runs (hsteady : c.Steady s calls)
    (hcache : ∀ visit ∈ c.visits s calls, c.Recalls visit.state cache visit.call.kind)
    (hcall : calls[i]? = some call) :
    ∃ state fresh cached, (c.visits s calls)[i]? = some ⟨state, call⟩ ∧
      (c.freshRun s calls)[i]? = some fresh ∧ (c.cachedRun cache s calls)[i]? = some cached ∧
      c.Matches state call (c.Known cache s calls i call.kind) fresh cached := by
  -- What one call adds to the cache is found at the calls after it, since the kinds are steady.
  induction calls generalizing cache s i with
  | nil => cases hcall
  | cons first calls ih =>
    have hidle := hsteady.idle first List.mem_cons_self
    have hrecalls : c.Recalls s cache first.kind := hcache ⟨s, first⟩ List.mem_cons_self
    cases i with
    | zero =>
      cases hcall
      refine ⟨s, _, _, rfl, rfl, rfl, ?_⟩
      rw [Known, or_iff_left not_foundBefore_zero]
      exact matches_call hidle hrecalls
    | succ i =>
      have hlearned : ∀ visit ∈ c.visits (c.elapsed (c.fresh s first).2) calls,
          c.Recalls visit.state (learned cache first.kind (c.found s first.kind))
            visit.call.kind := by
        intro visit hvisit r hr
        rw [get?_learned hrecalls] at hr
        split at hr
        · next hk =>
            rw [← hk, toOption_eq_some_iff] at hr
            exact (List.pairwise_cons.1 hsteady.kept).1 visit hvisit hk r hr
        · exact hcache visit (List.mem_cons_of_mem _ hvisit) r hr
      obtain ⟨state, fresh, cached, hvisit, hfresh, hcached, hmatches⟩ :=
        ih hsteady.tail hlearned hcall
      refine ⟨state, fresh, cached, hvisit, hfresh, ?_, ?_⟩
      · rw [fresh_eq hidle] at hcached
        rw [cachedRun, cached_eq hidle hrecalls]
        exact hcached
      · rwa [known_succ_iff hrecalls]

end Cluster

/-- **Remembering kinds makes no difference.** Where what has been found of a kind is found again,
the store that remembers it sends the same requests for objects at every call as the store that
asks every time, and comes to the same. It asks at every call until it has found the kind, and not
again after that. -/
theorem cachingStore_transparent {σ : Type} (c : Cluster σ) (s : σ) (calls : List Call)
    (h : c.Steady s calls) :
    (c.freshRun s calls).length = calls.length ∧
      (c.cachedRun ⟨[]⟩ s calls).length = calls.length ∧
      ∀ i call, calls[i]? = some call →
        ∃ state fresh cached, (c.visits s calls)[i]? = some ⟨state, call⟩ ∧
          (c.freshRun s calls)[i]? = some fresh ∧ (c.cachedRun ⟨[]⟩ s calls)[i]? = some cached ∧
          c.Matches state call (c.FoundBefore s calls i call.kind) fresh cached := by
  refine ⟨Cluster.length_freshRun, Cluster.length_cachedRun, fun i call hcall => ?_⟩
  have hnone : ∀ visit ∈ c.visits s calls, c.Recalls visit.state ⟨[]⟩ visit.call.kind := by
    rintro _ - _ ⟨⟩
  have hmatches := Cluster.matches_runs h hnone hcall
  rw [Cluster.Known, or_iff_right Bool.noConfusion] at hmatches
  exact hmatches

/-- A cluster that is ready from the second call on. It has one kind, and no objects of it. -/
def waking : Cluster Nat where
  reply
    | 0, _ => .refuse 503 "ServiceUnavailable" "not ready"
    | _ + 1, q =>
      if q.path = "/api/v1" then Server.kindList [⟨"v1", "ConfigMap", "configmaps", true⟩] "v1"
      else Server.notFound
  after n _ := n
  elapsed n := n + 1

theorem found_waking_zero {kind : GroupVersionKind} {r : Resource} :
    waking.found 0 kind ≠ .ok r := by
  rw [Cluster.found, discover]
  cases pathOf? (versionPath kind.group kind.apiVersion) with
  | none => nofun
  | some path =>
    intro h
    obtain ⟨list, hlist, -⟩ := bind_eq_ok_iff.1 h
    have hrefused : (waking.reply 0 ⟨.get, path, none⟩).decode kindListShape =
        .error (.refused (waking.reply 0 ⟨.get, path, none⟩).refusal) :=
      if_pos (show 400 ≤ 503 ∧ 503 < 600 by decide)
    cases hrefused.symm.trans hlist

theorem states_waking {n : Nat} {calls : List Call} :
    (waking.visits n calls).map (·.state) = List.range' n calls.length := by
  induction calls generalizing n with
  | nil => rfl
  | cons call calls ih =>
    have hstate : (waking.fresh n call).2 = n := by
      rw [Cluster.fresh_eq fun _ _ _ => rfl]
      exact List.foldl_fixed' (fun _ => rfl) _
    rw [Cluster.visits, hstate, List.map_cons, ih]
    rfl

theorem steady_waking {calls : List Call} : waking.Steady 0 calls where
  idle _ _ _ _ _ := rfl
  kept := by
    have hlater : ((waking.visits 0 calls).map (·.state)).Pairwise (· < ·) := by
      rw [states_waking]
      exact List.pairwise_lt_range' 1
    refine (List.pairwise_map.1 hlater).imp fun {v w} hlt hkind r hfound => ?_
    rw [← hkind]
    obtain ⟨n, hn⟩ : ∃ n, w.state = n + 1 := Nat.exists_eq_succ_of_ne_zero (Nat.ne_zero_of_lt hlt)
    rw [hn]
    cases hv : v.state with
    | zero =>
      rw [hv] at hfound
      exact absurd hfound found_waking_zero
    | succ m =>
      rw [hv] at hfound
      exact hfound

/-- A kind of which three calls are made, to a cluster that refuses the first. -/
def configMapKind : GroupVersionKind := ⟨"", "v1", "ConfigMap"⟩

/-- Two readings of an object, and a writing. -/
def threeCalls : List Call := [
  .get configMapKind "staging" "settings", .get configMapKind "staging" "settings",
  .create configMapKind "staging" (.map [("metadata", .map [("name", .str "settings")])])]

/-- Of three calls the first two ask how the kind is addressed, of which the first fails. -/
theorem cachingStore_transparent_waking : waking.Steady 0 threeCalls ∧
    (waking.cachedRun ⟨[]⟩ 0 threeCalls).map (·.requests.map fun q => (q.method, q.path)) = [
      [(.get, "/api/v1")],
      [(.get, "/api/v1"), (.get, "/api/v1/namespaces/staging/configmaps/settings")],
      [(.post, "/api/v1/namespaces/staging/configmaps")]] ∧
    ∀ i call, threeCalls[i]? = some call →
      ∃ state fresh cached, (waking.visits 0 threeCalls)[i]? = some ⟨state, call⟩ ∧
        (waking.freshRun 0 threeCalls)[i]? = some fresh ∧
        (waking.cachedRun ⟨[]⟩ 0 threeCalls)[i]? = some cached ∧
        waking.Matches state call (waking.FoundBefore 0 threeCalls i call.kind) fresh cached :=
  ⟨steady_waking, by decide +kernel,
    (cachingStore_transparent waking 0 threeCalls steady_waking).2.2⟩

end PreviewEnv.Api
