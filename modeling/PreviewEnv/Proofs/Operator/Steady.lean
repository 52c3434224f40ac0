import PreviewEnv.Proofs.Apply.Locality
import PreviewEnv.Proofs.Apply.SecondPass
import PreviewEnv.Proofs.Operator.Passes

namespace PreviewEnv

open PreviewEnv.Tree Patch

variable {failures : Memory.Schedule} {engine : Template.Engine} {target : Target}
  {context declaration rendered : Tree} {kind : GroupVersionKind} {s s' s'' : Memory}
  {outcome : Outcome} {applied : Applied} {objects objects' : Objects} {stored start t u : Tree}
  {declarations : List Tree}

/-- The declaration has no name, or a name that no object of its kind has and its target does not
have either, or the name of its target; the last not for a service. -/
def HasNoOther (target : Target) (objects : Objects) (kind : GroupVersionKind) (rendered : Tree) :
    Prop :=
  let name := rendered.textAt ["metadata", "name"]
  name = "" ∨
    name ≠ target.name ∧
      Entries.get? ⟨kind.group, kind.kind, target.ns, name⟩ objects = none ∨
    name = target.name ∧ kind.isService = false

/-- A declaration that leaves its kind and what the cluster gives alone, and has no original but its
own object. -/
structure StandsAlone (engine : Template.Engine) (target : Target) (context : Tree)
    (objects : Objects) (declaration : Tree) :
    Prop where
  ordered : declaration.Ordered
  keepsKind : KeepsKind engine context declaration
  given : ∀ rendered,
    renderDeclaration engine context declaration = .ok rendered → LeavesGiven rendered
  noOther : ∀ kind rendered, checkedKind declaration = .ok kind →
    renderDeclaration engine context declaration = .ok rendered →
      HasNoOther target objects kind rendered

/-- The object of a declaration that has been applied, among the objects of the cluster. -/
structure KeptBy (engine : Template.Engine) (target : Target) (context : Tree) (objects : Objects)
    (declaration : Tree) (kind : GroupVersionKind) (rendered stored : Tree) : Prop where
  ordered : declaration.Ordered
  checked : checkedKind declaration = .ok kind
  renders : renderDeclaration engine context declaration = .ok rendered
  given : LeavesGiven rendered
  found : Entries.get? (target.slot kind) objects = some stored
  controlled : target.owner.controls stored = true
  takenUp : TakenUp target rendered stored
  original : ∀ e ∈ originalIn objects kind target.ns rendered, e = stored ∧ kind.isService = false

/-- The declaration has been applied, and its object is there. -/
def IsKept (engine : Template.Engine) (target : Target) (context : Tree) (objects : Objects)
    (declaration : Tree) : Prop :=
  ∃ kind rendered stored, KeptBy engine target context objects declaration kind rendered stored

theorem KeptBy.of_same (h : KeptBy engine target context objects declaration kind rendered stored)
    (hsame : SameOfKind kind objects objects') :
    KeptBy engine target context objects' declaration kind rendered stored :=
  { h with
    found := by rw [hsame (target.slot kind) rfl rfl, h.found]
    original := by rw [originalIn_of_same hsame]; exact h.original }

theorem StandsAlone.of_same (h : StandsAlone engine target context objects declaration)
    (hsame : ∀ kind, checkedKind declaration = .ok kind → SameOfKind kind objects objects') :
    StandsAlone engine target context objects' declaration :=
  { h with
    noOther := fun kind rendered hkind hrendered => by
      have hother := h.noOther kind rendered hkind hrendered
      simp only [HasNoOther] at hother ⊢
      rwa [hsame kind hkind _ rfl rfl] }

theorem exists_of_applies
    (h : Applies failures engine target context declaration s (.ok applied) s') :
    ∃ kind rendered, checkedKind declaration = .ok kind ∧
      renderDeclaration engine context declaration = .ok rendered := by
  cases h with
  | created hb | unchanged hb | updated hb => exact ⟨_, _, hb.checked, hb.renders⟩

/-- After a declaration has been applied, its original is its own object, if there is one. -/
theorem original_of_applies
    (h : Applies failures engine target context declaration s (.ok applied) s')
    (hd : declaration.Ordered) (hkeep : KeepsKind engine context declaration)
    (hother : HasNoOther target s.objects kind rendered)
    (hfound : Entries.get? (target.slot kind) s'.objects = some stored) :
    ∀ e ∈ originalIn s'.objects kind target.ns rendered, e = stored ∧ kind.isService = false := by
  intro e he
  rcases hother with hname | ⟨hname, hnone⟩ | ⟨hname, hservice⟩
  · simp [originalIn, hname] at he
  · rw [originalIn_of_applies h hd hkeep hname] at he
    simp [originalIn, hnone] at he
  · simp only [originalIn] at he
    split at he
    · cases he
    · rw [hname] at he
      cases hfound.symm.trans he
      exact ⟨rfl, hservice⟩

/-- A declaration that stands alone is kept once it has been applied. -/
theorem isKept_of_applies
    (h : Applies failures engine target context declaration s (.ok applied) s')
    (halone : StandsAlone engine target context s.objects declaration)
    (hobjects : ∀ e ∈ s.objects, e.2.Ordered) :
    IsKept engine target context s'.objects declaration := by
  obtain ⟨kind, rendered, hkind, hrendered⟩ := exists_of_applies h
  obtain ⟨-, stored, -, hfound, hcontrolled, htaken⟩ := takenUp_of_applies h hkind hrendered
    halone.ordered halone.keepsKind hobjects (halone.given rendered hrendered)
  exact ⟨kind, rendered, stored, halone.ordered, hkind, hrendered,
    halone.given rendered hrendered, hfound, hcontrolled, htaken,
    original_of_applies h halone.ordered halone.keepsKind
      (halone.noOther kind rendered hkind hrendered) hfound⟩

/-- A pass leaves the objects of other kinds alone. -/
theorem sameOfKind_of_passes (h : Passes failures engine target context declarations s s')
    (hds : ∀ d ∈ declarations, d.Ordered ∧ KeepsKind engine context d)
    (hother : ∀ d ∈ declarations, ∀ k, checkedKind d = .ok k →
      (k.group, k.kind) ≠ (kind.group, kind.kind)) :
    SameOfKind kind s.objects s'.objects := by
  induction h with
  | nil => exact fun _ _ _ => rfl
  | cons h _ ih =>
    rw [List.forall_mem_cons] at hds hother
    intro key hgroup hkind
    rw [ih hds.2 hother.2 key hgroup hkind,
      sameOfKind_of_applies h hds.1.1 hds.1.2 hother.1 key hgroup hkind]

/-- After a pass over declarations of different kinds all of them are kept. -/
theorem kept_of_passes (h : Passes failures engine target context declarations s s')
    (halone : ∀ d ∈ declarations, StandsAlone engine target context s.objects d)
    (hkinds : declarations.Pairwise DifferentKinds) (hobjects : ∀ e ∈ s.objects, e.2.Ordered) :
    ∀ d ∈ declarations, IsKept engine target context s'.objects d := by
  induction h with
  | nil => simp
  | @cons d ds s s₁ s' applied h hrest ih =>
    rw [List.forall_mem_cons] at halone ⊢
    obtain ⟨hd, hds⟩ := halone
    obtain ⟨hfirst, hkinds⟩ := List.pairwise_cons.1 hkinds
    constructor
    · obtain ⟨kind, rendered, stored, hkept⟩ := isKept_of_applies h hd hobjects
      refine ⟨kind, rendered, stored, hkept.of_same (sameOfKind_of_passes hrest
        (fun e he => ⟨(hds e he).ordered, (hds e he).keepsKind⟩) fun e he l hl heq => ?_)⟩
      exact hfirst e he kind l hkept.checked hl heq.symm
    · apply ih _ hkinds (ordered_objects_of_applies h hd.ordered hobjects)
      intro e he
      apply (hds e he).of_same
      intro l hl
      exact sameOfKind_of_applies h hd.ordered hd.keepsKind fun k hk => hfirst e he k l hk hl

/-- An object laid over nothing, or over what is left of it, is the object in each field. -/
theorem canonical_patched_pruned (h : start = null ∨ Pruned start stored) (hs : start.Ordered)
    (hstored : stored.Ordered) (path : List String) :
    canonical (patched .byName (within path start) (stored.at? path)) =
      canonical (within path stored) := by
  by_cases hb : within path start = null
  · rw [hb, patched_null_left, within_eq_at?]
  · have hpruned : Pruned (within path start) (within path stored) := by
      rcases h with rfl | h
      · exact absurd (within_null path) hb
      · exact h.within hb
    cases hat : stored.at? path with
    | none =>
      rw [within_eq_at? path stored, hat] at hpruned
      exact absurd hpruned.eq_null hb
    | some v =>
      rw [within_of_at? hat] at hpruned ⊢
      exact canonical_overlay_of_pruned hpruned (hs.within path) (hstored.at? hat)

/-- Over nothing, or over what is left of it, an object that has taken up its declaration is settled
in each field. -/
theorem fieldsSettled_of_pruned (h : start = null ∨ Pruned start stored) (hs : start.Ordered)
    (htaken : TakenUp target rendered stored) (hr : rendered.Ordered) :
    FieldsSettled start stored rendered := by
  intro path hfield hp
  have hstored := htaken.ordered
  have habs := htaken.absorbs path hfield hp
  have hsame := canonical_patched_pruned h hs hstored path
  have hbase : (patched .byName (within path start) (stored.at? path)).Ordered :=
    (hs.within path).patched fun v hv => hstored.at? hv
  have hstable : Stable (within path start) (stored.at? path) (rendered.at? path) := by
    rw [Stable, ← within_eq_at?,
      canonical_patched (fun p hp => hr.at? hp) hbase (hstored.within path) hsame]
    exact habs
  rw [within_eq_at?] at habs
  exact (stable_iff_settled habs (hs.within path) (fun v hv => hstored.at? hv)
    fun p hp => hr.at? hp).1 hstable

/-- What is copied of an original that is the kept object, or is not there, is what is left of the
object, or nothing. -/
theorem KeptBy.exists_copied
    (h : KeptBy engine target context objects declaration kind rendered stored) :
    ∃ start, copied kind (originalIn objects kind target.ns rendered) = .ok start ∧
      start.Ordered ∧ (start = null ∨ Pruned start stored) := by
  cases he : originalIn objects kind target.ns rendered with
  | none => exact ⟨null, rfl, ordered_null, .inl rfl⟩
  | some e =>
    obtain ⟨rfl, hservice⟩ := h.original e he
    obtain ⟨hmap, fs, hfs⟩ := h.takenUp.hasMetadata
    have hroom : hasRoom e = true := by
      obtain ⟨es, rfl⟩ := hmap
      rw [hasRoom, hfs]
      rfl
    obtain ⟨start, hcopied⟩ := Patch.exists_copied hservice hmap hroom
    refine ⟨start, hcopied, ?_, .inr (pruned_of_copied hservice hcopied)⟩
    exact ordered_of_copied (by simpa using h.takenUp.ordered) hcopied

/-- A declaration that is kept changes nothing when it is applied again. -/
theorem unchanged_of_kept (h : Applies failures engine target context declaration s outcome s')
    (hkept : IsKept engine target context s.objects declaration)
    (hcalm : Memory.Calm failures s s') :
    ∃ applied calls, outcome = .ok applied ∧ applied.change = .unchanged ∧ s' = s.logged calls ∧
      ∀ call ∈ calls, call.isGet = true := by
  obtain ⟨kind, rendered, stored, hkept⟩ := hkept
  obtain ⟨start, hcopied, hstart, hpruned⟩ := hkept.exists_copied
  have hr := Ordered.of_render hkept.renders hkept.ordered
  obtain ⟨applied, hok, hcases⟩ := applies_over h hkept.checked hkept.renders hkept.ordered
    hkept.given hkept.found hkept.controlled hkept.takenUp hcopied hstart hcalm
  have hsettled := fieldsSettled_of_pruned hpruned hstart hkept.takenUp hr
  rcases hcases with ⟨-, hchange, hs⟩ | ⟨hunsettled, -⟩
  · exact ⟨applied, _, hok, hchange, hs, isGet_of_mem_readCalls⟩
  · exact absurd hsettled hunsettled

section
variable {σ : Type} {recorder : EventRecorder (StateT σ (StateM Memory))}
  {regarding : ObjectReference} {index : Nat} {u u' v v' : σ} {reasons : List Reason}
  {result : Except OperatorError (List Reason)}

/-- A pass over declarations that are kept changes nothing. -/
theorem runPass_of_kept (hrecorder : recorder.LeavesCluster)
    (hkept : ∀ d ∈ declarations, IsKept engine target context s.objects d)
    (h : runPass failures recorder engine target context regarding index declarations u s =
      ((result, u'), s'))
    (hcalm : Memory.Calm failures s s') :
    result = .ok (declarations.map fun _ => .unchanged) ∧
      ∃ calls, s' = s.logged calls ∧ ∀ call ∈ calls, call.isGet = true := by
  induction declarations generalizing index u s result with
  | nil =>
    cases h
    exact ⟨rfl, [], Memory.logged_nil.symm, by simp⟩
  | cons d ds ih =>
    rw [List.forall_mem_cons] at hkept
    obtain ⟨outcome, s₁, happlies, hcases⟩ := runPass_cons hrecorder h
    have hle : s₁.calls.length ≤ s'.calls.length := by
      rcases hcases with ⟨e, -, -, rfl⟩ | ⟨_, _, _, -, hrest, -⟩
      · exact Nat.le_refl _
      · exact length_calls_le_runPass hrecorder hrest
    obtain ⟨hbefore, hfrom⟩ := (Memory.calm_iff_of_le (length_calls_le happlies) hle).1 hcalm
    obtain ⟨applied, calls, rfl, hchange, rfl, hcalls⟩ :=
      unchanged_of_kept happlies hkept.1 hbefore
    rcases hcases with ⟨e, he, -⟩ | ⟨first, w, rest, hfirst, hrest, rfl⟩
    · cases he
    · cases hfirst
      obtain ⟨rfl, more, rfl, hmore⟩ := ih (s := s.logged calls) hkept.2 hrest hfrom
      refine ⟨?_, calls ++ more, Memory.logged_logged calls more, ?_⟩
      · simp [Except.map, Applied.reason, hchange]
      · simp only [List.mem_append]
        rintro call (hcall | hcall)
        · exact hcalls call hcall
        · exact hmore call hcall

variable {rs : ResourceSet}

theorem missingKey_of_ofResourceSet {e : OperatorError} (h : Target.ofResourceSet rs = .error e) :
    ∃ key, e = .missingKey key := by
  simp only [Target.ofResourceSet] at h
  split at h <;> cases h <;> exact ⟨_, rfl⟩

theorem run_reconcile (htarget : Target.ofResourceSet rs = .ok target) :
    ((reconcile ((Memory.store failures).withState σ) recorder engine rs).run u).run s =
      runPass failures recorder engine target rs.context rs.reference 0 rs.spec.resources u s := by
  rw [reconcile, htarget]

/-- A resource set has been reconciled, its declarations are of different kinds, and none has an
original but its own object. Where no call fails, reconciling it again at once finds every
declaration unchanged and only reads, so that the objects of the cluster stay as they are. -/
theorem reconcile_again (htarget : Target.ofResourceSet rs = .ok target)
    (hrecorder : recorder.LeavesCluster) (hobjects : ∀ e ∈ s.objects, e.2.Ordered)
    (halone : ∀ d ∈ rs.spec.resources, StandsAlone engine target rs.context s.objects d)
    (hkinds : rs.spec.resources.Pairwise DifferentKinds)
    (hfirst : ((reconcile ((Memory.store failures).withState σ) recorder engine rs).run u).run s =
      ((.ok reasons, u'), s'))
    (hsecond : ((reconcile ((Memory.store failures).withState σ) recorder engine rs).run v).run s' =
      ((result, v'), s''))
    (hcalm : Memory.Calm failures s' s'') :
    result = .ok (rs.spec.resources.map fun _ => .unchanged) ∧ s''.objects = s'.objects ∧
      ∃ calls, s''.calls = s'.calls ++ calls ∧ ∀ call ∈ calls, call.isGet = true := by
  rw [run_reconcile htarget] at hfirst hsecond
  have hkept := kept_of_passes (passes_of_runPass hrecorder hfirst) halone hkinds hobjects
  obtain ⟨hresult, calls, rfl, hcalls⟩ := runPass_of_kept hrecorder hkept hsecond hcalm
  exact ⟨hresult, rfl, calls, rfl, hcalls⟩

end

theorem isFit_of_render (hd : declaration.Ordered)
    (h : renderDeclaration engine context declaration = .ok declaration) :
    IsFit engine context declaration :=
  ⟨hd, ClusterStep.keepsKind_of_render h⟩

theorem standsAlone_of_render (hkind : checkedKind declaration = .ok kind)
    (hrendered : renderDeclaration engine context declaration = .ok declaration)
    (hd : declaration.Ordered) (hgiven : LeavesGiven declaration)
    (hother : HasNoOther target objects kind declaration) :
    StandsAlone engine target context objects declaration where
  ordered := hd
  keepsKind := ClusterStep.keepsKind_of_render hrendered
  given rendered hr := by
    cases hrendered.symm.trans hr
    exact hgiven
  noOther k rendered hk hr := by
    cases hkind.symm.trans hk
    cases hrendered.symm.trans hr
    exact hother

/-- The settings are named after nothing. -/
def namelessSettings : Tree := .map [
  ("apiVersion", .str "v1"),
  ("data", .map [
    ("cleared", .null),
    ("items", .arr [
      called "b",
      .map [("v", .float ⟨false, 1024, 0, by decide, Binary64.fractions_pos⟩)]])]),
  ("kind", .str "ConfigMap")]

def reviewService : Tree := .map [
  ("apiVersion", .str "v1"),
  ("kind", .str "Service"),
  ("metadata", .map [("labels", .map []), ("name", .str "front")])]

/-- The preview environment of a pull request, with both. -/
def reviewSet : ResourceSet where
  metadata := ⟨.map [("name", .str "pr-1"), ("namespace", .str "review"), ("uid", .str "u-1")]⟩
  spec := ⟨[namelessSettings, reviewService], 1, .empty, .empty⟩
  hasStatus := false

/-- Where the objects of the set go. -/
def reviewPlace : Target :=
  ⟨"pr-1", "review", ⟨"pullup.dev/v1alpha1", "ResourceSet", "pr-1", "u-1"⟩⟩

/-- A recorder that keeps the events. -/
def journal : EventRecorder (StateT (List Event) (StateM Memory)) where
  record _ event := fun events s => ((.ok (), events ++ [event]), s)

/-- The set is reconciled, and no call fails. -/
def reconcileReview (s : Memory) :
    (Except OperatorError (List Reason) × List Event) × Memory :=
  ((reconcile ((Memory.store fun _ => none).withState (List Event)) journal Patch.reviewEngine
    reviewSet).run []).run s

theorem reconcile_again_review :
    (reconcileReview ⟨[], []⟩).1.1 = .ok [.created, .created] ∧
      (reconcileReview (reconcileReview ⟨[], []⟩).2).1.1 = .ok [.unchanged, .unchanged] := by
  have hfirst : (reconcileReview ⟨[], []⟩).1.1 = .ok [.created, .created] := by decide +kernel
  refine ⟨hfirst, ?_⟩
  have htarget : Target.ofResourceSet reviewSet =
      .ok ⟨"pr-1", "review", ⟨"pullup.dev/v1alpha1", "ResourceSet", "pr-1", "u-1"⟩⟩ := by
    decide +kernel
  have hsettings : checkedKind namelessSettings = .ok reviewKind := by decide +kernel
  have hservice : checkedKind reviewService = .ok ⟨"", "v1", "Service"⟩ := by decide +kernel
  have halone : ∀ d ∈ reviewSet.spec.resources,
      StandsAlone Patch.reviewEngine
        ⟨"pr-1", "review", ⟨"pullup.dev/v1alpha1", "ResourceSet", "pr-1", "u-1"⟩⟩
        reviewSet.context [] d := by
    simp only [reviewSet, List.forall_mem_cons]
    refine ⟨?_, ?_, by simp⟩
    · refine standsAlone_of_render hsettings (by decide +kernel) (by decide) ?_ (.inl (by decide))
      intro v hv
      cases hv
    · refine standsAlone_of_render hservice (by decide +kernel) (by decide) ?_
        (.inr (.inl ⟨by decide, rfl⟩))
      intro v hv
      cases hv
      exact ⟨⟨_, rfl⟩, by decide⟩
  have hkinds : reviewSet.spec.resources.Pairwise DifferentKinds := by
    simp only [reviewSet, List.pairwise_cons, List.mem_singleton, List.not_mem_nil]
    refine ⟨?_, by simp⟩
    rintro _ rfl k l hk hl
    cases hsettings.symm.trans hk
    cases hservice.symm.trans hl
    decide
  have hrun : reconcileReview ⟨[], []⟩ =
      ((.ok [.created, .created], (reconcileReview ⟨[], []⟩).1.2), (reconcileReview ⟨[], []⟩).2) :=
    Prod.fst_eq_iff.1 (Prod.fst_eq_iff.1 hfirst)
  rcases hagain : reconcileReview (reconcileReview ⟨[], []⟩).2 with ⟨⟨result, events⟩, s''⟩
  exact (reconcile_again htarget (fun _ _ _ _ => rfl) (by simp) halone hkinds hrun hagain
    fun _ _ _ => rfl).1

end PreviewEnv
