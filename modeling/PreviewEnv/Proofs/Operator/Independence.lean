import Mathlib.Data.List.Pairwise
import Mathlib.Order.RelIso.Basic
import PreviewEnv.Proofs.Apply.Failures
import PreviewEnv.Proofs.Operator.Steady

/-!
Declarations of different kinds do not get in each other's way, so that they can be
applied in any order.
-/

namespace PreviewEnv

namespace ObjectKey

theorem toList_injective : Function.Injective toList := by
  rintro ⟨_, _, _, _⟩ ⟨_, _, _, _⟩ h
  simpa [toList] using h

instance : IsStrictTotalOrder ObjectKey (· < ·) :=
  RelEmbedding.isStrictTotalOrder (s := fun a b : List String => a < b)
    ⟨⟨toList, toList_injective⟩, Iff.rfl⟩

end ObjectKey

variable {σ : Type} {failures : Memory.Schedule}
  {recorder : EventRecorder (StateT σ (StateM Memory))} {target : Target} {engine : Template.Engine}
  {context declaration d e : Tree} {regarding : ObjectReference} {index : Nat}
  {declarations : List Tree} {kind : GroupVersionKind} {u u' : σ} {s s' s'' : Memory}
  {objects : Objects} {applied : Applied} {stored : Tree} {reasons : List Reason}
  {result : Except OperatorError (List Reason)}

/-- Objects that belong to different places can be kept in any order. -/
theorem Objects.store_comm {a b : Tree} (h : ObjectKey.ofObject a ≠ ObjectKey.ofObject b) :
    (objects.store a).store b = (objects.store b).store a :=
  Entries.insert_comm h.symm

/-- What is kept for a declaration belongs to its slot. -/
theorem slot_of_resolve (hfit : IsFit engine context declaration)
    (h : resolve engine target context declaration objects = .ok (applied, some stored)) :
    ∃ kind, checkedKind declaration = .ok kind ∧ ObjectKey.ofObject stored = target.slot kind := by
  obtain ⟨kind, hkind, h⟩ := bind_eq_ok_iff.1 h
  obtain ⟨rendered, hrendered, h⟩ := bind_eq_ok_iff.1 h
  obtain ⟨-, -, h⟩ := bind_eq_ok_iff.1 h
  obtain ⟨object, hbuilt, h⟩ := bind_eq_ok_iff.1 h
  have hslot := ofObject_built hkind hrendered hfit.ordered hfit.keepsKind
    (mapError_eq_ok_iff.1 hbuilt)
  refine ⟨kind, hkind, ?_⟩
  rw [← hslot]
  apply ofObject_kept
  cases hfound : Entries.get? (target.slot kind) objects with
  | none =>
    rw [hfound] at h
    cases h
    exact .inl rfl
  | some found =>
    simp only [hfound, settle] at h
    split at h <;> cases h
    exact .inr rfl

theorem sameOfKind_resolvedObjects (hfit : IsFit engine context declaration)
    (hother : ∀ k, checkedKind declaration = .ok k → (k.group, k.kind) ≠ (kind.group, kind.kind)) :
    SameOfKind kind objects (resolvedObjects engine target context declaration objects) := by
  rw [← (applyCalmly_eq (s := ⟨objects, []⟩)).2]
  exact sameOfKind_of_applies (applies_of_run rfl) hfit.ordered hfit.keepsKind hother

/-- A declaration is resolved to the same after one of another kind has been applied. -/
theorem resolve_after (hfit : IsFit engine context d) (hkinds : DifferentKinds d e) :
    resolve engine target context e (resolvedObjects engine target context d objects) =
      resolve engine target context e objects :=
  resolve_congr fun l hl => sameOfKind_resolvedObjects hfit fun k hk => hkinds k l hk hl

/-- Two declarations of different kinds leave the same objects in either order. -/
theorem resolvedObjects_comm (hd : IsFit engine context d) (he : IsFit engine context e)
    (hkinds : DifferentKinds d e) :
    resolvedObjects engine target context e (resolvedObjects engine target context d objects) =
      resolvedObjects engine target context d
        (resolvedObjects engine target context e objects) := by
  conv_lhs => rw [resolvedObjects, resolve_after hd hkinds, resolvedObjects]
  conv_rhs => rw [resolvedObjects, resolve_after he (symm hkinds), resolvedObjects]
  rcases hfirst : resolve engine target context d objects with _ | ⟨a, _ | stored⟩
  · rfl
  · rfl
  rcases hsecond : resolve engine target context e objects with _ | ⟨b, _ | other⟩
  · rfl
  · rfl
  obtain ⟨k, hk, hslot⟩ := slot_of_resolve hd hfirst
  obtain ⟨l, hl, hslot'⟩ := slot_of_resolve he hsecond
  apply Objects.store_comm
  rw [hslot, hslot']
  exact fun h => hkinds k l hk hl (Target.slot_eq_iff.1 h)

/-- The objects after declarations have been applied one after the other, where no call fails. -/
def passedObjects (engine : Template.Engine) (target : Target) (context : Tree)
    (declarations : List Tree) (objects : Objects) : Objects :=
  declarations.foldl (fun objects d => resolvedObjects engine target context d objects) objects

/-- The reason that is given for a declaration on its own. -/
def reasonFor (engine : Template.Engine) (target : Target) (context : Tree) (objects : Objects)
    (declaration : Tree) :
    Reason :=
  (resolvedOutcome engine target context declaration objects).reason

theorem resolvedOutcome_after (hfit : IsFit engine context d) (hkinds : DifferentKinds d e) :
    resolvedOutcome engine target context e (resolvedObjects engine target context d objects) =
      resolvedOutcome engine target context e objects := by
  rw [resolvedOutcome, resolve_after hfit hkinds, resolvedOutcome]

/-- What a pass without failures does with its first declaration. -/
theorem runPass_cons_of_calm (hrecorder : recorder.LeavesCluster)
    (h : runPass failures recorder engine target context regarding index
      (declaration :: declarations) u
      s = ((result, u'), s''))
    (hcalm : Memory.Calm failures s s'') :
    ∃ s', s'.objects = resolvedObjects engine target context declaration s.objects ∧
      ((∃ e, resolvedOutcome engine target context declaration s.objects = .error e ∧
          result = .error (.apply index e) ∧ s'' = s') ∨
        ∃ applied v rest,
          resolvedOutcome engine target context declaration s.objects = .ok applied ∧
          runPass failures recorder engine target context regarding (index + 1) declarations v s' =
            ((rest, u'), s'') ∧
          result = rest.map (applied.reason :: ·) ∧ Memory.Calm failures s' s'') := by
  obtain ⟨outcome, s', happlies, hcases⟩ := runPass_cons hrecorder h
  rcases hcases with ⟨e, rfl, hresult, rfl⟩ | ⟨applied, v, rest, rfl, hrest, hresult⟩
  · obtain ⟨houtcome, hobjects⟩ := resolve_of_applies happlies hcalm
    exact ⟨s'', hobjects, .inl ⟨e, houtcome.symm, hresult, rfl⟩⟩
  · obtain ⟨hfirst, hthen⟩ := (Memory.calm_iff_of_le (length_calls_le happlies)
      (length_calls_le_runPass hrecorder hrest)).1 hcalm
    obtain ⟨houtcome, hobjects⟩ := resolve_of_applies happlies hfirst
    exact ⟨s', hobjects, .inr ⟨applied, v, rest, houtcome.symm, hrest, hresult, hthen⟩⟩

/-- The declaration is applied with success, where no call fails. -/
def Succeeds (engine : Template.Engine) (target : Target) (context : Tree) (objects : Objects)
    (declaration : Tree) : Prop :=
  ∃ applied, resolvedOutcome engine target context declaration objects = .ok applied

theorem succeeds_after (hfit : IsFit engine context d) (hkinds : DifferentKinds d e) :
    Succeeds engine target context (resolvedObjects engine target context d objects) e ↔
      Succeeds engine target context objects e := by
  rw [Succeeds, resolvedOutcome_after hfit hkinds, Succeeds]

/-- Where a pass over declarations of different kinds succeeds, each of them does on its own. -/
theorem succeeds_of_runPass (hrecorder : recorder.LeavesCluster)
    (hfits : ∀ d ∈ declarations, IsFit engine context d)
    (hkinds : declarations.Pairwise DifferentKinds)
    (h : runPass failures recorder engine target context regarding index declarations u s =
      ((.ok reasons, u'), s'))
    (hcalm : Memory.Calm failures s s') :
    ∀ d ∈ declarations, Succeeds engine target context s.objects d := by
  induction declarations generalizing index u s reasons with
  | nil => simp
  | cons d ds ih =>
    rw [List.forall_mem_cons] at hfits ⊢
    obtain ⟨hfirst, hkinds⟩ := List.pairwise_cons.1 hkinds
    obtain ⟨s₁, hobjects, hcases⟩ := runPass_cons_of_calm hrecorder h hcalm
    rcases hcases with ⟨e, -, hresult, -⟩ | ⟨applied, v, rest, hok, hrest, hresult, hthen⟩
    · cases hresult
    · cases rest with
      | error e => cases hresult
      | ok reasons =>
        refine ⟨⟨applied, hok⟩, fun e he => ?_⟩
        -- The others are applied after the first one, which has no part in what they come to.
        have hlater := ih hfits.2 hkinds hrest hthen e he
        rwa [hobjects, succeeds_after hfits.1 (hfirst e he)] at hlater

/-- A pass over declarations of different kinds each of which succeeds on its own comes to what they
come to on their own. -/
theorem runPass_of_succeeds (hrecorder : recorder.LeavesCluster)
    (hfits : ∀ d ∈ declarations, IsFit engine context d)
    (hkinds : declarations.Pairwise DifferentKinds)
    (hsucceeds : ∀ d ∈ declarations, Succeeds engine target context s.objects d)
    (h : runPass failures recorder engine target context regarding index declarations u s =
      ((result, u'), s'))
    (hcalm : Memory.Calm failures s s') :
    result = .ok (declarations.map (reasonFor engine target context s.objects)) ∧
      s'.objects = passedObjects engine target context declarations s.objects := by
  induction declarations generalizing index u s result with
  | nil =>
    cases h
    exact ⟨rfl, rfl⟩
  | cons d ds ih =>
    rw [List.forall_mem_cons] at hfits hsucceeds
    obtain ⟨hfirst, hkinds⟩ := List.pairwise_cons.1 hkinds
    obtain ⟨⟨a, ha⟩, hsucceeds⟩ := hsucceeds
    obtain ⟨s₁, hobjects, hcases⟩ := runPass_cons_of_calm hrecorder h hcalm
    rcases hcases with ⟨e, he, -⟩ | ⟨applied, v, rest, hok, hrest, rfl, hthen⟩
    · cases he.symm.trans ha
    · have hlater : ∀ e ∈ ds, Succeeds engine target context s₁.objects e := fun e he => by
        rw [hobjects, succeeds_after hfits.1 (hfirst e he)]
        exact hsucceeds e he
      obtain ⟨rfl, hobjects'⟩ := ih hfits.2 hkinds hlater hrest hthen
      have hreasons : ds.map (reasonFor engine target context s₁.objects) =
          ds.map (reasonFor engine target context s.objects) :=
        List.map_congr_left fun e he => by
          rw [reasonFor, hobjects, resolvedOutcome_after hfits.1 (hfirst e he), reasonFor]
      have hreason : reasonFor engine target context s.objects d = applied.reason := by
        rw [reasonFor, hok, Outcome.reason]
      rw [List.map_cons, hreason, hreasons, hobjects', hobjects]
      exact ⟨rfl, rfl⟩

/-- Declarations of different kinds leave the same objects in any order. -/
theorem passedObjects_of_perm {permuted : List Tree} (hperm : declarations.Perm permuted)
    (hfits : ∀ d ∈ declarations, IsFit engine context d)
    (hkinds : declarations.Pairwise DifferentKinds) :
    passedObjects engine target context declarations objects =
      passedObjects engine target context permuted objects := by
  apply hperm.foldl_eq'
  intro d hd e he objects
  by_cases hde : d = e
  · rw [hde]
  · exact resolvedObjects_comm (hfits d hd) (hfits e he) (hkinds.forall hd he hde)

/-- Two declarations are applied, one after the other. -/
def applyBoth (failures : Memory.Schedule) (engine : Template.Engine) (target : Target)
    (context d e : Tree) :
    StateM Memory (Outcome × Outcome) := do
  let first ← apply (Memory.store failures) engine target context d
  let second ← apply (Memory.store failures) engine target context e
  return (first, second)

theorem applyBoth_of_calm (hd : IsFit engine context d) (hkinds : DifferentKinds d e)
    {first second : Outcome}
    (h : (applyBoth failures engine target context d e).run s = ((first, second), s'))
    (hcalm : Memory.Calm failures s s') :
    first = resolvedOutcome engine target context d s.objects ∧
      second = resolvedOutcome engine target context e s.objects ∧
      s'.objects =
        resolvedObjects engine target context e
          (resolvedObjects engine target context d s.objects) := by
  rcases hfirst : (apply (Memory.store failures) engine target context d).run s with ⟨o, s₁⟩
  rcases hsecond : (apply (Memory.store failures) engine target context e).run s₁ with ⟨p, s₂⟩
  have hboth : (applyBoth failures engine target context d e).run s = ((o, p), s₂) := by
    rw [applyBoth, StateT.run_bind, hfirst]
    change
      (apply (Memory.store failures) engine target context e >>= fun q => pure (o, q)).run s₁ = _
    rw [StateT.run_bind, hsecond]
    rfl
  cases hboth.symm.trans h
  have happlies := applies_of_run hfirst
  have hthen := applies_of_run hsecond
  obtain ⟨hcalm₁, hcalm₂⟩ :=
    (Memory.calm_iff_of_le (length_calls_le happlies) (length_calls_le hthen)).1 hcalm
  obtain ⟨ho, hobjects⟩ := resolve_of_applies happlies hcalm₁
  obtain ⟨hp, hobjects'⟩ := resolve_of_applies hthen hcalm₂
  rw [hobjects] at hp hobjects'
  rw [resolvedOutcome_after hd hkinds] at hp
  exact ⟨ho, hp, hobjects'⟩

/-- The order of declarations of different kinds does not matter where no call fails. Two of them,
whether they are applied with success or not, have the same outcomes and leave the same objects in
either order; and where a resource set has been reconciled with success, so do its declarations in
any order, with the same reasons. -/
theorem order_immaterial (failures : Memory.Schedule) (engine : Template.Engine)
    (hrecorder : recorder.LeavesCluster) :
    (∀ target context d e s s' s'' o p o' p',
      IsFit engine context d → IsFit engine context e → DifferentKinds d e →
      (applyBoth failures engine target context d e).run s = ((o, p), s') →
      Memory.Calm failures s s' →
      (applyBoth failures engine target context e d).run s = ((p', o'), s'') →
      Memory.Calm failures s s'' →
      s''.objects = s'.objects ∧ o' = o ∧ p' = p) ∧
    ∀ rs target permuted u u' v v' s s' s'' reasons result,
      Target.ofResourceSet rs = .ok target →
      (∀ d ∈ rs.spec.resources, IsFit engine rs.context d) →
      rs.spec.resources.Pairwise DifferentKinds → rs.spec.resources.Perm permuted →
      ((reconcile ((Memory.store failures).withState σ) recorder engine rs).run u).run s =
        ((.ok reasons, u'), s') →
      Memory.Calm failures s s' →
      runPass failures recorder engine target rs.context rs.reference 0 permuted v s =
        ((result, v'), s'') →
      Memory.Calm failures s s'' →
      s''.objects = s'.objects ∧ ∃ reason : Tree → Reason,
        reasons = rs.spec.resources.map reason ∧ result = .ok (permuted.map reason) := by
  constructor
  · intro target context d e s s' s'' o p o' p' hd he hkinds h hcalm h' hcalm'
    obtain ⟨ho, hp, hobjects⟩ := applyBoth_of_calm hd hkinds h hcalm
    obtain ⟨hp', ho', hobjects'⟩ := applyBoth_of_calm he (symm hkinds) h' hcalm'
    rw [ho, ho', hp, hp', hobjects, hobjects', resolvedObjects_comm hd he hkinds]
    exact ⟨rfl, rfl, rfl⟩
  · intro rs target permuted u u' v v' s s' s'' reasons result htarget hfits hkinds hperm h hcalm h'
      hcalm'
    rw [run_reconcile htarget] at h
    have hsucceeds := succeeds_of_runPass hrecorder hfits hkinds h hcalm
    obtain ⟨hreasons, hobjects⟩ := runPass_of_succeeds hrecorder hfits hkinds hsucceeds h hcalm
    obtain ⟨hresult, hobjects'⟩ := runPass_of_succeeds hrecorder
      (fun d hd => hfits d (hperm.mem_iff.2 hd)) (hkinds.perm hperm symm)
      (fun d hd => hsucceeds d (hperm.mem_iff.2 hd)) h' hcalm'
    rw [hobjects, hobjects', passedObjects_of_perm hperm hfits hkinds]
    exact ⟨rfl, _, Except.ok.inj hreasons, hresult⟩

theorem isFit_reviewSet :
    ∀ d ∈ reviewSet.spec.resources, IsFit Patch.reviewEngine reviewSet.context d := by
  simp only [reviewSet, List.forall_mem_cons]
  exact ⟨isFit_of_render (by decide) (by decide +kernel),
    isFit_of_render (by decide) (by decide +kernel), by simp⟩

theorem differentKinds_of_checked {k l : GroupVersionKind} (hd : checkedKind d = .ok k)
    (he : checkedKind e = .ok l) (hne : (k.group, k.kind) ≠ (l.group, l.kind)) :
    DifferentKinds d e := by
  intro k' l' hk hl
  cases hd.symm.trans hk
  cases he.symm.trans hl
  exact hne

/-- Both declarations of the set are applied, one after the other. -/
def applyReview (d e : Tree) : (Outcome × Outcome) × Memory :=
  (applyBoth (fun _ => none) Patch.reviewEngine reviewPlace reviewSet.context d e).run ⟨[], []⟩

/-- The set from the last declaration to the first. -/
def reversedReview : (Except OperatorError (List Reason) × List Event) × Memory :=
  runPass (fun _ => none) journal Patch.reviewEngine reviewPlace reviewSet.context
    reviewSet.reference 0 [reviewService, namelessSettings] [] ⟨[], []⟩

theorem order_immaterial_review :
    (applyReview reviewService namelessSettings).2.objects =
        (applyReview namelessSettings reviewService).2.objects ∧
      reversedReview.2.objects = (reconcileReview ⟨[], []⟩).2.objects := by
  have hkinds : DifferentKinds namelessSettings reviewService :=
    differentKinds_of_checked (k := Patch.reviewKind) (l := ⟨"", "v1", "Service"⟩)
      (by decide +kernel) (by decide +kernel) (by decide)
  have hfits := isFit_reviewSet
  have hjournal : journal.LeavesCluster := fun _ _ _ _ => rfl
  obtain ⟨hboth, hset⟩ := order_immaterial (fun _ => none) Patch.reviewEngine hjournal
  constructor
  · exact (hboth reviewPlace reviewSet.context namelessSettings reviewService ⟨[], []⟩ _ _ _ _ _ _
      (hfits _ (by simp [reviewSet])) (hfits _ (by simp [reviewSet])) hkinds rfl
      (fun _ _ _ => rfl) rfl fun _ _ _ => rfl).1
  · have htarget : Target.ofResourceSet reviewSet = .ok reviewPlace := by decide +kernel
    have hfirst : (reconcileReview ⟨[], []⟩).1.1 = .ok [.created, .created] := by decide +kernel
    have hrun : reconcileReview ⟨[], []⟩ = ((.ok [.created, .created],
        (reconcileReview ⟨[], []⟩).1.2), (reconcileReview ⟨[], []⟩).2) :=
      Prod.fst_eq_iff.1 (Prod.fst_eq_iff.1 hfirst)
    have hreversed : runPass (fun _ => none) journal Patch.reviewEngine reviewPlace
        reviewSet.context reviewSet.reference 0 [reviewService, namelessSettings] [] ⟨[], []⟩ =
          ((reversedReview.1.1, reversedReview.1.2), reversedReview.2) := rfl
    exact (hset reviewSet reviewPlace _ _ _ _ _ _ _ _ _ _ htarget hfits
      (by simp [reviewSet, hkinds]) (List.Perm.swap _ _ _) hrun (fun _ _ _ => rfl) hreversed
      fun _ _ _ => rfl).1

end PreviewEnv
