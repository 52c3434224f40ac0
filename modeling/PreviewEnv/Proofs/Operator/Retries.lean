import PreviewEnv.Operator.Controller
import PreviewEnv.Proofs.Apply.Failures
import PreviewEnv.Proofs.Operator.Steady

namespace PreviewEnv

variable {σ : Type} {failures : Memory.Schedule}
  {recorder : EventRecorder (StateT σ (StateM Memory))} {target : Target} {engine : Template.Engine}
  {context declaration : Tree} {regarding : ObjectReference} {index : Nat}
  {declarations : List Tree} {u u' : σ} {s s' s'' : Memory} {outcome : Outcome}
  {result : Except OperatorError (List Reason)} {rs : ResourceSet}

theorem retries_map {f : List Reason → List Reason} :
    Controller.retries (result.map f) = Controller.retries result := by
  cases result <;> rfl

/-- A pass is tried again exactly when one of its calls has failed. -/
theorem calm_iff_of_runPass (hrecorder : recorder.LeavesCluster)
    (h : runPass failures recorder engine target context regarding index declarations u s =
      ((result, u'), s'')) :
    Memory.Calm failures s s'' ↔ Controller.retries result = false := by
  induction declarations generalizing index u s result with
  | nil =>
    cases h
    exact iff_of_true .refl rfl
  | cons declaration declarations ih =>
    obtain ⟨outcome, s', happlies, hcases⟩ := runPass_cons hrecorder h
    have hstep := calm_iff_of_applies happlies
    rcases hcases with ⟨e, rfl, rfl, rfl⟩ | ⟨applied, v, rest, rfl, hrest, rfl⟩
    · exact hstep
    · have hcalm : Memory.Calm failures s s' := hstep.2 rfl
      have hle := length_calls_le_runPass hrecorder hrest
      rw [Memory.calm_iff_of_le (length_calls_le happlies) hle, retries_map, ← ih hrest]
      exact and_iff_right hcalm

/-- The same for a resource set; one without a name, a namespace or an identity makes no call. -/
theorem calm_iff_of_reconcile (hrecorder : recorder.LeavesCluster)
    (h : ((reconcile ((Memory.store failures).withState σ) recorder engine rs).run u).run s =
      ((result, u'), s'')) :
    Memory.Calm failures s s'' ↔ Controller.retries result = false := by
  cases htarget : Target.ofResourceSet rs with
  | error e =>
    obtain ⟨key, rfl⟩ := missingKey_of_ofResourceSet htarget
    rw [reconcile, htarget] at h
    cases h
    exact iff_of_true .refl rfl
  | ok target =>
    rw [run_reconcile htarget] at h
    exact calm_iff_of_runPass hrecorder h

/-- Failures, of any calls. The calls of an application are the first ones of a fixed sequence, and
there is none for a declaration without a kind or one that cannot be rendered. A call that fails is
the last one, and the outcome says so and is to be tried again; any other error is not. An error
leaves the objects as they are, so that whatever is applied afterwards comes to the same as if the
failed application had not been made. A reconciliation is tried again exactly when one of its calls
has failed. -/
theorem failure_atomicity
    (hrun : (apply (Memory.store failures) engine target context declaration).run s = (outcome, s'))
    (hrecorder : recorder.LeavesCluster)
    (hpass : ((reconcile ((Memory.store failures).withState σ) recorder engine rs).run u).run s =
      ((result, u'), s'')) :
    (∃ calls, s'.calls = s.calls ++ calls ∧
      (∀ e, checkedKind declaration = .error e → calls = []) ∧
      (∀ e, renderDeclaration engine context declaration = .error e → calls = []) ∧
      (∀ kind rendered, checkedKind declaration = .ok kind →
        renderDeclaration engine context declaration = .ok rendered →
        InOrder kind target rendered calls) ∧
      ∀ i call, calls[i]? = some call → failures (s.calls.length + i) ≠ none →
        i + 1 = calls.length ∧
          ∃ e, outcome = .error e ∧ e.requeue = true ∧ e.reason = call.failureReason) ∧
    (∀ e, outcome = .error e → s'.objects = s.objects ∧
      (applyCalmly engine target context declaration s').1 =
        (applyCalmly engine target context declaration s).1 ∧
      (applyCalmly engine target context declaration s').2.objects =
        (applyCalmly engine target context declaration s).2.objects) ∧
    (Memory.Calm failures s s' → ∀ e, outcome = .error e →
      e.requeue = false ∧ (e.reason = .invalidResource ∨ e.reason = .resourceExists)) ∧
    (Controller.retries result = true ↔ ¬ Memory.Calm failures s s'') := by
  have happlies := applies_of_run hrun
  obtain ⟨calls, hcalls⟩ := exists_calls_of_applies happlies
  have hends := ends_of_applies happlies hcalls
  refine ⟨⟨calls, hcalls, ?_, ?_, ?_, fun i call => hends.last_of_fails⟩, ?_, ?_, ?_⟩
  · intro e he
    exact (inOrder_of_applies happlies hcalls).resolve_right fun ⟨_, _, hkind, _⟩ => by
      cases he.symm.trans hkind
  · intro e he
    exact (inOrder_of_applies happlies hcalls).resolve_right fun ⟨_, _, _, hrendered, _⟩ => by
      cases he.symm.trans hrendered
  · intro kind rendered hkind hrendered
    rcases inOrder_of_applies happlies hcalls with rfl | ⟨k, r, hk, hr, horder⟩
    · exact inOrder_of_prefix List.nil_prefix
    · cases hk.symm.trans hkind
      cases hr.symm.trans hrendered
      exact horder
  · rintro e rfl
    have hsame := objects_of_error happlies
    refine ⟨hsame, ?_, ?_⟩
    · rw [applyCalmly_eq.1, applyCalmly_eq.1, hsame]
    · rw [applyCalmly_eq.2, applyCalmly_eq.2, hsame]
  · intro hcalm e he
    refine hends.error_of_calm ?_ he
    rwa [Memory.calm_logged_iff, ← Memory.calm_iff_of_calls hcalls]
  · rw [calm_iff_of_reconcile hrecorder hpass, Bool.not_eq_false]

/-- The third call fails: of one application the one that creates the object, of a pass the one that
looks for the original of the second declaration. -/
def thirdFails : Memory.Schedule :=
  fun n => if n = 2 then some (.failure 500 "InternalError" "request timed out") else none

def interruptedApplication : Outcome × Memory :=
  (apply (Memory.store thirdFails) Patch.reviewEngine Patch.reviewTarget .empty
    ClusterStep.reviewDeclaration).run ⟨[], []⟩

def interruptedPass : (Except OperatorError (List Reason) × List Event) × Memory :=
  ((reconcile ((Memory.store thirdFails).withState (List Event)) journal Patch.reviewEngine
    reviewSet).run []).run ⟨[], []⟩

theorem failure_atomicity_third_call :
    (∃ e, interruptedApplication.1 = .error e ∧ e.requeue = true ∧ e.reason = .createFailed) ∧
      interruptedApplication.2.objects = [] ∧ Controller.retries interruptedPass.1.1 = true := by
  have hfails : ¬ Memory.Calm thirdFails ⟨[], []⟩ interruptedPass.2 := fun hcalm => by
    have hthird := hcalm 2 (by decide) (by decide +kernel)
    cases hthird
  have hjournal : journal.LeavesCluster := fun _ _ _ _ => rfl
  have happlied : (apply (Memory.store thirdFails) Patch.reviewEngine Patch.reviewTarget .empty
      ClusterStep.reviewDeclaration).run ⟨[], []⟩ =
        (interruptedApplication.1, interruptedApplication.2) := rfl
  have hreconciled : ((reconcile ((Memory.store thirdFails).withState (List Event)) journal
      Patch.reviewEngine reviewSet).run []).run ⟨[], []⟩ =
        ((interruptedPass.1.1, interruptedPass.1.2), interruptedPass.2) := rfl
  obtain ⟨⟨calls, hcalls, -, -, -, hlast⟩, herror, -, hpass⟩ :=
    failure_atomicity happlied hjournal hreconciled
  have hthird : calls[2]?.map Call.failureReason = some .createFailed := by
    rw [← List.nil_append calls, ← hcalls]
    decide +kernel
  obtain ⟨call, hcall, hcreate⟩ := Option.map_eq_some_iff.1 hthird
  obtain ⟨-, e, he, hrequeue, hreason⟩ := hlast 2 call hcall (by simp [thirdFails])
  exact ⟨⟨e, he, hrequeue, hreason.trans hcreate⟩, (herror e he).1, hpass.2 hfails⟩

end PreviewEnv
