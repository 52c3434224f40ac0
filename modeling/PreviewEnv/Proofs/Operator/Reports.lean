import PreviewEnv.Proofs.Operator.Retries

namespace PreviewEnv

variable {failures : Memory.Schedule} {engine : Template.Engine} {target : Target}
  {context declaration : Tree} {declarations : List Tree} {regarding : ObjectReference}
  {index : Nat} {s s' : Memory} {outcome : Outcome} {outcomes : List Outcome} {applied : Applied}
  {e : ApplyError}

/-- What has come of declarations, and the cluster as they leave it. -/
structure Progress where
  outcomes : List Outcome
  cluster : Memory

/-- Whether a declaration has failed. -/
def Progress.halted (p : Progress) : Bool := p.outcomes.any fun o => o.error?.isSome

/-- Applies a declaration, unless one before it has failed. -/
def applyNext (failures : Memory.Schedule) (engine : Template.Engine) (target : Target)
    (context : Tree) (p : Progress) (declaration : Tree) : Progress :=
  if p.halted then p
  else
    let (outcome, cluster) :=
      (apply (Memory.store failures) engine target context declaration).run p.cluster
    ⟨p.outcomes ++ [outcome], cluster⟩

/-- Applies declarations in order, each to the cluster as those before it leave it. -/
def applyInOrder (failures : Memory.Schedule) (engine : Template.Engine) (target : Target)
    (context : Tree) (declarations : List Tree) (s : Memory) : Progress :=
  declarations.foldl (applyNext failures engine target context) ⟨[], s⟩

variable {p : Progress}

theorem Progress.halted_eq_false :
    p.halted = false ↔ ∀ o ∈ p.outcomes, Outcome.error? o = none := by
  simp [Progress.halted]

theorem applyNext_of_halted (h : p.halted = true) :
    applyNext failures engine target context p declaration = p := if_pos h

theorem foldl_applyNext_of_halted (h : p.halted = true) :
    declarations.foldl (applyNext failures engine target context) p = p := by
  induction declarations with
  | nil => rfl
  | cons declaration declarations ih => rw [List.foldl_cons, applyNext_of_halted h, ih]

theorem applyNext_of_run (h : p.halted = false)
    (hrun : (apply (Memory.store failures) engine target context declaration).run p.cluster =
      (outcome, s')) :
    applyNext failures engine target context p declaration = ⟨p.outcomes ++ [outcome], s'⟩ := by
  rw [applyNext, if_neg (by simp [h]), hrun]

/-- So many declarations have been applied with success, or the last one applied has failed, and
none before it. -/
def Progress.Covers (count : Nat) (p : Progress) : Prop :=
  p.halted = false ∧ p.outcomes.length = count ∨
    ∃ before e, p.outcomes = before ++ [.error e] ∧ ∀ o ∈ before, Outcome.error? o = none

/-- A step deals with one declaration more. -/
theorem covers_applyNext {count : Nat} (h : p.Covers count) :
    (applyNext failures engine target context p declaration).Covers (count + 1) := by
  rcases h with ⟨hhalted, hlength⟩ | ⟨before, e, houtcomes, hbefore⟩
  · rcases hrun :
      (apply (Memory.store failures) engine target context declaration).run p.cluster with
      ⟨outcome, s'⟩
    rw [applyNext_of_run hhalted hrun]
    cases outcome with
    | error e => exact .inr ⟨p.outcomes, e, rfl, Progress.halted_eq_false.1 hhalted⟩
    | ok applied =>
      refine .inl ⟨Progress.halted_eq_false.2 ?_, by simp [hlength]⟩
      simpa [or_imp, forall_and, Outcome.error?] using Progress.halted_eq_false.1 hhalted
  · rw [applyNext_of_halted (by simp [Progress.halted, houtcomes, Outcome.error?])]
    exact .inr ⟨before, e, houtcomes, hbefore⟩

theorem covers_foldl_applyNext {count : Nat} (h : p.Covers count) :
    (declarations.foldl (applyNext failures engine target context) p).Covers
      (count + declarations.length) := by
  induction declarations generalizing p count with
  | nil => exact h
  | cons declaration declarations ih =>
    rw [List.foldl_cons, List.length_cons, ← Nat.add_assoc, Nat.add_right_comm]
    exact ih (covers_applyNext h)

/-- All declarations of the fold succeed, or the last of those that it applies fails. -/
theorem covers_applyInOrder :
    (applyInOrder failures engine target context declarations s).Covers declarations.length := by
  have hstart : (⟨[], s⟩ : Progress).Covers 0 := .inl ⟨rfl, rfl⟩
  rw [applyInOrder, ← Nat.zero_add declarations.length]
  exact covers_foldl_applyNext hstart

/-- A recorder that keeps the events handed to it. Whether it says that it has is up to those that
it has been handed. -/
def reporter (answers : List (ObjectReference × Event) → Except ClusterError Unit) :
    EventRecorder (StateT (List (ObjectReference × Event)) (StateM Memory)) where
  record regarding event := fun events s =>
    let events := events ++ [(regarding, event)]
    ((answers events, events), s)

/-- What a pass comes to by the outcomes of its declarations, the first of which has the given
index. -/
def verdict : Nat → List Outcome → Except OperatorError (List Reason)
  | _, [] => .ok []
  | index, .error e :: _ => .error (.apply index e)
  | index, .ok applied :: outcomes => (verdict (index + 1) outcomes).map (applied.reason :: ·)

theorem verdict_of_success (h : ∀ o ∈ outcomes, Outcome.error? o = none) :
    verdict index outcomes = .ok (outcomes.map Outcome.reason) := by
  induction outcomes generalizing index with
  | nil => rfl
  | cons o outcomes ih =>
    obtain ⟨ho, houtcomes⟩ := List.forall_mem_cons.1 h
    cases o with
    | error e => cases ho
    | ok applied =>
      rw [verdict, ih houtcomes]
      rfl

theorem verdict_of_failure (h : ∀ o ∈ outcomes, Outcome.error? o = none) :
    verdict index (outcomes ++ [.error e]) = .error (.apply (index + outcomes.length) e) := by
  induction outcomes generalizing index with
  | nil => rfl
  | cons o outcomes ih =>
    obtain ⟨ho, houtcomes⟩ := List.forall_mem_cons.1 h
    cases o with
    | error e => cases ho
    | ok applied =>
      rw [List.cons_append, verdict, ih houtcomes, List.length_cons, Nat.add_right_comm,
        Nat.add_assoc]
      rfl

theorem Progress.Covers.verdict_eq_ok_iff {count : Nat} {reasons : List Reason}
    (h : p.Covers count) :
    verdict index p.outcomes = .ok reasons ↔
      (∀ o ∈ p.outcomes, Outcome.error? o = none) ∧ reasons = p.outcomes.map Outcome.reason := by
  rcases h with ⟨hhalted, -⟩ | ⟨before, e, houtcomes, hbefore⟩
  · have hsuccess := Progress.halted_eq_false.1 hhalted
    rw [verdict_of_success hsuccess, Except.ok.injEq]
    exact ⟨fun heq => ⟨hsuccess, heq.symm⟩, fun heq => heq.2.symm⟩
  · rw [houtcomes, verdict_of_failure hbefore]
    simp [Outcome.error?]

theorem Progress.Covers.verdict_of_error {count i : Nat} (h : p.Covers count) (index : Nat)
    (ho : p.outcomes[i]? = some (.error e)) :
    i + 1 = p.outcomes.length ∧ verdict index p.outcomes = .error (.apply (index + i) e) := by
  have hmem := List.mem_of_getElem? ho
  rcases h with ⟨hhalted, -⟩ | ⟨before, e', houtcomes, hbefore⟩
  · cases Progress.halted_eq_false.1 hhalted _ hmem
  · rw [houtcomes] at ho ⊢
    rcases Nat.lt_or_ge i before.length with hlt | hge
    · rw [List.getElem?_append_left hlt] at ho
      cases hbefore _ (List.mem_of_getElem? ho)
    · rw [List.getElem?_append_right hge, List.getElem?_singleton] at ho
      split at ho
      · next hzero =>
        cases ho
        obtain rfl : i = before.length := by omega
        exact ⟨by simp, verdict_of_failure hbefore⟩
      · cases ho

theorem Progress.Covers.length_eq {count : Nat} (h : p.Covers count)
    (hsuccess : ∀ o ∈ p.outcomes, Outcome.error? o = none) : p.outcomes.length = count := by
  rcases h with ⟨-, hlength⟩ | ⟨before, e, houtcomes, -⟩
  · exact hlength
  · cases hsuccess (.error e) (by simp [houtcomes])

theorem Outcome.event_eq :
    Outcome.event outcome =
      ⟨if (Outcome.error? outcome).isSome then .warning else .normal,
        (Outcome.reason outcome).text, Outcome.message outcome⟩ := by
  cases outcome <;> rfl

variable {answers : List (ObjectReference × Event) → Except ClusterError Unit}
  {log : List (ObjectReference × Event)} {rs : ResourceSet}

theorem run_record_reporter {event : Event} :
    (((reporter answers).record regarding event).run log).run s =
      ((answers (log ++ [(regarding, event)]), log ++ [(regarding, event)]), s) := rfl

theorem exists_runPass_reporter (h : p.halted = false) :
    ∃ outcomes s',
      declarations.foldl (applyNext failures engine target context) p =
          ⟨p.outcomes ++ outcomes, s'⟩ ∧
        runPass failures (reporter answers) engine target context regarding index declarations log
          p.cluster =
            ((verdict index outcomes, log ++ outcomes.map (regarding, ·.event)), s') := by
  induction declarations generalizing p index log with
  | nil => exact ⟨[], p.cluster, by simp, by rw [List.map_nil, List.append_nil]; rfl⟩
  | cons declaration declarations ih =>
    rcases hrun :
      (apply (Memory.store failures) engine target context declaration).run p.cluster with
      ⟨outcome, s'⟩
    rw [List.foldl_cons, applyNext_of_run h hrun, runPass_cons_of_run hrun run_record_reporter]
    cases outcome with
    | error e =>
      rw [foldl_applyNext_of_halted (by simp [Progress.halted, Outcome.error?])]
      exact ⟨[.error e], s', rfl, rfl⟩
    | ok applied =>
      have hgoes : (⟨p.outcomes ++ [.ok applied], s'⟩ : Progress).halted = false := by
        simpa [Progress.halted_eq_false, or_imp, forall_and, Outcome.error?] using
          Progress.halted_eq_false.1 h
      obtain ⟨outcomes, s'', hfold, hpass⟩ := ih hgoes
      refine ⟨.ok applied :: outcomes, s'', by rw [hfold]; simp, ?_⟩
      simp only
      rw [hpass]
      simp [verdict]

/-- A pass does what the fold does and reports on every outcome, whatever becomes of its reports. -/
theorem runPass_reporter :
    runPass failures (reporter answers) engine target context regarding index declarations log s =
      let p := applyInOrder failures engine target context declarations s
      ((verdict index p.outcomes, log ++ p.outcomes.map (regarding, ·.event)),
        p.cluster) := by
  obtain ⟨outcomes, s', hfold, hpass⟩ :=
    exists_runPass_reporter (p := ⟨[], s⟩) (by rfl)
  rw [applyInOrder, hfold]
  exact hpass

/-- A resource set is reconciled, and its events are kept. -/
def reconcileReporting (failures : Memory.Schedule) (engine : Template.Engine)
    (answers : List (ObjectReference × Event) → Except ClusterError Unit) (rs : ResourceSet)
    (log : List (ObjectReference × Event)) (s : Memory) :
    (Except OperatorError (List Reason) × List (ObjectReference × Event)) × Memory :=
  ((reconcile ((Memory.store failures).withState (List (ObjectReference × Event)))
    (reporter answers) engine rs).run log).run s

theorem ofResourceSet_of_some {ns name uid : String} (hns : rs.metadata.ns? = some ns)
    (hname : rs.metadata.name? = some name) (huid : rs.metadata.uid? = some uid) :
    Target.ofResourceSet rs =
      .ok ⟨name, ns, ResourceSet.gvk.apiVersion, ResourceSet.gvk.kind, name, uid⟩ := by
  rw [Target.ofResourceSet, hns, hname, huid]

theorem ofResourceSet_of_none (h : rs.metadata.ns? = none ∨ rs.metadata.uid? = none) :
    ∃ key, Target.ofResourceSet rs = .error (.missingKey key) := by
  rw [Target.ofResourceSet]
  split
  · exact ⟨_, rfl⟩
  · next hns _ huid => simp [hns, huid] at h
  · exact ⟨_, rfl⟩

/-- A resource set with a namespace, a name and an identity. Its declarations are applied in order,
each to the cluster as those before it leave it, up to the first that fails. Of each that is applied
there is one event, which says what has come of it, and is a warning if that is an error. The
reconciliation ends well, with all reasons, exactly if none has failed, and otherwise with the
failure and its index. Whether the events are taken has no part in any of this. A set without a
namespace or an identity is not reconciled: there is no event, and no call. -/
theorem reconcile_reports (failures : Memory.Schedule) (engine : Template.Engine) (rs : ResourceSet)
    (log : List (ObjectReference × Event)) (s : Memory) :
    (∀ ns name uid, rs.metadata.ns? = some ns → rs.metadata.name? = some name →
      rs.metadata.uid? = some uid →
      let target : Target :=
        ⟨name, ns, ResourceSet.gvk.apiVersion, ResourceSet.gvk.kind, name, uid⟩
      let p := rs.spec.resources.foldl (applyNext failures engine target rs.context) ⟨[], s⟩
      ∃ result,
        (∀ answers, reconcileReporting failures engine answers rs log s =
          ((result, log ++ p.outcomes.map fun o =>
            (rs.reference, ⟨if (Outcome.error? o).isSome then .warning else .normal,
              (Outcome.reason o).text, Outcome.message o⟩)), p.cluster)) ∧
        (∀ reasons, result = .ok reasons ↔ (∀ o ∈ p.outcomes, Outcome.error? o = none) ∧
          reasons = p.outcomes.map Outcome.reason) ∧
        ((∀ o ∈ p.outcomes, Outcome.error? o = none) →
          p.outcomes.length = rs.spec.resources.length) ∧
        ∀ i o e, p.outcomes[i]? = some o → Outcome.error? o = some e →
          i + 1 = p.outcomes.length ∧ result = .error (.apply i e) ∧
            e.reason = Outcome.reason o ∧
            (OperatorError.apply i e).requeue = Outcome.requeue o) ∧
    (rs.metadata.ns? = none ∨ rs.metadata.uid? = none →
      ∃ key, ∀ answers, reconcileReporting failures engine answers rs log s =
        ((.error (.missingKey key), log), s)) := by
  constructor
  · intro ns name uid hns hname huid target p
    have hcovers : p.Covers rs.spec.resources.length := covers_applyInOrder
    refine ⟨verdict 0 p.outcomes, fun answers => ?_, fun reasons => hcovers.verdict_eq_ok_iff,
      hcovers.length_eq, fun i o e ho he => ?_⟩
    · rw [reconcileReporting, run_reconcile (ofResourceSet_of_some hns hname huid),
        runPass_reporter]
      simp only [Outcome.event_eq]
      rfl
    · cases o with
      | ok applied => cases he
      | error e' =>
        cases he
        obtain ⟨hlast, hverdict⟩ := hcovers.verdict_of_error 0 ho
        exact ⟨hlast, by rwa [Nat.zero_add] at hverdict, rfl, rfl⟩
  · intro h
    obtain ⟨key, hkey⟩ := ofResourceSet_of_none h
    refine ⟨key, fun answers => ?_⟩
    rw [reconcileReporting, reconcile, hkey]
    rfl

/-- The settings are created, and the third call, which looks for the original of the service,
fails. -/
theorem reconcile_reports_third_call :
    let run (answers : List (ObjectReference × Event) → Except ClusterError Unit)
        (rs : ResourceSet) :=
      reconcileReporting thirdFails Patch.reviewEngine answers rs [] ⟨[], []⟩
    (∀ answers, run answers reviewSet = run (fun _ => .ok ()) reviewSet) ∧
      (run (fun _ => .ok ()) reviewSet).1.1 = .error (.apply 1
        (.getOriginal (.failure 500 "InternalError" "request timed out"))) ∧
      (run (fun _ => .ok ()) reviewSet).1.2.map (fun e => (e.2.type, e.2.reason)) =
        [(.normal, "Created"), (.warning, "Failed")] ∧
      ∀ answers, (run answers { reviewSet with metadata := ⟨.empty⟩ }).2.calls = [] := by
  intro run
  obtain ⟨hreconciles, -⟩ := reconcile_reports thirdFails Patch.reviewEngine reviewSet [] ⟨[], []⟩
  obtain ⟨result, hrun, -⟩ := hreconciles "review" "pr-1" "u-1" (by decide +kernel)
    (by decide +kernel) (by decide +kernel)
  obtain ⟨-, hrefuses⟩ := reconcile_reports thirdFails Patch.reviewEngine
    { reviewSet with metadata := ⟨.empty⟩ } [] ⟨[], []⟩
  obtain ⟨key, hkey⟩ := hrefuses (.inl (by decide +kernel))
  refine ⟨fun answers => (hrun answers).trans (hrun _).symm, by decide +kernel, by decide +kernel,
    fun answers => ?_⟩
  exact congrArg (fun r => r.2.calls) (hkey answers)

end PreviewEnv
