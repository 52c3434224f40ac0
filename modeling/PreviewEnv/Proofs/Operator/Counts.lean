import Mathlib.Algebra.GroupWithZero.Nat
import PreviewEnv.Proofs.Operator.Reports

namespace PreviewEnv

namespace Entries

section
variable {κ : Type} [DecidableEq κ] {k j : κ} {v : Nat} {es : List (κ × Nat)}

/-- How often a key has been counted. -/
def count (k : κ) (es : List (κ × Nat)) : Nat := (get? k es).getD 0

theorem sum_filter_key [LT κ] [IsStrictTotalOrder κ (· < ·)] (h : Ordered es) :
    ((es.filter (k = ·.1)).map (·.2)).sum = count k es := by
  induction es with
  | nil => rfl
  | cons e es ih =>
    obtain ⟨i, n⟩ := e
    have hrest := ih (ordered_cons.1 h).2
    rw [count] at hrest ⊢
    rw [List.filter_cons, get?_cons]
    by_cases hi : k = i
    · subst hi
      rw [h.get?_tail] at hrest
      simpa using hrest
    · simpa [hi, Ne.symm hi] using hrest

variable [LT κ] [DecidableLT κ]

theorem count_increment : count j (increment k es) = count j es + if k = j then 1 else 0 := by
  rw [increment, count, get?_insert]
  split
  · next h => rw [h]; rfl
  · rfl

theorem count_foldl_increment {ks : List κ} :
    count j (ks.foldl (fun es k => increment k es) es) = count j es + ks.count j := by
  induction ks generalizing es with
  | nil => rfl
  | cons k ks ih =>
    rw [List.foldl_cons, ih, count_increment, List.count_cons, Nat.add_assoc,
      Nat.add_comm (ks.count j)]
    simp only [beq_iff_eq]

variable [IsStrictTotalOrder κ (· < ·)]

theorem Ordered.foldl_increment {ks : List κ} (h : Ordered es) :
    Ordered (ks.foldl (fun es k => increment k es) es) := by
  induction ks generalizing es with
  | nil => exact h
  | cons k ks ih => exact ih h.insert

theorem sum_insert (h : Ordered es) :
    ((insert k v es).map (·.2)).sum + count k es = (es.map (·.2)).sum + v := by
  induction es with
  | nil => simp [insert, count]
  | cons e es ih =>
    obtain ⟨i, n⟩ := e
    rw [insert]
    split
    · next hi =>
      simp only [count, get?_cons, if_pos hi, Option.getD_some, List.map_cons, List.sum_cons]
      omega
    · next hi =>
      split
      · next hlt =>
        rw [count, h.get?_of_lt hlt, Option.getD_none, List.map_cons, List.sum_cons]
        omega
      · have hrest := ih (ordered_cons.1 h).2
        simp only [count, get?_cons, if_neg hi, List.map_cons, List.sum_cons] at hrest ⊢
        omega

/-- All counts together grow by one. -/
theorem sum_increment (h : Ordered es) :
    ((increment k es).map (·.2)).sum = (es.map (·.2)).sum + 1 := by
  have hsum := sum_insert (k := k) (v := count k es + 1) h
  rw [increment, ← count]
  omega

end

end Entries

namespace Metrics

/-- The sum of the samples of a family that have the labels. -/
def total (family : String) (labels : List (String × String)) (m : Metrics) : Nat :=
  ((m.samples.filter fun x => x.family = family ∧ ∀ l ∈ labels, l ∈ x.labels).map (·.count)).sum

structure Ordered (m : Metrics) : Prop where
  applied : Entries.Ordered m.applied
  failures : Entries.Ordered m.failures

variable {m : Metrics} {r : Reason} {text : String} {rs : ResourceSet} {e : OperatorError}

theorem ordered_empty : empty.Ordered := ⟨Entries.ordered_nil, Entries.ordered_nil⟩

theorem total_reconciliations : total "pullup_reconciliations_total" [] m = m.reconciliations := by
  by_cases ht : m.timed = 0 <;>
    simp [total, samples, List.filter_append, List.filter_map, Function.comp_def, ht]

theorem total_failures :
    total "pullup_reconciliation_errors_total" [] m = (m.failures.map (·.2)).sum := by
  by_cases ht : m.timed = 0 <;>
    simp [total, samples, List.filter_append, List.filter_map, Function.comp_def, ht]

theorem total_applied (h : m.Ordered) :
    total "pullup_applied_resources_total" [("reason", text)] m = Entries.count text m.applied := by
  rw [← Entries.sum_filter_key h.applied]
  by_cases ht : m.timed = 0 <;>
    simp [total, samples, List.filter_append, List.filter_map, Function.comp_def, ht]

/-- The reasons that the result of a reconciliation counts. -/
def reasonsOf : Except OperatorError (List Reason) → List Reason
  | .ok reasons => reasons
  | .error (.apply _ source) => [source.reason]
  | .error _ => []

variable {result : Except OperatorError (List Reason)} {reasons : List Reason}

theorem foldl_countReason :
    reasons.foldl countReason m = { m with
      applied :=
        (reasons.map Reason.text).foldl (fun es t => Entries.increment t es) m.applied } := by
  induction reasons generalizing m with
  | nil => rfl
  | cons r reasons ih => exact ih

/-- What a reconciliation does to the metrics. -/
theorem countReconciliation_eq :
    m.countReconciliation rs result =
      { reconciliations := m.reconciliations + 1
        timed := m.timed + 1
        failures := match result with
          | .ok _ => m.failures
          | .error e => Entries.increment [e.label, rs.metadata.anyName] m.failures
        applied := ((reasonsOf result).map Reason.text).foldl
          (fun es t => Entries.increment t es) m.applied } := by
  rcases result with (e | e | e | ⟨index, source⟩) | reasons
  case ok =>
    simp only [countReconciliation, countResult, foldl_countReason]
    rfl
  all_goals rfl

theorem Ordered.countReconciliation (h : m.Ordered) :
    (m.countReconciliation rs result).Ordered := by
  rw [countReconciliation_eq]
  refine ⟨h.applied.foldl_increment, ?_⟩
  cases result with
  | ok reasons => exact h.failures
  | error e => exact h.failures.insert

end Metrics

/-- A reconciliation that the controller is to make: of which set, on which cluster, which calls are
to fail, and what the recorder answers. -/
structure Invocation where
  set : ResourceSet
  cluster : Memory
  failures : Memory.Schedule
  answers : List (ObjectReference × Event) → Except ClusterError Unit

/-- What a reconciliation has come to, and the events that it has handed over. -/
structure Visit where
  result : Except OperatorError (List Reason)
  events : List (ObjectReference × Event)

/-- The controller reconciles and counts. -/
def Invocation.run (engine : Template.Engine) (i : Invocation) (m : Metrics) : Visit × Metrics :=
  let (((result, metrics), events), _) :=
    ((Controller.reconcileCounted
      ((Memory.store i.failures).withState (List (ObjectReference × Event)))
      (reporter i.answers) engine i.set m).run []).run i.cluster
  (⟨result, events⟩, metrics)

/-- The events about the declarations that have not been counted: of a reconciliation that has
failed all but the last. -/
def Visit.uncounted (v : Visit) : List (ObjectReference × Event) :=
  match v.result with
  | .ok _ => []
  | .error _ => v.events.dropLast

variable {engine : Template.Engine} {i : Invocation} {m : Metrics} {v : Visit} {text : String}
  {failures : Memory.Schedule} {rs : ResourceSet} {s s' : Memory}
  {answers : List (ObjectReference × Event) → Except ClusterError Unit}

/-- The events of a reconciliation are about what it has not counted and what it has. -/
theorem reasons_of_reconcile
    (h : reconcileReporting failures engine answers rs [] s = ((v.result, v.events), s')) :
    v.events.map (·.2.reason) =
      v.uncounted.map (·.2.reason) ++ (Metrics.reasonsOf v.result).map Reason.text := by
  obtain ⟨result, events⟩ := v
  cases htarget : Target.ofResourceSet rs with
  | error e =>
    obtain ⟨key, rfl⟩ := missingKey_of_ofResourceSet htarget
    rw [reconcileReporting, reconcile, htarget] at h
    cases h
    rfl
  | ok target =>
    rw [reconcileReporting, run_reconcile htarget, runPass_reporter] at h
    have hcovers : (applyInOrder failures engine target rs.context rs.spec.resources s).Covers
        rs.spec.resources.length := covers_applyInOrder
    rcases hcovers with ⟨hhalted, -⟩ | ⟨before, e, houtcomes, hbefore⟩
    · simp only [verdict_of_success (Progress.halted_eq_false.1 hhalted)] at h
      cases h
      simp [Visit.uncounted, Metrics.reasonsOf, Outcome.event]
    · simp only [houtcomes, verdict_of_failure hbefore] at h
      cases h
      simp [Visit.uncounted, Metrics.reasonsOf, Outcome.event, Outcome.reason]

theorem exists_run (engine : Template.Engine) (i : Invocation) (m : Metrics) :
    ∃ result events s',
      reconcileReporting i.failures engine i.answers i.set [] i.cluster =
        ((result, events), s') ∧
      i.run engine m = (⟨result, events⟩, m.countReconciliation i.set result) :=
  ⟨_, _, _, rfl, rfl⟩

/-- The metrics after some reconciliations, and what these have come to. -/
structure History where
  metrics : Metrics
  visits : List Visit

/-- The history with one reconciliation more. -/
def History.next (engine : Template.Engine) (h : History) (i : Invocation) : History :=
  let (v, metrics) := i.run engine h.metrics
  ⟨metrics, h.visits ++ [v]⟩

/-- The history of reconciliations from the start of the operator. -/
def History.of (engine : Template.Engine) (invocations : List Invocation) : History :=
  invocations.foldl (History.next engine) ⟨.empty, []⟩

/-- How many events have a reason. -/
def occurrences (text : String) (events : List (ObjectReference × Event)) : Nat :=
  (events.map (·.2.reason)).count text

/-- The metrics tell what the reconciliations have come to. -/
structure History.Told (h : History) : Prop where
  ordered : h.metrics.Ordered
  reconciliations : h.metrics.reconciliations = h.visits.length
  failures : (h.metrics.failures.map (·.2)).sum = h.visits.countP fun v => !v.result.isOk
  applied : ∀ text, Entries.count text h.metrics.applied +
    (h.visits.map fun v => occurrences text v.uncounted).sum =
      (h.visits.map fun v => occurrences text v.events).sum

variable {h : History} {invocations : List Invocation}

/-- One reconciliation more is told of, too. -/
theorem told_next (ht : h.Told) : (h.next engine i).Told := by
  obtain ⟨result, events, s', hreconcile, hrun⟩ :=
    exists_run engine i h.metrics
  have hreasons := reasons_of_reconcile (v := ⟨result, events⟩) hreconcile
  rw [History.next, hrun]
  refine ⟨ht.ordered.countReconciliation, ?_, ?_, fun text => ?_⟩
  · simp [Metrics.countReconciliation_eq, ht.reconciliations]
  · simp only [Metrics.countReconciliation_eq, List.countP_append, ← ht.failures]
    cases result with
    | ok reasons => rfl
    | error e => exact Entries.sum_increment ht.ordered.failures
  · have hevents : occurrences text events =
        occurrences text (Visit.uncounted ⟨result, events⟩) +
          ((Metrics.reasonsOf result).map Reason.text).count text := by
      rw [occurrences, hreasons, List.count_append]
      rfl
    have happlied := ht.applied text
    simp only [Metrics.countReconciliation_eq, Entries.count_foldl_increment, List.map_append,
      List.map_cons, List.map_nil, List.sum_append, List.sum_cons, List.sum_nil, hevents]
    omega

theorem told_foldl_next (ht : h.Told) : (invocations.foldl (History.next engine) h).Told := by
  induction invocations generalizing h with
  | nil => exact ht
  | cons i invocations ih => exact ih (told_next ht)

theorem length_visits_foldl_next :
    (invocations.foldl (History.next engine) h).visits.length =
      h.visits.length + invocations.length := by
  induction invocations generalizing h with
  | nil => rfl
  | cons i invocations ih =>
    rw [List.foldl_cons, ih, History.next, List.length_append, List.length_cons, List.length_cons,
      List.length_nil]
    omega

theorem told_of : (History.of engine invocations).Told :=
  told_foldl_next ⟨Metrics.ordered_empty, rfl, rfl, fun _ => rfl⟩

theorem length_visits_of : (History.of engine invocations).visits.length = invocations.length := by
  rw [History.of, length_visits_foldl_next, List.length_nil, Nat.zero_add]

theorem occurrences_eq_zero {events : List (ObjectReference × Event)} :
    occurrences text events = 0 ↔ ∀ event ∈ events, event.2.reason ≠ text := by
  simp [occurrences, List.count_eq_zero]

theorem occurrences_uncounted_eq_zero :
    occurrences text v.uncounted = 0 ↔
      ∀ e, v.result = .error e → ∀ event ∈ v.events.dropLast, event.2.reason ≠ text := by
  obtain ⟨result, events⟩ := v
  cases result <;> simp [Visit.uncounted, occurrences_eq_zero]

/-- After any reconciliations their number, and the number of those that have failed, are counted
in full. Of the declarations that have been applied, as the events tell, those are counted that have
not been followed by one that has failed in the same reconciliation. So the outcomes with a reason
are counted in full exactly if no reconciliation that has failed has reported one before its last
event. -/
theorem metrics_account (engine : Template.Engine) (invocations : List Invocation) :
    let h := History.of engine invocations
    h.metrics.total "pullup_reconciliations_total" [] = invocations.length ∧
      h.metrics.total "pullup_reconciliation_errors_total" [] =
        h.visits.countP (fun v => !v.result.isOk) ∧
      ∀ r : Reason,
        h.metrics.total "pullup_applied_resources_total" [("reason", r.text)] +
            (h.visits.map fun v => occurrences r.text v.uncounted).sum =
          (h.visits.map fun v => occurrences r.text v.events).sum ∧
        (h.metrics.total "pullup_applied_resources_total" [("reason", r.text)] =
            (h.visits.map fun v => occurrences r.text v.events).sum ↔
          ∀ v ∈ h.visits, ∀ e, v.result = .error e →
            ∀ event ∈ v.events.dropLast, event.2.reason ≠ r.text) := by
  intro h
  have htold : h.Told := told_of
  refine ⟨?_, ?_, fun r => ?_⟩
  · rw [Metrics.total_reconciliations, htold.reconciliations, length_visits_of]
  · rw [Metrics.total_failures, htold.failures]
  · have happlied := htold.applied r.text
    rw [← Metrics.total_applied htold.ordered] at happlied
    refine ⟨happlied, ?_⟩
    calc _ ↔ (h.visits.map fun v => occurrences r.text v.uncounted).sum = 0 := by omega
      _ ↔ ∀ v ∈ h.visits, occurrences r.text v.uncounted = 0 := by
        rw [List.sum_eq_zero_iff_forall_eq_nat, List.forall_mem_map]
      _ ↔ _ := forall₂_congr fun _ _ => occurrences_uncounted_eq_zero

/-- A service, and after it a declaration that has no kind. -/
def unfinishedSet : ResourceSet :=
  { reviewSet with
    spec := ⟨[reviewService, .map [("apiVersion", .str "v1")]], 1, .empty, .empty⟩ }

theorem created_uncounted :
    let h := History.of Patch.reviewEngine
      [⟨unfinishedSet, ⟨[], []⟩, fun _ => none, fun _ => .ok ()⟩]
    (h.visits.map fun v => occurrences Reason.created.text v.events).sum = 1 ∧
      h.metrics.total "pullup_applied_resources_total" [("reason", Reason.created.text)] = 0 := by
  decide +kernel

end PreviewEnv
