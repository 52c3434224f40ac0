import PreviewEnv.Proofs.Apply.Calls

namespace PreviewEnv

variable {failures : Memory.Schedule} {engine : Template.Engine} {target : Target}
  {context declaration rendered : Tree} {kind : GroupVersionKind} {s s' : Memory}
  {outcome : Outcome} {calls : List Call} {call : Call}

namespace Memory

theorem calm_iff_of_calls (hcalls : s'.calls = s.calls ++ calls) :
    Calm failures s s' ↔ ∀ i < calls.length, failures (s.calls.length + i) = none := by
  have hlength : s'.calls.length = s.calls.length + calls.length := by
    rw [hcalls, List.length_append]
  constructor
  · intro h i hi
    exact h _ (by omega) (by omega)
  · intro h n hn hlt
    have hi := h (n - s.calls.length) (by omega)
    rwa [Nat.add_sub_cancel' hn] at hi

theorem calm_logged_iff :
    Calm failures s (s.logged calls) ↔ ∀ i < calls.length, failures (s.calls.length + i) = none :=
  calm_iff_of_calls rfl

theorem calm_logged_concat_iff :
    Calm failures s (s.logged (calls ++ [call])) ↔
      Calm failures s (s.logged calls) ∧ failures (s.calls.length + calls.length) = none := by
  rw [calm_logged_iff, calm_logged_iff, List.length_append, List.length_singleton]
  constructor
  · intro h
    exact ⟨fun i hi => h i (by omega), h _ (by omega)⟩
  · rintro ⟨h, hlast⟩ i hi
    rcases Nat.lt_succ_iff_lt_or_eq.1 hi with hi | rfl
    · exact h i hi
    · exact hlast

end Memory

/-- The original is looked for once at most. -/
theorem originalCalls_eq {ns : String} (h : originalCalls kind ns rendered ≠ []) :
    originalCalls kind ns rendered =
      [.get kind ns (rendered.textAt ["metadata", "name"])] := by
  rw [ne_eq, originalCalls_eq_nil_iff] at h
  simp only [originalCalls, h, Bool.false_eq_true, ↓reduceIte]

/-- Where there is a call that looks for the original, it does not fail if none does. -/
theorem calm_originalCalls {ns : String}
    (h : originalCalls kind ns rendered ≠ [] → failures s.calls.length = none) :
    Memory.Calm failures s (s.logged (originalCalls kind ns rendered)) := by
  rw [Memory.calm_logged_iff]
  intro i hi
  have hne := List.ne_nil_of_length_pos (Nat.zero_lt_of_lt hi)
  rw [originalCalls_eq hne, List.length_singleton] at hi
  obtain rfl : i = 0 := by omega
  exact h hne

theorem Reads.calm (h : Reads failures engine target context declaration s kind rendered) :
    Memory.Calm failures s (s.logged (readCalls kind target rendered)) :=
  Memory.calm_logged_concat_iff.2 ⟨calm_originalCalls h.originalRead, h.appliedRead⟩

/-- The calls are the first ones of these: one that looks for the original, if the declaration has a
name, one that looks for the object, and one that creates or updates it. -/
def InOrder (kind : GroupVersionKind) (target : Target) (rendered : Tree) (calls : List Call) :
    Prop :=
  ∃ object write, (write = .create kind target.ns object ∨ write = .update kind target.ns object) ∧
    calls <+: readCalls kind target rendered ++ [write]

theorem inOrder_of_prefix (h : calls <+: readCalls kind target rendered) :
    InOrder kind target rendered calls :=
  ⟨.null, _, .inl rfl, h.trans (List.prefix_append _ _)⟩

theorem exists_calls_of_applies
    (h : Applies failures engine target context declaration s outcome s') :
    ∃ calls, s'.calls = s.calls ++ calls := by
  cases h with
  | unfit | unrendered => exact ⟨[], (List.append_nil _).symm⟩
  | _ => exact ⟨_, rfl⟩

/-- There is a call only for a declaration that has a kind and is rendered, and the calls are in
order. -/
theorem inOrder_of_applies (h : Applies failures engine target context declaration s outcome s')
    (hcalls : s'.calls = s.calls ++ calls) :
    calls = [] ∨ ∃ kind rendered, checkedKind declaration = .ok kind ∧
      renderDeclaration engine context declaration = .ok rendered ∧
      InOrder kind target rendered calls := by
  cases h with
  | unfit | unrendered => exact .inl (List.self_eq_append_right.1 hcalls)
  | originalUnread hkind hrendered =>
    cases List.append_cancel_left hcalls
    exact .inr ⟨_, _, hkind, hrendered, inOrder_of_prefix (List.prefix_append _ _)⟩
  | appliedUnread hkind hrendered =>
    cases List.append_cancel_left hcalls
    exact .inr ⟨_, _, hkind, hrendered, inOrder_of_prefix List.prefix_rfl⟩
  | foreign hreads | unbuilt hreads =>
    cases List.append_cancel_left hcalls
    exact .inr ⟨_, _, hreads.checked, hreads.renders, inOrder_of_prefix List.prefix_rfl⟩
  | unchanged hb =>
    cases List.append_cancel_left hcalls
    exact .inr ⟨_, _, hb.checked, hb.renders, inOrder_of_prefix List.prefix_rfl⟩
  | uncreated hb | created hb =>
    cases List.append_cancel_left hcalls
    exact .inr ⟨_, _, hb.checked, hb.renders, _, _, .inl rfl, List.prefix_rfl⟩
  | unupdated hb | updated hb =>
    cases List.append_cancel_left hcalls
    exact .inr ⟨_, _, hb.checked, hb.renders, _, _, .inr rfl, List.prefix_rfl⟩

/-- The reason under which the failure of a call is reported. -/
def Call.failureReason : Call → Reason
  | .get .. => .failed
  | .create .. => .createFailed
  | .update .. => .updateFailed

/-- How an application ends that has made the calls. Either none of them has failed, and an error is
not to be tried again; or the last one has, no other has before it, and the outcome is its
failure. -/
inductive Ends (failures : Memory.Schedule) (s : Memory) (calls : List Call) (outcome : Outcome) :
    Prop
  | calm (hcalm : Memory.Calm failures s (s.logged calls))
      (herror : ∀ e, outcome = .error e →
        e.requeue = false ∧ (e.reason = .invalidResource ∨ e.reason = .resourceExists))
  | failed {before : List Call} {call : Call} {cause : ClusterError} {e : ApplyError}
      (hcalls : calls = before ++ [call]) (hbefore : Memory.Calm failures s (s.logged before))
      (hfails : failures (s.calls.length + before.length) = some cause)
      (houtcome : outcome = .error e) (hrequeue : e.requeue = true)
      (hreason : e.reason = call.failureReason)

theorem invalid_of_checkedKind {e : ApplyError} (h : checkedKind declaration = .error e) :
    e.requeue = false ∧ e.reason = .invalidResource := by
  cases declaration with
  | map es =>
    simp only [checkedKind, declaredKind] at h
    split at h
    · cases h
      exact ⟨rfl, rfl⟩
    · split at h <;> cases h
      exact ⟨rfl, rfl⟩
  | _ =>
    cases h
    exact ⟨rfl, rfl⟩

theorem invalid_of_render {e : ApplyError}
    (h : renderDeclaration engine context declaration = .error e) :
    e.requeue = false ∧ e.reason = .invalidResource := by
  rw [renderDeclaration] at h
  cases hr : (Reducer.renderTree engine context declaration).outcome <;> rw [hr] at h <;> cases h
  exact ⟨rfl, rfl⟩

theorem ends_of_nil
    (herror : ∀ e, outcome = .error e → e.requeue = false ∧ e.reason = .invalidResource) :
    Ends failures s [] outcome :=
  .calm (Memory.calm_logged_iff.2 (by simp)) fun e he => (herror e he).imp_right .inl

theorem ends_of_reads (h : Reads failures engine target context declaration s kind rendered)
    (herror : ∀ e, outcome = .error e →
      e.requeue = false ∧ (e.reason = .invalidResource ∨ e.reason = .resourceExists)) :
    Ends failures s (readCalls kind target rendered) outcome :=
  .calm h.calm herror

theorem ends_of_write {write : Call}
    (h : Reads failures engine target context declaration s kind rendered)
    (hwrite : failures (s.calls.length + (readCalls kind target rendered).length) = none)
    {applied : Applied} :
    Ends failures s (readCalls kind target rendered ++ [write]) (.ok applied) :=
  .calm (Memory.calm_logged_concat_iff.2 ⟨h.calm, hwrite⟩) (by simp)

/-- An application ends with the first call that fails. -/
theorem ends_of_applies (h : Applies failures engine target context declaration s outcome s')
    (hcalls : s'.calls = s.calls ++ calls) : Ends failures s calls outcome := by
  cases h with
  | unfit h =>
    cases List.self_eq_append_right.1 hcalls
    refine ends_of_nil fun e he => ?_
    cases he
    exact invalid_of_checkedKind h
  | unrendered _ h =>
    cases List.self_eq_append_right.1 hcalls
    refine ends_of_nil fun e he => ?_
    cases he
    exact invalid_of_render h
  | originalUnread _ _ hname h =>
    cases List.append_cancel_left hcalls
    rw [originalCalls_eq hname]
    exact .failed (List.nil_append _).symm (Memory.calm_logged_iff.2 (by simp)) h rfl rfl rfl
  | appliedUnread _ _ horiginal h =>
    cases List.append_cancel_left hcalls
    exact .failed rfl (calm_originalCalls horiginal) h rfl rfl rfl
  | foreign hreads =>
    cases List.append_cancel_left hcalls
    refine ends_of_reads hreads fun e he => ?_
    cases he
    exact ⟨rfl, .inr rfl⟩
  | unbuilt hreads =>
    cases List.append_cancel_left hcalls
    refine ends_of_reads hreads fun e he => ?_
    cases he
    exact ⟨rfl, .inl rfl⟩
  | unchanged hb =>
    cases List.append_cancel_left hcalls
    exact ends_of_reads hb.toReads (by simp)
  | uncreated hb h | unupdated hb _ h =>
    cases List.append_cancel_left hcalls
    exact .failed rfl hb.toReads.calm h rfl rfl rfl
  | created hb h | updated hb _ h =>
    cases List.append_cancel_left hcalls
    exact ends_of_write hb.toReads h

/-- A call that fails is the last one, and the outcome is its failure. -/
theorem Ends.last_of_fails (h : Ends failures s calls outcome) {i : Nat}
    (hcall : calls[i]? = some call) (hfails : failures (s.calls.length + i) ≠ none) :
    i + 1 = calls.length ∧
      ∃ e, outcome = .error e ∧ e.requeue = true ∧ e.reason = call.failureReason := by
  obtain ⟨hi, -⟩ := List.getElem?_eq_some_iff.1 hcall
  cases h with
  | calm hcalm => exact absurd (Memory.calm_logged_iff.1 hcalm i hi) hfails
  | @failed before last _ e hcalls hbefore _ houtcome hrequeue hreason =>
    subst hcalls
    have hlast : i = before.length := by
      have hnot : ¬ i < before.length := fun h => hfails (Memory.calm_logged_iff.1 hbefore i h)
      rw [List.length_append, List.length_singleton] at hi
      omega
    subst hlast
    cases (List.getElem?_concat_length (l := before) (a := last)).symm.trans hcall
    exact ⟨by simp, e, houtcome, hrequeue, hreason⟩

/-- An error that no failed call has caused is not to be tried again. -/
theorem Ends.error_of_calm (h : Ends failures s calls outcome)
    (hcalm : Memory.Calm failures s (s.logged calls)) {e : ApplyError} (he : outcome = .error e) :
    e.requeue = false ∧ (e.reason = .invalidResource ∨ e.reason = .resourceExists) := by
  cases h with
  | calm _ herror => exact herror e he
  | failed hcalls _ hfails =>
    subst hcalls
    rw [(Memory.calm_logged_concat_iff.1 hcalm).2] at hfails
    cases hfails

/-- Where an application ends with an error that is to be tried again a call has failed, and nowhere
else. -/
theorem calm_iff_of_applies (h : Applies failures engine target context declaration s outcome s') :
    Memory.Calm failures s s' ↔ outcome.requeue = false := by
  obtain ⟨calls, hcalls⟩ := exists_calls_of_applies h
  cases ends_of_applies h hcalls with
  | calm hcalm herror =>
    rw [Memory.calm_logged_iff, ← Memory.calm_iff_of_calls hcalls] at hcalm
    refine iff_of_true hcalm ?_
    cases outcome with
    | ok => rfl
    | error e => exact (herror e rfl).1
  | @failed before call _ e hcalls' _ hfails houtcome hrequeue =>
    subst hcalls' houtcome
    rw [Memory.calm_iff_of_calls hcalls]
    refine iff_of_false (fun hcalm => ?_) (by simp [Outcome.requeue, hrequeue])
    rw [hcalm before.length (by simp)] at hfails
    cases hfails

/-- An application that ends with an error changes nothing. -/
theorem objects_of_error {e : ApplyError}
    (h : Applies failures engine target context declaration s (.error e) s') :
    s'.objects = s.objects := by
  cases h <;> rfl

end PreviewEnv
