import PreviewEnv.Apply.Basic
import PreviewEnv.Cluster.Memory

namespace PreviewEnv

namespace Memory

variable {α : Type} {failures : Schedule} {call : Call} {act : Objects → α × Objects}
  {s s' s'' : Memory}

/-- The cluster after calls that have changed nothing. -/
def logged (s : Memory) (calls : List Call) : Memory := ⟨s.objects, s.calls ++ calls⟩

theorem logged_nil : s.logged [] = s := by simp [logged]

theorem logged_logged (cs ds : List Call) : (s.logged cs).logged ds = s.logged (cs ++ ds) := by
  simp [logged]

/-- No call fails that is made between the two states of the cluster. -/
def Calm (failures : Schedule) (s s' : Memory) : Prop :=
  ∀ n, s.calls.length ≤ n → n < s'.calls.length → failures n = none

theorem Calm.refl : Calm failures s s := fun _ hn hlt => absurd hlt (Nat.not_lt.2 hn)

/-- Where no call fails from one state of the cluster to a later one and from there on to the last,
none fails in between the first and the last. -/
theorem calm_iff_of_le (h : s.calls.length ≤ s'.calls.length)
    (h' : s'.calls.length ≤ s''.calls.length) :
    Calm failures s s'' ↔ Calm failures s s' ∧ Calm failures s' s'' := by
  constructor
  · intro hc
    exact ⟨fun n hn hlt => hc n hn (by omega), fun n hn hlt => hc n (by omega) hlt⟩
  · rintro ⟨hc, hc'⟩ n hn hlt
    by_cases hmid : n < s'.calls.length
    · exact hc n hn hmid
    · exact hc' n (by omega) hlt

/-- A call that is made does not fail. -/
theorem Calm.not_fails {calls : List Call} {n : Nat} {e : ClusterError}
    (h : Calm failures s (s.logged calls)) (hn : n < calls.length) :
    failures (s.calls.length + n) ≠ some e := by
  have hlength : (s.logged calls).calls.length = s.calls.length + calls.length :=
    List.length_append
  rw [h (s.calls.length + n) (by omega) (by omega)]
  simp

theorem serve_of_failure {e : ClusterError} (h : failures s.calls.length = some e) :
    serve failures call act s = (.error e, s.logged [call]) := by
  unfold serve
  rw [h]
  rfl

theorem serve_of_calm (h : failures s.calls.length = none) :
    serve failures call act s =
      (.ok (act s.objects).1, ⟨(act s.objects).2, s.calls ++ [call]⟩) := by
  unfold serve
  rw [h]

theorem store_get (kind : GroupVersionKind) (ns name : String) :
    (store failures).get kind ns name = serve failures (.get kind ns name) fun objects =>
      (Entries.get? ⟨kind.group, kind.kind, ns, name⟩ objects, objects) := rfl

theorem store_create (kind : GroupVersionKind) (ns : String) (object : Tree) :
    (store failures).create kind ns object = serve failures (.create kind ns object) fun objects =>
      ((), objects.store (Objects.created object)) := rfl

theorem store_update (kind : GroupVersionKind) (ns : String) (object : Tree) :
    (store failures).update kind ns object = serve failures (.update kind ns object) fun objects =>
      ((), objects.store (Objects.updated object)) := rfl

end Memory

/-- Where the object is kept that a declaration of this kind describes. -/
def Target.slot (target : Target) (kind : GroupVersionKind) : ObjectKey :=
  ⟨kind.group, kind.kind, target.ns, target.name⟩

/-- Kinds that differ in their versions alone have one slot. -/
theorem Target.slot_eq_iff {target : Target} {k l : GroupVersionKind} :
    target.slot k = target.slot l ↔ (k.group, k.kind) = (l.group, l.kind) := by
  simp [Target.slot]

/-- The call that looks for the original; none for a declaration without a name. -/
def originalCalls (kind : GroupVersionKind) (ns : String) (rendered : Tree) : List Call :=
  let name := rendered.textAt ["metadata", "name"]
  if name.isEmpty then [] else [.get kind ns name]

/-- The original among the objects. -/
def originalIn (objects : Objects) (kind : GroupVersionKind) (ns : String) (rendered : Tree) :
    Option Tree :=
  let name := rendered.textAt ["metadata", "name"]
  if name.isEmpty then none else Entries.get? ⟨kind.group, kind.kind, ns, name⟩ objects

/-- The calls that read what is there. -/
def readCalls (kind : GroupVersionKind) (target : Target) (rendered : Tree) : List Call :=
  originalCalls kind target.ns rendered ++ [.get kind target.ns target.name]

theorem length_readCalls {kind : GroupVersionKind} {target : Target} {rendered : Tree} :
    (readCalls kind target rendered).length =
      (originalCalls kind target.ns rendered).length + 1 := by
  rw [readCalls, List.length_append, List.length_singleton]

/-- Whether the call only reads. -/
def Call.isGet : Call → Bool
  | .get .. => true
  | .create .. | .update .. => false

theorem isGet_of_mem_originalCalls {kind : GroupVersionKind} {ns : String} {rendered : Tree} :
    ∀ call ∈ originalCalls kind ns rendered, call.isGet = true := by
  simp only [originalCalls]
  split
  · simp
  · simp [Call.isGet]

theorem isGet_of_mem_readCalls {kind : GroupVersionKind} {target : Target} {rendered : Tree} :
    ∀ call ∈ readCalls kind target rendered, call.isGet = true := by
  intro call hcall
  rw [readCalls, List.mem_append, List.mem_singleton] at hcall
  rcases hcall with hcall | rfl
  · exact isGet_of_mem_originalCalls call hcall
  · rfl

section
variable (failures : Memory.Schedule) (engine : Template.Engine) (target : Target)
  (context declaration : Tree) (s : Memory)

/-- The original and the object that is there have been read. -/
structure Reads (kind : GroupVersionKind) (rendered : Tree) : Prop where
  checked : checkedKind declaration = .ok kind
  renders : renderDeclaration engine context declaration = .ok rendered
  originalRead : originalCalls kind target.ns rendered ≠ [] → failures s.calls.length = none
  appliedRead : failures (s.calls.length + (originalCalls kind target.ns rendered).length) = none

/-- The object that a declaration describes has been built, and nothing is in its way. -/
structure Builds (kind : GroupVersionKind) (rendered : Tree) (applied : Option Tree)
    (object : Tree) : Prop
    extends Reads failures engine target context declaration s kind rendered where
  found : Entries.get? (target.slot kind) s.objects = applied
  controlled : ∀ a ∈ applied, target.owner.controls a = true
  built : Patch.build kind (originalIn s.objects kind target.ns rendered) applied rendered target =
    .ok object

/-- Applying a declaration to a cluster: the outcome, and the cluster afterwards. -/
inductive Applies : Outcome → Memory → Prop
  | unfit {e : ApplyError} (h : checkedKind declaration = .error e) : Applies (.error e) s
  | unrendered {kind : GroupVersionKind} {e : ApplyError}
      (hkind : checkedKind declaration = .ok kind)
      (h : renderDeclaration engine context declaration = .error e) : Applies (.error e) s
  | originalUnread {kind : GroupVersionKind} {rendered : Tree} {e : ClusterError}
      (hkind : checkedKind declaration = .ok kind)
      (hrendered : renderDeclaration engine context declaration = .ok rendered)
      (hname : originalCalls kind target.ns rendered ≠ [])
      (h : failures s.calls.length = some e) :
      Applies (.error (.getOriginal e)) (s.logged (originalCalls kind target.ns rendered))
  | appliedUnread {kind : GroupVersionKind} {rendered : Tree} {e : ClusterError}
      (hkind : checkedKind declaration = .ok kind)
      (hrendered : renderDeclaration engine context declaration = .ok rendered)
      (horiginal : originalCalls kind target.ns rendered ≠ [] → failures s.calls.length = none)
      (h : failures (s.calls.length + (originalCalls kind target.ns rendered).length) = some e) :
      Applies (.error (.getApplied e)) (s.logged (readCalls kind target rendered))
  | foreign {kind : GroupVersionKind} {rendered object : Tree}
      (hreads : Reads failures engine target context declaration s kind rendered)
      (hfound : Entries.get? (target.slot kind) s.objects = some object)
      (h : target.owner.controls object = false) :
      Applies (.error (.notControlled (objectName object)))
        (s.logged (readCalls kind target rendered))
  | unbuilt {kind : GroupVersionKind} {rendered : Tree} {applied : Option Tree} {e : ReduceError}
      (hreads : Reads failures engine target context declaration s kind rendered)
      (hfound : Entries.get? (target.slot kind) s.objects = applied)
      (hcontrolled : ∀ a ∈ applied, target.owner.controls a = true)
      (h : Patch.build kind (originalIn s.objects kind target.ns rendered) applied rendered target =
        .error e) :
      Applies (.error (.reduce e)) (s.logged (readCalls kind target rendered))
  | uncreated {kind : GroupVersionKind} {rendered object : Tree} {e : ClusterError}
      (hbuilds : Builds failures engine target context declaration s kind rendered none object)
      (h : failures (s.calls.length + (readCalls kind target rendered).length) = some e) :
      Applies (.error (.create e))
        (s.logged (readCalls kind target rendered ++ [.create kind target.ns object]))
  | created {kind : GroupVersionKind} {rendered object : Tree}
      (hbuilds : Builds failures engine target context declaration s kind rendered none object)
      (h : failures (s.calls.length + (readCalls kind target rendered).length) = none) :
      Applies (.ok ⟨.created, objectName object⟩)
        ⟨s.objects.store (Objects.created object),
          s.calls ++ (readCalls kind target rendered ++ [.create kind target.ns object])⟩
  | unchanged {kind : GroupVersionKind} {rendered applied object : Tree}
      (hbuilds :
        Builds failures engine target context declaration s kind rendered (some applied) object)
      (h : object.equal applied = true) :
      Applies (.ok ⟨.unchanged, objectName object⟩) (s.logged (readCalls kind target rendered))
  | unupdated {kind : GroupVersionKind} {rendered applied object : Tree} {e : ClusterError}
      (hbuilds :
        Builds failures engine target context declaration s kind rendered (some applied) object)
      (hdiffers : object.equal applied = false)
      (h : failures (s.calls.length + (readCalls kind target rendered).length) = some e) :
      Applies (.error (.update e))
        (s.logged (readCalls kind target rendered ++ [.update kind target.ns object]))
  | updated {kind : GroupVersionKind} {rendered applied object : Tree}
      (hbuilds :
        Builds failures engine target context declaration s kind rendered (some applied) object)
      (hdiffers : object.equal applied = false)
      (h : failures (s.calls.length + (readCalls kind target rendered).length) = none) :
      Applies (.ok ⟨.updated, objectName object⟩)
        ⟨s.objects.store (Objects.updated object),
          s.calls ++ (readCalls kind target rendered ++ [.update kind target.ns object])⟩

end

section
variable {α β ε : Type} {x : ExceptT ε (StateM Memory) α} {f : α → ExceptT ε (StateM Memory) β}
  {a : α} {e : ε} {s s' : Memory}

theorem run_bind_of_ok (h : x.run s = (.ok a, s')) : (x >>= f).run s = (f a).run s' := by
  change ExceptT.bindCont f (x.run s).1 (x.run s).2 = _
  rw [h]
  rfl

theorem run_bind_of_error (h : x.run s = (.error e, s')) : (x >>= f).run s = (.error e, s') := by
  change ExceptT.bindCont f (x.run s).1 (x.run s).2 = _
  rw [h]
  rfl

end

section
variable {failures : Memory.Schedule} {engine : Template.Engine} {target : Target}
  {context declaration rendered object : Tree} {kind : GroupVersionKind} {ns name : String}
  {applied : Option Tree} {s : Memory} {e : ClusterError}

theorem run_serve_of_calm {α : Type} {form : ClusterError → ApplyError} {call : Call}
    {act : Objects → α × Objects} (h : failures s.calls.length = none) :
    (callCluster form (Memory.serve failures call act)).run s =
      (.ok (act s.objects).1, ⟨(act s.objects).2, s.calls ++ [call]⟩) := by
  change ((Memory.serve failures call act s).1.mapError form,
    (Memory.serve failures call act s).2) = _
  rw [Memory.serve_of_calm h]
  rfl

theorem run_serve_of_failure {α : Type} {form : ClusterError → ApplyError} {call : Call}
    {act : Objects → α × Objects} (h : failures s.calls.length = some e) :
    (callCluster form (Memory.serve failures call act)).run s =
      (.error (form e), s.logged [call]) := by
  change ((Memory.serve failures call act s).1.mapError form,
    (Memory.serve failures call act s).2) = _
  rw [Memory.serve_of_failure h]
  rfl

theorem run_get_of_calm {form : ClusterError → ApplyError} (h : failures s.calls.length = none) :
    (callCluster form ((Memory.store failures).get kind ns name)).run s =
      (.ok (Entries.get? ⟨kind.group, kind.kind, ns, name⟩ s.objects),
        s.logged [.get kind ns name]) := by
  rw [Memory.store_get, run_serve_of_calm h]
  rfl

theorem run_get_of_failure {form : ClusterError → ApplyError}
    (h : failures s.calls.length = some e) :
    (callCluster form ((Memory.store failures).get kind ns name)).run s =
      (.error (form e), s.logged [.get kind ns name]) := by
  rw [Memory.store_get, run_serve_of_failure h]

theorem originalCalls_eq_nil_iff :
    originalCalls kind ns rendered = [] ↔
      (rendered.textAt ["metadata", "name"]).isEmpty = true := by
  simp only [originalCalls]
  split <;> simp_all

theorem run_getOriginal_of_calm
    (h : originalCalls kind ns rendered ≠ [] → failures s.calls.length = none) :
    (getOriginal (Memory.store failures) kind ns rendered).run s =
      (.ok (originalIn s.objects kind ns rendered), s.logged (originalCalls kind ns rendered)) := by
  rw [ne_eq, originalCalls_eq_nil_iff] at h
  unfold getOriginal originalIn originalCalls
  by_cases hname : (rendered.textAt ["metadata", "name"]).isEmpty = true
  · simp only [hname, ↓reduceIte, Memory.logged_nil]
    rfl
  · simp only [hname, Bool.false_eq_true, ↓reduceIte]
    exact run_get_of_calm (h hname)

theorem run_getOriginal_of_failure (hname : originalCalls kind ns rendered ≠ [])
    (h : failures s.calls.length = some e) :
    (getOriginal (Memory.store failures) kind ns rendered).run s =
      (.error (.getOriginal e), s.logged (originalCalls kind ns rendered)) := by
  rw [ne_eq, originalCalls_eq_nil_iff] at hname
  unfold getOriginal originalCalls
  simp only [hname, Bool.false_eq_true, ↓reduceIte]
  exact run_get_of_failure h

theorem run_liftExcept {α : Type} {x : Except ApplyError α} :
    (apply.liftExcept (m := StateM Memory) x).run s = (x, s) := rfl

theorem run_create_of_calm (h : failures s.calls.length = none) :
    (writeObject (Memory.store failures) kind ns object none).run s =
      (.ok ⟨.created, objectName object⟩,
        ⟨s.objects.store (Objects.created object), s.calls ++ [.create kind ns object]⟩) := by
  rw [writeObject, Memory.store_create, run_bind_of_ok (run_serve_of_calm h)]
  rfl

theorem run_create_of_failure (h : failures s.calls.length = some e) :
    (writeObject (Memory.store failures) kind ns object none).run s =
      (.error (.create e), s.logged [.create kind ns object]) := by
  rw [writeObject, Memory.store_create, run_bind_of_error (run_serve_of_failure h)]

theorem run_keep {found : Tree} (hsame : object.equal found = true) :
    (writeObject (Memory.store failures) kind ns object (some found)).run s =
      (.ok ⟨.unchanged, objectName object⟩, s) := by
  rw [writeObject, if_pos hsame]
  rfl

theorem run_update_of_calm {found : Tree} (hdiffers : object.equal found = false)
    (h : failures s.calls.length = none) :
    (writeObject (Memory.store failures) kind ns object (some found)).run s =
      (.ok ⟨.updated, objectName object⟩,
        ⟨s.objects.store (Objects.updated object), s.calls ++ [.update kind ns object]⟩) := by
  rw [writeObject, if_neg (by simp [hdiffers]), Memory.store_update,
    run_bind_of_ok (run_serve_of_calm h)]
  rfl

theorem run_update_of_failure {found : Tree} (hdiffers : object.equal found = false)
    (h : failures s.calls.length = some e) :
    (writeObject (Memory.store failures) kind ns object (some found)).run s =
      (.error (.update e), s.logged [.update kind ns object]) := by
  rw [writeObject, if_neg (by simp [hdiffers]), Memory.store_update,
    run_bind_of_error (run_serve_of_failure h)]

theorem checkControl_eq_ok {owner : OwnerReference} {found : Option Tree}
    (h : checkControl owner found = .ok ()) : ∀ a ∈ found, owner.controls a = true := by
  intro a ha
  cases Option.mem_def.1 ha
  simpa [checkControl] using h

theorem checkControl_eq_error {owner : OwnerReference} {found : Option Tree} {e : ApplyError}
    (h : checkControl owner found = .error e) :
    ∃ a, found = some a ∧ owner.controls a = false ∧ e = .notControlled (objectName a) := by
  cases found with
  | none => cases h
  | some a =>
    rw [checkControl] at h
    split at h
    · cases h
    · next hc =>
      cases h
      exact ⟨a, rfl, by simpa using hc, rfl⟩

/-- What is done once the object has been built. -/
theorem applies_write {kind : GroupVersionKind}
    (hbuilds : Builds failures engine target context declaration s kind rendered applied object) :
    let run := (writeObject (Memory.store failures) kind target.ns object applied).run
      (s.logged (readCalls kind target rendered))
    Applies failures engine target context declaration s run.1 run.2 := by
  intro run
  have hlength : (s.logged (readCalls kind target rendered)).calls.length =
      s.calls.length + (readCalls kind target rendered).length := List.length_append
  cases applied with
  | none =>
    cases hfails : failures (s.logged (readCalls kind target rendered)).calls.length with
    | some e =>
      rw [show run = _ from run_create_of_failure hfails, Memory.logged_logged]
      exact .uncreated hbuilds (hlength ▸ hfails)
    | none =>
      rw [show run = _ from run_create_of_calm hfails, Memory.logged, List.append_assoc]
      exact .created hbuilds (hlength ▸ hfails)
  | some found =>
    cases hsame : object.equal found with
    | true =>
      rw [show run = _ from run_keep hsame]
      exact .unchanged hbuilds hsame
    | false =>
      cases hfails : failures (s.logged (readCalls kind target rendered)).calls.length with
      | some e =>
        rw [show run = _ from run_update_of_failure hsame hfails, Memory.logged_logged]
        exact .unupdated hbuilds hsame (hlength ▸ hfails)
      | none =>
        rw [show run = _ from run_update_of_calm hsame hfails, Memory.logged, List.append_assoc]
        exact .updated hbuilds hsame (hlength ▸ hfails)

/-- What is done once both objects have been read. -/
theorem applies_rest {kind : GroupVersionKind}
    (hreads : Reads failures engine target context declaration s kind rendered)
    (hfound : Entries.get? (target.slot kind) s.objects = applied) :
    let run := (do
      apply.liftExcept (checkControl target.owner applied)
      let object ← apply.liftExcept ((Patch.build kind
        (originalIn s.objects kind target.ns rendered) applied rendered target).mapError .reduce)
      writeObject (Memory.store failures) kind target.ns object applied :
        ExceptT ApplyError (StateM Memory) Applied).run (s.logged (readCalls kind target rendered))
    Applies failures engine target context declaration s run.1 run.2 := by
  intro run
  cases hcheck : checkControl target.owner applied with
  | error e =>
    obtain ⟨found, rfl, hforeign, rfl⟩ := checkControl_eq_error hcheck
    have hrun : run = (.error (.notControlled (objectName found)),
        s.logged (readCalls kind target rendered)) := by
      simp only [run, hcheck]
      rfl
    rw [hrun]
    exact .foreign hreads hfound hforeign
  | ok =>
    have hcontrolled := checkControl_eq_ok hcheck
    cases hbuilt : Patch.build kind (originalIn s.objects kind target.ns rendered) applied rendered
      target with
    | error e =>
      have hrun : run = (.error (.reduce e), s.logged (readCalls kind target rendered)) := by
        simp only [run, hcheck, hbuilt]
        rfl
      rw [hrun]
      exact .unbuilt hreads hfound hcontrolled hbuilt
    | ok object =>
      have hrun : run = (writeObject (Memory.store failures) kind target.ns object applied).run
          (s.logged (readCalls kind target rendered)) := by
        simp only [run, hcheck, hbuilt]
        rfl
      rw [hrun]
      exact applies_write ⟨hreads, hfound, hcontrolled, hbuilt⟩

/-- Applying a declaration is one of the cases. -/
theorem applies_apply :
    Applies failures engine target context declaration s
      ((apply (Memory.store failures) engine target context declaration).run s).1
      ((apply (Memory.store failures) engine target context declaration).run s).2 := by
  unfold apply
  cases hkind : checkedKind declaration with
  | error e => exact .unfit hkind
  | ok kind =>
    cases hrendered : renderDeclaration engine context declaration with
    | error e => exact .unrendered hkind hrendered
    | ok rendered =>
      rw [StateT.run, run_bind_of_ok run_liftExcept, run_bind_of_ok run_liftExcept]
      by_cases horiginal :
          originalCalls kind target.ns rendered ≠ [] → failures s.calls.length = none
      · rw [run_bind_of_ok (run_getOriginal_of_calm horiginal)]
        cases happlied :
            failures (s.logged (originalCalls kind target.ns rendered)).calls.length with
        | some e =>
          rw [run_bind_of_error (run_get_of_failure happlied), Memory.logged_logged]
          exact .appliedUnread hkind hrendered horiginal (by simpa [Memory.logged] using happlied)
        | none =>
          rw [run_bind_of_ok (run_get_of_calm happlied), Memory.logged_logged]
          have hread : failures
              (s.calls.length + (originalCalls kind target.ns rendered).length) = none := by
            simpa [Memory.logged] using happlied
          exact applies_rest ⟨hkind, hrendered, horiginal, hread⟩ rfl
      · obtain ⟨hname, hfails⟩ := Classical.not_imp.1 horiginal
        obtain ⟨e, he⟩ := Option.ne_none_iff_exists'.1 hfails
        rw [run_bind_of_error (run_getOriginal_of_failure hname he)]
        exact .originalUnread hkind hrendered hname he

theorem applies_of_run {outcome : Outcome} {s' : Memory}
    (h : (apply (Memory.store failures) engine target context declaration).run s = (outcome, s')) :
    Applies failures engine target context declaration s outcome s' := by
  have happlies : Applies failures engine target context declaration s
      ((apply (Memory.store failures) engine target context declaration).run s).1
      ((apply (Memory.store failures) engine target context declaration).run s).2 := applies_apply
  rwa [h] at happlies

end

end PreviewEnv
