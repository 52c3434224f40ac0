import PreviewEnv.Proofs.Apply.Stored

namespace PreviewEnv

open PreviewEnv.Tree

variable {failures : Memory.Schedule} {engine : Template.Engine} {target : Target}
  {context declaration rendered : Tree} {kind : GroupVersionKind} {s s' : Memory}
  {outcome : Outcome} {objects : Objects} {key : ObjectKey} {uid : String} {object stored : Tree}

/-- The object says of itself that it is where the key says, and it has one owner, with this
identity, that controls it. -/
structure OwnedAt (key : ObjectKey) (uid : String) (object : Tree) : Prop where
  name : object.at? ["metadata", "name"] = some (.str key.name)
  ns : object.at? ["metadata", "namespace"] = some (.str key.ns)
  owner : ∃ owner : OwnerReference, owner.uid = uid ∧
    object.at? ["metadata", "ownerReferences"] = some (.arr [owner.blocking])

/-- Such an object is controlled by those who have the identity, and by nobody else. -/
theorem OwnedAt.controls_iff (h : OwnedAt key uid object) (o : OwnerReference) :
    o.controls object = true ↔ o.uid = uid := by
  obtain ⟨owner, rfl, hat⟩ := h.owner
  have hfind : [owner.blocking].find? OwnerReference.isController = some owner.blocking := rfl
  have huid : owner.blocking.get? "uid" = some (.str owner.uid) := rfl
  rw [OwnerReference.controls, hat]
  simp only [Option.bind_some, items?, hfind, huid, beq_iff_eq, Option.some.injEq, str.injEq]
  exact eq_comm

/-- An object that is controlled at all refers to its owners. -/
theorem within_of_controls {owner : OwnerReference} (h : owner.controls object = true) :
    within ["metadata", "ownerReferences"] object ≠ .null := by
  intro hnull
  rw [within_eq_at?] at hnull
  rw [OwnerReference.controls] at h
  cases hat : object.at? ["metadata", "ownerReferences"] with
  | none =>
    rw [hat] at h
    cases h
  | some v =>
    rw [hat, Option.getD_some] at hnull
    subst hnull
    rw [hat] at h
    cases h

/-- The slot of a declaration has been written: what was there was controlled by the owner, and what
is there now bears the name of the target and has that owner alone. -/
structure Writes (target : Target) (kind : GroupVersionKind) (before after : Objects)
    (stored : Tree) : Prop where
  objects : after = Entries.insert (target.slot kind) stored before
  controlled : ∀ found ∈ Entries.get? (target.slot kind) before, target.owner.controls found = true
  name : stored.at? ["metadata", "name"] = some (.str target.name)
  ns : stored.at? ["metadata", "namespace"] = some (.str target.ns)
  owner : stored.at? ["metadata", "ownerReferences"] = some (.arr [target.owner.blocking])

theorem Writes.ownedAt {before after : Objects} (h : Writes target kind before after stored) :
    OwnedAt (target.slot kind) target.owner.uid stored :=
  ⟨h.name, h.ns, target.owner, rfl, h.owner⟩

theorem writes_of_builds {applied : Option Tree}
    (hb : Builds failures engine target context declaration s kind rendered applied object)
    (hd : declaration.Ordered) (hkeep : KeepsKind engine context declaration)
    (hkept : KeptAs object stored) :
    Writes target kind s.objects (s.objects.store stored) stored := by
  obtain ⟨start, -, -, heq⟩ := Patch.build_eq_ok_iff.1 hb.built
  have hslot : ObjectKey.ofObject stored = target.slot kind := by
    rw [ofObject_kept hkept, ofObject_built hb.checked hb.renders hd hkeep hb.built]
  have hobjects : s.objects.store stored = Entries.insert (target.slot kind) stored s.objects := by
    rw [Objects.store, hslot]
  have hcontrolled : ∀ found ∈ Entries.get? (target.slot kind) s.objects,
      target.owner.controls found = true := by
    rw [hb.found]
    exact hb.controlled
  refine ⟨hobjects, hcontrolled, ?_, ?_, ?_⟩
  · exact at?_kept hkept heq Patch.name_adopted rfl (by simp) (by decide)
  · exact at?_kept hkept heq Patch.ns_adopted rfl (by simp) (by decide)
  · exact at?_kept hkept heq Patch.owner_adopted rfl (by simp) (by decide)

/-- Applying a declaration either changes no object and reports no change, or it writes the slot. -/
theorem objects_of_applies (h : Applies failures engine target context declaration s outcome s')
    (hd : declaration.Ordered) (hkeep : KeepsKind engine context declaration) :
    (s'.objects = s.objects ∧ ∀ a, outcome = .ok a → a.change = .unchanged) ∨
      ∃ kind stored, checkedKind declaration = .ok kind ∧
        Writes target kind s.objects s'.objects stored := by
  cases h with
  | created hb =>
    exact .inr ⟨_, _, hb.checked, writes_of_builds hb hd hkeep (.inl rfl)⟩
  | updated hb =>
    exact .inr ⟨_, _, hb.checked, writes_of_builds hb hd hkeep (.inr rfl)⟩
  | unchanged =>
    refine .inl ⟨rfl, fun a ha => ?_⟩
    cases ha
    rfl
  | _ => exact .inl ⟨rfl, by simp⟩

/-- Applying a declaration changes the object in its slot at most. -/
theorem get?_of_applies (h : Applies failures engine target context declaration s outcome s')
    (hd : declaration.Ordered) (hkeep : KeepsKind engine context declaration)
    (hkey : ∀ kind, checkedKind declaration = .ok kind → key ≠ target.slot kind) :
    Entries.get? key s'.objects = Entries.get? key s.objects := by
  rcases objects_of_applies h hd hkeep with ⟨hsame, -⟩ | ⟨kind, _, hkind, hw⟩
  · rw [hsame]
  · rw [hw.objects, Entries.get?_insert, if_neg (hkey kind hkind).symm]

theorem not_builds_of_foreign {applied : Option Tree}
    (hb : Builds failures engine target context declaration s kind rendered applied object)
    {found : Tree} {kind' : GroupVersionKind} (hkind : checkedKind declaration = .ok kind')
    (hfound : Entries.get? (target.slot kind') s.objects = some found)
    (hforeign : target.owner.controls found = false) : False := by
  cases hb.checked.symm.trans hkind
  rw [hb.controlled found (hb.found ▸ hfound)] at hforeign
  cases hforeign

/-- Over an object that the owner does not control nothing is written. -/
theorem reads_of_foreign (h : Applies failures engine target context declaration s outcome s')
    (hkind : checkedKind declaration = .ok kind)
    (hfound : Entries.get? (target.slot kind) s.objects = some object)
    (hforeign : target.owner.controls object = false) :
    ∃ calls, s' = s.logged calls ∧ ∀ call ∈ calls, call.isGet = true := by
  cases h with
  | unfit | unrendered => exact ⟨[], Memory.logged_nil.symm, by simp⟩
  | originalUnread => exact ⟨_, rfl, isGet_of_mem_originalCalls⟩
  | appliedUnread | foreign | unbuilt => exact ⟨_, rfl, isGet_of_mem_readCalls⟩
  | uncreated hb | created hb | unchanged hb | unupdated hb | updated hb =>
    exact (not_builds_of_foreign hb hkind hfound hforeign).elim

/-- What anyone can do to the objects of a cluster. -/
inductive ClusterStep where
  | put (object : Tree)
  | remove (key : ObjectKey)
  /-- Some calls may fail while a declaration is applied. -/
  | apply (engine : Template.Engine) (target : Target) (context declaration : Tree)
      (failures : Memory.Schedule)

namespace ClusterStep

/-- The objects after a step. -/
def next (objects : Objects) : ClusterStep → Objects
  | put object => objects.store object
  | remove key => Entries.erase key objects
  | apply engine target context declaration failures =>
    ((PreviewEnv.apply (Memory.store failures) engine target context declaration).run
      ⟨objects, []⟩).2.objects

/-- The objects after steps. -/
def run (objects : Objects) (steps : List ClusterStep) : Objects := steps.foldl next objects

/-- The step puts an object in the place, or removes the one that is there. -/
def Touches (key : ObjectKey) : ClusterStep → Prop
  | put object => ObjectKey.ofObject object = key
  | remove removed => removed = key
  | apply .. => False

/-- What the step applies, if it does, is a declaration with its keys in order whose rendering keeps
its kind. -/
def Fits : ClusterStep → Prop
  | apply engine _ context declaration _ =>
    declaration.Ordered ∧ KeepsKind engine context declaration
  | put _ | remove _ => True

variable {step : ClusterStep} {steps : List ClusterStep}

/-- An object stays with its owner when it is neither put nor removed. -/
theorem next_ownedAt (hfits : step.Fits) (huntouched : ¬ step.Touches key)
    (h : ∃ object, Entries.get? key objects = some object ∧ OwnedAt key uid object) :
    ∃ object, Entries.get? key (next objects step) = some object ∧ OwnedAt key uid object := by
  obtain ⟨object, hget, howned⟩ := h
  cases step with
  | put put =>
    have hne : ObjectKey.ofObject put ≠ key := huntouched
    exact ⟨object, by rw [next, Objects.store, Entries.get?_insert, if_neg hne, hget], howned⟩
  | remove removed =>
    have hne : removed ≠ key := huntouched
    exact ⟨object, by rw [next, Entries.get?_erase, if_neg hne, hget], howned⟩
  | apply engine target context declaration failures =>
    rcases hrun : (PreviewEnv.apply (Memory.store failures) engine target context declaration).run
      ⟨objects, []⟩ with ⟨outcome, memory⟩
    rw [next, hrun]
    rcases objects_of_applies (applies_of_run hrun) hfits.1 hfits.2 with
      ⟨hsame, -⟩ | ⟨kind, stored, -, hw⟩
    · refine ⟨object, ?_, howned⟩
      rw [hsame, hget]
    · by_cases hkey : target.slot kind = key
      · -- The one who writes it controls it, so the identity stays the same.
        subst hkey
        have huid : target.owner.uid = uid :=
          (howned.controls_iff target.owner).1 (hw.controlled object hget)
        refine ⟨stored, ?_, huid ▸ hw.ownedAt⟩
        rw [hw.objects, Entries.get?_insert, if_pos rfl]
      · refine ⟨object, ?_, howned⟩
        rw [hw.objects, Entries.get?_insert, if_neg hkey, hget]

/-- An object stays with its owner until someone puts or removes it. -/
theorem run_ownedAt (hfits : ∀ step ∈ steps, step.Fits)
    (huntouched : ∀ step ∈ steps, ¬ step.Touches key)
    (h : ∃ object, Entries.get? key objects = some object ∧ OwnedAt key uid object) :
    ∃ object, Entries.get? key (run objects steps) = some object ∧ OwnedAt key uid object := by
  induction steps generalizing objects with
  | nil => exact h
  | cons step steps ih =>
    rw [List.forall_mem_cons] at hfits huntouched
    exact ih hfits.2 huntouched.2 (next_ownedAt hfits.1 huntouched.1 h)

/-- What applying a declaration can do in the middle of a run. No object changes but the one in its
slot. Where an object is there that the owner does not control, nothing is written and nothing
changes. When something is written, the object that is there then bears the name and the namespace
of the target and has its owner alone, and until someone puts or removes it, whatever is applied in
the meantime, an object is there that the owner controls. -/
theorem ownership {before after : List ClusterStep} {memory : Memory}
    (hfits : ∀ step ∈ apply engine target context declaration failures :: after, step.Fits)
    (hrun : (PreviewEnv.apply (Memory.store failures) engine target context declaration).run
      ⟨run objects before, []⟩ = (outcome, memory)) :
    (∀ key, (∀ kind, checkedKind declaration = .ok kind → key ≠ target.slot kind) →
      Entries.get? key memory.objects = Entries.get? key (run objects before)) ∧
    (∀ kind object, checkedKind declaration = .ok kind →
      Entries.get? (target.slot kind) (run objects before) = some object →
      target.owner.controls object = false →
      memory.objects = run objects before ∧ ∀ call ∈ memory.calls, call.isGet = true) ∧
    (∀ applied, outcome = .ok applied → applied.change ≠ .unchanged →
      ∃ kind stored, checkedKind declaration = .ok kind ∧
        Entries.get? (target.slot kind) memory.objects = some stored ∧
        stored.at? ["metadata", "name"] = some (.str target.name) ∧
        stored.at? ["metadata", "namespace"] = some (.str target.ns) ∧
        stored.at? ["metadata", "ownerReferences"] = some (.arr [target.owner.blocking]) ∧
        ∀ done, done <+: after → (∀ step ∈ done, ¬ step.Touches (target.slot kind)) →
          ∃ object, Entries.get? (target.slot kind) (run memory.objects done) = some object ∧
            target.owner.controls object = true) := by
  rw [List.forall_mem_cons] at hfits
  have happlies := applies_of_run hrun
  refine ⟨?_, ?_, ?_⟩
  · intro key hkey
    exact get?_of_applies happlies hfits.1.1 hfits.1.2 hkey
  · intro kind object hkind hfound hforeign
    obtain ⟨calls, rfl, hcalls⟩ := reads_of_foreign happlies hkind hfound hforeign
    exact ⟨rfl, by simpa [Memory.logged] using hcalls⟩
  · intro applied hok hchange
    rcases objects_of_applies happlies hfits.1.1 hfits.1.2 with ⟨-, hun⟩ | ⟨kind, stored, hkind, hw⟩
    · exact absurd (hun applied hok) hchange
    · have hget : Entries.get? (target.slot kind) memory.objects = some stored := by
        rw [hw.objects, Entries.get?_insert, if_pos rfl]
      refine ⟨kind, stored, hkind, hget, hw.name, hw.ns, hw.owner, fun done hdone huntouched => ?_⟩
      obtain ⟨object, hobject, howned⟩ := run_ownedAt
        (fun step hstep => hfits.2 step (hdone.subset hstep)) huntouched
        ⟨stored, hget, hw.ownedAt⟩
      exact ⟨object, hobject, (howned.controls_iff target.owner).2 rfl⟩

theorem keepsKind_of_render (h : renderDeclaration engine context declaration = .ok declaration) :
    KeepsKind engine context declaration := by
  intro rendered hr key _
  cases h.symm.trans hr
  rfl

def reviewDeclaration : Tree := Patch.configMap [("size", .int 3)]

def reviewStep : ClusterStep :=
  apply Patch.reviewEngine Patch.reviewTarget .empty reviewDeclaration fun _ => none

/-- Another owner tries for the same name. -/
def rivalStep : ClusterStep :=
  apply Patch.reviewEngine { Patch.reviewTarget with owner := ⟨"v1", "Owner", "rival", "u-2"⟩ }
    .empty reviewDeclaration fun _ => none

theorem ownership_against_rival :
    (∀ step ∈ [reviewStep, rivalStep], step.Fits) ∧
      ∃ object, Entries.get? (Patch.reviewTarget.slot Patch.reviewKind)
          (run [] [reviewStep, rivalStep]) = some object ∧
        Patch.reviewTarget.owner.controls object = true := by
  have hrenders : renderDeclaration Patch.reviewEngine .empty reviewDeclaration =
      .ok reviewDeclaration := by
    decide +kernel
  have hfit : reviewDeclaration.Ordered ∧ KeepsKind Patch.reviewEngine .empty reviewDeclaration :=
    ⟨by decide, keepsKind_of_render hrenders⟩
  have hfits : ∀ step ∈ [reviewStep, rivalStep], step.Fits := by
    simp only [List.forall_mem_cons]
    exact ⟨hfit, hfit, by simp⟩
  refine ⟨hfits, ?_⟩
  have hkind : checkedKind reviewDeclaration = .ok Patch.reviewKind := by decide +kernel
  obtain ⟨-, -, hwritten⟩ := ownership hfits
    (rfl : (PreviewEnv.apply (Memory.store fun _ => none) Patch.reviewEngine Patch.reviewTarget
      .empty reviewDeclaration).run ⟨run [] [], []⟩ = _)
  obtain ⟨kind, stored, hk, -, -, -, -, hlater⟩ :=
    hwritten ⟨.created, objectName Patch.builtSettings⟩ (by decide +kernel) (by decide)
  cases hkind.symm.trans hk
  exact hlater [rivalStep] List.prefix_rfl (by simp [rivalStep, Touches])

end ClusterStep

end PreviewEnv
