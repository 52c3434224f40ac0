import PreviewEnv.Proofs.Operator.Steady

/-!
The objects of a resource set all bear its name, so that the declarations of one
kind share an object, over which they are laid one after the other.
-/

namespace PreviewEnv

open PreviewEnv.Tree Patch

variable {σ : Type} {failures : Memory.Schedule}
  {recorder : EventRecorder (StateT σ (StateM Memory))} {target : Target}
  {engine : Template.Engine} {context declaration rendered t v : Tree}
  {kind : GroupVersionKind} {s s' : Memory} {objects objects' : Objects} {applied : Applied}
  {path : List String} {declarations : List Tree} {u u' : σ} {reasons : List Reason}

/-- Where a tree agrees with a scalar there is a scalar that is equal to it. -/
theorem exists_scalar_of_canonical (hv : v.isScalar = true) (hn : v ≠ null)
    (h : canonical (within path t) = canonical v) :
    ∃ w, t.at? path = some w ∧ w.isScalar = true ∧ w ≠ null ∧ canonical w = canonical v := by
  rw [within_eq_at?] at h
  cases hat : t.at? path with
  | none =>
    rw [hat] at h
    exact absurd (canonical_eq_null.1 h.symm) hn
  | some w =>
    rw [hat] at h
    have hwn : w ≠ null := by
      rintro rfl
      exact hn (canonical_eq_null.1 h.symm)
    refine ⟨w, rfl, ?_, hwn, h⟩
    cases w with
    | arr ts => exact absurd h.symm (canonical_scalar_ne_arr hv)
    | map es => exact absurd h.symm (canonical_scalar_ne_map hv)
    | _ => rfl

theorem ordered_scalar (h : t.isScalar = true) : t.Ordered := by
  cases t <;> simp_all [isScalar, Ordered]

/-- The path is in none of the fields that adopting an object sets and that the cluster gives. -/
def Unassigned (path : List String) : Prop :=
  (∀ field ∈ forcedFields, ¬ field <+: path) ∧ ∀ field ∈ givenFields, ¬ field <+: path

instance : Decidable (Unassigned path) := inferInstanceAs (Decidable (_ ∧ _))

/-- Once a declaration has been applied, its object agrees with the declaration laid over what was
there. -/
theorem canonical_laid_of_applies {found : Option Tree}
    (h : Applies failures engine target context declaration s (.ok applied) s')
    (hkind : checkedKind declaration = .ok kind)
    (hrendered : renderDeclaration engine context declaration = .ok rendered)
    (hfit : IsFit engine context declaration) (hobjects : ∀ e ∈ s.objects, e.2.Ordered)
    (hthere : Entries.get? (target.slot kind) s.objects = found) :
    ∃ start stored, Entries.get? (target.slot kind) s'.objects = some stored ∧
      hasRoom (laid start found rendered) = true ∧
      ∀ path, path ≠ [] → path ≠ ["metadata"] → Unassigned path →
        canonical (within path stored) = canonical (within path (laid start found rendered)) := by
  obtain ⟨k, r, f, object, stored, hb, hstored, -, has⟩ :=
    stored_of_applies h hfit.ordered hfit.keepsKind hobjects
  obtain ⟨hk, hr⟩ := hb.toReads.unique hkind hrendered
  subst hk hr
  cases hb.found.symm.trans hthere
  obtain ⟨start, hcopied, hroom, heq⟩ := build_eq_ok_iff.1 hb.built
  refine ⟨start, stored, hstored, hroom, fun path hne hmetadata hpath => ?_⟩
  obtain ⟨es, rfl⟩ := exists_map_of_checkedKind hkind
  have hstart := ordered_of_copied (ordered_originalIn hobjects) hcopied
  have hfound : ∀ a ∈ found, a.Ordered := hthere ▸ ordered_of_get? hobjects
  have hlaid : (laid start found r).Ordered :=
    (hstart.patched hfound).overlay (Ordered.of_render hb.renders hfit.ordered)
  rw [has.agrees path (disjoint_of_in_metadata givenFields_in_metadata hne hmetadata hpath.2),
    within_built heq ⟨hmetadata, hpath.1⟩ hne, canonical_whole (hlaid.within path)]

/-- Where there is room for metadata, no scalar is in their place. -/
theorem ne_metadata_of_hasRoom (hroom : hasRoom t = true) (hv : v.isScalar = true) (hn : v ≠ null)
    (h : within path t = v) : path ≠ ["metadata"] := by
  rintro rfl
  rw [within_cons, within_nil] at h
  rw [hasRoom, Bool.and_eq_true, h] at hroom
  rcases isOpen_eq_true.1 hroom.2 with rfl | ⟨es, rfl⟩
  · exact hn rfl
  · cases hv

/-- The object of the kind says something equal at the path. -/
def Holds (target : Target) (kind : GroupVersionKind) (path : List String) (v : Tree)
    (objects : Objects) : Prop :=
  ∃ stored, Entries.get? (target.slot kind) objects = some stored ∧
    canonical (within path stored) = canonical v

theorem Holds.of_same (h : Holds target kind path v objects)
    (hsame : SameOfKind kind objects objects') : Holds target kind path v objects' := by
  obtain ⟨stored, hget, hv⟩ := h
  exact ⟨stored, by rw [hsame (target.slot kind) rfl rfl, hget], hv⟩

section
variable (h : Applies failures engine target context declaration s (.ok applied) s')
  (hkind : checkedKind declaration = .ok kind)
  (hrendered : renderDeclaration engine context declaration = .ok rendered)
  (hfit : IsFit engine context declaration) (hobjects : ∀ e ∈ s.objects, e.2.Ordered)
  (hpath : Unassigned path) (hv : v.isScalar = true) (hn : v ≠ null)
include h hkind hrendered hfit hobjects hpath hv hn

/-- What a declaration says, its object says once it has been applied. -/
theorem holds_of_at? (hat : rendered.at? path = some v) : Holds target kind path v s'.objects := by
  obtain ⟨start, stored, hstored, hroom, hagrees⟩ :=
    canonical_laid_of_applies h hkind hrendered hfit hobjects rfl
  have hlaid : within path (laid start (Entries.get? (target.slot kind) s.objects) rendered) = v :=
    within_overlay_of_at? (Ordered.of_render hrendered hfit.ordered) hv hat
  have hne : path ≠ [] := by
    rintro rfl
    obtain ⟨es, rfl⟩ := exists_map_of_checkedKind hkind
    obtain ⟨fs, rfl⟩ := exists_map_of_rendered hrendered
    cases Option.some.inj hat
    cases hv
  refine ⟨stored, hstored, ?_⟩
  rw [hagrees path hne (ne_metadata_of_hasRoom hroom hv hn hlaid) hpath, hlaid]

/-- What an object says where the declaration leaves it alone, it still says afterwards. -/
theorem holds_of_leavesAlone (halone : LeavesAlone path rendered)
    (hheld : Holds target kind path v s.objects) : Holds target kind path v s'.objects := by
  obtain ⟨found, hfound, hheld⟩ := hheld
  -- What is there may be another number of the same value.
  obtain ⟨w, hat, hw, hwn, hwv⟩ := exists_scalar_of_canonical hv hn hheld
  obtain ⟨start, stored, hstored, hroom, hagrees⟩ :=
    canonical_laid_of_applies h hkind hrendered hfit hobjects hfound
  have hlaid : within path (laid start (some found) rendered) = w := by
    rw [laid, within_overlay_of_leavesAlone (Ordered.of_render hrendered hfit.ordered) halone,
      patched_some]
    exact within_overlay_of_at? (ordered_of_get? hobjects found hfound) hw hat
  have hne : path ≠ [] := by
    rintro rfl
    exact not_leavesAlone_nil _ halone
  refine ⟨stored, hstored, ?_⟩
  rw [hagrees path hne (ne_metadata_of_hasRoom hroom hw hwn hlaid) hpath, hlaid, hwv]

end

/-- The declaration has another kind, or it leaves the path alone, or it says something equal
there. -/
def Respects (engine : Template.Engine) (context : Tree) (kind : GroupVersionKind)
    (path : List String) (v declaration : Tree) : Prop :=
  ∀ l rendered, checkedKind declaration = .ok l → (l.group, l.kind) = (kind.group, kind.kind) →
    renderDeclaration engine context declaration = .ok rendered →
    LeavesAlone path rendered ∨ ∃ w, rendered.at? path = some w ∧ w.equal v = true

/-- What an object says, it still says after a declaration that respects it. -/
theorem Holds.step (hheld : Holds target kind path v s.objects)
    (h : Applies failures engine target context declaration s (.ok applied) s')
    (hfit : IsFit engine context declaration) (hobjects : ∀ e ∈ s.objects, e.2.Ordered)
    (hpath : Unassigned path) (hv : v.isScalar = true) (hn : v ≠ null)
    (hrespects : Respects engine context kind path v declaration) :
    Holds target kind path v s'.objects := by
  obtain ⟨l, rendered, hl, hrendered⟩ := exists_of_applies h
  by_cases hkind : (l.group, l.kind) = (kind.group, kind.kind)
  · have hslot : target.slot l = target.slot kind := Target.slot_eq_iff.2 hkind
    have hheld' : Holds target l path v s.objects := by rwa [Holds, hslot]
    rw [Holds, ← hslot]
    rcases hrespects l rendered hl hkind hrendered with halone | ⟨w, hat, hequal⟩
    · exact holds_of_leavesAlone h hl hrendered hfit hobjects hpath hv hn halone hheld'
    · have hordered := (Ordered.of_render hrendered hfit.ordered).at? hat
      have hcanonical : canonical (within path rendered) = canonical v := by
        rw [within_of_at? hat]
        exact (equal_iff_canonical hordered (ordered_scalar hv)).1 hequal
      obtain ⟨w, hat, hw, hwn, hwv⟩ := exists_scalar_of_canonical hv hn hcanonical
      obtain ⟨stored, hstored, hagrees⟩ :=
        holds_of_at? h hl hrendered hfit hobjects hpath hw hwn hat
      exact ⟨stored, hstored, hagrees.trans hwv⟩
  · apply hheld.of_same
    apply sameOfKind_of_applies h hfit.ordered hfit.keepsKind
    intro k hk
    cases hl.symm.trans hk
    exact hkind

/-- What an object says, it still says after a pass over declarations that respect it. -/
theorem Holds.of_passes (hheld : Holds target kind path v s.objects)
    (h : Passes failures engine target context declarations s s')
    (hfits : ∀ e ∈ declarations, IsFit engine context e) (hobjects : ∀ e ∈ s.objects, e.2.Ordered)
    (hpath : Unassigned path) (hv : v.isScalar = true) (hn : v ≠ null)
    (hrespects : ∀ e ∈ declarations, Respects engine context kind path v e) :
    Holds target kind path v s'.objects := by
  induction h with
  | nil => exact hheld
  | cons h _ ih =>
    rw [List.forall_mem_cons] at hfits hrespects
    exact ih (hheld.step h hfits.1 hobjects hpath hv hn hrespects.1) hfits.2
      (ordered_objects_of_applies h hfits.1.ordered hobjects) hrespects.2

/-- A pass goes through each of its declarations. -/
theorem exists_of_passes {before after : List Tree}
    (h : Passes failures engine target context (before ++ declaration :: after) s s')
    (hfits : ∀ e ∈ before ++ declaration :: after, IsFit engine context e)
    (hobjects : ∀ e ∈ s.objects, e.2.Ordered) :
    ∃ t t' applied, (∀ e ∈ t.objects, e.2.Ordered) ∧
      Applies failures engine target context declaration t (.ok applied) t' ∧
      Passes failures engine target context after t' s' := by
  induction before generalizing s with
  | nil =>
    cases h with
    | cons h hrest => exact ⟨s, _, _, hobjects, h, hrest⟩
  | cons d ds ih =>
    cases h with
    | cons h hrest =>
      rw [List.cons_append, List.forall_mem_cons] at hfits
      exact ih hrest hfits.2 (ordered_objects_of_applies h hfits.1.ordered hobjects)

/-- A resource set has been reconciled. Each of its declarations has a kind and has been rendered,
and a scalar that it says, off the fields that applying it sets, the object of its kind says at the
end, if each later declaration of the kind leaves the path alone or says something equal there. -/
theorem materialized {rs : ResourceSet} (htarget : Target.ofResourceSet rs = .ok target)
    (hrecorder : recorder.LeavesCluster) (hobjects : ∀ e ∈ s.objects, e.2.Ordered)
    (hfits : ∀ e ∈ rs.spec.resources, IsFit engine rs.context e)
    (hrun : ((reconcile ((Memory.store failures).withState σ) recorder engine rs).run u).run s =
      ((.ok reasons, u'), s'))
    {before after : List Tree} (hsplit : rs.spec.resources = before ++ declaration :: after) :
    ∃ kind rendered, checkedKind declaration = .ok kind ∧
      renderDeclaration engine rs.context declaration = .ok rendered ∧
      ∀ path v, Unassigned path → rendered.at? path = some v → v.isScalar = true → v ≠ null →
        (∀ e ∈ after, Respects engine rs.context kind path v e) →
        ∃ stored w, Entries.get? (target.slot kind) s'.objects = some stored ∧
          stored.at? path = some w ∧ w.equal v = true := by
  rw [run_reconcile htarget] at hrun
  have hpasses := passes_of_runPass hrecorder hrun
  rw [hsplit] at hpasses hfits
  obtain ⟨t, t', applied, hordered, happlies, hrest⟩ := exists_of_passes hpasses hfits hobjects
  obtain ⟨kind, rendered, hkind, hrendered⟩ := exists_of_applies happlies
  refine ⟨kind, rendered, hkind, hrendered, fun path v hpath hat hv hn hrespects => ?_⟩
  have hfit := hfits declaration (by simp)
  have hheld := holds_of_at? happlies hkind hrendered hfit hordered hpath hv hn hat
  obtain ⟨stored, hstored, hend⟩ := hheld.of_passes hrest
    (fun e he => hfits e (by simp [he]))
    (ordered_objects_of_applies happlies hfit.ordered hordered) hpath hv hn hrespects
  obtain ⟨w, hw, hs, -, hwv⟩ := exists_scalar_of_canonical hv hn hend
  exact ⟨stored, w, hstored, hw,
    (equal_iff_canonical (ordered_scalar hs) (ordered_scalar hv)).2 hwv⟩

def colouredSettings : Tree := configMap [("colour", .str "red"), ("size", .int 1)]

def clearedSettings : Tree := configMap [("size", .null)]

def sharedSet : ResourceSet :=
  { reviewSet with spec := ⟨[colouredSettings, clearedSettings], 1, .empty, .empty⟩ }

/-- The set is reconciled, and no call fails. -/
def reconcileShared : (Except OperatorError (List Reason) × List Event) × Memory :=
  ((reconcile ((Memory.store fun _ => none).withState (List Event)) journal reviewEngine
    sharedSet).run []).run ⟨[], []⟩

theorem isFit_sharedSet :
    ∀ d ∈ sharedSet.spec.resources, IsFit reviewEngine sharedSet.context d := by
  simp only [sharedSet, List.forall_mem_cons]
  exact ⟨isFit_of_render (by decide) (by decide +kernel),
    isFit_of_render (by decide) (by decide +kernel), by simp⟩

/-- The set is reconciled with success, and what the first declaration says of the size is not in
the object of its kind. -/
theorem materialized_undone :
    Target.ofResourceSet sharedSet = .ok reviewPlace ∧
      (∀ d ∈ sharedSet.spec.resources, IsFit reviewEngine sharedSet.context d) ∧
      reconcileShared.1.1 = .ok [.created, .updated] ∧
      colouredSettings ∈ sharedSet.spec.resources ∧
      checkedKind colouredSettings = .ok reviewKind ∧
      renderDeclaration reviewEngine sharedSet.context colouredSettings = .ok colouredSettings ∧
      Unassigned ["data", "size"] ∧ colouredSettings.at? ["data", "size"] = some (.int 1) ∧
      ∃ stored, Entries.get? (reviewPlace.slot reviewKind) reconcileShared.2.objects = some stored ∧
        stored.at? ["data", "size"] = none := by
  have hstored : (Entries.get? (reviewPlace.slot reviewKind) reconcileShared.2.objects).map
      (·.at? ["data", "size"]) = some none := by decide +kernel
  exact ⟨by decide +kernel, isFit_sharedSet, by decide +kernel, by simp [sharedSet],
    by decide +kernel, by decide +kernel, by decide, by decide +kernel,
    Option.map_eq_some_iff.1 hstored⟩

theorem materialized_colour :
    ∃ stored w, Entries.get? (reviewPlace.slot reviewKind) reconcileShared.2.objects =
        some stored ∧ stored.at? ["data", "colour"] = some w ∧ w.equal (.str "red") = true := by
  have hfirst : reconcileShared.1.1 = .ok [.created, .updated] := by decide +kernel
  have hrun : reconcileShared =
      ((.ok [.created, .updated], reconcileShared.1.2), reconcileShared.2) :=
    Prod.fst_eq_iff.1 (Prod.fst_eq_iff.1 hfirst)
  have hkind : checkedKind colouredSettings = .ok reviewKind := by decide +kernel
  have hcoloured : renderDeclaration reviewEngine sharedSet.context colouredSettings =
      .ok colouredSettings := by
    decide +kernel
  have hcleared : renderDeclaration reviewEngine sharedSet.context clearedSettings =
      .ok clearedSettings := by
    decide +kernel
  have htarget : Target.ofResourceSet sharedSet = .ok reviewPlace := by decide +kernel
  have hsplit : sharedSet.spec.resources = [] ++ colouredSettings :: [clearedSettings] := rfl
  obtain ⟨kind, rendered, hk, hr, hheld⟩ := materialized (s := ⟨[], []⟩) htarget
    (fun _ _ _ _ => rfl) (by simp) isFit_sharedSet hrun hsplit
  cases hkind.symm.trans hk
  cases hcoloured.symm.trans hr
  refine hheld ["data", "colour"] (.str "red") (by decide) (by decide +kernel) rfl (by simp) ?_
  simp only [List.forall_mem_singleton]
  intro l rendered' _ _ hr'
  cases hcleared.symm.trans hr'
  exact .inl ⟨["data"], "colour", [], _, rfl, rfl, rfl⟩

end PreviewEnv
