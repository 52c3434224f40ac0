import PreviewEnv.Proofs.Apply.Ownership
import PreviewEnv.Proofs.Apply.TakenUp

namespace PreviewEnv

open PreviewEnv.Tree Patch

variable {failures : Memory.Schedule} {engine : Template.Engine} {target : Target}
  {context declaration rendered : Tree} {kind : GroupVersionKind} {s s' s'' : Memory}
  {outcome : Outcome} {applied : Applied} {stored start t u : Tree} {path : List String}

theorem canonical_within (h : canonical t = canonical u) (ht : t.Ordered) (hu : u.Ordered)
    (path : List String) : canonical (within path t) = canonical (within path u) := by
  induction path generalizing t u with
  | nil => exact h
  | cons k ks ih => exact ih (canonical_child h ht hu k) (ht.child k) (hu.child k)

theorem exists_map_of_canonical (h : canonical t = canonical u) (ht : ∃ es, t = map es) :
    ∃ fs, u = map fs := by
  obtain ⟨es, rfl⟩ := ht
  obtain ⟨fs, hfs, -⟩ := eq_map_of_canonical (h.symm.trans (by rw [canonical]))
  exact ⟨fs, hfs⟩

theorem Patch.HasMetadata.of_canonical (h : canonical t = canonical u) (ht : t.Ordered)
    (hu : u.Ordered) (hm : HasMetadata t) : HasMetadata u :=
  ⟨exists_map_of_canonical h hm.1, exists_map_of_canonical (canonical_child h ht hu _) hm.2⟩

theorem hasMetadata_kept {object : Tree} (h : KeptAs object stored) : HasMetadata stored := by
  rcases h with rfl | rfl
  · exact hasMetadata_put
  · exact hasMetadata_put

theorem ordered_kept {object : Tree} (h : KeptAs object stored) (ho : object.Ordered) :
    stored.Ordered := by
  rcases h with rfl | rfl
  · exact ((ho.put (ordered_str _) _).put (ordered_str _) _).put (ordered_str _) _
  · exact ho.put (ordered_str _) _

theorem ordered_of_get? {objects : Objects} {key : ObjectKey}
    (h : ∀ e ∈ objects, e.2.Ordered) : ∀ t ∈ Entries.get? key objects, t.Ordered :=
  fun _ ht => h _ (Entries.mem_of_get? ht)

theorem ordered_originalIn {objects : Objects} {ns : String}
    (h : ∀ e ∈ objects, e.2.Ordered) : ∀ t ∈ originalIn objects kind ns rendered, t.Ordered := by
  intro t ht
  rw [originalIn] at ht
  split at ht
  · cases ht
  · exact ordered_of_get? h t ht

/-- A declaration has one kind and is rendered in one way. -/
theorem Reads.unique {kind' : GroupVersionKind} {rendered' : Tree}
    (h : Reads failures engine target context declaration s kind' rendered')
    (hkind : checkedKind declaration = .ok kind)
    (hrendered : renderDeclaration engine context declaration = .ok rendered) :
    kind' = kind ∧ rendered' = rendered := by
  cases hkind.symm.trans h.checked
  cases hrendered.symm.trans h.renders
  exact ⟨rfl, rfl⟩

/-- A built object is in order, as are the objects that it has been built from. -/
theorem Builds.ordered_object {found : Option Tree} {object : Tree}
    (hb : Builds failures engine target context declaration s kind rendered found object)
    (hd : declaration.Ordered) (hobjects : ∀ e ∈ s.objects, e.2.Ordered) : object.Ordered := by
  obtain ⟨es, rfl⟩ := exists_map_of_checkedKind hb.checked
  obtain ⟨start, hcopied, -, heq⟩ := build_eq_ok_iff.1 hb.built
  have hr := Ordered.of_render hb.renders hd
  have hstart := ordered_of_copied (ordered_originalIn hobjects) hcopied
  have hfound : ∀ a ∈ found, a.Ordered := hb.found ▸ ordered_of_get? hobjects
  rw [heq]
  exact (ordered_adopted ((hstart.patched hfound).overlay hr)).whole

/-- What there is of a built object once it has been applied, written or left as it was: off what
the cluster gives it agrees with the object. -/
structure StoredAs (object stored : Tree) : Prop where
  ordered : stored.Ordered
  hasMetadata : HasMetadata stored
  agrees : ∀ path, (∀ field ∈ givenFields, ¬ field <+: path ∧ ¬ path <+: field) →
    canonical (within path stored) = canonical (within path object)

theorem storedAs_of_kept {object : Tree} (h : KeptAs object stored) (ho : object.Ordered) :
    StoredAs object stored where
  ordered := ordered_kept h ho
  hasMetadata := hasMetadata_kept h
  agrees _ hp := by rw [within_kept h hp]

theorem storedAs_of_equal {object : Tree} (h : object.equal stored = true) (ho : object.Ordered)
    (hs : stored.Ordered) (hm : HasMetadata object) : StoredAs object stored :=
  have hcanonical := (equal_iff_canonical ho hs).1 h
  ⟨hs, hm.of_canonical hcanonical ho hs,
    fun path _ => canonical_within hcanonical.symm hs ho path⟩

/-- Where a declaration has been applied, the object that has been built is there. -/
theorem stored_of_applies
    (h : Applies failures engine target context declaration s (.ok applied) s')
    (hd : declaration.Ordered) (hkeep : KeepsKind engine context declaration)
    (hobjects : ∀ e ∈ s.objects, e.2.Ordered) :
    ∃ kind rendered found object stored,
      Builds failures engine target context declaration s kind rendered found object ∧
      Entries.get? (target.slot kind) s'.objects = some stored ∧
      target.owner.controls stored = true ∧ StoredAs object stored := by
  have hwritten {kind rendered found object stored} (hkept : KeptAs object stored)
      (hb : Builds failures engine target context declaration s kind rendered found object) :
      Entries.get? (target.slot kind) (s.objects.store stored) = some stored ∧
        target.owner.controls stored = true ∧ StoredAs object stored := by
    have hwrites := writes_of_builds hb hd hkeep hkept
    refine ⟨?_, (hwrites.ownedAt.controls_iff target.owner).2 rfl,
      storedAs_of_kept hkept (hb.ordered_object hd hobjects)⟩
    rw [hwrites.objects, Entries.get?_insert, if_pos rfl]
  cases h with
  | created hb => exact ⟨_, _, _, _, _, hb, hwritten (.inl rfl) hb⟩
  | updated hb => exact ⟨_, _, _, _, _, hb, hwritten (.inr rfl) hb⟩
  | @unchanged _ _ stored _ hb hequal =>
    obtain ⟨start, -, -, heq⟩ := build_eq_ok_iff.1 hb.built
    refine ⟨_, _, _, _, stored, hb, hb.found, hb.controlled stored rfl, ?_⟩
    exact storedAs_of_equal hequal (hb.ordered_object hd hobjects)
      (ordered_of_get? hobjects _ hb.found) (heq ▸ hasMetadata_whole hasMetadata_adopted)

/-- Applying a declaration keeps the objects in order. -/
theorem ordered_objects_of_applies
    (h : Applies failures engine target context declaration s outcome s')
    (hd : declaration.Ordered) (hobjects : ∀ e ∈ s.objects, e.2.Ordered) :
    ∀ e ∈ s'.objects, e.2.Ordered := by
  have hwritten {kind rendered found object stored} (hkept : KeptAs object stored)
      (hb : Builds failures engine target context declaration s kind rendered found object) :
      ∀ e ∈ s.objects.store stored, e.2.Ordered := by
    intro e he
    rcases Entries.mem_of_mem_insert he with rfl | he
    · exact ordered_kept hkept (hb.ordered_object hd hobjects)
    · exact hobjects e he
  cases h with
  | created hb => exact hwritten (.inl rfl) hb
  | updated hb => exact hwritten (.inr rfl) hb
  | _ => exact hobjects

/-- Where a declaration has been applied, an object is kept that has taken it up. -/
theorem takenUp_of_applies
    (h : Applies failures engine target context declaration s (.ok applied) s')
    (hkind : checkedKind declaration = .ok kind)
    (hrendered : renderDeclaration engine context declaration = .ok rendered)
    (hd : declaration.Ordered) (hkeep : KeepsKind engine context declaration)
    (hobjects : ∀ e ∈ s.objects, e.2.Ordered) (hgiven : LeavesGiven rendered) :
    ∃ start stored, copied kind (originalIn s.objects kind target.ns rendered) = .ok start ∧
      Entries.get? (target.slot kind) s'.objects = some stored ∧
      target.owner.controls stored = true ∧ TakenUp target rendered stored := by
  obtain ⟨_, _, found, object, stored, hb, hstored, hcontrolled, has⟩ :=
    stored_of_applies h hd hkeep hobjects
  obtain ⟨rfl, rfl⟩ := hb.toReads.unique hkind hrendered
  obtain ⟨start, hcopied, -, heq⟩ := build_eq_ok_iff.1 hb.built
  obtain ⟨es, rfl⟩ := exists_map_of_checkedKind hkind
  refine ⟨start, stored, hcopied, hstored, hcontrolled, ?_⟩
  exact takenUp_of_same (Ordered.of_render hrendered hd) (exists_map_of_rendered hrendered) hgiven
    (ordered_of_copied (ordered_originalIn hobjects) hcopied)
    (hb.found ▸ ordered_of_get? hobjects) heq has.ordered has.hasMetadata
    fun path hfield hp => has.agrees path (hfield.disjoint hp givenFields_in_metadata)

/-- Each field of what is stored is settled between what is copied from the original and what the
declaration says. -/
def FieldsSettled (start stored rendered : Tree) : Prop :=
  ∀ path, IsField path → path ∉ forcedFields →
    Settled (within path start) (stored.at? path) (rendered.at? path)

/-- A declaration that is applied over an object that has taken it up changes nothing exactly when
each of its fields is settled; otherwise it updates the object. -/
theorem applies_over (h : Applies failures engine target context declaration s outcome s')
    (hkind : checkedKind declaration = .ok kind)
    (hrendered : renderDeclaration engine context declaration = .ok rendered)
    (hd : declaration.Ordered) (hgiven : LeavesGiven rendered)
    (hfound : Entries.get? (target.slot kind) s.objects = some stored)
    (hcontrolled : target.owner.controls stored = true) (htaken : TakenUp target rendered stored)
    (hcopied : copied kind (originalIn s.objects kind target.ns rendered) = .ok start)
    (hstart : start.Ordered) (hcalm : Memory.Calm failures s s') :
    ∃ applied, outcome = .ok applied ∧
      (FieldsSettled start stored rendered ∧ applied.change = .unchanged ∧
          s' = s.logged (readCalls kind target rendered) ∨
        ¬ FieldsSettled start stored rendered ∧ applied.change = .updated) := by
  have hr := Ordered.of_render hrendered hd
  have hmap : ∃ fs, rendered = map fs := by
    obtain ⟨es, rfl⟩ := exists_map_of_checkedKind hkind
    exact exists_map_of_rendered hrendered
  have hequal := equal_built_iff htaken hr hmap hgiven hstart
  have hbuilt : build kind (originalIn s.objects kind target.ns rendered) (some stored) rendered
      target = .ok (whole (adopted target (laid start (some stored) rendered))) :=
    build_eq_ok_iff.2 ⟨start, hcopied, hasRoom_laid htaken hr hmap hgiven, rfl⟩
  cases h with
  | unfit h => cases hkind.symm.trans h
  | unrendered _ h => cases hrendered.symm.trans h
  | originalUnread hk hr hname h =>
    exact absurd h (hcalm.not_fails (n := 0) (List.length_pos_of_ne_nil hname))
  | appliedUnread hk hr _ h =>
    exact absurd h (hcalm.not_fails (by rw [length_readCalls]; omega))
  | foreign hreads hforeign h =>
    obtain ⟨rfl, rfl⟩ := hreads.unique hkind hrendered
    cases hfound.symm.trans hforeign
    rw [hcontrolled] at h
    cases h
  | unbuilt hreads hthere _ h =>
    obtain ⟨rfl, rfl⟩ := hreads.unique hkind hrendered
    cases hfound.symm.trans hthere
    cases hbuilt.symm.trans h
  | uncreated hb | created hb =>
    obtain ⟨rfl, rfl⟩ := hb.toReads.unique hkind hrendered
    cases hfound.symm.trans hb.found
  | unupdated hb _ h =>
    refine absurd h (hcalm.not_fails ?_)
    rw [List.length_append, List.length_singleton]
    omega
  | unchanged hb h =>
    obtain ⟨rfl, rfl⟩ := hb.toReads.unique hkind hrendered
    cases hfound.symm.trans hb.found
    cases hbuilt.symm.trans hb.built
    exact ⟨_, rfl, .inl ⟨hequal.1 h, rfl, rfl⟩⟩
  | updated hb h =>
    obtain ⟨rfl, rfl⟩ := hb.toReads.unique hkind hrendered
    cases hfound.symm.trans hb.found
    cases hbuilt.symm.trans hb.built
    refine ⟨_, rfl, .inr ⟨fun hsettled => ?_, rfl⟩⟩
    have hequal := hequal.2 hsettled
    rw [hequal] at h
    cases h

/-- An original that is not in the slot is still there afterwards. -/
theorem originalIn_of_applies (h : Applies failures engine target context declaration s outcome s')
    (hd : declaration.Ordered) (hkeep : KeepsKind engine context declaration)
    (hother : rendered.textAt ["metadata", "name"] ≠ target.name) :
    originalIn s'.objects kind target.ns rendered =
      originalIn s.objects kind target.ns rendered := by
  simp only [originalIn]
  split
  · rfl
  · apply get?_of_applies h hd hkeep
    intro kind' hkind' hkey
    exact hother (congrArg ObjectKey.name hkey)

/-- A declaration has been applied whose original is not in its slot, and it is applied again at
once. Where no call fails this succeeds. It changes nothing, and reads only, exactly when each field
of what has been stored is settled between the original, without what is its own, and the
declaration; otherwise the object is updated. -/
theorem unchanged_again_iff_settled {first : Applied} (hkind : checkedKind declaration = .ok kind)
    (hrendered : renderDeclaration engine context declaration = .ok rendered)
    (hd : declaration.Ordered) (hkeep : KeepsKind engine context declaration)
    (hobjects : ∀ e ∈ s.objects, e.2.Ordered) (hgiven : LeavesGiven rendered)
    (hother : rendered.textAt ["metadata", "name"] ≠ target.name)
    (hfirst : (apply (Memory.store failures) engine target context declaration).run s =
      (.ok first, s'))
    (hsecond : (apply (Memory.store failures) engine target context declaration).run s' =
      (outcome, s''))
    (hcalm : Memory.Calm failures s' s'') :
    ∃ copy stored second, outcome = .ok second ∧
      copied kind (originalIn s.objects kind target.ns rendered) = .ok copy ∧
      Entries.get? (target.slot kind) s'.objects = some stored ∧
      (second.change = .unchanged ↔ FieldsSettled copy stored rendered) ∧
      (second.change = .unchanged → s''.objects = s'.objects ∧
        ∃ calls, s''.calls = s'.calls ++ calls ∧ ∀ call ∈ calls, call.isGet = true) ∧
      (second.change ≠ .unchanged → second.change = .updated) := by
  have happlies := applies_of_run hfirst
  obtain ⟨copy, stored, hcopied, hfound, hcontrolled, htaken⟩ :=
    takenUp_of_applies happlies hkind hrendered hd hkeep hobjects hgiven
  have hstart := ordered_of_copied (ordered_originalIn hobjects) hcopied
  have hcopied' := hcopied
  rw [← originalIn_of_applies happlies hd hkeep hother] at hcopied'
  obtain ⟨second, hok, hcases⟩ := applies_over (applies_of_run hsecond) hkind hrendered hd hgiven
    hfound hcontrolled htaken hcopied' hstart hcalm
  refine ⟨copy, stored, second, hok, hcopied, hfound, ?_⟩
  rcases hcases with ⟨hsettled, hchange, rfl⟩ | ⟨hunsettled, hchange⟩
  · refine ⟨iff_of_true hchange hsettled, fun _ => ⟨rfl, _, rfl, isGet_of_mem_readCalls⟩, ?_⟩
    exact fun h => absurd hchange h
  · rw [hchange]
    exact ⟨iff_of_false (by simp) hunsettled, by simp, fun _ => rfl⟩

/-- A config map that lists items. -/
def listing (items : List Tree) : Tree := .map [
  ("apiVersion", .str "v1"),
  ("items", .arr items),
  ("kind", .str "ConfigMap"),
  ("metadata", .map [("name", .str "settings"), ("namespace", .str "review")])]

def called (name : String) : Tree := .map [("name", .str name)]

/-- The original, with two named items. -/
def originalListing : Tree := listing [called "a", called "c"]

/-- A declaration whose second item has no name, and meets the one of the original by position. -/
def mixedListing : Tree := listing [called "b", .map [("v", .int 1)]]

/-- A declaration that names one item of the original. -/
def namedListing : Tree := listing [called "c"]

/-- The original alone is kept. -/
def listingMemory : Memory := ⟨[(ObjectKey.ofObject originalListing, originalListing)], []⟩

/-- A pass in which no call fails. -/
def pass (declaration : Tree) (s : Memory) : Outcome × Memory :=
  (apply (Memory.store fun _ => none) reviewEngine reviewTarget .empty declaration).run s

/-- Applied to its own result, the first declaration changes it: what it has stored has names
throughout, and is now joined with the original by name. -/
theorem updated_again_mixed :
    checkedKind mixedListing = .ok reviewKind ∧
      renderDeclaration reviewEngine .empty mixedListing = .ok mixedListing ∧
      Entries.get? ⟨"", "ConfigMap", "review", "settings"⟩ listingMemory.objects =
        some originalListing ∧
      (pass mixedListing listingMemory).1 = .ok ⟨.created, "v1 ConfigMap: \"pr-1\""⟩ ∧
      (pass mixedListing (pass mixedListing listingMemory).2).1 =
        .ok ⟨.updated, "v1 ConfigMap: \"pr-1\""⟩ := by
  decide +kernel

theorem unchanged_again_named :
    ∃ copy stored, copied reviewKind (some originalListing) = .ok copy ∧
      Entries.get? (reviewTarget.slot reviewKind) (pass namedListing listingMemory).2.objects =
        some stored ∧ FieldsSettled copy stored namedListing := by
  have hkind : checkedKind namedListing = .ok reviewKind := by decide +kernel
  have hrendered : renderDeclaration reviewEngine .empty namedListing = .ok namedListing := by
    decide +kernel
  have hgiven : LeavesGiven namedListing := by
    intro v hv
    cases hv
    exact ⟨⟨_, rfl⟩, by decide⟩
  have hfirst : pass namedListing listingMemory =
      (.ok ⟨.created, "v1 ConfigMap: \"pr-1\""⟩, (pass namedListing listingMemory).2) :=
    Prod.fst_eq_iff.1 (by decide +kernel)
  have hagain : pass namedListing (pass namedListing listingMemory).2 =
      (.ok ⟨.unchanged, "v1 ConfigMap: \"pr-1\""⟩,
        (pass namedListing (pass namedListing listingMemory).2).2) :=
    Prod.fst_eq_iff.1 (by decide +kernel)
  obtain ⟨copy, stored, second, hok, hcopied, hfound, hiff, -⟩ :=
    unchanged_again_iff_settled (s := listingMemory) hkind hrendered (by decide)
      (ClusterStep.keepsKind_of_render hrendered) (by decide) hgiven (by decide)
      hfirst hagain fun _ _ _ => rfl
  cases hok
  exact ⟨copy, stored, hcopied, hfound, hiff.1 rfl⟩

end PreviewEnv
