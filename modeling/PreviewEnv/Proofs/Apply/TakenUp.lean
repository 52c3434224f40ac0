import PreviewEnv.Proofs.Apply.Copying
import PreviewEnv.Proofs.Apply.Stored
import PreviewEnv.Proofs.Merge.Rebase

/-!
An object that has been built from a declaration and kept is built over when the
declaration is applied again. It comes out the same exactly when each of its
fields is settled.
-/

namespace PreviewEnv.Patch

open PreviewEnv.Tree

variable {kind : GroupVersionKind} {applied : Option Tree} {rendered start stored object t u : Tree}
  {target : Target} {path : List String} {m : Matching}

/-- The path of a field: a key at the top other than that of the metadata, or a key in the
metadata. -/
def IsField (path : List String) : Prop :=
  (∃ k, k ≠ "metadata" ∧ path = [k]) ∨ ∃ k, path = ["metadata", k]

/-- The object is a map, and so is its metadata. -/
def HasMetadata (t : Tree) : Prop := (∃ es, t = map es) ∧ ∃ fs, t.child "metadata" = map fs

/-- Objects with metadata are compared field by field. -/
theorem canonical_eq_iff_fields (ht : t.Ordered) (hu : u.Ordered) (htm : HasMetadata t)
    (hum : HasMetadata u) :
    canonical t = canonical u ↔
      ∀ path, IsField path → canonical (within path t) = canonical (within path u) := by
  rw [canonical_eq_iff_child ht hu htm.1 hum.1]
  have hmetadata := canonical_eq_iff_child (ht.child "metadata") (hu.child "metadata") htm.2 hum.2
  constructor
  · rintro h path (⟨k, -, rfl⟩ | ⟨k, rfl⟩)
    · exact h k
    · exact hmetadata.1 (h "metadata") k
  · intro h k
    by_cases hk : k = "metadata"
    · subst hk
      exact hmetadata.2 fun j => h ["metadata", j] (.inr ⟨j, rfl⟩)
    · exact h [k] (.inl ⟨k, hk, rfl⟩)

/-- A field is apart from other fields of the metadata. -/
theorem IsField.disjoint {fields : List (List String)} (h : IsField path) (hp : path ∉ fields)
    (hfields : ∀ field ∈ fields, ∃ k, field = ["metadata", k]) :
    ∀ field ∈ fields, ¬ field <+: path ∧ ¬ path <+: field := by
  intro field hf
  obtain ⟨j, rfl⟩ := hfields field hf
  rcases h with ⟨k, hk, rfl⟩ | ⟨k, rfl⟩
  · simp [List.cons_prefix_cons, hk, Ne.symm hk]
  · have hj : j ≠ k := by
      rintro rfl
      exact hp hf
    simp [List.cons_prefix_cons, hj, hj.symm]

theorem givenFields_in_metadata : ∀ field ∈ givenFields, ∃ k, field = ["metadata", k] := by
  simp [givenFields]

theorem unforced_of_isField (h : IsField path) (hp : path ∉ forcedFields) : Unforced path := by
  refine ⟨?_, fun field hf => (h.disjoint hp forcedFields_in_metadata field hf).1⟩
  rintro rfl
  rcases h with ⟨k, hk, he⟩ | ⟨k, he⟩
  · exact hk (List.cons.inj he).1.symm
  · cases he

theorem IsField.ne_nil (h : IsField path) : path ≠ [] := by
  rintro rfl
  rcases h with ⟨k, -, he⟩ | ⟨k, he⟩ <;> cases he

/-- In a field is what the patch has there laid over what the base has there. -/
theorem within_overlay_field {b p : Tree} (hp : p.Ordered) (hmap : ∃ fs, p = map fs)
    (hmetadata : ∀ v, p.get? "metadata" = some v → ∃ fs, v = map fs) (h : IsField path) :
    within path (overlay m b p) = patched m (within path b) (p.at? path) := by
  obtain ⟨gs, rfl⟩ := hmap
  rcases h with ⟨k, -, rfl⟩ | ⟨k, rfl⟩
  · have hat : (map gs).at? [k] = Entries.get? k gs := by
      rw [at?, get?_map]
      cases Entries.get? k gs <;> rfl
    rw [within_cons, within_nil, child_overlay hp, hat]
    rfl
  · rw [within_cons, within_cons, within_nil, child_overlay hp, at?, get?_map]
    cases hg : Entries.get? "metadata" gs with
    | none => rfl
    | some v =>
      obtain ⟨fs, rfl⟩ := hmetadata v hg
      rw [patched_some, child_overlay (hp.get? hg), Option.bind_some, at?, get?_map]
      cases Entries.get? k fs <;> rfl

theorem ordered_blocking (o : OwnerReference) : o.blocking.Ordered := by
  have hkeys : ["apiVersion", "blockOwnerDeletion", "controller", "kind", "name",
      "uid"].Pairwise (· < ·) := by decide
  rw [OwnerReference.blocking, ordered_map, Entries.ordered_iff_keys]
  exact ⟨hkeys, by simp [Ordered]⟩

theorem ordered_adopted (ht : t.Ordered) : (adopted target t).Ordered := by
  have howner : (arr [target.owner.blocking]).Ordered :=
    ordered_arr.2 (by simpa using ordered_blocking target.owner)
  exact ((ht.put (ordered_str _) _).put (ordered_str _) _).put howner _

theorem hasMetadata_put {k : String} {v : Tree} : HasMetadata (t.put ["metadata", k] v) := by
  refine ⟨⟨_, put_cons _⟩, ?_⟩
  rw [child_put, if_pos rfl, put_cons]
  exact ⟨_, rfl⟩

theorem hasMetadata_adopted : HasMetadata (adopted target t) := by
  rw [adopted]
  exact hasMetadata_put

theorem hasMetadata_whole (h : HasMetadata t) : HasMetadata (whole t) := by
  obtain ⟨⟨es, rfl⟩, fs, hfs⟩ := h
  refine ⟨⟨_, rfl⟩, wholeEntries fs, ?_⟩
  rw [child_whole, hfs, whole]

/-- The fields that adopting an object sets do not depend on the object. -/
theorem within_adopted_forced (h : path ∈ forcedFields) :
    within path (adopted target t) = within path (adopted target u) := by
  simp only [forcedFields, List.mem_cons, List.not_mem_nil, or_false] at h
  rcases h with rfl | rfl | rfl
  · rw [name_adopted, name_adopted]
  · rw [ns_adopted, ns_adopted]
  · rw [owner_adopted, owner_adopted]

/-- The metadata is absent, or a map without what the cluster gives to an object. -/
def LeavesGiven (rendered : Tree) : Prop :=
  ∀ v, rendered.get? "metadata" = some v →
    (∃ fs, v = map fs) ∧ ∀ path ∈ givenFields, rendered.at? path = none

theorem LeavesGiven.at? (h : LeavesGiven rendered) (hp : path ∈ givenFields) :
    rendered.at? path = none := by
  cases hg : rendered.get? "metadata" with
  | some v => exact (h v hg).2 path hp
  | none =>
    simp only [givenFields, List.mem_cons, List.not_mem_nil, or_false] at hp
    rcases hp with rfl | rfl | rfl <;> rw [Tree.at?, hg] <;> rfl

/-- The object bears what its target forces on it, and has absorbed all that the declaration says in
its other fields. -/
structure TakenUp (target : Target) (rendered stored : Tree) : Prop where
  ordered : stored.Ordered
  hasMetadata : HasMetadata stored
  forced : ∀ path ∈ forcedFields,
    canonical (within path stored) = canonical (within path (adopted target null))
  absorbs : ∀ path, IsField path → path ∉ forcedFields →
    Tree.Absorbs (within path stored) (rendered.at? path)

/-- What is kept of a built object has taken up its declaration. -/
theorem takenUp_of_same (hr : rendered.Ordered) (hmap : ∃ fs, rendered = map fs)
    (hgiven : LeavesGiven rendered) (hstart : start.Ordered) (happlied : ∀ a ∈ applied, a.Ordered)
    (hobject : object = whole (adopted target (laid start applied rendered)))
    (hordered : stored.Ordered) (hmetadata : HasMetadata stored)
    (hsame : ∀ path, IsField path → path ∉ givenFields →
      canonical (within path stored) = canonical (within path object)) :
    TakenUp target rendered stored where
  ordered := hordered
  hasMetadata := hmetadata
  forced path hp := by
    have hfield : IsField path ∧ path ∉ givenFields := by
      simp only [forcedFields, List.mem_cons, List.not_mem_nil, or_false] at hp
      rcases hp with rfl | rfl | rfl <;> exact ⟨.inr ⟨_, rfl⟩, by decide⟩
    rw [hsame path hfield.1 hfield.2, hobject, within_whole, within_adopted_forced hp (u := null),
      canonical_whole ((ordered_adopted ordered_null).within path)]
  absorbs path hfield hforced := by
    by_cases hp : path ∈ givenFields
    · rw [hgiven.at? hp]
      rfl
    · have hpath := unforced_of_isField hfield hforced
      have hbase : (within path (patched .byName start applied)).Ordered :=
        (hstart.patched happlied).within path
      have hpatch : ∀ p ∈ rendered.at? path, p.Ordered := fun p hp => hr.at? hp
      -- The field of what is kept is the overlay of what the declaration has there.
      have hkept : canonical (within path stored) = canonical
          (patched .byName (within path (patched .byName start applied)) (rendered.at? path)) := by
        rw [hsame path hfield hp, within_built hobject hpath hfield.ne_nil, laid,
          within_overlay_field hr hmap (fun v hv => (hgiven v hv).1) hfield,
          canonical_whole (hbase.patched hpatch)]
      rw [Tree.Absorbs,
        canonical_patched hpatch (hordered.within path) (hbase.patched hpatch) hkept,
        patched_idem hpatch hbase, hkept]

/-- Laying a declaration over an object that has taken it up leaves room for metadata. -/
theorem hasRoom_laid (h : TakenUp target rendered stored) (hr : rendered.Ordered)
    (hmap : ∃ fs, rendered = map fs) (hgiven : LeavesGiven rendered) :
    hasRoom (laid start (some stored) rendered) = true := by
  have hname : within ["metadata", "name"] stored ≠ null := by
    intro hnull
    have hforced := h.forced ["metadata", "name"] (by decide)
    rw [name_adopted, hnull, canonical_null] at hforced
    cases hforced
  have hbase : hasRoom (patched .byName start (some stored)) = true :=
    hasRoom_overlay h.ordered hname
  refine (hasRoom_laid_iff hbase hr hmap).2 fun v hv => ?_
  obtain ⟨⟨vs, rfl⟩, -⟩ := hgiven v hv
  rfl

/-- Building over an object that has taken up its declaration gives it again exactly when each of
its fields is settled between what is copied from the original and what the declaration says. -/
theorem equal_built_iff (h : TakenUp target rendered stored) (hr : rendered.Ordered)
    (hmap : ∃ fs, rendered = map fs) (hgiven : LeavesGiven rendered) (hstart : start.Ordered) :
    (whole (adopted target (laid start (some stored) rendered))).equal stored = true ↔
      ∀ path, IsField path → path ∉ forcedFields →
        Settled (within path start) (stored.at? path) (rendered.at? path) := by
  have hstored := h.ordered
  have hlaid : (laid start (some stored) rendered).Ordered := (hstart.overlay hstored).overlay hr
  rw [equal_iff_canonical (ordered_adopted hlaid).whole hstored,
    canonical_eq_iff_fields (ordered_adopted hlaid).whole hstored
      (hasMetadata_whole hasMetadata_adopted) h.hasMetadata]
  have hforced : ∀ path ∈ forcedFields,
      canonical (within path (whole (adopted target (laid start (some stored) rendered)))) =
        canonical (within path stored) := by
    intro path hp
    rw [h.forced path hp, within_whole, within_adopted_forced hp (u := null),
      canonical_whole ((ordered_adopted ordered_null).within path)]
  have hfree : ∀ path, IsField path → path ∉ forcedFields →
      (canonical (within path (whole (adopted target (laid start (some stored) rendered)))) =
          canonical (within path stored) ↔
        Settled (within path start) (stored.at? path) (rendered.at? path)) := by
    intro path hfield hp
    have habs := h.absorbs path hfield hp
    rw [within_eq_at?] at habs
    obtain ⟨ss, hss⟩ := h.hasMetadata.1
    have hmetadata : ∀ v, stored.get? "metadata" = some v → ∃ fs, v = map fs := by
      intro v hv
      obtain ⟨fs, hfs⟩ := h.hasMetadata.2
      rw [child, hv] at hfs
      exact ⟨fs, hfs⟩
    have hbase : (patched .byName (within path start) (stored.at? path)).Ordered :=
      (hstart.within path).patched fun v hv => hstored.at? hv
    rw [← stable_iff_settled habs (hstart.within path) (fun v hv => hstored.at? hv)
      (fun p hp => hr.at? hp), Stable, ← within_eq_at?,
      within_built rfl (unforced_of_isField hfield hp) hfield.ne_nil, laid, patched_some,
      within_overlay_field hr hmap (fun v hv => (hgiven v hv).1) hfield,
      within_overlay_field hstored ⟨ss, hss⟩ hmetadata hfield,
      canonical_whole (hbase.patched fun p hp => hr.at? hp)]
  constructor
  · intro hall path hfield hp
    exact (hfree path hfield hp).1 (hall path hfield)
  · intro hall path hfield
    by_cases hp : path ∈ forcedFields
    · exact hforced path hp
    · exact (hfree path hfield hp).2 (hall path hfield hp)

end PreviewEnv.Patch
