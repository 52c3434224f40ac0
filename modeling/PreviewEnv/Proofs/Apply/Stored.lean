import Mathlib.Data.List.TakeWhile
import PreviewEnv.Proofs.Apply.Calls
import PreviewEnv.Proofs.Apply.Precedence

namespace PreviewEnv

open PreviewEnv.Tree

variable {kind : GroupVersionKind} {engine : Template.Engine}
  {context declaration rendered built t : Tree} {target : Target} {path : List String}
  {s group version key : String} {original applied : Option Tree}

/-- The group of an object is the one that its API version splits into. -/
theorem groupOf_eq
    (h : GroupVersionKind.splitApiVersion? (t.textAt ["apiVersion"]) = some (group, version)) :
    GroupVersionKind.groupOf t = group := by
  simp only [GroupVersionKind.splitApiVersion?] at h
  simp only [GroupVersionKind.groupOf]
  generalize (t.textAt ["apiVersion"]).toList = cs at h ⊢
  cases hrest : cs.dropWhile (· ≠ '/') with
  | nil =>
    have hnone : '/' ∉ cs := fun hmem => by
      have := List.dropWhile_eq_nil_iff.1 hrest '/' hmem
      simp at this
    simp only [hrest, Option.ite_none_right_eq_some, Option.some.injEq, Prod.mk.injEq] at h
    simp [hnone, h.2.1]
  | cons c rest =>
    have hsome : '/' ∈ cs := by
      by_contra hnone
      have hnil : cs.dropWhile (· ≠ '/') = [] := List.dropWhile_eq_nil_iff.2 fun x hx => by
        have : x ≠ '/' := fun he => hnone (he ▸ hx)
        simp [this]
      rw [hrest] at hnil
      cases hnil
    simp only [hrest, Option.ite_none_right_eq_some, Option.some.injEq, Prod.mk.injEq] at h
    simp [hsome, ← h.2.1]

/-- An API version is put together from the parts that it splits into. -/
theorem apiVersion_of_split
    (h : GroupVersionKind.splitApiVersion? s = some (kind.group, kind.version)) :
    kind.apiVersion = s := by
  have hparts : s.toList.takeWhile (· ≠ '/') ++ s.toList.dropWhile (· ≠ '/') = s.toList :=
    List.takeWhile_append_dropWhile
  simp only [GroupVersionKind.splitApiVersion?] at h
  cases hrest : s.toList.dropWhile (· ≠ '/') with
  | nil =>
    simp only [hrest, Option.ite_none_right_eq_some, Option.some.injEq, Prod.mk.injEq] at h
    simp [GroupVersionKind.apiVersion, ← h.2.1, ← h.2.2]
  | cons c rest =>
    have hslash : c = '/' := by
      have hhead := List.head?_dropWhile_not (fun c => decide (c ≠ '/')) s.toList
      rw [hrest] at hhead
      simpa using hhead
    subst hslash
    simp only [hrest, Option.ite_none_right_eq_some, Option.some.injEq, Prod.mk.injEq,
      Bool.and_eq_true] at h
    obtain ⟨⟨hgroup, -⟩, hg, hv⟩ := h
    have hne : kind.group.isEmpty = false := by
      rw [← hg]
      simpa using hgroup
    rw [GroupVersionKind.apiVersion, hne, ← hg, ← hv]
    apply String.toList_injective
    simp [← hrest]

/-- The kind of a declaration is what its fields say. -/
theorem fields_of_checkedKind (h : checkedKind declaration = .ok kind) :
    GroupVersionKind.splitApiVersion? (declaration.textAt ["apiVersion"]) =
        some (kind.group, kind.version) ∧
      declaration.textAt ["kind"] = kind.kind ∧ kind.kind ≠ "" := by
  obtain ⟨es, rfl⟩ := exists_map_of_checkedKind h
  simp only [checkedKind, declaredKind] at h
  cases hsplit : GroupVersionKind.splitApiVersion? ((map es).textAt ["apiVersion"]) with
  | none => simp [hsplit] at h
  | some parts =>
    obtain ⟨group, version⟩ := parts
    simp only [hsplit] at h
    split at h
    · cases h
    · next hkind =>
      cases h
      refine ⟨rfl, rfl, fun he => hkind ?_⟩
      rw [String.isEmpty_iff]
      exact he

/-- Rendering leaves the API version and the kind of the declaration as they are. -/
def KeepsKind (engine : Template.Engine) (context declaration : Tree) : Prop :=
  ∀ rendered, renderDeclaration engine context declaration = .ok rendered →
    ∀ key ∈ ["apiVersion", "kind"], rendered.textAt [key] = declaration.textAt [key]

/-- The declaration is read from a manifest, and rendering leaves its API version and its kind as
they are. -/
structure IsFit (engine : Template.Engine) (context declaration : Tree) : Prop where
  ordered : declaration.Ordered
  keepsKind : KeepsKind engine context declaration

/-- What the object says of its kind is what the rendered declaration says. -/
theorem textAt_built (hkind : checkedKind declaration = .ok kind)
    (hrendered : renderDeclaration engine context declaration = .ok rendered)
    (hd : declaration.Ordered)
    (hbuilt : Patch.build kind original applied rendered target = .ok built)
    (hkey : key ∈ ["apiVersion", "kind"]) : built.textAt [key] = rendered.textAt [key] := by
  obtain ⟨start, -, -, hb⟩ := Patch.build_eq_ok_iff.1 hbuilt
  obtain ⟨es, rfl⟩ := exists_map_of_checkedKind hkind
  obtain ⟨hsplit, hname, hne⟩ := fields_of_checkedKind hkind
  have htext : (map es).textAt [key] ≠ "" := by
    intro he
    rcases List.mem_cons.1 hkey with rfl | hkey
    · rw [he] at hsplit
      cases hsplit
    · cases List.mem_singleton.1 hkey
      exact hne (hname.symm.trans he)
  have hdeclared : Entries.get? key es = some (str ((map es).textAt [key])) := by
    have hat := at?_of_textAt htext
    rw [at?, get?_map] at hat
    obtain ⟨v, hv, h⟩ := Option.bind_eq_some_iff.1 hat
    rw [hv, Option.some.inj h]
  obtain ⟨text, hat⟩ := exists_str_of_rendered hrendered hdeclared
  have hpath : Patch.Unforced [key] := by
    simp only [List.mem_cons, List.not_mem_nil, or_false] at hkey
    rcases hkey with rfl | rfl <;> decide
  have hw := Patch.within_built hb hpath (by simp)
  rw [Patch.laid, within_overlay_of_at? (Ordered.of_render hrendered hd) rfl hat, whole_str] at hw
  rw [textAt_eq_within, textAt_eq_within, hw, within_of_at? hat]

/-- An object is kept where its rendered declaration and its target say. -/
theorem ofObject_eq_of_built (hkind : checkedKind declaration = .ok kind)
    (hrendered : renderDeclaration engine context declaration = .ok rendered)
    (hd : declaration.Ordered)
    (hbuilt : Patch.build kind original applied rendered target = .ok built) :
    ObjectKey.ofObject built =
      ⟨GroupVersionKind.groupOf rendered, rendered.textAt ["kind"], target.ns, target.name⟩ := by
  have hversion : built.textAt ["apiVersion"] = rendered.textAt ["apiVersion"] :=
    textAt_built hkind hrendered hd hbuilt (by simp)
  have hkindText : built.textAt ["kind"] = rendered.textAt ["kind"] :=
    textAt_built hkind hrendered hd hbuilt (by simp)
  obtain ⟨start, -, -, hb⟩ := Patch.build_eq_ok_iff.1 hbuilt
  rw [ObjectKey.ofObject, GroupVersionKind.groupOf, hversion, hkindText, textAt_eq_within _ built,
    textAt_eq_within _ built, hb, within_whole, within_whole, Patch.name_adopted, Patch.ns_adopted]
  rfl

/-- An object is kept where its declaration and its target say. -/
theorem ofObject_built (hkind : checkedKind declaration = .ok kind)
    (hrendered : renderDeclaration engine context declaration = .ok rendered)
    (hd : declaration.Ordered) (hkeep : KeepsKind engine context declaration)
    (hbuilt : Patch.build kind original applied rendered target = .ok built) :
    ObjectKey.ofObject built = target.slot kind := by
  obtain ⟨hsplit, hname, -⟩ := fields_of_checkedKind hkind
  rw [ofObject_eq_of_built hkind hrendered hd hbuilt, Target.slot,
    hkeep rendered hrendered "kind" (by simp), hname]
  rw [← hkeep rendered hrendered "apiVersion" (by simp)] at hsplit
  rw [groupOf_eq hsplit]

/-- The metadata that the cluster in memory gives to an object. -/
def givenFields : List (List String) :=
  [["metadata", "uid"], ["metadata", "resourceVersion"], ["metadata", "creationTimestamp"]]

/-- An object as it is kept: as one that has been created, or as one that has been updated. -/
def KeptAs (object stored : Tree) : Prop :=
  stored = Objects.created object ∨ stored = Objects.updated object

/-- Keeping an object adds to its metadata and changes nothing else. -/
theorem within_kept {object stored : Tree} (h : KeptAs object stored)
    (hp : ∀ field ∈ givenFields, ¬ field <+: path ∧ ¬ path <+: field) :
    within path stored = within path object := by
  simp only [givenFields, List.forall_mem_cons] at hp
  obtain ⟨huid, hversion, hcreation, -⟩ := hp
  rcases h with rfl | rfl
  · rw [Objects.created, Objects.identified, within_put_of_disjoint hcreation.1 hcreation.2,
      within_put_of_disjoint hversion.1 hversion.2, within_put_of_disjoint huid.1 huid.2]
  · rw [Objects.updated, within_put_of_disjoint hversion.1 hversion.2]

/-- A value of the object in which there is no float is in what is kept, at a path that the cluster
does not write. -/
theorem at?_kept {object stored v : Tree} (h : KeptAs object stored) (hobject : object = whole t)
    (hv : within path t = v) (hwhole : whole v = v) (hnull : v ≠ null)
    (hp : ∀ field ∈ givenFields, ¬ field <+: path ∧ ¬ path <+: field) :
    stored.at? path = some v := by
  rw [at?_eq_some_iff hnull, within_kept h hp, hobject, within_whole, hv, hwhole]

theorem ofObject_kept {object stored : Tree} (h : KeptAs object stored) :
    ObjectKey.ofObject stored = ObjectKey.ofObject object := by
  simp only [ObjectKey.ofObject, GroupVersionKind.groupOf, textAt_eq_within]
  rw [within_kept h (by decide), within_kept h (by decide), within_kept h (by decide),
    within_kept h (by decide)]

end PreviewEnv
