import PreviewEnv.Proofs.Apply.Build
import PreviewEnv.Proofs.Apply.Rendering
import PreviewEnv.Proofs.Merge.Paths
import PreviewEnv.Template.Page

namespace PreviewEnv.Patch

open PreviewEnv.Tree

variable {kind : GroupVersionKind} {original applied : Option Tree} {engine : Template.Engine}
  {context declaration rendered copy built t s : Tree} {target : Target} {path : List String}

/-- The path is neither that of the metadata itself nor in one of the fields that adopting an object
sets. -/
def Unforced (path : List String) : Prop :=
  path ≠ ["metadata"] ∧ ∀ field ∈ forcedFields, ¬ field <+: path

instance : Decidable (Unforced path) := inferInstanceAs (Decidable (_ ∧ _))

theorem eq_of_prefix_pair {j k : String} (h : path <+: [j, k]) :
    path = [] ∨ path = [j] ∨ [j, k] <+: path := by
  obtain ⟨rest, hrest⟩ := h
  match path with
  | [] => exact .inl rfl
  | [_] =>
    cases hrest
    exact .inr (.inl rfl)
  | _ :: _ :: keys =>
    obtain ⟨rfl, rest⟩ := List.cons.inj hrest
    obtain ⟨rfl, -⟩ := List.cons.inj rest
    exact .inr (.inr ⟨keys, rfl⟩)

/-- A path that is in none of these fields of the metadata is apart from them, unless it is on the
way to them. -/
theorem disjoint_of_in_metadata {fields : List (List String)}
    (hfields : ∀ field ∈ fields, ∃ k, field = ["metadata", k]) (hne : path ≠ [])
    (hmetadata : path ≠ ["metadata"]) (h : ∀ field ∈ fields, ¬ field <+: path) :
    ∀ field ∈ fields, ¬ field <+: path ∧ ¬ path <+: field := by
  intro field hf
  refine ⟨h field hf, fun hp => ?_⟩
  obtain ⟨k, rfl⟩ := hfields field hf
  rcases eq_of_prefix_pair hp with rfl | rfl | hself
  · exact hne rfl
  · exact hmetadata rfl
  · exact h _ hf hself

theorem forcedFields_in_metadata : ∀ field ∈ forcedFields, ∃ k, field = ["metadata", k] := by
  simp [forcedFields]

/-- Off the fields that adopting sets, the object is what the three trees laid over each other
are. -/
theorem within_built (h : built = whole (adopted target t)) (hp : Unforced path) (hne : path ≠ []) :
    within path built = whole (within path t) := by
  rw [h, within_whole,
    within_adopted (disjoint_of_in_metadata forcedFields_in_metadata hne hp.1 hp.2)]

theorem at?_built (h : built = whole (adopted target t)) (hp : Unforced path) (hne : path ≠ [])
    (hs : s.isScalar = true) (hn : s ≠ null) (ht : within path t = s) :
    built.at? path = some s.wholeNumber := by
  rw [at?_eq_some_iff (mt wholeNumber_eq_null.1 hn), within_built h hp hne, ht, whole_scalar hs]

/-- Where a declaration says something its scalar is in the object, and its null clears; where it
has a map without the next key the scalar of the applied object stays; and where that has one too,
or there is none, the scalar of the original, without what is its own. -/
theorem built_precedence (hkind : checkedKind declaration = .ok kind)
    (hrendered : renderDeclaration engine context declaration = .ok rendered)
    (hdeclaration : declaration.Ordered) (happlied : ∀ a ∈ applied, a.Ordered)
    (hcopy : copied kind original = .ok copy)
    (hbuilt : build kind original applied rendered target = .ok built) (hpath : Unforced path) :
    (∀ s, s.isScalar = true → s ≠ null → rendered.at? path = some s →
      built.at? path = some s.wholeNumber) ∧
    (rendered.at? path = some null → ∀ v, built.at? path = some v → v = null) ∧
    (∀ a ∈ applied, ∀ s, s.isScalar = true → s ≠ null → LeavesAlone path rendered →
      a.at? path = some s → built.at? path = some s.wholeNumber) ∧
    (∀ s, s.isScalar = true → s ≠ null → LeavesAlone path rendered →
      (∀ a ∈ applied, LeavesAlone path a) → copy.at? path = some s →
      built.at? path = some s.wholeNumber) := by
  obtain ⟨es, rfl⟩ := exists_map_of_checkedKind hkind
  obtain ⟨fs, rfl⟩ := exists_map_of_rendered hrendered
  have hr : (map fs).Ordered := Ordered.of_render hrendered hdeclaration
  obtain ⟨start, hstart, -, hb⟩ := build_eq_ok_iff.1 hbuilt
  cases hcopy.symm.trans hstart
  -- A rendered declaration is a map, so nothing else is at its top.
  have hne {s : Tree} (hs : s.isScalar = true) (hat : (map fs).at? path = some s) : path ≠ [] := by
    rintro rfl
    cases Option.some.inj hat
    cases hs
  have hne' (hl : LeavesAlone path (map fs)) : path ≠ [] := by
    rintro rfl
    exact not_leavesAlone_nil _ hl
  refine ⟨?_, ?_, ?_, ?_⟩
  · intro s hs hn hat
    exact at?_built hb hpath (hne hs hat) hs hn (within_overlay_of_at? hr hs hat)
  · intro hat v hv
    have hnull := within_built hb hpath (hne rfl hat)
    rw [laid, within_overlay_of_at? hr rfl hat] at hnull
    rw [← within_of_at? hv, hnull]
    rfl
  · intro a ha s hs hn hl hat
    apply at?_built hb hpath (hne' hl) hs hn
    cases Option.mem_def.1 ha
    rw [laid, within_overlay_of_leavesAlone hr hl, patched_some,
      within_overlay_of_at? (happlied a ha) hs hat]
  · intro s hs hn hl hla hat
    apply at?_built hb hpath (hne' hl) hs hn
    rw [laid, within_overlay_of_leavesAlone hr hl]
    cases applied with
    | none => exact within_of_at? hat
    | some a =>
      rw [patched_some, within_overlay_of_leavesAlone (happlied a rfl) (hla a rfl)]
      exact within_of_at? hat

/-- A config map with the given data. -/
def configMap (data : List (String × Tree)) : Tree := .map [
  ("apiVersion", .str "v1"),
  ("data", .map data),
  ("kind", .str "ConfigMap"),
  ("metadata", .map [("name", .str "settings")])]

/-- The engine that words its faults in full. -/
def reviewEngine : Template.Engine := Template.page .full

def reviewTarget : Target := ⟨"pr-1", "review", ⟨"v1", "Owner", "set", "u-1"⟩⟩

def reviewKind : GroupVersionKind := ⟨"", "v1", "ConfigMap"⟩

def declaredSettings : Tree := configMap [("cleared", .null), ("size", .int 3)]

def appliedSettings : Tree := configMap [("edited", .bool true), ("size", .int 2)]

def originalSettings : Tree := configMap [("edited", .bool false), ("left", .str "over")]

def builtSettings : Tree := .map [
  ("apiVersion", .str "v1"),
  ("data", .map [("edited", .bool true), ("left", .str "over"), ("size", .int 3)]),
  ("kind", .str "ConfigMap"),
  ("metadata", .map [
    ("name", .str "pr-1"),
    ("namespace", .str "review"),
    ("ownerReferences", .arr [reviewTarget.owner.blocking])])]

theorem built_precedence_settings :
    checkedKind declaredSettings = .ok reviewKind ∧
      renderDeclaration reviewEngine .empty declaredSettings = .ok declaredSettings ∧
      build reviewKind (some originalSettings) (some appliedSettings) declaredSettings
        reviewTarget = .ok builtSettings ∧
      builtSettings.at? ["data", "edited"] = some (.bool true) := by
  have hkind : checkedKind declaredSettings = .ok reviewKind := by decide +kernel
  have hrendered :
      renderDeclaration reviewEngine .empty declaredSettings = .ok declaredSettings := by
    decide +kernel
  have hbuilt : build reviewKind (some originalSettings) (some appliedSettings) declaredSettings
      reviewTarget = .ok builtSettings := by decide +kernel
  have hcopy : copied reviewKind (some originalSettings) = .ok originalSettings := by
    decide +kernel
  have hleft : LeavesAlone ["data", "edited"] declaredSettings :=
    ⟨["data"], "edited", [], _, rfl, rfl, by decide⟩
  have hprecedence := built_precedence hkind hrendered (by decide)
    (fun a ha => by cases ha; decide) hcopy hbuilt (by decide : Unforced ["data", "edited"])
  exact ⟨hkind, hrendered, hbuilt,
    hprecedence.2.2.1 appliedSettings rfl (.bool true) rfl (by decide) hleft (by decide)⟩

end PreviewEnv.Patch
