import PreviewEnv.Proofs.Merge.Overlay

namespace PreviewEnv

namespace Tree

variable {m : Matching} {b p v : Tree} {k : String} {path ks : List String}

/-- On the way to the end of the path there is a map without the next key. -/
def LeavesAlone (path : List String) (t : Tree) : Prop :=
  ∃ keys key rest es, path = keys ++ key :: rest ∧ t.at? keys = some (map es) ∧
    Entries.get? key es = none

theorem not_leavesAlone_nil (t : Tree) : ¬ LeavesAlone [] t := by
  rintro ⟨keys, key, rest, es, h, -⟩
  cases keys <;> cases h

/-- The map is at the top or further on. -/
theorem leavesAlone_cons {t : Tree} :
    LeavesAlone (k :: ks) t ↔
      ∃ es, t = map es ∧ ∀ v, Entries.get? k es = some v → LeavesAlone ks v := by
  constructor
  · rintro ⟨keys, key, rest, es, hpath, hat, hnone⟩
    cases keys with
    | nil =>
      obtain ⟨rfl, rfl⟩ := List.cons.inj hpath
      refine ⟨es, Option.some.inj hat, fun v hv => ?_⟩
      rw [hnone] at hv
      cases hv
    | cons j keys =>
      obtain ⟨rfl, rfl⟩ := List.cons.inj hpath
      obtain ⟨u, hu, hrest⟩ := Option.bind_eq_some_iff.1 hat
      cases t with
      | map fs =>
        refine ⟨fs, rfl, fun v hv => ?_⟩
        rw [get?_map, hv] at hu
        cases hu
        exact ⟨keys, key, rest, es, rfl, hrest, hnone⟩
      | _ => cases hu
  · rintro ⟨es, rfl, h⟩
    cases hg : Entries.get? k es with
    | none => exact ⟨[], k, ks, es, rfl, rfl, hg⟩
    | some v =>
      obtain ⟨keys, key, rest, fs, rfl, hat, hnone⟩ := h v hg
      exact ⟨k :: keys, key, rest, fs, rfl, by rw [at?, get?_map, hg]; exact hat, hnone⟩

/-- A scalar of the patch wins, null included. -/
theorem within_overlay_of_at? (hp : p.Ordered) (hv : v.isScalar = true)
    (h : p.at? path = some v) : within path (overlay m b p) = v := by
  induction path generalizing b p with
  | nil =>
    cases Option.some.inj h
    rw [within_nil, overlay_scalar hv]
  | cons k ks ih =>
    obtain ⟨u, hu, hat⟩ := Option.bind_eq_some_iff.1 h
    cases p with
    | map fs =>
      rw [get?_map] at hu
      rw [within_cons, child_overlay hp, hu, patched_some]
      exact ih (hp.get? hu) hat
    | _ => cases hu

/-- Where the patch has a map without the next key, what the base has from there on stays. -/
theorem within_overlay_of_leavesAlone (hp : p.Ordered) (h : LeavesAlone path p) :
    within path (overlay m b p) = within path b := by
  induction path generalizing b p with
  | nil => exact absurd h (not_leavesAlone_nil p)
  | cons k ks ih =>
    obtain ⟨fs, rfl, hnext⟩ := leavesAlone_cons.1 h
    rw [within_cons, child_overlay hp, within_cons]
    cases hg : Entries.get? k fs with
    | none => rfl
    | some u => exact ih (hp.get? hg) (hnext u hg)

theorem get?_overlay_arr {ps : List Tree} : (overlay m b (arr ps)).get? k = none := by
  cases b with
  | arr bs =>
    rw [overlay]
    split <;> rfl
  | _ => rfl

/-- A key that neither has is not in the overlay. -/
theorem get?_overlay_eq_none (hp : p.Ordered) (hb : b.get? k = none) (h : p.get? k = none) :
    (overlay m b p).get? k = none := by
  cases p with
  | map fs =>
    cases b with
    | map es =>
      rw [get?_map] at h
      rw [overlay, get?_map, get?_overlayEntries (ordered_map.1 hp).1, h]
      exact hb
    | null => rwa [overlay_null_left]
    | _ =>
      simp only [overlay]
      split
      · rfl
      · exact h
  | arr ps => exact get?_overlay_arr
  | _ => rfl

/-- At the end of the path the patch says nothing, or is laid over what is there, or is alone. -/
theorem within_overlay_cases (path : List String) (hp : p.Ordered) :
    within path (overlay m b p) = within path b ∧ within path p = null ∨
      within path (overlay m b p) = overlay m (within path b) (within path p) ∨
      within path (overlay m b p) = within path p := by
  induction path generalizing b p with
  | nil => exact .inr (.inl rfl)
  | cons k ks ih =>
    cases p with
    | map fs =>
      rw [within_cons, within_cons, within_cons, child_overlay hp, child_map]
      cases hg : Entries.get? k fs with
      | none => exact .inl ⟨rfl, within_null ks⟩
      | some v => exact ih (hp.get? hg)
    | arr ps =>
      right
      right
      rw [within_cons, child, get?_overlay_arr]
      rfl
    | _ => exact .inr (.inr rfl)

/-- Where the base has nothing, there is what the patch has. -/
theorem within_overlay_of_null (hp : p.Ordered) (hb : within path b = null) :
    within path (overlay m b p) = within path p := by
  rcases within_overlay_cases (m := m) (b := b) path hp with ⟨hbase, hnull⟩ | hover | hpatch
  · rw [hbase, hb, hnull]
  · rw [hover, hb, overlay_null_left]
  · exact hpatch

/-- What is under a key of the patch is laid over what the base has there; a null only takes out an
entry if the base is a map. -/
theorem get?_overlay_of_get? (hp : p.Ordered) (h : p.get? k = some v) :
    (overlay m b p).get? k =
      if b.isMap = true ∧ v = null then none else some (overlay m (b.child k) v) := by
  cases p with
  | map fs =>
    rw [get?_map] at h
    cases hb : b.isMap with
    | true =>
      obtain ⟨es, rfl⟩ := isMap_eq_true.1 hb
      rw [overlay, get?_map, get?_overlayEntries (ordered_map.1 hp).1, h]
      simp
    | false =>
      have hchild : b.child k = null := child_of_not_map fun es he => by
        rw [he] at hb
        cases hb
      rcases overlay_map_of_not_isMap m fs hb with he | ⟨rfl, -⟩
      · rw [he, get?_map, h, hchild, overlay_null_left]
        simp
      · cases h
  | _ => cases h

/-- An entry that the patch sets to null is taken out of a map of the base. Where the base has no
map, the null is copied with the patch. -/
theorem at?_overlay_of_cleared (hp : p.Ordered) (h : p.at? (ks ++ [k]) = some null) :
    (overlay m b p).at? (ks ++ [k]) =
      if (within ks b).isMap = true then none else some null := by
  induction ks generalizing b p with
  | nil =>
    obtain ⟨v, hv, hnull⟩ := Option.bind_eq_some_iff.1 h
    cases Option.some.inj hnull
    rw [List.nil_append, at?, get?_overlay_of_get? hp hv, within_nil]
    cases b.isMap <;> simp [at?]
  | cons j ks ih =>
    obtain ⟨v, hv, hat⟩ := Option.bind_eq_some_iff.1 h
    have hne : v ≠ null := by
      rintro rfl
      cases ks <;> cases hat
    have hj : p.at? [j] = some v := by
      rw [at?, hv]
      rfl
    rw [List.cons_append, at?, get?_overlay_of_get? hp hv, if_neg fun hc => hne hc.2]
    exact ih (hp.at? hj) hat

end Tree

/-- **A null takes an entry out exactly where the base has a map.** Merging by structure and merging
by name object to nothing. Where the patch sets an entry to null, the result has no entry if the
base has a map at that place; otherwise it has the null, which it copies with the patch. -/
theorem merge_clears_iff {s : Strategy} {base patch : Tree} {keys : List String} {key : String}
    (hs : s = .default ∨ s = .named) (hpatch : patch.Ordered)
    (hnull : patch.at? (keys ++ [key]) = some .null) :
    ∃ merged, s.merge base patch = .ok merged ∧
      (merged.at? (keys ++ [key]) = none ↔ ∃ es, base.at? keys = some (.map es)) ∧
      (merged.at? (keys ++ [key]) = none ∨ merged.at? (keys ++ [key]) = some .null) := by
  obtain ⟨m, rfl⟩ := exists_matching hs
  have hplace : (∃ es, base.at? keys = some (.map es)) ↔ (base.within keys).isMap = true := by
    rw [Tree.isMap_eq_true]
    exact exists_congr fun es => Tree.at?_eq_some_iff (by simp)
  refine ⟨_, Strategy.merge_eq_overlay base patch, ?_⟩
  rw [Tree.at?_overlay_of_cleared hpatch hnull, hplace]
  cases (base.within keys).isMap <;> simp

/-- A deployment without a fixed number of replicas. -/
def unsized : Tree := .map [("spec", .map [("replicas", .null)])]

/-- Over a specification that has a number of its own, the number goes. -/
theorem merge_clears_replicas :
    unsized.at? ["spec", "replicas"] = some .null ∧
      Strategy.named.merge
          (.map [("spec", .map [("paused", .bool true), ("replicas", .int 5)])]) unsized =
        .ok (.map [("spec", .map [("paused", .bool true)])]) ∧
      (Tree.map [("spec", .map [("paused", .bool true)])]).at? ["spec", "replicas"] = none := by
  have hmerge : Strategy.named.merge
      (.map [("spec", .map [("paused", .bool true), ("replicas", .int 5)])]) unsized =
        .ok (.map [("spec", .map [("paused", .bool true)])]) := by decide +kernel
  obtain ⟨merged, hmerged, hiff, -⟩ := @merge_clears_iff .named
    (.map [("spec", .map [("paused", .bool true), ("replicas", .int 5)])]) unsized ["spec"]
    "replicas" (.inr rfl) (by decide) rfl
  cases hmerge.symm.trans hmerged
  exact ⟨rfl, hmerge, hiff.2 ⟨_, rfl⟩⟩

/-- Where there is no specification yet, the null stays in the one that is copied. -/
theorem null_copied :
    unsized.at? ["spec", "replicas"] = some .null ∧
      Strategy.default.merge (.map [("kind", .str "Deployment")]) unsized =
        .ok (.map [("kind", .str "Deployment"), ("spec", .map [("replicas", .null)])]) ∧
      Strategy.named.merge (.map [("kind", .str "Deployment")]) unsized =
        .ok (.map [("kind", .str "Deployment"), ("spec", .map [("replicas", .null)])]) ∧
      (Tree.map [("kind", .str "Deployment"), ("spec", .map [("replicas", .null)])]).at?
        ["spec", "replicas"] = some .null := by
  refine ⟨rfl, ?_, ?_, rfl⟩ <;> decide +kernel

end PreviewEnv
