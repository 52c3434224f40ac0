import PreviewEnv.Proofs.Merge.Arrays

namespace PreviewEnv

namespace Tree

variable {b c p q v : Tree} {bs ps : List Tree} {s : Step} {path : List Step}

/-- The two are both maps, or both arrays. -/
def Alike (t u : Tree) : Prop :=
  (∃ es fs, t = map es ∧ u = map fs) ∨ ∃ ts us, t = arr ts ∧ u = arr us

/-- On the way to the end of the path, the patch has an empty map, or it has nothing at the next
step where it and the base are both maps or both arrays. -/
def Spares (path : List Step) (base patch : Tree) : Prop :=
  ∃ front step rest there, path = front ++ step :: rest ∧ patch.along? front = some there ∧
    (there = map [] ∨
      there.part? step = none ∧ ∃ here, base.along? front = some here ∧ Alike here there)

theorem overlay_byPosition_arr :
    overlay .byPosition (arr bs) (arr ps) = arr (overlayItems .byPosition bs ps) := by
  have hj : ¬ Matching.byPosition.Joins bs ps := fun hj => by cases hj.1
  rw [overlay_arr, mergedItems, if_neg hj]

/-- Values that are there at the same step are inside two maps, or inside two arrays. -/
theorem alike_of_part? (hb : b.part? s = some c) (hp : p.part? s = some q) : Alike b p := by
  cases s with
  | key k =>
    obtain ⟨es, rfl⟩ := exists_map_of_part? hb
    obtain ⟨fs, rfl⟩ := exists_map_of_part? hp
    exact .inl ⟨es, fs, rfl, rfl⟩
  | index i =>
    obtain ⟨bs, rfl⟩ := exists_arr_of_part? hb
    obtain ⟨ps, rfl⟩ := exists_arr_of_part? hp
    exact .inr ⟨bs, ps, rfl, rfl⟩

/-- Two maps, or two arrays, are merged part by part. A null takes out the entry under its key. -/
theorem part?_overlay (hp : p.Ordered) (h : Alike b p) :
    (overlay .byPosition b p).part? s =
      match p.part? s with
      | none => b.part? s
      | some q =>
        if q = null ∧ p.isMap = true then none
        else some (overlay .byPosition ((b.part? s).getD null) q) := by
  rcases h with ⟨es, fs, rfl, rfl⟩ | ⟨bs, ps, rfl, rfl⟩
  · rw [overlay]
    cases s with
    | key k =>
      rw [part?, get?_overlayEntries (ordered_map.1 hp).1]
      cases hk : Entries.get? k fs <;> simp [part?, hk, child_map, isMap]
    | index i => rfl
  · rw [overlay_byPosition_arr]
    cases s with
    | key k => rfl
    | index i =>
      simp only [part?, getElem?_overlayItems, isMap]
      cases bs[i]? <;> cases ps[i]? <;> simp

/-- Where the two are of different kinds, one of them is taken whole: the patch, unless it is an
empty map. -/
theorem overlay_of_not_alike (h : ¬ Alike b p) :
    overlay .byPosition b p = p ∨ p = map [] ∧ overlay .byPosition b p = b := by
  cases p with
  | map fs =>
    cases hb : b.isMap with
    | true =>
      obtain ⟨es, rfl⟩ := isMap_eq_true.1 hb
      exact absurd (.inl ⟨es, fs, rfl, rfl⟩) h
    | false =>
      rcases overlay_map_of_not_isMap .byPosition fs hb with he | ⟨rfl, he⟩
      · exact .inl he
      · exact .inr ⟨rfl, he⟩
  | arr ps =>
    left
    apply overlay_arr_of_not_arr
    rintro bs rfl
    exact h (.inr ⟨_, _, rfl, rfl⟩)
  | _ => exact .inl (overlay_scalar rfl)

/-- Where the patch has something at a step, it is laid over something, unless it is a null that
takes the entry out. -/
theorem part?_overlay_of_patch (hp : p.Ordered) (hq : p.part? s = some q) :
    (∃ c, (overlay .byPosition b p).part? s = some (overlay .byPosition c q)) ∨
      q = null ∧ (overlay .byPosition b p).part? s = none := by
  by_cases h : Alike b p
  · rw [part?_overlay hp h, hq]
    by_cases hnull : q = null ∧ p.isMap = true
    · exact .inr ⟨hnull.1, if_pos hnull⟩
    · exact .inl ⟨_, if_neg hnull⟩
  · rcases overlay_of_not_alike h with he | ⟨rfl, -⟩
    · exact .inl ⟨null, by rw [he, hq, overlay_null_left]⟩
    · cases s <;> cases hq

/-- Where both have a value, the one is laid over the other. -/
theorem along?_overlay_of_both (hp : p.Ordered) (hb : b.along? path = some c)
    (hq : p.along? path = some q) (hne : q ≠ null) :
    (overlay .byPosition b p).along? path = some (overlay .byPosition c q) := by
  induction path generalizing b p with
  | nil =>
    cases Option.some.inj hb
    cases Option.some.inj hq
    rfl
  | cons s path ih =>
    obtain ⟨b', hb', hb⟩ := Option.bind_eq_some_iff.1 hb
    obtain ⟨p', hp', hq⟩ := Option.bind_eq_some_iff.1 hq
    -- A null on the way would be the end of it.
    have hne' : p' ≠ null := by
      rintro rfl
      exact hne (eq_of_along?_of_isScalar rfl hq)
    rw [along?_cons, part?_overlay hp (alike_of_part? hb' hp'), hp', hb']
    simp only [hne', false_and, ↓reduceIte, Option.getD_some, Option.bind_some]
    exact ih (hp.part? hp') hb hq

/-- A scalar of the patch wins. A null may instead have taken an entry out. -/
theorem along?_overlay_of_scalar (hp : p.Ordered) (hv : v.isScalar = true)
    (h : p.along? path = some v) :
    (overlay .byPosition b p).along? path = some v ∨
      v = null ∧ (overlay .byPosition b p).along? path = none := by
  induction path generalizing b p with
  | nil =>
    cases Option.some.inj h
    exact .inl (congrArg some (overlay_scalar hv))
  | cons s path ih =>
    obtain ⟨q, hq, h⟩ := Option.bind_eq_some_iff.1 h
    rw [along?_cons]
    rcases part?_overlay_of_patch (b := b) hp hq with ⟨c, hc⟩ | ⟨rfl, hnone⟩
    · rw [hc]
      exact ih (hp.part? hq) h
    · rw [hnone]
      exact .inr ⟨eq_of_along?_of_isScalar rfl h, rfl⟩

/-- What the patch leaves alone stays. -/
theorem along?_overlay_of_spared (hp : p.Ordered) (hb : b.along? path = some v)
    (h : Spares path b p) : (overlay .byPosition b p).along? path = some v := by
  obtain ⟨front, s, rest, there, rfl, hthere, hspares⟩ := h
  rw [along?_append] at hb ⊢
  obtain ⟨here, hhere, hv⟩ := Option.bind_eq_some_iff.1 hb
  have hne : there ≠ null := by
    rcases hspares with rfl | ⟨-, _, -, ⟨_, _, -, rfl⟩ | ⟨_, _, -, rfl⟩⟩ <;> simp
  rw [along?_overlay_of_both hp hhere hthere hne, Option.bind_some]
  rcases hspares with rfl | ⟨hnone, here', hhere', halike⟩
  · -- There is something inside the base, so it is not null, and an empty map adds nothing.
    have hne' : here ≠ null := by
      rintro rfl
      rw [along?_cons, part?_of_isScalar rfl] at hv
      cases hv
    rwa [overlay_map_nil, if_neg hne']
  · cases hhere.symm.trans hhere'
    rwa [along?_cons, part?_overlay (hp.along? hthere) halike, hnone]

theorem not_isScalar_of_alike (h : Alike b p) : (overlay .byPosition b p).isScalar = false := by
  rcases h with ⟨es, fs, rfl, rfl⟩ | ⟨bs, ps, rfl, rfl⟩
  · rfl
  · rw [overlay_byPosition_arr]
    rfl

/-- No scalar is new. -/
theorem scalar_of_along?_overlay (hp : p.Ordered) (hv : v.isScalar = true)
    (h : (overlay .byPosition b p).along? path = some v) :
    p.along? path = some v ∨ b.along? path = some v := by
  induction path generalizing b p with
  | nil =>
    by_cases halike : Alike b p
    · cases Option.some.inj h
      rw [not_isScalar_of_alike halike] at hv
      cases hv
    · rcases overlay_of_not_alike halike with he | ⟨-, he⟩
      · exact .inl (he ▸ h)
      · exact .inr (he ▸ h)
  | cons s path ih =>
    by_cases halike : Alike b p
    · rw [along?_cons, part?_overlay hp halike] at h
      rw [along?_cons, along?_cons]
      cases hq : p.part? s with
      | none =>
        rw [hq] at h
        exact .inr h
      | some q =>
        simp only [hq] at h
        split at h
        · cases h
        · cases hb : b.part? s with
          | none =>
            rw [hb, Option.getD_none, overlay_null_left] at h
            exact .inl h
          | some c =>
            rw [hb, Option.getD_some, Option.bind_some] at h
            exact ih (hp.part? hq) h
    · rcases overlay_of_not_alike halike with he | ⟨-, he⟩
      · exact .inl (he ▸ h)
      · exact .inr (he ▸ h)

/-- Two arrays give one that is as long as the longer of them. -/
theorem along?_overlay_of_arrays (hp : p.Ordered) (hb : b.along? path = some (arr bs))
    (hq : p.along? path = some (arr ps)) :
    ∃ ms, (overlay .byPosition b p).along? path = some (arr ms) ∧
      ms.length = max bs.length ps.length := by
  refine ⟨overlayItems .byPosition bs ps, ?_, length_overlayItems⟩
  rw [along?_overlay_of_both hp hb hq (by simp), overlay_byPosition_arr]

/-- What there is in the result of merging a patch by structure, told by what there is in the base
and in the patch at the same place. -/
structure Pointwise (base patch merged : Tree) : Prop where
  /-- A scalar of the patch wins. -/
  wins : ∀ path v, v.isScalar = true → v ≠ null → patch.along? path = some v →
    merged.along? path = some v
  /-- Where the patch has null, there is null or nothing. -/
  clears : ∀ path, patch.along? path = some null →
    merged.along? path = some null ∨ merged.along? path = none
  /-- What the patch leaves alone stays. -/
  keeps : ∀ path v, base.along? path = some v → Spares path base patch →
    merged.along? path = some v
  /-- No scalar is new. -/
  takes : ∀ path v, v.isScalar = true → merged.along? path = some v →
    patch.along? path = some v ∨ base.along? path = some v
  /-- Two arrays give one that is as long as the longer of them. -/
  joins : ∀ path bs ps, base.along? path = some (arr bs) → patch.along? path = some (arr ps) →
    ∃ ms, merged.along? path = some (arr ms) ∧ ms.length = max bs.length ps.length

end Tree

/-- **A merge by structure, leaf by leaf.** Merging by structure objects to nothing, and at the end
of every path of keys and indices the patch wins, what it leaves alone stays, and nothing is new. -/
theorem merge_pointwise {base patch : Tree} (hpatch : patch.Ordered) :
    ∃ merged, Strategy.default.merge base patch = .ok merged ∧
      Tree.Pointwise base patch merged := by
  refine ⟨_, Strategy.merge_eq_overlay (m := .byPosition) base patch, ?_⟩
  constructor
  case wins =>
    intro path v hv hne h
    rcases Tree.along?_overlay_of_scalar (b := base) hpatch hv h with h | ⟨hnull, -⟩
    · exact h
    · exact absurd hnull hne
  case clears =>
    intro path h
    exact (Tree.along?_overlay_of_scalar hpatch rfl h).imp_right And.right
  case keeps =>
    intro path v
    exact Tree.along?_overlay_of_spared hpatch
  case takes =>
    intro path v
    exact Tree.scalar_of_along?_overlay hpatch
  case joins =>
    intro path bs ps
    exact Tree.along?_overlay_of_arrays hpatch

def pod : Tree := .map [
  ("args", .arr [.str "serve", .int 80, .map [("name", .str "log")]]),
  ("labels", .map [("app", .str "web"), ("tier", .null)]),
  ("node", .str "eu-1"),
  ("zone", .str "eu")]

def podPatch : Tree := .map [
  ("args", .arr [.str "check", .map [("level", .null)]]),
  ("labels", .empty),
  ("node", .arr [.str "eu-2"]),
  ("zone", .null)]

def mergedPod : Tree := .map [
  ("args", .arr [.str "check", .map [("level", .null)], .map [("name", .str "log")]]),
  ("labels", .map [("app", .str "web"), ("tier", .null)]),
  ("node", .arr [.str "eu-2"])]

theorem merge_pointwise_pod :
    podPatch.Ordered ∧ Strategy.default.merge pod podPatch = .ok mergedPod ∧
      Tree.Pointwise pod podPatch mergedPod := by
  have hmerge : Strategy.default.merge pod podPatch = .ok mergedPod := by decide +kernel
  obtain ⟨merged, hmerged, h⟩ := @merge_pointwise pod podPatch (by decide)
  cases hmerge.symm.trans hmerged
  exact ⟨by decide, hmerge, h⟩

end PreviewEnv
