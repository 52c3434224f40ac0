import Mathlib.Data.List.Perm.Basic
import PreviewEnv.Proofs.Merge.Arrays

namespace PreviewEnv

namespace Tree

variable {m m' : Matching} {b p t : Tree} {bs ps qs ts us : List Tree}
  {es fs : List (String × Tree)} {n : Option String} {k : String}

theorem namesake_eq_some_iff (h : Named ts) : namesake n ts = some t ↔ t ∈ ts ∧ t.name? = n := by
  constructor
  · intro ht
    exact ⟨mem_of_namesake ht, name?_of_namesake ht⟩
  · rintro ⟨ht, rfl⟩
    exact namesake_of_mem h ht

theorem named_of_perm (h : Named ts) (hperm : us.Perm ts) : Named us :=
  ⟨fun hn => h.1 ((hperm.map name?).mem_iff.1 hn), (hperm.map name?).nodup_iff.2 h.2⟩

/-- Elements that are told apart by their names are found in any order. -/
theorem namesake_perm (h : Named ts) (hperm : us.Perm ts) : namesake n us = namesake n ts := by
  apply Option.ext
  intro t
  rw [namesake_eq_some_iff (named_of_perm h hperm), namesake_eq_some_iff h, hperm.mem_iff]

theorem namesake_append : namesake n (ts ++ us) = (namesake n ts).or (namesake n us) :=
  List.find?_append

/-- What keeps the names of elements does not change which one has a name. -/
theorem namesake_map {f : Tree → Tree} (h : ∀ t ∈ ts, (f t).name? = t.name?) :
    namesake n (ts.map f) = (namesake n ts).map f := by
  induction ts with
  | nil => rfl
  | cons t ts ih =>
    rw [List.forall_mem_cons] at h
    rw [List.map_cons, namesake_cons, namesake_cons, h.1, ih h.2]
    split <;> rfl

/-- Among the elements with new names, one is found under every new name. -/
theorem namesake_filter_new (h : namesake n bs = none) :
    namesake n (ps.filter fun p => (namesake p.name? bs).isNone) = namesake n ps := by
  induction ps with
  | nil => rfl
  | cons p ps ih =>
    by_cases hp : p.name? = n
    · rw [List.filter_cons_of_pos (by simp [hp, h]), namesake_cons, if_pos hp, namesake_cons,
        if_pos hp]
    · rw [namesake_cons, if_neg hp, List.filter_cons]
      split
      · rw [namesake_cons, if_neg hp, ih]
      · exact ih

/-- Under a name there is what the base has there with what the patch has there laid over it. -/
theorem namesake_joinNamed (hb : Named bs) (ho : ∀ p ∈ ps, p.Ordered) :
    namesake n (joinNamed m bs ps) =
      match namesake n bs with
      | some b => some (patched m b (namesake n ps))
      | none => namesake n ps := by
  rw [joinNamed, namesake_append, namesake_map fun b hm => name?_patched_namesake hb ho hm]
  cases hn : namesake n bs with
  | none => exact namesake_filter_new hn
  | some b => simp [name?_of_namesake hn]

/-- The order of the patch only decides the order of the new elements. -/
theorem joinNamed_perm (m : Matching) (bs : List Tree) (hp : Named ps) (hperm : qs.Perm ps) :
    ∃ new new', joinNamed m bs qs =
        bs.map (fun b => patched m b (namesake b.name? ps)) ++ new' ∧
      joinNamed m bs ps = bs.map (fun b => patched m b (namesake b.name? ps)) ++ new ∧
      new'.Perm new := by
  refine ⟨_, _, ?_, rfl, hperm.filter _⟩
  simp only [joinNamed, namesake_perm hp hperm]

/-- Under a name, the order of the patch makes no difference. -/
theorem namesake_joinNamed_perm (hb : Named bs) (hp : Named ps) (ho : ∀ p ∈ ps, p.Ordered)
    (hperm : qs.Perm ps) : namesake n (joinNamed m bs qs) = namesake n (joinNamed m bs ps) := by
  rw [namesake_joinNamed hb ho, namesake_joinNamed hb fun q hq => ho q (hperm.mem_iff.1 hq),
    namesake_perm hp hperm]

/-- Arrays of named elements that have been merged by name. -/
structure JoinedByName (bs ps ms : List Tree) : Prop where
  /-- The names of the base come first and then those that only the patch has, both in order. -/
  names : ms.map name? = bs.map name? ++ (ps.map name?).filter fun n => n ∉ bs.map name?
  /-- The elements are told apart by their names again. -/
  named : Named ms
  /-- Elements of one name are merged with each other. -/
  merges : ∀ n b p, namesake n bs = some b → namesake n ps = some p →
    ∃ t, Strategy.named.merge b p = .ok t ∧ namesake n ms = some t
  /-- An element whose name the patch has not stays as it is. -/
  keeps : ∀ n b, namesake n bs = some b → namesake n ps = none → namesake n ms = some b
  /-- An element whose name is new comes as it is. -/
  takes : ∀ n p, namesake n bs = none → namesake n ps = some p → namesake n ms = some p

/-- Arrays that have been merged position by position. -/
structure JoinedByPosition (bs ps ms : List Tree) : Prop where
  items : Strategy.named.mergeItems 0 bs ps = .ok ms
  length : ms.length = max bs.length ps.length
  /-- Elements at one position are merged with each other. -/
  merges : ∀ (i : Nat) b p, bs[i]? = some b → ps[i]? = some p →
    ∃ t, Strategy.named.merge b p = .ok t ∧ ms[i]? = some t
  /-- What is left of the longer array stays as it is. -/
  keeps : ∀ (i : Nat) b, bs[i]? = some b → ps[i]? = none → ms[i]? = some b
  takes : ∀ (i : Nat) p, bs[i]? = none → ps[i]? = some p → ms[i]? = some p

theorem joinedByName_joinNamed (hb : Named bs) (hp : Named ps) (ho : ∀ p ∈ ps, p.Ordered) :
    JoinedByName bs ps (joinNamed .byName bs ps) where
  names := by
    rw [map_name?_joinNamed hb ho, List.filter_map]
    congr 2
    apply List.filter_congr
    intro p _
    rw [Function.comp_apply, Bool.eq_iff_iff, decide_eq_true_iff, Option.isNone_iff_eq_none,
      namesake_eq_none_iff]
  named := named_joinNamed hb hp ho
  merges n b p hnb hnp :=
    ⟨_, Strategy.merge_eq_overlay (m := .byName) b p, by
      rw [namesake_joinNamed hb ho, hnb, hnp]
      rfl⟩
  keeps n b hnb hnp := by
    rw [namesake_joinNamed hb ho, hnb, hnp]
    rfl
  takes n p hnb hnp := by rw [namesake_joinNamed hb ho, hnb, hnp]

theorem joinedByPosition_overlayItems (bs ps : List Tree) :
    JoinedByPosition bs ps (overlayItems .byName bs ps) where
  items := Strategy.mergeItems_eq_overlayItems (m := .byName) 0 bs ps
  length := length_overlayItems
  merges i b p hb hp :=
    ⟨_, Strategy.merge_eq_overlay (m := .byName) b p, by
      rw [getElem?_overlayItems, hb, hp]
      rfl⟩
  keeps i b hb hp := by
    rw [getElem?_overlayItems, hb, hp]
    rfl
  takes i p hb hp := by rw [getElem?_overlayItems, hb, hp]

end Tree

/-- **Arrays of named elements are merged by name, all others position by position.** By name no
element is lost, doubled or moved: the elements of the base stay in their places, and the new ones
follow. Another order of the patch gives another order of the new elements and nothing else. -/
theorem merge_arrays {bs ps : List Tree} (hps : (Tree.arr ps).Ordered) :
    (Tree.Named bs ∧ Tree.Named ps →
      ∃ ms, Strategy.named.merge (.arr bs) (.arr ps) = .ok (.arr ms) ∧
        Tree.JoinedByName bs ps ms ∧
        ∀ qs : List Tree, qs.Perm ps →
          ∃ ns, Strategy.named.merge (.arr bs) (.arr qs) = .ok (.arr ns) ∧
            ns.take bs.length = ms.take bs.length ∧
            (ns.drop bs.length).Perm (ms.drop bs.length) ∧
            ∀ n, Tree.namesake n ns = Tree.namesake n ms) ∧
    (¬ (Tree.Named bs ∧ Tree.Named ps) →
      ∃ ms, Strategy.named.merge (.arr bs) (.arr ps) = .ok (.arr ms) ∧
        Tree.JoinedByPosition bs ps ms) := by
  have ho := Tree.ordered_arr.1 hps
  have hmerge (qs : List Tree) : Strategy.named.merge (.arr bs) (.arr qs) =
      .ok (.arr (Tree.mergedItems .byName bs qs)) := by
    rw [← Tree.overlay_arr]
    exact Strategy.merge_eq_overlay (m := .byName) _ _
  constructor
  · rintro ⟨hb, hp⟩
    have hjoin (qs : List Tree) (hq : Tree.Named qs) :
        Tree.mergedItems .byName bs qs = Tree.joinNamed .byName bs qs :=
      if_pos ⟨rfl, hb, hq⟩
    refine ⟨_, hmerge ps, ?_, fun qs hperm => ⟨_, hmerge qs, ?_⟩⟩
    · rw [hjoin ps hp]
      exact Tree.joinedByName_joinNamed hb hp ho
    · rw [hjoin ps hp, hjoin qs (Tree.named_of_perm hp hperm)]
      obtain ⟨new, new', hqjoin, hpjoin, hnew⟩ := Tree.joinNamed_perm .byName bs hp hperm
      refine ⟨?_, ?_, fun n => Tree.namesake_joinNamed_perm hb hp ho hperm⟩
      · rw [hqjoin, hpjoin, List.take_left' (List.length_map _),
          List.take_left' (List.length_map _)]
      · rwa [hqjoin, hpjoin, List.drop_left' (List.length_map _),
          List.drop_left' (List.length_map _)]
  · intro h
    have hpositions : Tree.mergedItems .byName bs ps = Tree.overlayItems .byName bs ps :=
      if_neg fun hj => h hj.2
    refine ⟨_, hmerge ps, ?_⟩
    rw [hpositions]
    exact Tree.joinedByPosition_overlayItems bs ps

def images : List Tree := [
  .map [("image", .str "nginx"), ("name", .str "a"), ("port", .int 80)],
  .map [("image", .str "redis"), ("name", .str "b")]]

def imagesPatch : List Tree := [
  .map [("image", .str "busybox"), ("name", .str "c")],
  .map [("image", .str "redis:7"), ("name", .str "b")],
  .map [("image", .str "envoy"), ("name", .str "d")],
  .map [("name", .str "a"), ("port", .int 8080)]]

def mergedImages : List Tree := [
  .map [("image", .str "nginx"), ("name", .str "a"), ("port", .int 8080)],
  .map [("image", .str "redis:7"), ("name", .str "b")],
  .map [("image", .str "busybox"), ("name", .str "c")],
  .map [("image", .str "envoy"), ("name", .str "d")]]

theorem merge_arrays_images :
    Tree.Named images ∧ Tree.Named imagesPatch ∧
      Strategy.named.merge (.arr images) (.arr imagesPatch) = .ok (.arr mergedImages) ∧
      Tree.JoinedByName images imagesPatch mergedImages ∧
      ∃ ns, Strategy.named.merge (.arr images) (.arr imagesPatch.reverse) = .ok (.arr ns) ∧
        ns.take 2 = mergedImages.take 2 ∧ (ns.drop 2).Perm (mergedImages.drop 2) := by
  have hb : Tree.Named images := by decide
  have hp : Tree.Named imagesPatch := by decide
  have hmerge : Strategy.named.merge (.arr images) (.arr imagesPatch) =
      .ok (.arr mergedImages) := by decide +kernel
  obtain ⟨ms, hms, hjoined, hperm⟩ :=
    (@merge_arrays images imagesPatch (by decide)).1 ⟨hb, hp⟩
  cases hmerge.symm.trans hms
  obtain ⟨ns, hns, hfront, hnew, -⟩ := hperm imagesPatch.reverse imagesPatch.reverse_perm
  exact ⟨hb, hp, hmerge, hjoined, ns, hns, hfront, hnew⟩

namespace Tree

variable {m m' : Matching} {b p t : Tree} {bs ps ts : List Tree} {es fs : List (String × Tree)}
  {k : String}

/-- No array in the tree has elements that are told apart by names, empty ones apart. -/
def Unnamed (t : Tree) : Prop := ∀ ts ∈ t.arrays, ts ≠ [] → ¬ Named ts

instance : Decidable t.Unnamed :=
  inferInstanceAs (Decidable (∀ ts ∈ t.arrays, ts ≠ [] → ¬ Named ts))

theorem unnamed_null : null.Unnamed := fun _ h => absurd h List.not_mem_nil

theorem Unnamed.eq_nil (h : (arr ts).Unnamed) (hn : Named ts) : ts = [] := by
  by_contra hne
  exact h ts (mem_arrays_arr.2 (.inl rfl)) hne hn

theorem Unnamed.of_mem (h : (arr ts).Unnamed) (ht : t ∈ ts) : t.Unnamed :=
  fun us hus => h us (mem_arrays_arr.2 (.inr ⟨t, ht, hus⟩))

theorem Unnamed.of_get? (h : (map es).Unnamed) (hk : Entries.get? k es = some t) : t.Unnamed :=
  fun us hus => h us (mem_arrays_map.2 ⟨(k, t), Entries.mem_of_get? hk, hus⟩)

theorem Unnamed.child (h : (map es).Unnamed) (k : String) : ((map es).child k).Unnamed := by
  rw [child_map]
  cases hk : Entries.get? k es with
  | none => exact unnamed_null
  | some v => exact h.of_get? hk

theorem overlayItems_congr
    (h : ∀ b ∈ bs, ∀ p ∈ ps, overlay m b p = overlay m' b p) :
    overlayItems m bs ps = overlayItems m' bs ps := by
  apply List.ext_getElem?
  intro i
  rw [getElem?_overlayItems, getElem?_overlayItems]
  cases hb : bs[i]? with
  | none => rfl
  | some b =>
    cases hp : ps[i]? with
    | none => rfl
    | some p => exact congrArg some (h b (List.mem_of_getElem? hb) p (List.mem_of_getElem? hp))

theorem overlayEntries_congr (hf : Entries.Ordered fs)
    (h : ∀ k p, Entries.get? k fs = some p →
      overlay m ((map es).child k) p = overlay m' ((map es).child k) p) :
    overlayEntries m es fs = overlayEntries m' es fs := by
  induction fs generalizing es with
  | nil => rfl
  | cons e fs ih =>
    obtain ⟨j, p⟩ := e
    have hfirst := h j p (by rw [Entries.get?_cons, if_pos rfl])
    rw [overlayEntries, overlayEntries, hfirst]
    apply ih (Entries.ordered_cons.1 hf).2
    intro k q hk
    have hne : j ≠ k := by
      rintro rfl
      rw [hf.get?_tail] at hk
      cases hk
    rw [child_replaced_of_ne hne]
    exact h k q (by rw [Entries.get?_cons, if_neg hne, hk])

/-- Arrays are joined by name at most where one of them is empty. -/
theorem mergedItems_of_unnamed (h : (arr bs).Unnamed ∨ (arr ps).Unnamed) :
    mergedItems m bs ps = overlayItems m bs ps := by
  rw [mergedItems]
  split
  · next hj =>
    rcases h with hb | hp
    · rw [hb.eq_nil hj.2.1, joinNamed_nil_left, overlayItems_nil_left]
    · rw [hp.eq_nil hj.2.2, joinNamed_nil_right]
      rfl
  · rfl

/-- Without arrays of named elements on one side, names make no difference. -/
theorem overlay_of_unnamed (hp : p.Ordered) (h : b.Unnamed ∨ p.Unnamed) :
    overlay m b p = overlay m' b p := by
  induction p using byParts generalizing b with
  | scalar p hs => rw [overlay_scalar hs, overlay_scalar hs]
  | arr ps ih =>
    by_cases harr : ∃ bs, b = arr bs
    · obtain ⟨bs, rfl⟩ := harr
      rw [overlay_arr, overlay_arr, mergedItems_of_unnamed h, mergedItems_of_unnamed h]
      refine congrArg arr (overlayItems_congr fun b hb p hpm => ?_)
      exact ih p hpm (ordered_arr.1 hp p hpm) (h.imp (·.of_mem hb) (·.of_mem hpm))
    · have hne : ∀ bs, b ≠ arr bs := fun bs he => harr ⟨bs, he⟩
      rw [overlay_arr_of_not_arr hne, overlay_arr_of_not_arr hne]
  | map fs ih =>
    cases b with
    | map es =>
      rw [overlay, overlay]
      refine congrArg map (overlayEntries_congr (ordered_map.1 hp).1 fun k p hk => ?_)
      exact ih k p hk (hp.get? hk) (h.imp (·.child k) (·.of_get? hk))
    | _ => rfl

end Tree

/-- **Merging by name is merging by structure where nothing is named.** If no array of the base, or
none of the patch, has elements that are told apart by names, the two strategies give one tree. -/
theorem merge_of_unnamed {base patch : Tree} (hpatch : patch.Ordered)
    (h : patch.Unnamed ∨ base.Unnamed) :
    ∃ merged, Strategy.named.merge base patch = .ok merged ∧
      Strategy.default.merge base patch = .ok merged := by
  refine ⟨_, Strategy.merge_eq_overlay (m := .byName) base patch, ?_⟩
  rw [Tree.overlay_of_unnamed hpatch h.symm]
  exact Strategy.merge_eq_overlay (m := .byPosition) base patch

/-- A job without arrays of named elements. -/
def job : Tree := .map [
  ("args", .arr [.map [("flag", .str "check")], .map [("flag", .str "log")]]),
  ("env", .arr [])]

def jobPatch : Tree := .map [
  ("args", .arr [.map [("name", .str "level")]]),
  ("env", .arr [.map [("name", .str "ZONE")], .map [("name", .str "NODE")]]),
  ("volumes", .arr [.map [("name", .str "cache")]])]

def mergedJob : Tree := .map [
  ("args", .arr [
    .map [("flag", .str "check"), ("name", .str "level")],
    .map [("flag", .str "log")]]),
  ("env", .arr [.map [("name", .str "ZONE")], .map [("name", .str "NODE")]]),
  ("volumes", .arr [.map [("name", .str "cache")]])]

theorem merge_of_unnamed_job :
    jobPatch.Ordered ∧ job.Unnamed ∧ ¬ jobPatch.Unnamed ∧
      Strategy.named.merge job jobPatch = .ok mergedJob ∧
      Strategy.default.merge job jobPatch = .ok mergedJob := by
  have hbase : job.Unnamed := by decide
  have hmerge : Strategy.named.merge job jobPatch = .ok mergedJob := by decide +kernel
  obtain ⟨merged, hnamed, hdefault⟩ := @merge_of_unnamed job jobPatch (by decide) (.inr hbase)
  cases hmerge.symm.trans hnamed
  exact ⟨by decide, hbase, by decide, hmerge, hdefault⟩

end PreviewEnv
