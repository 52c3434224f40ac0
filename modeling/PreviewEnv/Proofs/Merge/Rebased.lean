import PreviewEnv.Proofs.Merge.Rebase

/-!
An array of the patch is *decisive* if it settles by itself how its elements find
those of the base: all have names, or one is no map and so can get none. Where it
is not, the elements of the result can all have names though those of the patch
have not, and meet those of the base in another way than before.
-/

namespace PreviewEnv

namespace Tree

variable {m : Matching} {b p v : Tree} {bs ps rs ts : List Tree} {fs gs : List (String × Tree)}
  {o : Option Tree} {i : Nat}

/-- The elements have names, or one of them is no map and has none whatever it is laid over. -/
def Decisive (ts : List Tree) : Prop := Named ts ∨ ∃ t ∈ ts, t.isMap = false

instance : Decidable (Decisive ts) := inferInstanceAs (Decidable (_ ∨ _))

/-- The elements of the base keep their positions. -/
theorem fst_of_meetings {z : Tree × Option Tree} (h : (meetings m bs ps)[i]? = some z) :
    z.1 = bs[i]?.getD null := by
  rw [meetings] at h
  split at h
  · by_cases hi : i < bs.length
    · rw [List.getElem?_append_left (by simpa using hi), List.getElem?_map,
        List.getElem?_eq_getElem hi] at h
      rw [List.getElem?_eq_getElem hi, ← Option.some.inj h]
      rfl
    · rw [List.getElem?_append_right (by simpa using hi), List.getElem?_map] at h
      obtain ⟨p, -, rfl⟩ := Option.map_eq_some_iff.1 h
      rw [List.getElem?_eq_none_iff.2 (by omega)]
      rfl
  · rw [List.getElem?_zipWithAll] at h
    split at h
    · cases h
    · exact congrArg Prod.fst (Option.some.inj h).symm

/-- An element that is there meets its partner. -/
theorem getElem?_meetings (h : bs[i]? = some v) :
    (meetings .byName bs ps)[i]? = some (v, partner bs ps i v) := by
  obtain ⟨hi, -⟩ := List.getElem?_eq_some_iff.1 h
  rw [meetings, partner]
  by_cases hj : Named bs ∧ Named ps
  · rw [if_pos (joins_byName.2 hj), if_pos hj, List.getElem?_append_left (by simpa using hi),
      List.getElem?_map, h]
    rfl
  · rw [if_neg (mt joins_byName.1 hj), if_neg hj, List.getElem?_zipWithAll, h]
    rfl

/-- An element of a merged array is made of what the base has at its position and of the patch
element that it meets again. -/
theorem eq_patched_of_getElem? (hrs : ∀ t ∈ rs, t.Ordered)
    (h : (mergedItems .byName bs rs)[i]? = some v) :
    v = patched .byName (bs[i]?.getD null) (partner (mergedItems .byName bs rs) rs i v) := by
  have hmeet : (meetings .byName (mergedItems .byName bs rs) rs)[i]? =
      some (v, partner (mergedItems .byName bs rs) rs i v) := getElem?_meetings h
  rw [meetings_again hrs, List.getElem?_map] at hmeet
  obtain ⟨z, hz, heq⟩ := Option.map_eq_some_iff.1 hmeet
  obtain ⟨hv, hpartner⟩ := Prod.mk.inj heq
  rw [← hpartner, ← fst_of_meetings hz, hv]

theorem name?_of_not_isMap {t : Tree} (h : t.isMap = false) : t.name? = none := by
  cases t with
  | map es => cases h
  | _ => rfl

/-- What is laid over something is no map if it was none. -/
theorem isMap_overlay (h : p.isMap = false) : (overlay m b p).isMap = false := by
  cases p with
  | map fs => cases h
  | arr ps =>
    by_cases harr : ∃ bs, b = arr bs
    · obtain ⟨bs, rfl⟩ := harr
      rw [overlay_arr]
      rfl
    · rw [overlay_arr_of_not_arr fun bs he => harr ⟨bs, he⟩]
      rfl
  | _ => rfl

theorem not_named_of_mem {t : Tree} (ht : t ∈ ts) (h : t.isMap = false) : ¬ Named ts := by
  intro hn
  obtain ⟨n, hname⟩ := hn.exists_name? ht
  rw [name?_of_not_isMap h] at hname
  cases hname

/-- By position, an element that is no map leaves its place without a name. -/
theorem not_named_overlayItems (h : ∃ t ∈ rs, t.isMap = false) :
    ¬ Named (overlayItems m bs rs) := by
  obtain ⟨t, ht, hmap⟩ := h
  obtain ⟨i, hi⟩ := List.mem_iff_getElem?.1 ht
  have hplace : (overlayItems m bs rs)[i]? = _ := getElem?_overlayItems i
  rw [hi] at hplace
  cases hb : bs[i]? with
  | none =>
    rw [hb] at hplace
    exact not_named_of_mem (List.mem_of_getElem? hplace) hmap
  | some b =>
    rw [hb] at hplace
    exact not_named_of_mem (List.mem_of_getElem? hplace) (isMap_overlay hmap)

/-- Over a decisive array, the names of the base come first among those of the result, if both have
names. -/
theorem map_name?_prefix_mergedItems (hd : Decisive rs) (hrs : ∀ t ∈ rs, t.Ordered)
    (hb : Named bs) (hm : Named (mergedItems .byName bs rs)) :
    bs.map name? <+: (mergedItems .byName bs rs).map name? := by
  by_cases hr : Named rs
  · rw [mergedItems, if_pos (joins_byName.2 ⟨hb, hr⟩), map_name?_joinNamed hb hrs]
    exact List.prefix_append _ _
  · rw [mergedItems, if_neg fun hj => hr (joins_byName.1 hj).2] at hm
    exact absurd hm (not_named_overlayItems (hd.resolve_left hr))

/-- A patch that takes the place of the base comes back. -/
theorem stable_of_overlay_eq_patch (hp : p.Ordered) (h : overlay .byName b p = p) :
    Stable b (some (overlay .byName b p)) (some p) := by
  rw [h]
  exact stable_of_absorbs h (overlay_self hp)

/-- A base that the patch adds nothing to comes back. -/
theorem stable_of_overlay_eq_base (hb : b.Ordered) (ho : ∀ p ∈ o, p.Ordered)
    (h : patched .byName b o = b) : Stable b (some (patched .byName b o)) o := by
  rw [h, Stable, patched_some, Option.getD_some]
  calc canonical (patched .byName (overlay .byName b b) o)
      = canonical (patched .byName b o) :=
        canonical_patched ho (hb.overlay hb) hb (overlay_self hb)
    _ = canonical b := by rw [h]

theorem stable_patched (hb : b.Ordered)
    (h : ∀ p ∈ o, Stable b (some (overlay .byName b p)) (some p)) :
    Stable b (some (patched .byName b o)) o := by
  cases o with
  | none => exact stable_of_overlay_eq_base hb (by simp) rfl
  | some p => exact h p rfl

/-- An array that is laid over an array comes back, if its elements do. -/
theorem stable_overlay_arr (hd : Decisive rs) (hbs : ∀ t ∈ bs, t.Ordered)
    (hrs : ∀ t ∈ rs, t.Ordered)
    (hstep : ∀ p ∈ rs, ∀ b : Tree, b.Ordered → Stable b (some (overlay .byName b p)) (some p)) :
    Stable (arr bs) (some (overlay .byName (arr bs) (arr rs))) (some (arr rs)) := by
  have habs : Absorbs (overlay .byName (arr bs) (arr rs)) (some (arr rs)) :=
    overlay_idem (ordered_arr.2 hrs) (ordered_arr.2 hbs)
  have hms : ∀ t ∈ mergedItems .byName bs rs, t.Ordered := ordered_mergedItems hbs hrs
  have hitems : (mergedItems .byName (mergedItems .byName bs rs) rs).map canonical =
      (mergedItems .byName bs rs).map canonical := by
    rwa [overlay_arr, Absorbs, patched_some, overlay_arr, canonical_arr_eq_iff] at habs
  rw [overlay_arr] at habs ⊢
  rw [stable_arrays_iff habs, itemsOf]
  apply (stable_items_iff_of_namesFirst hitems hbs hms hrs
    (map_name?_prefix_mergedItems hd hrs) length_le_mergedItems).2
  intro i v hv
  have hbase : (bs[i]?.getD null).Ordered := by
    cases hb : bs[i]? with
    | none => exact ordered_null
    | some b => exact hbs b (List.mem_of_getElem? hb)
  have hmade := eq_patched_of_getElem? hrs hv
  generalize hpartner : partner (mergedItems .byName bs rs) rs i v = o at hmade ⊢
  rw [hmade]
  exact stable_patched hbase fun p hp => hstep p (mem_of_partner (hpartner.trans hp)) _ hbase

/-- A map that is laid over a map comes back, if what is under its keys does. -/
theorem stable_overlay_maps (hg : (map gs).Ordered) (hf : (map fs).Ordered)
    (hstep : ∀ k p, Entries.get? k fs = some p → ∀ b : Tree, b.Ordered →
      Stable b (some (overlay .byName b p)) (some p)) :
    Stable (map gs) (some (overlay .byName (map gs) (map fs))) (some (map fs)) := by
  have habs : Absorbs (overlay .byName (map gs) (map fs)) (some (map fs)) := overlay_idem hf hg
  have hover := hg.overlay (m := .byName) hf
  rw [overlay] at habs hover ⊢
  rw [stable_maps_iff habs hg hover fun p hp => Option.some.inj hp ▸ hf]
  intro k
  rw [get?_overlayEntries (ordered_map.1 hf).1, Option.bind_some, get?_map]
  cases hk : Entries.get? k fs with
  | none =>
    rw [child_map]
    cases hgk : Entries.get? k gs with
    | none => exact .refl _
    | some v => exact stable_patched (o := none) (hg.get? hgk) (by simp)
  | some p =>
    by_cases hp : p = null
    · simp [hp, Stable]
    · simp only [hp, ↓reduceIte]
      exact hstep k p hk _ (hg.child k)

/-- **A result comes back over its own base,** if the arrays of the patch are decisive. -/
theorem stable_overlay (hp : p.Ordered) (hb : b.Ordered) (h : ∀ ts ∈ p.arrays, Decisive ts) :
    Stable b (some (overlay .byName b p)) (some p) := by
  induction p using byParts generalizing b with
  | scalar p hs => exact stable_of_overlay_eq_patch hp (overlay_scalar hs)
  | arr rs ih =>
    have hrs := ordered_arr.1 hp
    by_cases harr : ∃ bs, b = arr bs
    · obtain ⟨bs, rfl⟩ := harr
      apply stable_overlay_arr (h rs (mem_arrays_arr.2 (.inl rfl))) (ordered_arr.1 hb) hrs
      intro p hpm b hb
      exact ih p hpm (hrs p hpm) hb fun ts hts => h ts (mem_arrays_arr.2 (.inr ⟨p, hpm, hts⟩))
    · exact stable_of_overlay_eq_patch hp (overlay_arr_of_not_arr fun bs he => harr ⟨bs, he⟩)
  | map fs ih =>
    cases hmap : b.isMap with
    | true =>
      obtain ⟨gs, rfl⟩ := isMap_eq_true.1 hmap
      apply stable_overlay_maps hb hp
      intro k p hk b hb
      refine ih k p hk (hp.get? hk) hb fun ts hts => h ts ?_
      exact mem_arrays_map.2 ⟨(k, p), Entries.mem_of_get? hk, hts⟩
    | false =>
      rcases overlay_map_of_not_isMap .byName fs hmap with he | ⟨-, he⟩
      · exact stable_of_overlay_eq_patch hp he
      · exact stable_of_overlay_eq_base hb (fun _ hp' => Option.some.inj hp' ▸ hp) he

/-- Two maps of which one has a name are no decisive array: what they are merged to has names. -/
example :
    ¬ Stable (arr [map [("name", str "a")], map [("name", str "c")]])
      (some (overlay .byName (arr [map [("name", str "a")], map [("name", str "c")]])
        (arr [map [("name", str "b")], map [("v", int 1)]])))
      (some (arr [map [("name", str "b")], map [("v", int 1)]])) := by
  rw [Stable]
  decide +kernel

end Tree

/-- **A merged result can be laid over its own base again.** Merging by name objects to nothing. If
every array of the patch settles by itself how its elements find those of the base, then laying the
result over the base, and the patch over both, gives the result again. -/
theorem merge_rebased {base patch : Tree} (hbase : base.Ordered) (hpatch : patch.Ordered)
    (h : ∀ ts ∈ patch.arrays, Tree.Decisive ts) :
    ∃ merged rebased again, Strategy.named.merge base patch = .ok merged ∧
      Strategy.named.merge base merged = .ok rebased ∧
      Strategy.named.merge rebased patch = .ok again ∧ again.equal merged = true := by
  have hover := hbase.overlay (m := .byName) hpatch
  have hstable := Tree.stable_overlay hpatch hbase h
  refine ⟨_, _, _, Strategy.merge_eq_overlay (m := .byName) base patch,
    Strategy.merge_eq_overlay (m := .byName) base _,
    Strategy.merge_eq_overlay (m := .byName) _ patch, ?_⟩
  rw [Tree.equal_iff_canonical ((hbase.overlay hover).overlay hpatch) hover]
  exact hstable

def container : Tree := .map [
  ("args", .arr [.str "serve", .int 80]),
  ("ports", .arr [.map [("port", .int 80)], .map [("name", .str "admin"), ("port", .int 8080)]])]

def containerPatch : Tree := .map [
  ("args", .arr [.map [("flag", .str "check")], .str "all"]),
  ("ports", .arr [.map [("name", .str "web")]]),
  ("probe", .map [("path", .null)])]

def mergedContainer (probe : List (String × Tree)) : Tree := .map [
  ("args", .arr [.map [("flag", .str "check")], .str "all"]),
  ("ports", .arr [
    .map [("name", .str "web"), ("port", .int 80)],
    .map [("name", .str "admin"), ("port", .int 8080)]]),
  ("probe", .map probe)]

theorem merge_rebased_container :
    (∀ ts ∈ containerPatch.arrays, Tree.Decisive ts) ∧
      Strategy.named.merge container containerPatch = .ok (mergedContainer [("path", .null)]) ∧
      Strategy.named.merge container (mergedContainer [("path", .null)]) =
        .ok (mergedContainer [("path", .null)]) ∧
      Strategy.named.merge (mergedContainer [("path", .null)]) containerPatch =
        .ok (mergedContainer []) ∧
      (mergedContainer []).equal (mergedContainer [("path", .null)]) = true := by
  have hdecisive : ∀ ts ∈ containerPatch.arrays, Tree.Decisive ts := by decide
  have hmerge : Strategy.named.merge container containerPatch =
      .ok (mergedContainer [("path", .null)]) := by decide +kernel
  have hrebase : Strategy.named.merge container (mergedContainer [("path", .null)]) =
      .ok (mergedContainer [("path", .null)]) := by decide +kernel
  have hagain : Strategy.named.merge (mergedContainer [("path", .null)]) containerPatch =
      .ok (mergedContainer []) := by decide +kernel
  obtain ⟨merged, rebased, again, h₁, h₂, h₃, hequal⟩ :=
    @merge_rebased container containerPatch (by decide) (by decide) hdecisive
  cases hmerge.symm.trans h₁
  cases hrebase.symm.trans h₂
  cases hagain.symm.trans h₃
  exact ⟨hdecisive, hmerge, hrebase, hagain, hequal⟩

end PreviewEnv
