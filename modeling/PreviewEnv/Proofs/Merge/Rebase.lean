import PreviewEnv.Proofs.Merge.Stability

/-!
What is stored has been merged from a base and a patch. Later it is laid over the
base again, and the patch over both. `Settled` says, place by place, when this
gives what is stored.
-/

namespace PreviewEnv.Tree

/-- What is stored has taken in all that the patch says. -/
def Absorbs (stored : Tree) (patch : Option Tree) : Prop :=
  canonical (patched .byName stored patch) = canonical stored

/-- What is stored, laid over the base, with the patch laid over both, is what is stored. -/
def Stable (base : Tree) (stored patch : Option Tree) : Prop :=
  canonical (patched .byName (patched .byName base stored) patch) = canonical (stored.getD null)

/-- The items of a patch; none, if it is not an array. -/
def itemsOf : Option Tree → List Tree
  | some (arr rs) => rs
  | _ => []

/-- The item of the patch that meets a stored element. -/
def partner (ms rs : List Tree) (i : Nat) (v : Tree) : Option Tree :=
  if Named ms ∧ Named rs then namesake v.name? rs else rs[i]?

/-- How a base, what is stored and the patch are shaped where what is stored, laid over the base
again, comes back. -/
inductive Settled : Tree → Option Tree → Option Tree → Prop
  /-- Nothing is stored, and the base has nothing or the patch clears it. -/
  | absent {b : Tree} {r : Option Tree} (h : b = null ∨ r = some null) : Settled b none r
  | scalar {b v : Tree} {r : Option Tree} (h : v.isScalar = true) : Settled b (some v) r
  /-- An array takes the place of anything but an array. -/
  | array {b : Tree} {ms : List Tree} {r : Option Tree} (h : ∀ es, b ≠ arr es) :
      Settled b (some (arr ms)) r
  /-- The elements of the base come first among those that are stored, and each is settled with the
  ones that it meets. -/
  | arrays {es ms : List Tree} {r : Option Tree}
      (hnames : Named es → Named ms → Named (itemsOf r) ∧ es.map name? <+: ms.map name?)
      (hlen : es.length ≤ ms.length)
      (h : ∀ (i : Nat) v, ms[i]? = some v →
        Settled (es[i]?.getD null) (some v) (partner ms (itemsOf r) i v)) :
      Settled (arr es) (some (arr ms)) r
  /-- Elements that have met by name meet those of the patch by position, each to become what is
  stored at its position. -/
  | crossed {es ms : List Tree} {r : Option Tree} (hes : Named es) (hms : Named ms)
      (hrs : ¬ Named (itemsOf r))
      (h : (overlayItems .byName (joinNamed .byName es ms) (itemsOf r)).map canonical =
        ms.map canonical) :
      Settled (arr es) (some (arr ms)) r
  /-- A map takes the place of null, and of anything else but a map if there is something in it, or
  in the patch. -/
  | map {b : Tree} {fs : List (String × Tree)} {r : Option Tree}
      (h : b = null ∨
        b.isOpen = false ∧ (fs ≠ [] ∨ ∃ gs, gs ≠ [] ∧ r = some (Tree.map gs))) :
      Settled b (some (Tree.map fs)) r
  | maps {es fs : List (String × Tree)} {r : Option Tree}
      (h : ∀ k, Settled ((Tree.map es).child k) (Entries.get? k fs) (r.bind (get? k))) :
      Settled (Tree.map es) (some (Tree.map fs)) r

variable {b t v : Tree} {es ms rs : List Tree} {fs gs : List (String × Tree)} {o r : Option Tree}
  {k : String} {i : Nat}

theorem ordered_mergedItems {m : Matching} (hes : ∀ t ∈ es, t.Ordered) (hms : ∀ t ∈ ms, t.Ordered) :
    ∀ t ∈ mergedItems m es ms, t.Ordered := by
  have h := (ordered_arr.2 hes).overlay (m := m) (ordered_arr.2 hms)
  rw [overlay_arr] at h
  exact ordered_arr.1 h

theorem joins_byName : Matching.byName.Joins es ms ↔ Named es ∧ Named ms := by
  simp [Matching.Joins]

/-- Two arrays that are related place by place are equal when they are so at every place. -/
theorem map_canonical_eq_iff_of_getElem? {ts : List Tree} {g : Nat → Tree → Tree}
    (h : ∀ i : Nat, ts[i]? = ms[i]?.map (g i)) :
    ts.map canonical = ms.map canonical ↔
      ∀ (i : Nat) v, ms[i]? = some v → canonical (g i v) = canonical v := by
  rw [map_canonical_eq_iff]
  apply forall_congr'
  intro i
  rw [h i]
  cases ms[i]? <;> simp

/-- Where the base is no longer, every stored element meets what the base has at its position. -/
theorem getElem?_overlayItems_of_le (hlen : es.length ≤ ms.length) (i : Nat) :
    (overlayItems .byName es ms)[i]? =
      ms[i]?.map fun v => overlay .byName (es[i]?.getD null) v := by
  rw [getElem?_overlayItems]
  cases hb : es[i]? with
  | none => cases ms[i]? <;> simp
  | some b =>
    have hi : i < ms.length := by
      have := (List.getElem?_eq_some_iff.1 hb).1
      omega
    rw [List.getElem?_eq_getElem hi]
    rfl

/-- The names of stored elements come through. -/
theorem map_name?_overlayItems (hlen : es.length ≤ ms.length) (hms : ∀ t ∈ ms, t.Ordered)
    (hn : none ∉ ms.map name?) : (overlayItems .byName es ms).map name? = ms.map name? := by
  apply List.ext_getElem?
  intro i
  rw [List.getElem?_map, List.getElem?_map, getElem?_overlayItems_of_le hlen]
  cases hv : ms[i]? with
  | none => rfl
  | some v =>
    have hvm := List.mem_of_getElem? hv
    obtain ⟨n, hname⟩ := exists_name? hn hvm
    rw [Option.map_some, Option.map_some, Option.map_some, hname,
      name?_overlay (hms v hvm) hname]

/-- A stored array that has absorbed a patch has all its names, or all its positions. -/
theorem bounds_of_absorbs (h : (mergedItems .byName ms rs).map canonical = ms.map canonical) :
    (Named ms → Named rs → ∀ p ∈ rs, p.name? ∈ ms.map name?) ∧
      (¬ (Named ms ∧ Named rs) → rs.length ≤ ms.length) := by
  have hlen := congrArg List.length h
  rw [List.length_map, List.length_map] at hlen
  constructor
  · intro hms hrs p hp
    rw [mergedItems, if_pos (joins_byName.2 ⟨hms, hrs⟩), joinNamed, List.length_append,
      List.length_map] at hlen
    have hnone : (rs.filter fun p => (namesake p.name? ms).isNone) = [] :=
      List.eq_nil_of_length_eq_zero (by omega)
    by_contra hnew
    have hmem : p ∈ rs.filter fun p => (namesake p.name? ms).isNone := by
      rw [List.mem_filter, Option.isNone_iff_eq_none, namesake_eq_none_iff]
      exact ⟨hp, hnew⟩
    rw [hnone] at hmem
    cases hmem
  · intro hn
    rw [mergedItems, if_neg (mt joins_byName.1 hn), length_overlayItems] at hlen
    omega

theorem mergedItems_of_namesFirst (hpre : Named es → Named ms → es.map name? <+: ms.map name?) :
    mergedItems .byName es ms = overlayItems .byName es ms := by
  rw [mergedItems]
  split
  · next hj => exact joinNamed_eq_overlayItems hj.2.1 hj.2.2 (.inr (hpre hj.2.1 hj.2.2))
  · rfl

theorem none_notMem_overlayItems {m : Matching} (hes : none ∉ es.map name?)
    (hrs : none ∉ rs.map name?) (ho : ∀ t ∈ rs, t.Ordered) :
    none ∉ (overlayItems m es rs).map name? := by
  intro hmem
  obtain ⟨t, ht, hnone⟩ := List.mem_map.1 hmem
  obtain ⟨i, hi⟩ := List.mem_iff_getElem?.1 ht
  rw [getElem?_overlayItems] at hi
  cases hr : rs[i]? with
  | none =>
    cases hb : es[i]? with
    | none => simp [hb, hr] at hi
    | some b =>
      simp only [hb, hr, patched_none, Option.some.injEq] at hi
      exact hes (List.mem_map.2 ⟨b, List.mem_of_getElem? hb, hi ▸ hnone⟩)
  | some r =>
    have hrm := List.mem_of_getElem? hr
    obtain ⟨n, hn⟩ := exists_name? hrs hrm
    cases hb : es[i]? with
    | none =>
      simp only [hb, hr, Option.some.injEq] at hi
      rw [← hi, hn] at hnone
      cases hnone
    | some b =>
      simp only [hb, hr, patched_some, Option.some.injEq] at hi
      rw [← hi, name?_overlay (ho r hrm) hn] at hnone
      cases hnone

/-- By position, what is stored is given again when it is so at every position. -/
theorem overlayItems_overlayItems_eq_iff (hlen : es.length ≤ ms.length)
    (hrs : rs.length ≤ ms.length) :
    (overlayItems .byName (overlayItems .byName es ms) rs).map canonical = ms.map canonical ↔
      ∀ (i : Nat) v, ms[i]? = some v →
        canonical (patched .byName (overlay .byName (es[i]?.getD null) v) rs[i]?) =
          canonical v := by
  apply map_canonical_eq_iff_of_getElem?
    (g := fun i v => patched .byName (overlay .byName (es[i]?.getD null) v) rs[i]?)
  intro i
  rw [getElem?_overlayItems, getElem?_overlayItems_of_le hlen]
  cases hv : ms[i]? with
  | some v => rfl
  | none =>
    rw [List.getElem?_eq_none_iff] at hv
    exact List.getElem?_eq_none_iff.2 (by omega)

/-- By name, it is when it is so under every name. -/
theorem joinNamed_overlayItems_eq_iff (hlen : es.length ≤ ms.length) (hms : ∀ t ∈ ms, t.Ordered)
    (hn : Named ms) (hsub : ∀ p ∈ rs, p.name? ∈ ms.map name?) :
    (joinNamed .byName (overlayItems .byName es ms) rs).map canonical = ms.map canonical ↔
      ∀ (i : Nat) v, ms[i]? = some v →
        canonical (patched .byName (overlay .byName (es[i]?.getD null) v)
          (namesake v.name? rs)) = canonical v := by
  rw [joinNamed_of_subset (by rwa [map_name?_overlayItems hlen hms hn.1])]
  apply map_canonical_eq_iff_of_getElem?
    (g := fun i v => patched .byName (overlay .byName (es[i]?.getD null) v) (namesake v.name? rs))
  intro i
  rw [List.getElem?_map, getElem?_overlayItems_of_le hlen]
  cases hv : ms[i]? with
  | none => rfl
  | some v =>
    have hvm := List.mem_of_getElem? hv
    obtain ⟨n, hname⟩ := hn.exists_name? hvm
    rw [Option.map_some, Option.map_some, Option.map_some, hname,
      name?_overlay (hms v hvm) hname]

/-- Where the base has its places among what is stored, elements come back when each does. -/
theorem stable_items_iff_of_namesFirst
    (habs : (mergedItems .byName ms rs).map canonical = ms.map canonical)
    (hes : ∀ t ∈ es, t.Ordered) (hms : ∀ t ∈ ms, t.Ordered) (hrs : ∀ t ∈ rs, t.Ordered)
    (hpre : Named es → Named ms → es.map name? <+: ms.map name?) (hlen : es.length ≤ ms.length) :
    (mergedItems .byName (mergedItems .byName es ms) rs).map canonical = ms.map canonical ↔
      ∀ (i : Nat) v, ms[i]? = some v →
        canonical (patched .byName (overlay .byName (es[i]?.getD null) v) (partner ms rs i v)) =
          canonical v := by
  obtain ⟨hsub, hbound⟩ := bounds_of_absorbs habs
  have hmid : ∀ t ∈ overlayItems .byName es ms, t.Ordered := ordered_overlayItems hes hms
  rw [mergedItems_of_namesFirst hpre]
  by_cases hboth : Named ms ∧ Named rs
  · obtain ⟨hm, hr⟩ := hboth
    have hmidNamed : Named (overlayItems .byName es ms) :=
      (named_congr (map_name?_overlayItems hlen hms hm.1)).2 hm
    rw [mergedItems, if_pos (joins_byName.2 ⟨hmidNamed, hr⟩)]
    simp only [partner, hm, hr, and_self, ↓reduceIte]
    exact joinNamed_overlayItems_eq_iff hlen hms hm (hsub hm hr)
  · simp only [partner, hboth, ↓reduceIte]
    have hpositions := overlayItems_overlayItems_eq_iff hlen (hbound hboth)
    by_cases hj : Named (overlayItems .byName es ms) ∧ Named rs
    · -- Then all that would come back has a name, and so what is stored would have one too.
      have hm : ¬ Named ms := fun hm => hboth ⟨hm, hj.2⟩
      refine iff_of_false (fun h => hm ?_) (fun h => hm ?_)
      · rw [mergedItems, if_pos (joins_byName.2 hj)] at h
        have hfinal := named_joinNamed (m := .byName) hj.1 hj.2 hrs
        exact (named_congr (map_name?_of_canonical
          (fun t ht => ordered_mergedItems hmid hrs t (by
            rwa [mergedItems, if_pos (joins_byName.2 hj)])) hms h)).1 hfinal
      · have hnames := map_name?_of_canonical (ordered_overlayItems hmid hrs) hms
          (hpositions.2 h)
        have hnone := none_notMem_overlayItems (m := .byName) hj.1.1 hj.2.1 hrs
        rw [hnames] at hnone
        exact (named_congr (map_name?_overlayItems hlen hms hnone)).1 hj.1
    · rw [mergedItems, if_neg (mt joins_byName.1 hj)]
      exact hpositions

/-- Elements that are stored come back when those of the base have their places among them, and
each comes back. -/
theorem stable_items_iff (habs : (mergedItems .byName ms rs).map canonical = ms.map canonical)
    (hes : ∀ t ∈ es, t.Ordered) (hms : ∀ t ∈ ms, t.Ordered) (hrs : ∀ t ∈ rs, t.Ordered)
    (hn : Named es → Named ms → Named rs) :
    (mergedItems .byName (mergedItems .byName es ms) rs).map canonical = ms.map canonical ↔
      (Named es → Named ms → es.map name? <+: ms.map name?) ∧ es.length ≤ ms.length ∧
        ∀ (i : Nat) v, ms[i]? = some v →
          canonical (patched .byName (overlay .byName (es[i]?.getD null) v) (partner ms rs i v)) =
            canonical v := by
  refine ⟨fun h => ?_, fun ⟨hpre, hlen, h⟩ =>
    (stable_items_iff_of_namesFirst habs hes hms hrs hpre hlen).2 h⟩
  have hpre (he : Named es) (hm : Named ms) : es.map name? <+: ms.map name? := by
    have hr := hn he hm
    have hmid := named_joinNamed (m := .byName) he hm hms
    have hnames := map_name?_of_canonical
      (ordered_mergedItems (ordered_mergedItems hes hms) hrs) hms h
    rw [mergedItems, mergedItems, if_pos (joins_byName.2 ⟨he, hm⟩),
      if_pos (joins_byName.2 ⟨hmid, hr⟩), map_name?_joinNamed hmid hrs,
      map_name?_joinNamed he hms, List.append_assoc] at hnames
    exact ⟨_, hnames⟩
  have hlen : es.length ≤ ms.length := by
    have hlen := congrArg List.length h
    rw [List.length_map, List.length_map] at hlen
    rw [← hlen]
    exact length_le_mergedItems.trans length_le_mergedItems
  exact ⟨hpre, hlen, (stable_items_iff_of_namesFirst habs hes hms hrs hpre hlen).1 h⟩

theorem canonical_scalar_ne_arr (h : t.isScalar = true) : canonical t ≠ canonical (arr ms) := by
  rw [canonical_of_isScalar h, canonical_arr]
  exact (canonicalNumber_ne h).1 _

theorem canonical_scalar_ne_map (h : t.isScalar = true) : canonical t ≠ canonical (map fs) := by
  rw [canonical_of_isScalar h, canonical]
  exact (canonicalNumber_ne h).2 _

theorem canonical_arr_ne_map : canonical (arr ms) ≠ canonical (map fs) := by
  simp [canonical]

/-- A patch that an array has absorbed is an array, or adds nothing. -/
theorem patched_arr_of_absorbs (h : Absorbs (arr ms) r) (xs : List Tree) :
    patched .byName (arr xs) r = arr (mergedItems .byName xs (itemsOf r)) := by
  cases r with
  | none => exact congrArg arr mergedItems_nil_right.symm
  | some p =>
    cases p with
    | arr rs => rw [patched_some, overlay_arr, itemsOf]
    | map gs =>
      cases gs with
      | nil => exact congrArg arr mergedItems_nil_right.symm
      | cons g gs =>
        rw [Absorbs, patched_some, overlay_map_of_not_open rfl (by simp)] at h
        exact absurd h.symm canonical_arr_ne_map
    | _ =>
      rw [Absorbs, patched_some, overlay_scalar rfl] at h
      exact absurd h (canonical_scalar_ne_arr rfl)

/-- A patch that a map has absorbed is a map, if there is one. -/
theorem map_of_absorbs (h : Absorbs (map fs) r) : ∀ p ∈ r, ∃ gs, p = map gs := by
  intro p hp
  cases Option.mem_def.1 hp
  cases p with
  | map gs => exact ⟨gs, rfl⟩
  | arr rs =>
    rw [Absorbs, patched_some, overlay_arr_of_not_arr (by simp)] at h
    exact absurd h canonical_arr_ne_map
  | _ =>
    rw [Absorbs, patched_some, overlay_scalar rfl] at h
    exact absurd h (canonical_scalar_ne_map rfl)

/-- Under a key, a patch that is a map changes what is there by what it has there. -/
theorem child_patched (hr : ∀ p ∈ r, p.Ordered ∧ ∃ gs, p = map gs) :
    (patched .byName b r).child k = patched .byName (b.child k) (r.bind (get? k)) := by
  cases r with
  | none => rfl
  | some p =>
    obtain ⟨hp, gs, rfl⟩ := hr p rfl
    exact child_overlay hp

theorem absorbs_none (h : Absorbs null r) : r = none ∨ r = some null := by
  rw [Absorbs, patched_null_left, canonical_null, canonical_eq_null] at h
  cases r with
  | none => exact .inl rfl
  | some p => exact .inr (congrArg some h)

theorem stable_none_iff_settled (h : Absorbs null r) : Stable b none r ↔ Settled b none r := by
  have hiff : Stable b none r ↔ b = null ∨ r = some null := by
    rw [Stable, patched_none, Option.getD_none, canonical_null, canonical_eq_null]
    rcases absorbs_none h with rfl | rfl <;> simp
  rw [hiff]
  refine ⟨.absent, fun h => ?_⟩
  cases h
  assumption

theorem stable_of_absorbs (hb : patched .byName b o = o.getD null) (h : Absorbs (o.getD null) r) :
    Stable b o r := by
  rw [Stable, hb]
  exact h

/-- Each element of an array has absorbed what it meets. -/
theorem absorbs_partner (h : Absorbs (arr ms) r) (hms : ∀ t ∈ ms, t.Ordered)
    (hrs : ∀ t ∈ itemsOf r, t.Ordered) (hv : ms[i]? = some v) :
    Absorbs v (partner ms (itemsOf r) i v) := by
  have hitems := h
  rw [Absorbs, patched_arr_of_absorbs h, canonical_arr_eq_iff] at hitems
  have hnone : ∀ t ∈ ([] : List Tree), t.Ordered := by simp
  have hall := stable_items_iff_of_namesFirst hitems hnone hms hrs
    (fun _ _ => List.nil_prefix) (Nat.zero_le _)
  have hmid : mergedItems .byName [] ms = ms := by
    rw [mergedItems]
    split <;> simp
  rw [hmid] at hall
  have hi := hall.1 hitems i v hv
  rw [List.getElem?_nil, Option.getD_none, overlay_null_left] at hi
  exact hi

theorem ordered_itemsOf (h : ∀ p ∈ r, p.Ordered) : ∀ t ∈ itemsOf r, t.Ordered := by
  cases r with
  | none => simp [itemsOf]
  | some p =>
    cases p with
    | arr rs => exact ordered_arr.1 (h _ rfl)
    | _ => simp [itemsOf]

theorem mem_of_partner {p : Tree} (h : partner ms rs i v = some p) : p ∈ rs := by
  rw [partner] at h
  split at h
  · exact mem_of_namesake h
  · exact List.mem_of_getElem? h

theorem stable_arrays_iff (habs : Absorbs (arr ms) r) :
    Stable (arr es) (some (arr ms)) r ↔
      (mergedItems .byName (mergedItems .byName es ms) (itemsOf r)).map canonical =
        ms.map canonical := by
  rw [Stable, patched_some, overlay_arr, patched_arr_of_absorbs habs, Option.getD_some,
    canonical_arr_eq_iff]

theorem absorbs_child (habs : Absorbs (map fs) r) (hf : (map fs).Ordered)
    (hr : ∀ p ∈ r, p.Ordered) :
    Absorbs ((Entries.get? k fs).getD null) (r.bind (get? k)) := by
  have hmap := map_of_absorbs habs
  have hk := canonical_child habs (hf.patched hr) hf k
  rwa [child_patched fun p hp => ⟨hr p hp, hmap p hp⟩, child_map] at hk

theorem stable_maps_iff (habs : Absorbs (map fs) r) (hg : (map gs).Ordered)
    (hf : (map fs).Ordered) (hr : ∀ p ∈ r, p.Ordered) :
    Stable (map gs) (some (map fs)) r ↔
      ∀ k, Stable ((map gs).child k) (Entries.get? k fs) (r.bind (get? k)) := by
  have hmap (p) (hp : p ∈ r) : p.Ordered ∧ ∃ gs, p = map gs := ⟨hr p hp, map_of_absorbs habs p hp⟩
  obtain ⟨hs, heq⟩ : ∃ hs, overlay .byName (map gs) (map fs) = map hs :=
    exists_overlay_map (.inl rfl)
  have hbase : (map hs).Ordered := heq ▸ hg.overlay hf
  have hlaid : ∃ ds, patched .byName (map hs) r = map ds := by
    cases r with
    | none => exact ⟨hs, rfl⟩
    | some p =>
      obtain ⟨-, ds, rfl⟩ := hmap p rfl
      exact exists_overlay_map (b := map hs) (.inl rfl)
  rw [Stable, patched_some, heq, Option.getD_some,
    canonical_eq_iff_child (hbase.patched hr) hf hlaid ⟨fs, rfl⟩]
  apply forall_congr'
  intro k
  rw [child_patched hmap, ← heq, child_overlay hf]
  rfl

/-- Where the base is neither a map nor null, a map is stable if it has anything in it, or the patch
has. -/
theorem stable_map_of_not_open (habs : Absorbs (map fs) r) (hb : b.isOpen = false)
    (hr : ∀ p ∈ r, p.Ordered) :
    Stable b (some (map fs)) r ↔ fs ≠ [] ∨ ∃ gs, gs ≠ [] ∧ r = some (map gs) := by
  by_cases hfs : fs = []
  · subst hfs
    have hnull : b ≠ null := by
      rintro rfl
      cases hb
    have hkeep : overlay .byName b (map []) = b := by rw [overlay_map_nil, if_neg hnull]
    have hne : canonical b ≠ canonical (map []) := fun h => by
      rw [isOpen_of_canonical h.symm rfl] at hb
      cases hb
    simp only [Stable, patched_some, hkeep, Option.getD_some, ne_eq, not_true_eq_false, false_or]
    cases r with
    | none => simpa using hne
    | some p =>
      obtain ⟨gs, rfl⟩ := map_of_absorbs habs p rfl
      by_cases hgs : gs = []
      · subst hgs
        simpa [hkeep] using hne
      · -- Laid over an empty map, the patch is as it is.
        have hempty : canonical (overlay .byName (map []) (map gs)) = canonical (map gs) := by
          have hg := hr _ rfl
          have hnil : (map []).Ordered := ordered_map.2 ⟨Entries.ordered_nil, by simp⟩
          rw [canonical_eq_iff_child (hnil.overlay hg) hg (exists_overlay_map (.inl rfl)) ⟨gs, rfl⟩]
          intro k
          rw [child_overlay hg, child_nil, patched_null_left, child_map]
        refine iff_of_true ?_ ⟨gs, hgs, rfl⟩
        rw [patched_some, overlay_map_of_not_open hb hgs, ← hempty]
        exact habs
  · refine iff_of_true (stable_of_absorbs ?_ habs) (.inl hfs)
    exact overlay_map_of_not_open hb hfs

/-- An array over an array is stable exactly when it is settled, if its elements are. -/
theorem stable_arr_iff_settled (habs : Absorbs (arr ms) r) (hes : ∀ t ∈ es, t.Ordered)
    (hms : ∀ t ∈ ms, t.Ordered) (hrs : ∀ t ∈ itemsOf r, t.Ordered)
    (hstep : ∀ (i : Nat) v, ms[i]? = some v →
      (Stable (es[i]?.getD null) (some v) (partner ms (itemsOf r) i v) ↔
        Settled (es[i]?.getD null) (some v) (partner ms (itemsOf r) i v))) :
    Stable (arr es) (some (arr ms)) r ↔ Settled (arr es) (some (arr ms)) r := by
  have hitems := habs
  rw [Absorbs, patched_arr_of_absorbs habs, canonical_arr_eq_iff] at hitems
  rw [stable_arrays_iff habs]
  by_cases hcross : Named es ∧ Named ms ∧ ¬ Named (itemsOf r)
  · obtain ⟨he, hm, hn⟩ := hcross
    rw [mergedItems, mergedItems, if_pos (joins_byName.2 ⟨he, hm⟩),
      if_neg fun hj => hn (joins_byName.1 hj).2]
    refine ⟨.crossed he hm hn, fun h => ?_⟩
    cases h with
    | scalar h => cases h
    | array h => exact absurd rfl (h es)
    | arrays hnames => exact absurd (hnames he hm).1 hn
    | crossed _ _ _ h => exact h
  · have hn : Named es → Named ms → Named (itemsOf r) := fun he hm => by
      by_contra hn
      exact hcross ⟨he, hm, hn⟩
    rw [stable_items_iff hitems hes hms hrs hn]
    constructor
    · rintro ⟨hpre, hlen, h⟩
      exact .arrays (fun he hm => ⟨hn he hm, hpre he hm⟩) hlen fun i v hi =>
        (hstep i v hi).1 (h i v hi)
    · intro h
      cases h with
      | scalar h => cases h
      | array h => exact absurd rfl (h es)
      | arrays hnames hlen h =>
        exact ⟨fun he hm => (hnames he hm).2, hlen, fun i v hi => (hstep i v hi).2 (h i v hi)⟩
      | crossed he hm hn' => exact absurd (hn he hm) hn'

/-- A map over a map is, if the values under its keys are. -/
theorem stable_map_iff_settled (habs : Absorbs (map fs) r) (hb : b.Ordered) (hf : (map fs).Ordered)
    (hr : ∀ p ∈ r, p.Ordered)
    (hstep : ∀ k, Stable (b.child k) (Entries.get? k fs) (r.bind (get? k)) ↔
      Settled (b.child k) (Entries.get? k fs) (r.bind (get? k))) :
    Stable b (some (map fs)) r ↔ Settled b (some (map fs)) r := by
  by_cases hopen : b.isOpen = true
  · rcases isOpen_eq_true.1 hopen with rfl | ⟨gs, rfl⟩
    · exact iff_of_true (stable_of_absorbs overlay_null_left habs) (.map (.inl rfl))
    · rw [stable_maps_iff habs hb hf hr]
      constructor
      · intro h
        exact .maps fun k => (hstep k).1 (h k)
      · intro h
        cases h with
        | scalar h => cases h
        | map h =>
          rcases h with h | ⟨h, -⟩
          · cases h
          · cases h
        | maps h => exact fun k => (hstep k).2 (h k)
  · have hclosed : b.isOpen = false := by simpa using hopen
    rw [stable_map_of_not_open habs hclosed hr]
    constructor
    · intro h
      exact .map (.inr ⟨hclosed, h⟩)
    · intro h
      cases h with
      | scalar h => cases h
      | map h =>
        rcases h with rfl | ⟨-, h⟩
        · cases hclosed
        · exact h
      | maps => cases hclosed

theorem stable_some_iff_settled (habs : Absorbs v r) (hb : b.Ordered) (hv : v.Ordered)
    (hr : ∀ p ∈ r, p.Ordered) : Stable b (some v) r ↔ Settled b (some v) r := by
  induction v using byParts generalizing b r with
  | scalar v hs => exact iff_of_true (stable_of_absorbs (overlay_scalar hs) habs) (.scalar hs)
  | arr ms ih =>
    by_cases harr : ∃ es, b = arr es
    · obtain ⟨es, rfl⟩ := harr
      have hms := ordered_arr.1 hv
      have hrs := ordered_itemsOf hr
      apply stable_arr_iff_settled habs (ordered_arr.1 hb) hms hrs
      intro i v hi
      have hvm := List.mem_of_getElem? hi
      refine ih v hvm (absorbs_partner habs hms hrs hi) ?_ (hms v hvm)
        fun p hp => hrs p (mem_of_partner hp)
      cases hbi : es[i]? with
      | none => exact ordered_null
      | some b => exact ordered_arr.1 hb b (List.mem_of_getElem? hbi)
    · have hne : ∀ es, b ≠ arr es := fun es he => harr ⟨es, he⟩
      exact iff_of_true (stable_of_absorbs (overlay_arr_of_not_arr hne) habs) (.array hne)
  | map fs ih =>
    apply stable_map_iff_settled habs hb hv hr
    intro k
    have hk := absorbs_child (k := k) habs hv hr
    have hrk : ∀ p ∈ r.bind (get? k), p.Ordered := by
      intro p hp
      obtain ⟨q, hq, hqp⟩ := Option.bind_eq_some_iff.1 hp
      obtain ⟨gs, rfl⟩ := map_of_absorbs habs q hq
      exact (hr _ hq).get? hqp
    cases hg : Entries.get? k fs with
    | none =>
      rw [hg] at hk
      exact stable_none_iff_settled hk
    | some v =>
      rw [hg] at hk
      exact ih k v hg hk (hb.child k) (hv.get? hg) hrk

/-- Where the patch is absorbed, what is stored comes back exactly where the shapes are settled. -/
theorem stable_iff_settled (habs : Absorbs (o.getD null) r) (hb : b.Ordered)
    (ho : ∀ v ∈ o, v.Ordered) (hr : ∀ p ∈ r, p.Ordered) : Stable b o r ↔ Settled b o r := by
  cases o with
  | none => exact stable_none_iff_settled habs
  | some v => exact stable_some_iff_settled habs hb (ho v rfl) hr

end PreviewEnv.Tree
