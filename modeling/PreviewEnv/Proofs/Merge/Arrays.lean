import PreviewEnv.Proofs.Merge.Overlay

/-!
# Laying arrays over arrays

* `overlay_arr`: by name, the elements of the base come first, each with the
  patch element of its name laid over it, and then the elements with new names;
  otherwise elements meet position by position;
* `getElem?_overlayItems`: what is at a position then;
* `name?_overlay`: a patch that has a name gives it to the result;
* `map_name?_joinNamed`, `named_joinNamed`: the names of elements joined by name
  are those of the base and then the new ones, and tell the elements apart;
* `joinNamed_eq_overlayItems`: where the names of one array come first among
  those of the other, joining by name is meeting position by position;
* `meetings_again`: the same elements meet again when the patch is laid over the
  result;
* `forall_elements_overlay`: what overlays keep is true of the elements of an
  overlay if it is true of those of base and patch.
-/

namespace PreviewEnv.Tree

variable {m : Matching} {b p t : Tree} {bs ps : List Tree} {es : List (String × Tree)}
  {n : String} {o : Option Tree}

/-- The elements of the base, each with the element of its name laid over it, and then the elements
whose names are new. -/
def joinNamed (m : Matching) (bs ps : List Tree) : List Tree :=
  bs.map (fun b => patched m b (namesake b.name? ps)) ++
    ps.filter fun p => (namesake p.name? bs).isNone

/-- What the elements become that are there, when one patch element more is laid over them. -/
theorem map_patched_setEntry (he : (es.map (·.1)).Nodup) (hn : p.name? = some n)
    (hnew : namesake (some n) ps = none) (hmem : n ∈ es.map (·.1)) :
    (NamedArray.setEntry n (overlay m ((map es).child n) p) es).map
        (fun e => (e.1, patched m e.2 (namesake (some e.1) ps))) =
      es.map fun e => (e.1, patched m e.2 (namesake (some e.1) (p :: ps))) := by
  rw [NamedArray.setEntry_of_mem he hmem, List.map_map]
  apply List.map_congr_left
  intro e hm
  rw [Function.comp_apply, namesake_cons, hn]
  by_cases hk : e.1 = n
  · have hg : (map es).child n = e.2 :=
      child_of_get? ((Entries.mem_iff_get?_of_nodup he).1 (hk ▸ hm))
    simp [hk, hnew, hg]
  · have hk' : ¬ some n = some e.1 := fun h => hk (Option.some.inj h).symm
    rw [if_neg hk, if_neg hk']

theorem overlayNamed_eq (he : (es.map (·.1)).Nodup) (hp : Named ps) :
    overlayNamed m es ps =
      es.map (fun e => (e.1, patched m e.2 (namesake (some e.1) ps))) ++
        NamedArray.entriesOf (ps.filter fun p => decide (p.name?.getD "" ∉ es.map (·.1))) := by
  induction ps generalizing es with
  | nil => simp [overlayNamed, NamedArray.entriesOf]
  | cons p ps ih =>
    obtain ⟨n, hn⟩ := hp.exists_name? List.mem_cons_self
    have hnew : namesake (some n) ps = none := by
      rw [namesake_eq_none_iff, ← hn]
      exact (List.nodup_cons.1 hp.2).1
    rw [overlayNamed, hn]
    simp only
    rw [ih (NamedArray.nodup_keys_setEntry he) hp.tail]
    by_cases hmem : n ∈ es.map (·.1)
    · rw [map_patched_setEntry he hn hnew hmem, NamedArray.keys_setEntry, if_pos hmem,
        List.filter_cons_of_neg (by simpa [hn] using hmem)]
    · -- The element goes to the end, and no later patch element has its name.
      have hc : (map es).child n = null := by
        rw [child_map, Entries.get?_eq_none_of_forall, Option.getD_none]
        exact fun e hm hk => hmem (hk ▸ List.mem_map_of_mem hm)
      have hold : es.map (fun e => (e.1, patched m e.2 (namesake (some e.1) ps))) =
          es.map fun e => (e.1, patched m e.2 (namesake (some e.1) (p :: ps))) := by
        apply List.map_congr_left
        intro e hm
        have hk : ¬ some n = some e.1 := fun h =>
          hmem (Option.some.inj h ▸ List.mem_map_of_mem hm)
        rw [namesake_cons, hn, if_neg hk]
      have hrest : ps.filter (fun q => decide (q.name?.getD "" ∉ (es ++ [(n, p)]).map (·.1))) =
          ps.filter fun q => decide (q.name?.getD "" ∉ es.map (·.1)) := by
        apply List.filter_congr
        intro q hq
        obtain ⟨j, hj⟩ := hp.tail.exists_name? hq
        have hne : j ≠ n := by
          rintro rfl
          exact namesake_eq_none_iff.1 hnew (hj ▸ List.mem_map_of_mem hq)
        simp [hj, hne]
      rw [hc, overlay_null_left, NamedArray.setEntry_of_not_mem hmem,
        List.filter_cons_of_pos (by simpa [hn] using hmem), List.map_append, hold, hrest]
      simp [NamedArray.entriesOf, hn, hnew]

theorem overlayNamed_entriesOf (hb : Named bs) (hp : Named ps) :
    (overlayNamed m (NamedArray.entriesOf bs) ps).map (·.2) = joinNamed m bs ps := by
  rw [overlayNamed_eq ((NamedArray.nodup_keys_entriesOf hb.1).2 hb.2) hp, List.map_append,
    NamedArray.map_snd_entriesOf, joinNamed]
  congr 1
  · rw [NamedArray.entriesOf, List.map_map, List.map_map]
    apply List.map_congr_left
    intro b hmem
    obtain ⟨n, hn⟩ := hb.exists_name? hmem
    simp [hn]
  · apply List.filter_congr
    intro p hmem
    obtain ⟨n, hn⟩ := hp.exists_name? hmem
    rw [hn, Option.getD_some, Bool.eq_iff_iff, decide_eq_true_iff, Option.isNone_iff_eq_none,
      namesake_eq_none_iff, NamedArray.map_name?_eq hb.1]
    simp

/-- The elements of two arrays meet by name where they can, otherwise position by position. -/
def mergedItems (m : Matching) (bs ps : List Tree) : List Tree :=
  if m.Joins bs ps then joinNamed m bs ps else overlayItems m bs ps

theorem overlay_arr : overlay m (arr bs) (arr ps) = arr (mergedItems m bs ps) := by
  rw [overlay, mergedItems]
  split
  · next a ha =>
    have hj : m.Joins bs ps := by
      by_contra h
      rw [Matching.names?_eq_none_iff.2 h] at ha
      cases ha
    rw [if_pos hj, NamedArray.entries_of_ofItems? (Matching.ofItems?_of_names? ha),
      overlayNamed_entriesOf hj.2.1 hj.2.2]
  · next hn => rw [if_neg (Matching.names?_eq_none_iff.1 hn)]

@[simp] theorem overlayItems_nil_left : overlayItems m [] ps = ps := by
  cases ps <;> rfl

/-- What is at a position. -/
theorem getElem?_overlayItems (i : Nat) :
    (overlayItems m bs ps)[i]? =
      match bs[i]? with
      | some b => some (patched m b ps[i]?)
      | none => ps[i]? := by
  induction ps generalizing bs i with
  | nil =>
    rw [overlayItems]
    cases bs[i]? <;> simp
  | cons p ps ih =>
    cases bs with
    | nil => simp
    | cons b bs =>
      rw [overlayItems]
      cases i with
      | zero => rfl
      | succ i => simpa using ih i

theorem length_overlayItems : (overlayItems m bs ps).length = max bs.length ps.length := by
  induction ps generalizing bs with
  | nil => simp [overlayItems]
  | cons p ps ih =>
    cases bs with
    | nil => simp
    | cons b bs =>
      rw [overlayItems, List.length_cons, ih, List.length_cons, List.length_cons]
      omega

theorem name?_eq_child : t.name? = (t.child "name").str? := by
  rw [name?, child]
  cases t.get? "name" <;> rfl

theorem exists_map_of_name? (h : t.name? = some n) :
    ∃ es, t = map es ∧ Entries.get? "name" es = some (str n) := by
  cases t with
  | map es =>
    rw [name?, get?_map] at h
    cases hg : Entries.get? "name" es with
    | none => simp [hg] at h
    | some v =>
      rw [hg, Option.bind_some] at h
      cases v <;> simp_all [str?]
  | _ => simp [name?, get?] at h

/-- A patch that has a name gives it to the result. -/
theorem name?_overlay (hp : p.Ordered) (h : p.name? = some n) :
    (overlay m b p).name? = some n := by
  obtain ⟨fs, rfl, hg⟩ := exists_map_of_name? h
  rw [name?_eq_child, child_overlay hp, hg, patched_some, overlay_scalar rfl]
  rfl

/-- A patch that has the name of its base leaves the name as it is. -/
theorem name?_patched (ho : ∀ p ∈ o, p.Ordered ∧ p.name? = some n) (hb : b.name? = some n) :
    (patched m b o).name? = some n := by
  cases o with
  | none => exact hb
  | some p =>
    obtain ⟨hp, hn⟩ := ho p rfl
    exact name?_overlay hp hn

theorem name?_patched_namesake (hb : Named bs) (hp : ∀ p ∈ ps, p.Ordered) (hm : b ∈ bs) :
    (patched m b (namesake b.name? ps)).name? = b.name? := by
  obtain ⟨n, hn⟩ := hb.exists_name? hm
  rw [hn]
  apply name?_patched _ hn
  intro p hpn
  exact ⟨hp p (mem_of_namesake hpn), name?_of_namesake hpn⟩

/-- The names of elements joined by name are those of the base and then the new ones. -/
theorem map_name?_joinNamed (hb : Named bs) (hp : ∀ p ∈ ps, p.Ordered) :
    (joinNamed m bs ps).map name? =
      bs.map name? ++ (ps.filter fun p => (namesake p.name? bs).isNone).map name? := by
  rw [joinNamed, List.map_append, List.map_map]
  congr 1
  apply List.map_congr_left
  intro b hm
  exact name?_patched_namesake hb hp hm

theorem named_joinNamed (hb : Named bs) (hp : Named ps) (ho : ∀ p ∈ ps, p.Ordered) :
    Named (joinNamed m bs ps) := by
  rw [Named, map_name?_joinNamed hb ho]
  refine ⟨?_, List.nodup_append.2 ⟨hb.2, ?_, ?_⟩⟩
  · rw [List.mem_append, not_or]
    refine ⟨hb.1, fun h => hp.1 ?_⟩
    exact (List.filter_sublist.map _).subset h
  · exact hp.2.sublist (List.filter_sublist.map _)
  · intro x hx y hy hxy
    obtain ⟨p, hmem, rfl⟩ := List.mem_map.1 hy
    have hnew := (List.mem_filter.1 hmem).2
    rw [Option.isNone_iff_eq_none, namesake_eq_none_iff] at hnew
    exact hnew (hxy ▸ hx)

/-- No element is new if the base has all names. -/
theorem filter_new_of_subset (h : ∀ p ∈ ps, p.name? ∈ bs.map name?) :
    (ps.filter fun p => (namesake p.name? bs).isNone) = [] := by
  rw [List.filter_eq_nil_iff]
  intro p hp hn
  rw [Option.isNone_iff_eq_none, namesake_eq_none_iff] at hn
  exact hn (h p hp)

/-- Without new names, only the elements that are there remain. -/
theorem joinNamed_of_subset (h : ∀ p ∈ ps, p.name? ∈ bs.map name?) :
    joinNamed m bs ps = bs.map fun b => patched m b (namesake b.name? ps) := by
  rw [joinNamed, filter_new_of_subset h, List.append_nil]

/-- Elements joined by name have all names of the patch. -/
theorem name?_mem_joinNamed (hb : Named bs) (ho : ∀ p ∈ ps, p.Ordered) (h : p ∈ ps) :
    p.name? ∈ (joinNamed m bs ps).map name? := by
  rw [map_name?_joinNamed hb ho, List.mem_append]
  by_cases hin : p.name? ∈ bs.map name?
  · exact .inl hin
  · right
    refine List.mem_map_of_mem (List.mem_filter.2 ⟨h, ?_⟩)
    rw [Option.isNone_iff_eq_none]
    exact namesake_eq_none_iff.2 hin

@[simp] theorem joinNamed_nil_left : joinNamed m [] ps = ps := by simp [joinNamed]

@[simp] theorem joinNamed_nil_right : joinNamed m bs [] = bs := by simp [joinNamed]

/-- First elements of one name meet, and the others are joined without them. -/
theorem joinNamed_cons_cons (hb : Named (b :: bs)) (hp : Named (p :: ps)) (h : p.name? = b.name?) :
    joinNamed m (b :: bs) (p :: ps) = overlay m b p :: joinNamed m bs ps := by
  have hbs : ∀ c ∈ bs, c.name? ≠ b.name? := fun c hc he =>
    (List.nodup_cons.1 hb.2).1 (he ▸ List.mem_map_of_mem hc)
  have hps : ∀ q ∈ ps, q.name? ≠ b.name? := fun q hq he =>
    (List.nodup_cons.1 hp.2).1 (h ▸ he ▸ List.mem_map_of_mem hq)
  have hold : bs.map (fun c => patched m c (namesake c.name? (p :: ps))) =
      bs.map fun c => patched m c (namesake c.name? ps) := by
    apply List.map_congr_left
    intro c hc
    rw [namesake_cons, if_neg (h ▸ (hbs c hc).symm)]
  have hnew : ps.filter (fun q => (namesake q.name? (b :: bs)).isNone) =
      ps.filter fun q => (namesake q.name? bs).isNone := by
    apply List.filter_congr
    intro q hq
    rw [namesake_cons, if_neg (hps q hq).symm]
  rw [joinNamed, List.map_cons, hold, List.filter_cons_of_neg (by simp [namesake_cons, h]), hnew,
    namesake_cons, if_pos h, patched_some, List.cons_append, joinNamed]

/-- Where the names of one array come first among those of the other, elements of one name stand at
one position. -/
theorem joinNamed_eq_overlayItems (hb : Named bs) (hp : Named ps)
    (h : ps.map name? <+: bs.map name? ∨ bs.map name? <+: ps.map name?) :
    joinNamed m bs ps = overlayItems m bs ps := by
  induction ps generalizing bs with
  | nil => simp [overlayItems]
  | cons p ps ih =>
    cases bs with
    | nil => simp
    | cons b bs =>
      simp only [List.map_cons, List.cons_prefix_cons] at h
      have hname : p.name? = b.name? := h.elim (·.1) (·.1.symm)
      rw [joinNamed_cons_cons hb hp hname, overlayItems, ih hb.tail hp.tail (h.imp (·.2) (·.2))]

/-- Where elements that met by position have names in the end, those of the patch come first. -/
theorem map_name?_prefix_overlayItems (hp : Named ps) (ho : ∀ p ∈ ps, p.Ordered) :
    ps.map name? <+: (overlayItems m bs ps).map name? := by
  rw [List.prefix_iff_getElem?]
  intro i hi
  rw [List.length_map] at hi
  have hpi : ps[i]? = some ps[i] := List.getElem?_eq_getElem hi
  obtain ⟨n, hn⟩ := hp.exists_name? (List.getElem_mem hi)
  rw [List.getElem?_map, getElem?_overlayItems, hpi, List.getElem_map]
  cases bs[i]? with
  | none => rfl
  | some b =>
    rw [hn]
    exact congrArg some (name?_overlay (ho _ (List.getElem_mem hi)) hn)

theorem length_le_mergedItems : bs.length ≤ (mergedItems m bs ps).length := by
  rw [mergedItems]
  split
  · simp [joinNamed]
  · rw [length_overlayItems]
    exact Nat.le_max_left _ _

@[simp] theorem mergedItems_nil_right : mergedItems m bs [] = bs := by
  rw [mergedItems]
  split
  · exact joinNamed_nil_right
  · rfl

/-- The elements of the base, each with the element of the patch that is laid over it, if there is
one; null stands for the base where the patch has an element more. -/
def meetings (m : Matching) (bs ps : List Tree) : List (Tree × Option Tree) :=
  if m.Joins bs ps then
    bs.map (fun b => (b, namesake b.name? ps)) ++
      (ps.filter fun p => (namesake p.name? bs).isNone).map fun p => (null, some p)
  else
    List.zipWithAll (fun b p => (b.getD null, p)) bs ps

theorem mem_of_mem_meetings {z : Tree × Option Tree} (h : z ∈ meetings m bs ps) :
    (z.1 = null ∨ z.1 ∈ bs) ∧ ∀ p ∈ z.2, p ∈ ps := by
  rw [meetings] at h
  split at h
  · rcases List.mem_append.1 h with h | h
    · obtain ⟨b, hb, rfl⟩ := List.mem_map.1 h
      exact ⟨.inr hb, fun p hp => mem_of_namesake hp⟩
    · obtain ⟨p, hp, rfl⟩ := List.mem_map.1 h
      exact ⟨.inl rfl, by simpa using (List.mem_filter.1 hp).1⟩
  · obtain ⟨i, hi⟩ := List.mem_iff_getElem?.1 h
    rw [List.getElem?_zipWithAll] at hi
    split at hi
    · cases hi
    · obtain rfl := Option.some.inj hi
      refine ⟨?_, fun p hp => List.mem_of_getElem? hp⟩
      cases hb : bs[i]? with
      | none => exact .inl rfl
      | some b => exact .inr (List.mem_of_getElem? hb)

theorem ordered_of_mem_meetings (hb : ∀ t ∈ bs, t.Ordered) {z : Tree × Option Tree}
    (h : z ∈ meetings m bs ps) : z.1.Ordered := by
  rcases (mem_of_mem_meetings h).1 with hnull | hmem
  · rw [hnull]
    exact ordered_null
  · exact hb _ hmem

/-- Laying an array over another one is laying an element over each that it meets. -/
theorem mergedItems_eq_map :
    mergedItems m bs ps = (meetings m bs ps).map fun z => patched m z.1 z.2 := by
  rw [mergedItems, meetings]
  split
  · rw [joinNamed, List.map_append, List.map_map, List.map_map]
    congr 1
    exact (List.map_id _).symm.trans (List.map_congr_left fun p _ => overlay_null_left.symm)
  · apply List.ext_getElem?
    intro i
    rw [getElem?_overlayItems, List.getElem?_map, List.getElem?_zipWithAll]
    cases bs[i]? <;> cases ps[i]? <;> simp

theorem meetings_of_subset (hj : m.Joins bs ps) (h : ∀ p ∈ ps, p.name? ∈ bs.map name?) :
    meetings m bs ps = bs.map fun b => (b, namesake b.name? ps) := by
  rw [meetings, if_pos hj, filter_new_of_subset h, List.map_nil, List.append_nil]

/-- Where elements of one name stand at one position, meeting by name is meeting by position. -/
theorem meetings_of_prefix (hb : Named bs) (hp : Named ps) (h : ps.map name? <+: bs.map name?) :
    (bs.map fun b => (b, namesake b.name? ps)) =
      List.zipWithAll (fun b p => (b.getD null, p)) bs ps := by
  induction ps generalizing bs with
  | nil => simp
  | cons p ps ih =>
    cases bs with
    | nil => simp at h
    | cons b bs =>
      simp only [List.map_cons, List.cons_prefix_cons] at h
      rw [List.map_cons, List.zipWithAll_cons_cons, ← ih hb.tail hp.tail h.2, namesake_cons,
        if_pos h.1]
      congr 1
      apply List.map_congr_left
      intro c hc
      have hne : p.name? ≠ c.name? := fun he =>
        (List.nodup_cons.1 hb.2).1 (h.1 ▸ he ▸ List.mem_map_of_mem hc)
      rw [namesake_cons, if_neg hne]

/-- The same elements meet again when the patch is laid over the result. -/
theorem meetings_again (ho : ∀ p ∈ ps, p.Ordered) :
    meetings m (mergedItems m bs ps) ps =
      (meetings m bs ps).map fun z => (patched m z.1 z.2, z.2) := by
  rw [mergedItems]
  by_cases hj : m.Joins bs ps
  · rw [if_pos hj, meetings_of_subset ⟨hj.1, named_joinNamed hj.2.1 hj.2.2 ho, hj.2.2⟩
      fun p hp => name?_mem_joinNamed hj.2.1 ho hp, meetings, if_pos hj, joinNamed,
      List.map_append, List.map_append, List.map_map, List.map_map, List.map_map]
    congr 1
    · apply List.map_congr_left
      intro b hb
      rw [Function.comp_apply, Function.comp_apply, name?_patched_namesake hj.2.1 ho hb]
    · -- A new element meets itself.
      apply List.map_congr_left
      intro p hp
      rw [Function.comp_apply, namesake_of_mem hj.2.2 (List.mem_filter.1 hp).1, patched_some,
        overlay_null_left]
  · have hpositions : List.zipWithAll (fun b p => (b.getD null, p)) (overlayItems m bs ps) ps =
        (List.zipWithAll (fun b p => (b.getD null, p)) bs ps).map fun z =>
          (patched m z.1 z.2, z.2) := by
      apply List.ext_getElem?
      intro i
      rw [List.getElem?_map, List.getElem?_zipWithAll, List.getElem?_zipWithAll,
        getElem?_overlayItems]
      cases bs[i]? <;> cases ps[i]? <;> simp
    have hmeetings : meetings m bs ps =
        List.zipWithAll (fun b p => (b.getD null, p)) bs ps := by rw [meetings, if_neg hj]
    rw [if_neg hj, hmeetings, ← hpositions]
    by_cases hj' : m.Joins (overlayItems m bs ps) ps
    · have hprefix : ps.map name? <+: (overlayItems m bs ps).map name? :=
        map_name?_prefix_overlayItems hj'.2.2 ho
      rw [meetings_of_subset hj' fun p hp => hprefix.subset (List.mem_map_of_mem hp)]
      exact meetings_of_prefix hj'.2.1 hj'.2.2 hprefix
    · rw [meetings, if_neg hj']

theorem mergedItems_again (ho : ∀ p ∈ ps, p.Ordered) :
    mergedItems m (mergedItems m bs ps) ps =
      (meetings m bs ps).map fun z => patched m (patched m z.1 z.2) z.2 := by
  rw [mergedItems_eq_map, meetings_again ho, List.map_map]
  rfl

/-- What is not an array adds as little as an empty one. -/
theorem exists_overlay_arr (ps : List Tree) (hb : b.Ordered) :
    ∃ bs, (∀ t ∈ bs, t.Ordered) ∧ overlay m b (arr ps) = overlay m (arr bs) (arr ps) := by
  by_cases harr : ∃ bs, b = arr bs
  · obtain ⟨bs, rfl⟩ := harr
    exact ⟨bs, ordered_arr.1 hb, rfl⟩
  · refine ⟨[], by simp, ?_⟩
    rw [overlay_arr_of_not_arr (fun bs he => harr ⟨bs, he⟩), overlay_arr, mergedItems]
    simp

/-- The items of an array, or the values of a map. -/
def elements : Tree → List Tree
  | arr ts => ts
  | map es => es.map (·.2)
  | _ => []

/-- What overlays keep is true of the elements of an overlay. -/
theorem forall_elements_overlay {P : Tree → Prop} (hnull : P null)
    (hover : ∀ b p, p.Ordered → P b → P p → P (overlay m b p)) (hb : b.Ordered) (hp : p.Ordered)
    (hbase : ∀ t ∈ b.elements, P t) (hpatch : ∀ t ∈ p.elements, P t) :
    ∀ t ∈ (overlay m b p).elements, P t := by
  cases p with
  | arr ps =>
    by_cases harr : ∃ bs, b = arr bs
    · obtain ⟨bs, rfl⟩ := harr
      rw [overlay_arr, mergedItems_eq_map]
      intro t ht
      obtain ⟨z, hz, rfl⟩ := List.mem_map.1 ht
      obtain ⟨hfirst, hsecond⟩ := mem_of_mem_meetings hz
      have hP : P z.1 := by
        rcases hfirst with hn | hmem
        · rwa [hn]
        · exact hbase _ hmem
      cases hz2 : z.2 with
      | none => exact hP
      | some p =>
        have hmem := hsecond p hz2
        exact hover _ _ (ordered_arr.1 hp p hmem) hP (hpatch p hmem)
    · rw [overlay_arr_of_not_arr fun bs he => harr ⟨bs, he⟩]
      exact hpatch
  | map fs =>
    cases b with
    | null => rwa [overlay_null_left]
    | map es =>
      have ho := hb.overlay (m := m) hp
      rw [overlay] at ho ⊢
      intro t ht
      obtain ⟨⟨k, v⟩, he, rfl⟩ := List.mem_map.1 ht
      have hget := (Entries.mem_iff_get? (ordered_map.1 ho).1).1 he
      rw [get?_overlayEntries (ordered_map.1 hp).1] at hget
      have hchild : P ((map es).child k) := by
        rw [child_map]
        cases hk : Entries.get? k es with
        | none => exact hnull
        | some v => exact hbase v (List.mem_map_of_mem (Entries.mem_of_get? hk))
      cases hk : Entries.get? k fs with
      | none =>
        rw [hk] at hget
        exact hbase v (List.mem_map_of_mem (Entries.mem_of_get? hget))
      | some p =>
        simp only [hk, Option.ite_none_left_eq_some, Option.some.injEq] at hget
        obtain ⟨-, rfl⟩ := hget
        exact hover _ _ (hp.get? hk) hchild
          (hpatch p (List.mem_map_of_mem (Entries.mem_of_get? hk)))
    | _ =>
      by_cases hfs : fs = []
      · subst hfs
        exact hbase
      · rw [overlay_map_of_not_open rfl hfs]
        exact hpatch
  | _ => exact hpatch

end PreviewEnv.Tree
