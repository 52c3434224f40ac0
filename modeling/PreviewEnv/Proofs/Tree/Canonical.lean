import Mathlib.Data.List.Nodup
import Mathlib.Data.List.Perm.Subperm
import PreviewEnv.Proofs.Binary64
import PreviewEnv.Proofs.Tree.Lookup
import PreviewEnv.Tree.Equal

namespace PreviewEnv.Tree

variable {a b t u v : Tree} {as bs ts us : List Tree} {es fs : List (String × Tree)} {k : String}

theorem canonicalItems_eq_map (ts : List Tree) : canonicalItems ts = ts.map canonical := by
  induction ts with
  | nil => rfl
  | cons t ts ih => simp [canonicalItems, ih]

theorem canonical_arr (ts : List Tree) : canonical (arr ts) = arr (ts.map canonical) := by
  rw [canonical, canonicalItems_eq_map]

theorem canonicalEntries_eq_map (es : List (String × Tree)) :
    canonicalEntries es = (es.filter fun e => !e.2.isNull).map fun e => (e.1, canonical e.2) := by
  induction es with
  | nil => rfl
  | cons e es ih =>
    obtain ⟨k, t⟩ := e
    rw [canonicalEntries]
    split
    · next h => simp [h, ih]
    · next h => simp [h, ih]

@[simp] theorem canonical_null : canonical null = null := rfl

theorem canonicalNumber_ne (h : t.isScalar = true) :
    (∀ ts, canonicalNumber t ≠ arr ts) ∧ ∀ es, canonicalNumber t ≠ map es := by
  cases t with
  | float x =>
    rw [canonicalNumber]
    split <;> simp
  | _ => simp_all [canonicalNumber, isScalar]

theorem canonical_of_isScalar (h : t.isScalar = true) : canonical t = canonicalNumber t := by
  cases t <;> simp_all [canonical, isScalar]

@[simp] theorem canonical_eq_null : canonical t = null ↔ t = null := by
  cases t with
  | float x =>
    simp only [canonical, canonicalNumber, reduceCtorEq, iff_false]
    split <;> simp
  | _ => simp [canonical, canonicalNumber]

/-- A tree whose canonical form is an array is an array. -/
theorem eq_arr_of_canonical (h : canonical t = arr us) :
    ∃ ts, t = arr ts ∧ ts.map canonical = us := by
  by_cases hs : t.isScalar = true
  · exact absurd ((canonical_of_isScalar hs).symm.trans h) ((canonicalNumber_ne hs).1 us)
  · cases t with
    | arr ts =>
      rw [canonical_arr, arr.injEq] at h
      exact ⟨ts, rfl, h⟩
    | map es => simp [canonical] at h
    | _ => simp [isScalar] at hs

/-- A tree whose canonical form is a map is a map. -/
theorem eq_map_of_canonical (h : canonical t = map fs) :
    ∃ es, t = map es ∧ canonicalEntries es = fs := by
  by_cases hs : t.isScalar = true
  · exact absurd ((canonical_of_isScalar hs).symm.trans h) ((canonicalNumber_ne hs).2 fs)
  · cases t with
    | map es =>
      rw [canonical, map.injEq] at h
      exact ⟨es, rfl, h⟩
    | arr ts => simp [canonical] at h
    | _ => simp [isScalar] at hs

theorem canonical_arr_eq_iff :
    canonical (arr as) = canonical (arr bs) ↔ as.map canonical = bs.map canonical := by
  rw [canonical_arr, canonical_arr, arr.injEq]

theorem ordered_canonicalEntries (h : Entries.Ordered es) :
    Entries.Ordered (canonicalEntries es) := by
  apply h.of_keys_sublist
  rw [canonicalEntries_eq_map, List.map_map]
  exact List.Sublist.map _ List.filter_sublist

/-- What is under a key of a canonical form. -/
theorem get?_canonicalEntries (h : Entries.Ordered es) :
    Entries.get? k (canonicalEntries es) =
      if ((map es).child k).isNull then none else some (canonical ((map es).child k)) := by
  rw [canonicalEntries_eq_map, Entries.get?_map_snd,
    Entries.get?_filter_snd (fun v : Tree => !v.isNull) h, child_map]
  cases Entries.get? k es with
  | none => rfl
  | some v => cases hv : v.isNull <;> simp [Option.filter, hv]

/-- Two maps have one canonical form exactly when the values under each key have. -/
theorem canonical_map_eq_iff (he : Entries.Ordered es) (hf : Entries.Ordered fs) :
    canonical (map es) = canonical (map fs) ↔
      ∀ k, canonical ((map es).child k) = canonical ((map fs).child k) := by
  rw [canonical, canonical, map.injEq]
  constructor
  · intro h k
    have hk := congrArg (Entries.get? k) h
    rw [get?_canonicalEntries he, get?_canonicalEntries hf] at hk
    cases hn : ((map es).child k).isNull <;> cases hm : ((map fs).child k).isNull <;>
      simp only [hn, hm, Bool.false_eq_true, ↓reduceIte, Option.some.injEq, reduceCtorEq] at hk
    · exact hk
    · rw [isNull_eq_true.1 hn, isNull_eq_true.1 hm]
  · intro h
    refine Entries.ext_of_ordered (ordered_canonicalEntries he) (ordered_canonicalEntries hf) ?_
    intro k
    have hn : ((map es).child k).isNull = ((map fs).child k).isNull := by
      rw [Bool.eq_iff_iff, isNull_eq_true, isNull_eq_true, ← canonical_eq_null, h k,
        canonical_eq_null]
    rw [get?_canonicalEntries he, get?_canonicalEntries hf, h k, hn]

theorem canonical_eq_iff_child (ht : t.Ordered) (hu : u.Ordered) (htm : ∃ es, t = map es)
    (hum : ∃ es, u = map es) :
    canonical t = canonical u ↔ ∀ k, canonical (t.child k) = canonical (u.child k) := by
  obtain ⟨es, rfl⟩ := htm
  obtain ⟨fs, rfl⟩ := hum
  exact canonical_map_eq_iff (ordered_map.1 ht).1 (ordered_map.1 hu).1

theorem isOpen_of_canonical (h : canonical t = canonical u) (ho : t.isOpen = true) :
    u.isOpen = true := by
  rcases isOpen_eq_true.1 ho with rfl | ⟨es, rfl⟩
  · rw [canonical_eq_null.1 h.symm]
    rfl
  · obtain ⟨fs, rfl, -⟩ := eq_map_of_canonical (h.symm.trans (by rw [canonical]))
    rfl

theorem canonical_child (h : canonical t = canonical u) (ht : t.Ordered) (hu : u.Ordered)
    (k : String) : canonical (t.child k) = canonical (u.child k) := by
  cases t with
  | map es =>
    obtain ⟨fs, rfl, -⟩ := eq_map_of_canonical h.symm
    exact (canonical_map_eq_iff (ordered_map.1 ht).1 (ordered_map.1 hu).1).1 h k
  | _ =>
    rw [child_of_not_map (by simp), child_of_not_map]
    rintro fs rfl
    obtain ⟨es, he, -⟩ := eq_map_of_canonical h
    cases he

theorem entriesWithin_iff :
    entriesWithin fs es = true ↔
      ∀ e ∈ es, e.2 = null ∨ ∃ v, Entries.get? e.1 fs = some v ∧ equal e.2 v = true := by
  induction es with
  | nil => simp [entriesWithin]
  | cons e es ih =>
    obtain ⟨k, t⟩ := e
    rw [entriesWithin, Bool.and_eq_true, ih, List.forall_mem_cons, Bool.or_eq_true, isNull_eq_true]
    cases Entries.get? k fs <;> simp

theorem length_canonicalEntries : (canonicalEntries es).length = presentCount es := by
  rw [canonicalEntries_eq_map, List.length_map, presentCount, List.countP_eq_length_filter]

theorem equalItems_iff (ih : ∀ a ∈ as, ∀ b ∈ bs, (equal a b = true ↔ canonical a = canonical b)) :
    equalItems as bs = true ↔ as.map canonical = bs.map canonical := by
  induction as generalizing bs with
  | nil => cases bs <;> simp [equalItems]
  | cons a as iha =>
    cases bs with
    | nil => simp [equalItems]
    | cons b bs =>
      rw [equalItems, Bool.and_eq_true, List.map_cons, List.map_cons, List.cons.injEq,
        ih a List.mem_cons_self b List.mem_cons_self,
        iha fun x hx y hy => ih x (List.mem_cons_of_mem _ hx) y (List.mem_cons_of_mem _ hy)]

/-- Ordered entries of one length, each of the first among the second, are the same entries. -/
theorem entries_eq_of_subset (he : Entries.Ordered es) (hf : Entries.Ordered fs)
    (hs : es ⊆ fs) (hl : es.length = fs.length) : es = fs := by
  have hperm : es.Perm fs :=
    (List.subperm_of_subset (List.Nodup.of_map _ he.nodup_keys) hs).perm_of_length_le (by omega)
  apply Entries.ext_of_ordered he hf
  intro k
  apply Option.ext
  intro v
  rw [← Entries.mem_iff_get? he, ← Entries.mem_iff_get? hf, hperm.mem_iff]

theorem equal_map_iff (he : Entries.Ordered es) (hf : Entries.Ordered fs)
    (ih : ∀ k v, Entries.get? k es = some v → ∀ w, Entries.get? k fs = some w →
      (equal v w = true ↔ canonical v = canonical w)) :
    equal (map es) (map fs) = true ↔ canonical (map es) = canonical (map fs) := by
  rw [equal, Bool.and_eq_true, beq_iff_eq, entriesWithin_iff, ← length_canonicalEntries,
    ← length_canonicalEntries, canonical, canonical, map.injEq]
  constructor
  · rintro ⟨hl, hw⟩
    refine entries_eq_of_subset (ordered_canonicalEntries he) (ordered_canonicalEntries hf) ?_ hl
    intro e hm
    obtain ⟨k, c⟩ := e
    rw [canonicalEntries_eq_map] at hm
    obtain ⟨⟨j, v⟩, hv, heq⟩ := List.mem_map.1 hm
    obtain ⟨hv, hn⟩ := List.mem_filter.1 hv
    simp only [Prod.mk.injEq] at heq
    obtain ⟨rfl, rfl⟩ := heq
    have hne : v ≠ null := isNull_eq_false.1 (by simpa using hn)
    obtain ⟨w, hg, hvw⟩ := (hw _ hv).resolve_left hne
    have hc := (ih j v ((Entries.mem_iff_get? he).1 hv) w hg).1 hvw
    have hwn : w.isNull = false := by
      rw [isNull_eq_false]
      rintro rfl
      exact hne (canonical_eq_null.1 (hc.trans canonical_null))
    rw [Entries.mem_iff_get? (ordered_canonicalEntries hf), get?_canonicalEntries hf,
      child_of_get? hg, hwn, hc]
    rfl
  · intro h
    refine ⟨congrArg List.length h, fun e hm => ?_⟩
    obtain ⟨k, v⟩ := e
    by_cases hv : v = null
    · exact .inl hv
    · right
      have hg := (Entries.mem_iff_get? he).1 hm
      have hk := congrArg (Entries.get? k) h
      rw [get?_canonicalEntries he, get?_canonicalEntries hf, child_of_get? hg,
        isNull_eq_false.2 hv, child_map] at hk
      cases hw : Entries.get? k fs with
      | none => simp [hw, isNull] at hk
      | some w =>
        rw [hw, Option.getD_some] at hk
        cases hn : w.isNull with
        | true => simp [hn] at hk
        | false =>
          simp only [hn, Bool.false_eq_true, ↓reduceIte, Option.some.injEq] at hk
          exact ⟨w, rfl, (ih k v hg w hw).2 hk⟩

/-- Scalars are equal exactly when they are the same number, or the same tree. -/
theorem equal_scalar_iff (ha : a.isScalar = true) (hb : b.isScalar = true) :
    equal a b = true ↔ canonicalNumber a = canonicalNumber b := by
  cases a with
  | int m =>
    cases b with
    | int n =>
      simp only [equal, canonicalNumber, Bool.or_eq_true, beq_iff_eq, int.injEq]
      constructor
      · rintro (rfl | h)
        · rfl
        · exact h
      · exact .inr
    | float y =>
      simp only [equal, canonicalNumber, beq_iff_eq]
      cases y.toInt? <;> simp [eq_comm]
    | _ => simp_all [equal, canonicalNumber, isScalar]
  | float x =>
    cases b with
    | int n =>
      simp only [equal, canonicalNumber, beq_iff_eq]
      cases x.toInt? <;> simp
    | float y =>
      simp only [equal, canonicalNumber]
      constructor
      · intro h
        rw [Binary64.toInt?_eq_of_sameValue h]
        cases hy : y.toInt? with
        | some n => rfl
        | none =>
          -- Neither float is whole, so the two are not the two zeros.
          simp only [Binary64.sameValue, Bool.or_eq_true, beq_iff_eq, Bool.and_eq_true] at h
          rcases h with rfl | h
          · rfl
          · rw [Binary64.toInt?_of_isZero h.2] at hy
            cases hy
      · intro h
        cases hx : x.toInt? <;> cases hy : y.toInt? <;>
          simp only [hx, hy, float.injEq, int.injEq, reduceCtorEq] at h
        · subst h
          simp [Binary64.sameValue]
        · subst h
          exact Binary64.sameValue_of_toInt? hx hy
    | _ =>
      simp only [equal, canonicalNumber, Bool.false_eq_true, false_iff]
      split <;> simp_all [isScalar]
  | _ =>
    cases b with
    | float y =>
      simp only [equal, canonicalNumber, Bool.false_eq_true, false_iff]
      split <;> simp_all [isScalar]
    | _ => simp_all [equal, canonicalNumber, isScalar]

/-- Trees whose keys are in order are equal exactly when their canonical forms are one tree. -/
theorem equal_iff_canonical (ha : a.Ordered) (hb : b.Ordered) :
    equal a b = true ↔ canonical a = canonical b := by
  induction a using byParts generalizing b with
  | scalar a hs =>
    by_cases hsb : b.isScalar = true
    · rw [canonical_of_isScalar hs, canonical_of_isScalar hsb, equal_scalar_iff hs hsb]
    · have hne : canonical a ≠ canonical b := by
        intro h
        rw [canonical_of_isScalar hs] at h
        cases b with
        | arr bs => exact (canonicalNumber_ne hs).1 _ (h.trans (canonical_arr bs))
        | map fs => exact (canonicalNumber_ne hs).2 _ (h.trans (by rw [canonical]))
        | _ => simp [isScalar] at hsb
      simp only [hne, iff_false]
      cases a <;> cases b <;> simp_all [equal, isScalar]
  | arr as ih =>
    cases b with
    | arr bs =>
      rw [equal, canonical_arr_eq_iff]
      apply equalItems_iff
      intro a hma b hmb
      exact ih a hma (ordered_arr.1 ha a hma) (ordered_arr.1 hb b hmb)
    | _ =>
      simp only [equal, Bool.false_eq_true, false_iff]
      intro h
      obtain ⟨bs, hbs, -⟩ := eq_arr_of_canonical (h.symm.trans (canonical_arr as))
      cases hbs
  | map es ih =>
    cases b with
    | map fs =>
      apply equal_map_iff (ordered_map.1 ha).1 (ordered_map.1 hb).1
      intro k v hv w hw
      exact ih k v hv (ha.get? hv) (hb.get? hw)
    | _ =>
      simp only [equal, Bool.false_eq_true, false_iff]
      intro h
      obtain ⟨fs, hfs, -⟩ := eq_map_of_canonical (h.symm.trans (by rw [canonical]))
      cases hfs

end PreviewEnv.Tree
