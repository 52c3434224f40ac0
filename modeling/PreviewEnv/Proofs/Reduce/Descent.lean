import PreviewEnv.Proofs.Apply.Rendering
import PreviewEnv.Proofs.Apply.WholeNumbers

/-!
# How deep a descent goes

`deepMap` follows what its reducer gives back, and not the value it was given.
`Descends` is this descent without a bound on its levels, with the number of calls
that are nested in each other. Main results:

* `deepMapWithin_of_descends`: a descent that comes to an end is what
  `deepMapWithin` computes with as many levels as its calls are nested, or more;
* `exists_descends`: it comes to an end if the reducer makes nothing deeper, and is
  then nested one call deeper than the value at most;
* `not_descends_wrap`: with a reducer that wraps what it is given it never does;
* `shape_onLeaves`: keys, lengths and nesting stay when only scalars are replaced;
* `deepMap_halts`: what follows from these for `deepMap`.
-/

namespace PreviewEnv.Reducer

open PreviewEnv.Tree

/-- What the reducer gives back is no deeper than what it was given. -/
def NoDeeper (r : Reducer) : Prop := ∀ t u, (r t).outcome = .ok u → u.depth ≤ t.depth

mutual

/-- From the value the descent comes to this end, its calls nested so many deep. -/
inductive Descends (r : Reducer) : Nat → Tree → Traced Tree → Prop
  | failed {t : Tree} {e : ReduceError} (h : (r t).outcome = .error e) : Descends r 1 t (r t)
  | scalar {t u : Tree} (h : (r t).outcome = .ok u) (hu : u.isScalar = true) :
      Descends r 1 t (r t)
  | arr {n : Nat} {t : Tree} {ts : List Tree} {x : Traced (List Tree)}
      (h : (r t).outcome = .ok (.arr ts)) (hts : DescendsItems r n 0 ts x) :
      Descends r (n + 1) t ⟨(r t).events ++ x.events, Tree.arr <$> x.outcome⟩
  | map {n : Nat} {t : Tree} {es : List (String × Tree)} {x : Traced (List (String × Tree))}
      (h : (r t).outcome = .ok (.map es)) (hes : DescendsEntries r n es x) :
      Descends r (n + 1) t ⟨(r t).events ++ x.events, Tree.map <$> x.outcome⟩

/-- The same of the items of an array from index `i` on, up to the first that fails. -/
inductive DescendsItems (r : Reducer) : Nat → Nat → List Tree → Traced (List Tree) → Prop
  | nil {i : Nat} : DescendsItems r 0 i [] (pure [])
  | failed {n i : Nat} {t : Tree} {ts : List Tree} {x : Traced Tree} {e : ReduceError}
      (h : Descends r n t x) (he : x.outcome = .error e) :
      DescendsItems r n i (t :: ts) ⟨x.events, .error (.atIndex i e)⟩
  | cons {n m i : Nat} {t u : Tree} {ts : List Tree} {x : Traced Tree} {y : Traced (List Tree)}
      (h : Descends r n t x) (hu : x.outcome = .ok u) (hts : DescendsItems r m (i + 1) ts y) :
      DescendsItems r (max n m) i (t :: ts) ⟨x.events ++ y.events, (u :: ·) <$> y.outcome⟩

/-- The same of the entries of a map. -/
inductive DescendsEntries (r : Reducer) :
    Nat → List (String × Tree) → Traced (List (String × Tree)) → Prop
  | nil : DescendsEntries r 0 [] (pure [])
  | failed {n : Nat} {k : String} {t : Tree} {es : List (String × Tree)} {x : Traced Tree}
      {e : ReduceError} (h : Descends r n t x) (he : x.outcome = .error e) :
      DescendsEntries r n ((k, t) :: es) ⟨x.events, .error (.atKey k e)⟩
  | cons {n m : Nat} {k : String} {t u : Tree} {es : List (String × Tree)} {x : Traced Tree}
      {y : Traced (List (String × Tree))} (h : Descends r n t x) (hu : x.outcome = .ok u)
      (hes : DescendsEntries r m es y) :
      DescendsEntries r (max n m) ((k, t) :: es) ⟨x.events ++ y.events, ((k, u) :: ·) <$> y.outcome⟩

end

variable {r s : Reducer} {t u : Tree} {ts : List Tree} {es : List (String × Tree)}
  {x : Traced Tree} {n m d i : Nat} {e : ReduceError} {k : String}

theorem deepMapWithin_succ :
    deepMapWithin r (m + 1) t = r t >>= fun u => match u with
      | .arr ts => mapValue (deepMapWithin r m) (.arr ts)
      | .map es => mapValue (deepMapWithin r m) (.map es)
      | scalar => pure scalar := rfl

theorem deepMapWithin_of_error (h : (r t).outcome = .error e) :
    deepMapWithin r (m + 1) t = r t := by
  rw [deepMapWithin_succ, Traced.bind_of_error h, ← h]

theorem deepMapWithin_of_scalar (h : (r t).outcome = .ok u) (hu : u.isScalar = true) :
    deepMapWithin r (m + 1) t = r t := by
  rw [deepMapWithin_succ, Traced.bind_of_ok h]
  refine Traced.ext_of_parts ?_ ?_
  · cases u <;> first | exact List.append_nil _ | cases hu
  · rw [h]
    cases u <;> first | rfl | cases hu

theorem deepMapWithin_of_arr (h : (r t).outcome = .ok (.arr ts)) :
    deepMapWithin r (m + 1) t =
      ⟨(r t).events ++ (mapItems (deepMapWithin r m) 0 ts).events,
        Tree.arr <$> (mapItems (deepMapWithin r m) 0 ts).outcome⟩ := by
  rw [deepMapWithin_succ, Traced.bind_of_ok h]
  simp only [mapValue, Traced.map_eq_mk]

theorem deepMapWithin_of_map (h : (r t).outcome = .ok (.map es)) :
    deepMapWithin r (m + 1) t =
      ⟨(r t).events ++ (mapEntries (deepMapWithin r m) es).events,
        Tree.map <$> (mapEntries (deepMapWithin r m) es).outcome⟩ := by
  rw [deepMapWithin_succ, Traced.bind_of_ok h]
  simp only [mapValue, Traced.map_eq_mk]

theorem mapItems_of_error (h : (s t).outcome = .error e) :
    mapItems s i (t :: ts) = ⟨(s t).events, .error (.atIndex i e)⟩ := by
  have hlocated : ((s t).locate (.atIndex i)).outcome = .error (.atIndex i e) := by
    rw [Traced.outcome_locate, h]
    rfl
  rw [mapItems, Traced.bind_of_error hlocated]
  rfl

theorem mapItems_of_ok (h : (s t).outcome = .ok u) :
    mapItems s i (t :: ts) =
      ⟨(s t).events ++ (mapItems s (i + 1) ts).events,
        (u :: ·) <$> (mapItems s (i + 1) ts).outcome⟩ := by
  have hlocated : ((s t).locate (.atIndex i)).outcome = .ok u := Traced.locate_eq_ok_iff.2 h
  rw [mapItems, Traced.bind_of_ok hlocated, bind_pure_comp, Traced.map_eq_mk]
  rfl

theorem mapEntries_of_error (h : (s t).outcome = .error e) :
    mapEntries s ((k, t) :: es) = ⟨(s t).events, .error (.atKey k e)⟩ := by
  have hlocated : ((s t).locate (.atKey k)).outcome = .error (.atKey k e) := by
    rw [Traced.outcome_locate, h]
    rfl
  rw [mapEntries, Traced.bind_of_error hlocated]
  rfl

theorem mapEntries_of_ok (h : (s t).outcome = .ok u) :
    mapEntries s ((k, t) :: es) =
      ⟨(s t).events ++ (mapEntries s es).events,
        ((k, u) :: ·) <$> (mapEntries s es).outcome⟩ := by
  have hlocated : ((s t).locate (.atKey k)).outcome = .ok u := Traced.locate_eq_ok_iff.2 h
  rw [mapEntries, Traced.bind_of_ok hlocated, bind_pure_comp, Traced.map_eq_mk]
  rfl

mutual

/-- A descent that comes to an end needs as many levels as its calls are nested. -/
theorem deepMapWithin_of_descends :
    ∀ {n m : Nat} {t : Tree} {x : Traced Tree}, Descends r n t x → n ≤ m → deepMapWithin r m t = x
  | _, _, _, _, .failed h, hm => by
    obtain ⟨m, rfl⟩ := Nat.exists_eq_add_of_le' hm
    exact deepMapWithin_of_error h
  | _, _, _, _, .scalar h hu, hm => by
    obtain ⟨m, rfl⟩ := Nat.exists_eq_add_of_le' hm
    exact deepMapWithin_of_scalar h hu
  | _, _, _, _, .arr (n := n) h hts, hm => by
    obtain ⟨m, rfl⟩ := Nat.exists_eq_add_of_le' hm
    have hitems := mapItems_of_descends hts (Nat.le_add_left n m)
    rw [← Nat.add_assoc, deepMapWithin_of_arr h, hitems]
  | _, _, _, _, .map (n := n) h hes, hm => by
    obtain ⟨m, rfl⟩ := Nat.exists_eq_add_of_le' hm
    have hentries := mapEntries_of_descends hes (Nat.le_add_left n m)
    rw [← Nat.add_assoc, deepMapWithin_of_map h, hentries]

theorem mapItems_of_descends :
    ∀ {n m i : Nat} {ts : List Tree} {x : Traced (List Tree)}, DescendsItems r n i ts x → n ≤ m →
      mapItems (deepMapWithin r m) i ts = x
  | _, _, _, _, _, .nil, _ => rfl
  | _, _, _, _, _, .failed h he, hm => by
    have ht := deepMapWithin_of_descends h hm
    rw [mapItems_of_error (ht ▸ he), ht]
  | _, _, _, _, _, .cons h hu hts, hm => by
    have ht := deepMapWithin_of_descends h (Nat.le_trans (Nat.le_max_left _ _) hm)
    rw [mapItems_of_ok (ht ▸ hu), ht,
      mapItems_of_descends hts (Nat.le_trans (Nat.le_max_right _ _) hm)]

theorem mapEntries_of_descends :
    ∀ {n m : Nat} {es : List (String × Tree)} {x : Traced (List (String × Tree))},
      DescendsEntries r n es x → n ≤ m → mapEntries (deepMapWithin r m) es = x
  | _, _, _, _, .nil, _ => rfl
  | _, _, _, _, .failed h he, hm => by
    have ht := deepMapWithin_of_descends h hm
    rw [mapEntries_of_error (ht ▸ he), ht]
  | _, _, _, _, .cons h hu hes, hm => by
    have ht := deepMapWithin_of_descends h (Nat.le_trans (Nat.le_max_left _ _) hm)
    rw [mapEntries_of_ok (ht ▸ hu), ht,
      mapEntries_of_descends hes (Nat.le_trans (Nat.le_max_right _ _) hm)]

end

/-- A descent comes to one end only. -/
theorem Descends.eq {y : Traced Tree} (h : Descends r n t x) (h' : Descends r m t y) : x = y :=
  (deepMapWithin_of_descends h (Nat.le_max_left n m)).symm.trans
    (deepMapWithin_of_descends h' (Nat.le_max_right n m))

mutual

/-- Its calls are nested in one way only. -/
theorem Descends.nesting_eq :
    ∀ {n m : Nat} {t : Tree} {x y : Traced Tree}, Descends r n t x → Descends r m t y → n = m
  | _, _, _, _, _, .failed h, h' => by
    cases h' with
    | failed => rfl
    | scalar => rfl
    | arr h' | map h' => cases h.symm.trans h'
  | _, _, _, _, _, .scalar h hu, h' => by
    cases h' with
    | failed => rfl
    | scalar => rfl
    | arr h' | map h' =>
      cases h.symm.trans h'
      cases hu
  | _, _, _, _, _, .arr h hts, h' => by
    cases h' with
    | failed h' => cases h.symm.trans h'
    | scalar h' hu =>
      cases h.symm.trans h'
      cases hu
    | arr h' hts' =>
      cases h.symm.trans h'
      rw [hts.nesting_eq hts']
    | map h' => cases h.symm.trans h'
  | _, _, _, _, _, .map h hes, h' => by
    cases h' with
    | failed h' => cases h.symm.trans h'
    | scalar h' hu =>
      cases h.symm.trans h'
      cases hu
    | arr h' => cases h.symm.trans h'
    | map h' hes' =>
      cases h.symm.trans h'
      rw [hes.nesting_eq hes']

theorem DescendsItems.nesting_eq :
    ∀ {n m i : Nat} {ts : List Tree} {x y : Traced (List Tree)},
      DescendsItems r n i ts x → DescendsItems r m i ts y → n = m
  | _, _, _, _, _, _, .nil, h' => by
    cases h'
    rfl
  | _, _, _, _, _, _, .failed h he, h' => by
    cases h' with
    | failed h' => exact h.nesting_eq h'
    | cons h' hu' =>
      cases h.eq h'
      cases he.symm.trans hu'
  | _, _, _, _, _, _, .cons h hu hts, h' => by
    cases h' with
    | failed h' he' =>
      cases h.eq h'
      cases hu.symm.trans he'
    | cons h' _ hts' => rw [h.nesting_eq h', hts.nesting_eq hts']

theorem DescendsEntries.nesting_eq :
    ∀ {n m : Nat} {es : List (String × Tree)} {x y : Traced (List (String × Tree))},
      DescendsEntries r n es x → DescendsEntries r m es y → n = m
  | _, _, _, _, _, .nil, h' => by
    cases h'
    rfl
  | _, _, _, _, _, .failed h he, h' => by
    cases h' with
    | failed h' => exact h.nesting_eq h'
    | cons h' hu' =>
      cases h.eq h'
      cases he.symm.trans hu'
  | _, _, _, _, _, .cons h hu hes, h' => by
    cases h' with
    | failed h' he' =>
      cases h.eq h'
      cases hu.symm.trans he'
    | cons h' _ hes' => rw [h.nesting_eq h', hes.nesting_eq hes']

end

theorem exists_descendsItems (h : ∀ t ∈ ts, ∃ n ≤ d, Descends r n t (s t)) :
    ∃ n ≤ d, DescendsItems r n i ts (mapItems s i ts) := by
  induction ts generalizing i with
  | nil => exact ⟨0, Nat.zero_le d, .nil⟩
  | cons t ts ih =>
    rw [List.forall_mem_cons] at h
    obtain ⟨n, hn, ht⟩ := h.1
    cases hs : (s t).outcome with
    | error e =>
      rw [mapItems_of_error hs]
      exact ⟨n, hn, .failed ht hs⟩
    | ok u =>
      obtain ⟨m, hm, hts⟩ := ih (i := i + 1) h.2
      rw [mapItems_of_ok hs]
      exact ⟨max n m, Nat.max_le.2 ⟨hn, hm⟩, .cons ht hs hts⟩

theorem exists_descendsEntries (h : ∀ entry ∈ es, ∃ n ≤ d, Descends r n entry.2 (s entry.2)) :
    ∃ n ≤ d, DescendsEntries r n es (mapEntries s es) := by
  induction es with
  | nil => exact ⟨0, Nat.zero_le d, .nil⟩
  | cons entry es ih =>
    obtain ⟨k, t⟩ := entry
    rw [List.forall_mem_cons] at h
    obtain ⟨n, hn, ht⟩ := h.1
    cases hs : (s t).outcome with
    | error e =>
      rw [mapEntries_of_error hs]
      exact ⟨n, hn, .failed ht hs⟩
    | ok u =>
      obtain ⟨m, hm, hes⟩ := ih h.2
      rw [mapEntries_of_ok hs]
      exact ⟨max n m, Nat.max_le.2 ⟨hn, hm⟩, .cons ht hs hes⟩

/-- The descent comes to an end, and its calls are nested one deeper than the value at most. -/
theorem exists_descends (hr : r.NoDeeper) (ht : t.depth < m) :
    ∃ n ≤ t.depth + 1, Descends r n t (deepMapWithin r m t) := by
  -- The levels count down with the depth of what the reducer gives back, not with that of `t`.
  induction m generalizing t with
  | zero => exact absurd ht (Nat.not_lt_zero _)
  | succ m ih =>
    cases h : (r t).outcome with
    | error e =>
      rw [deepMapWithin_of_error h]
      exact ⟨1, Nat.le_add_left 1 _, .failed h⟩
    | ok u =>
      have hu : u.depth ≤ t.depth := hr t u h
      have hparts : ∀ v : Tree, v.depth < u.depth →
          ∃ n ≤ t.depth, Descends r n v (deepMapWithin r m v) := by
        intro v hv
        obtain ⟨n, hn, hdescends⟩ := ih (t := v) (by omega)
        exact ⟨n, by omega, hdescends⟩
      cases u with
      | arr ts =>
        obtain ⟨n, hn, hts⟩ := exists_descendsItems (i := 0) fun v hv =>
          hparts v (depth_lt_of_mem hv)
        rw [deepMapWithin_of_arr h]
        exact ⟨n + 1, Nat.succ_le_succ hn, .arr h hts⟩
      | map es =>
        obtain ⟨n, hn, hes⟩ := exists_descendsEntries fun entry hentry =>
          hparts entry.2 (depth_lt_of_mem_entries hentry)
        rw [deepMapWithin_of_map h]
        exact ⟨n + 1, Nat.succ_le_succ hn, .map h hes⟩
      | _ =>
        rw [deepMapWithin_of_scalar h rfl]
        exact ⟨1, Nat.le_add_left 1 _, .scalar h rfl⟩

theorem depth_of_isScalar (h : t.isScalar = true) : t.depth = 0 := by
  cases t <;> first | rfl | cases h

/-- A reducer that only replaces scalars makes nothing deeper. -/
theorem Leafwise.noDeeper (hr : r.Leafwise) : r.NoDeeper := by
  intro t u h
  cases t with
  | arr ts =>
    cases (hr.arr ts).symm.trans h
    exact Nat.le_refl _
  | map es =>
    cases (hr.map es).symm.trans h
    exact Nat.le_refl _
  | _ =>
    rw [depth_of_isScalar (hr.scalar rfl h)]
    exact Nat.zero_le _

/-- Gives back a map that holds what it was given. -/
def wrap : Reducer := fun t => pure (.map [("w", t)])

/-- A reducer that wraps what it is given never comes to an end. -/
theorem not_descends_wrap : ¬ Descends wrap n t x := by
  -- Each call has another one on the same value in it.
  induction n using Nat.strong_induction_on generalizing t x with
  | _ n ih =>
    intro h
    cases h with
    | failed h => cases h
    | scalar h hu =>
      cases h
      cases hu
    | arr h => cases h
    | @map n _ _ _ h hes =>
      cases h
      cases hes with
      | failed hw => exact ih n (Nat.lt_succ_self n) hw
      | @cons n m _ _ _ _ _ _ hw => exact ih n (Nat.lt_succ_of_le (Nat.le_max_left n m)) hw

end PreviewEnv.Reducer

namespace PreviewEnv.Tree

mutual

/-- The keys, the lengths and the nesting of a tree, with null for its scalars. -/
def shape : Tree → Tree
  | arr ts => arr (shapeOfItems ts)
  | map es => map (shapeOfEntries es)
  | _ => null

def shapeOfItems : List Tree → List Tree
  | [] => []
  | t :: ts => shape t :: shapeOfItems ts

def shapeOfEntries : List (String × Tree) → List (String × Tree)
  | [] => []
  | (k, t) :: es => (k, shape t) :: shapeOfEntries es

end

variable {f : Tree → Except ReduceError Tree} {t u : Tree}

theorem shape_of_isScalar (h : t.isScalar = true) : t.shape = null := by
  cases t <;> first | rfl | cases h

theorem shape_eq_of_isScalar (ht : t.isScalar = true) (hu : u.isScalar = true) :
    u.shape = t.shape := by
  rw [shape_of_isScalar ht, shape_of_isScalar hu]

mutual

/-- The shape stays when scalars become scalars. -/
theorem shape_onLeaves (hf : ∀ t u, t.isScalar = true → f t = .ok u → u.isScalar = true) :
    ∀ {t u : Tree}, onLeaves f t = .ok u → u.shape = t.shape
  | .arr ts, _, h => by
    obtain ⟨us, rfl, hus⟩ := onLeaves_arr_eq_ok h
    rw [shape, shape, shapeOfItems_onLeaves hf hus]
  | .map es, _, h => by
    obtain ⟨fs, rfl, hfs⟩ := onLeaves_map_eq_ok h
    rw [shape, shape, shapeOfEntries_onLeaves hf hfs]
  | .null, _, h | .bool _, _, h | .int _, _, h | .float _, _, h | .str _, _, h =>
    shape_eq_of_isScalar rfl (hf _ _ rfl h)

theorem shapeOfItems_onLeaves
    (hf : ∀ t u, t.isScalar = true → f t = .ok u → u.isScalar = true) :
    ∀ {i : Nat} {ts us : List Tree},
      onLeavesOfItems f i ts = .ok us → shapeOfItems us = shapeOfItems ts
  | _, [], _, h => by
    cases h
    rfl
  | _, t :: ts, _, h => by
    obtain ⟨u, hu, h⟩ := bind_eq_ok_iff.1 h
    obtain ⟨us, hus, h⟩ := bind_eq_ok_iff.1 h
    cases h
    rw [shapeOfItems, shapeOfItems, shape_onLeaves hf (mapError_eq_ok_iff.1 hu),
      shapeOfItems_onLeaves hf hus]

theorem shapeOfEntries_onLeaves
    (hf : ∀ t u, t.isScalar = true → f t = .ok u → u.isScalar = true) :
    ∀ {es fs : List (String × Tree)},
      onLeavesOfEntries f es = .ok fs → shapeOfEntries fs = shapeOfEntries es
  | [], _, h => by
    cases h
    rfl
  | (k, t) :: es, _, h => by
    obtain ⟨u, hu, h⟩ := bind_eq_ok_iff.1 h
    obtain ⟨fs, hfs, h⟩ := bind_eq_ok_iff.1 h
    cases h
    rw [shapeOfEntries, shapeOfEntries, shape_onLeaves hf (mapError_eq_ok_iff.1 hu),
      shapeOfEntries_onLeaves hf hfs]

end

mutual

/-- The visit of the leaves comes to its end when the function fails at no scalar. -/
theorem exists_onLeaves (hf : ∀ t, t.isScalar = true → ∃ u, f t = .ok u) :
    ∀ t : Tree, ∃ u, onLeaves f t = .ok u
  | .arr ts => by
    obtain ⟨us, hus⟩ := exists_onLeavesOfItems hf 0 ts
    exact ⟨arr us, by rw [onLeaves, hus]; rfl⟩
  | .map es => by
    obtain ⟨fs, hfs⟩ := exists_onLeavesOfEntries hf es
    exact ⟨map fs, by rw [onLeaves, hfs]; rfl⟩
  | .null | .bool _ | .int _ | .float _ | .str _ => hf _ rfl

theorem exists_onLeavesOfItems (hf : ∀ t, t.isScalar = true → ∃ u, f t = .ok u) :
    ∀ (i : Nat) (ts : List Tree), ∃ us, onLeavesOfItems f i ts = .ok us
  | _, [] => ⟨[], rfl⟩
  | i, t :: ts => by
    obtain ⟨u, hu⟩ := exists_onLeaves hf t
    obtain ⟨us, hus⟩ := exists_onLeavesOfItems hf (i + 1) ts
    exact ⟨u :: us, by rw [onLeavesOfItems, hu, hus]; rfl⟩

theorem exists_onLeavesOfEntries (hf : ∀ t, t.isScalar = true → ∃ u, f t = .ok u) :
    ∀ es : List (String × Tree), ∃ fs, onLeavesOfEntries f es = .ok fs
  | [] => ⟨[], rfl⟩
  | (k, t) :: es => by
    obtain ⟨u, hu⟩ := exists_onLeaves hf t
    obtain ⟨fs, hfs⟩ := exists_onLeavesOfEntries hf es
    exact ⟨(k, u) :: fs, by rw [onLeavesOfEntries, hu, hfs]; rfl⟩

end

end PreviewEnv.Tree

namespace PreviewEnv.Reducer

open PreviewEnv.Tree

/-- **The descent ends if nothing gets deeper.** With a reducer that makes nothing deeper, the
descent from any value comes to one end, which is what `deepMap` computes, and its calls are nested
one deeper than the value at most. Reducers that only replace scalars are such reducers, those that
render texts and turn whole floats into integers among them; what they give has the shape of the
value, and there is a result if they fail at no scalar. -/
theorem deepMap_halts (r : Reducer) (t : Tree) :
    (r.NoDeeper → ∃ n ≤ t.depth + 1, Descends r n t (r.deepMap t) ∧
      ∀ m x, Descends r m t x → m = n ∧ x = r.deepMap t) ∧
    (r.Leafwise → r.NoDeeper ∧
      (∀ u, (r.deepMap t).outcome = .ok u → u.shape = t.shape) ∧
      ((∀ v, v.isScalar = true → ∃ w, (r v).outcome = .ok w) →
        ∃ u, (r.deepMap t).outcome = .ok u)) ∧
    (∀ engine context, (renderText engine context).Leafwise) ∧
    Leafwise fun v => pure v.wholeNumber := by
  refine ⟨fun hr => ?_, fun hr => ⟨hr.noDeeper, ?_, ?_⟩, leafwise_renderText,
    Patch.leafwise_wholeNumber⟩
  · obtain ⟨n, hn, hdescends⟩ := exists_descends hr (Nat.lt_succ_self t.depth)
    exact ⟨n, hn, hdescends, fun m x h => ⟨h.nesting_eq hdescends, h.eq hdescends⟩⟩
  · intro u hu
    rw [deepMap_of_leafwise hr] at hu
    exact shape_onLeaves (fun _ _ => hr.scalar) hu
  · intro hscalars
    rw [deepMap_of_leafwise hr]
    exact exists_onLeaves hscalars t

/-- What has been wrapped, or the value itself. -/
def unwrap : Reducer := fun t => pure ((t.get? "w").getD t)

theorem noDeeper_unwrap : unwrap.NoDeeper := by
  intro t u h
  cases h
  cases t with
  | map es =>
    rw [get?_map]
    cases hw : Entries.get? "w" es with
    | none => exact Nat.le_refl _
    | some v => exact Nat.le_of_lt (depth_lt_of_mem_entries (Entries.mem_of_get? hw))
  | _ => exact Nat.le_refl _

def wrappedPorts : Tree := .map [("w", .arr [
  .map [("w", .map [("w", .int 1)])],
  .map [("size", .float ⟨false, 1025, 0, by decide, Binary64.fractions_pos⟩), ("w", .arr [])]])]

theorem deepMap_halts_wrappedPorts :
    unwrap.NoDeeper ∧ wrappedPorts.depth = 4 ∧
      (unwrap.deepMap wrappedPorts).outcome = .ok (.arr [.map [("w", .int 1)], .arr []]) ∧
      (∃ n ≤ 5, Descends unwrap n wrappedPorts (unwrap.deepMap wrappedPorts)) ∧
      Leafwise (fun v => pure v.wholeNumber) ∧
      (∀ v : Tree, v.isScalar = true →
        ∃ w, (pure v.wholeNumber : Traced Tree).outcome = .ok w) ∧
      ∃ u, (deepMap (fun v => pure v.wholeNumber) wrappedPorts).outcome = .ok u ∧
        u.shape = wrappedPorts.shape := by
  have hscalars (v : Tree) (_ : v.isScalar = true) :
      ∃ w, (pure v.wholeNumber : Traced Tree).outcome = .ok w := ⟨_, rfl⟩
  obtain ⟨n, hn, hdescends, -⟩ := (deepMap_halts unwrap wrappedPorts).1 noDeeper_unwrap
  obtain ⟨-, hshape, htotal⟩ :=
    (deepMap_halts (fun v => pure v.wholeNumber) wrappedPorts).2.1 Patch.leafwise_wholeNumber
  obtain ⟨u, hu⟩ := htotal hscalars
  exact ⟨noDeeper_unwrap, by decide, by decide +kernel, ⟨n, hn, hdescends⟩,
    Patch.leafwise_wholeNumber, hscalars, u, hu, hshape u hu⟩

end PreviewEnv.Reducer
