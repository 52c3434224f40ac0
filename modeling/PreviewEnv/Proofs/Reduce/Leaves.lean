import PreviewEnv.Proofs.Reduce.Outcomes
import PreviewEnv.Reduce.Deep

namespace PreviewEnv

open PreviewEnv.Tree

/-- Arrays and maps are left as they are, and scalars become scalars. -/
structure Reducer.Leafwise (r : Reducer) : Prop where
  arr (ts : List Tree) : (r (.arr ts)).outcome = .ok (.arr ts)
  map (es : List (String × Tree)) : (r (.map es)).outcome = .ok (.map es)
  scalar {t u : Tree} : t.isScalar = true → (r t).outcome = .ok u → u.isScalar = true

namespace Tree

variable (f : Tree → Except ReduceError Tree)

mutual

/-- The tree with what `f` makes of its leaves, or the first failure with the places that lead to
it. -/
def onLeaves : Tree → Except ReduceError Tree
  | .arr ts => .arr <$> onLeavesOfItems 0 ts
  | .map es => .map <$> onLeavesOfEntries es
  | t => f t

def onLeavesOfItems (i : Nat) : List Tree → Except ReduceError (List Tree)
  | [] => .ok []
  | t :: ts => do
    let t ← (onLeaves t).mapError (.atIndex i)
    let ts ← onLeavesOfItems (i + 1) ts
    return t :: ts

def onLeavesOfEntries : List (String × Tree) → Except ReduceError (List (String × Tree))
  | [] => .ok []
  | (k, t) :: es => do
    let t ← (onLeaves t).mapError (.atKey k)
    let es ← onLeavesOfEntries es
    return (k, t) :: es

end

end Tree

theorem Tree.onLeaves_scalar {f : Tree → Except ReduceError Tree} {t : Tree}
    (h : t.isScalar = true) : onLeaves f t = f t := by
  cases t <;> first | rfl | cases h

namespace Reducer

variable {r : Reducer} {t : Tree} {n : Nat}

/-- What the reducer makes of leaves. -/
abbrev onLeaf (r : Reducer) (t : Tree) : Except ReduceError Tree := (r t).outcome

theorem mapItems_eq {ts : List Tree} (s : Reducer) (i : Nat)
    (h : ∀ t ∈ ts, (s t).outcome = onLeaves r.onLeaf t) :
    (mapItems s i ts).outcome = onLeavesOfItems r.onLeaf i ts := by
  induction ts generalizing i with
  | nil => rfl
  | cons t ts ih =>
    rw [List.forall_mem_cons] at h
    simp only [mapItems, onLeavesOfItems, Traced.outcome_bind, Traced.outcome_locate, h.1,
      ih (i + 1) h.2]
    rfl

theorem mapEntries_eq {es : List (String × Tree)} (s : Reducer)
    (h : ∀ e ∈ es, (s e.2).outcome = onLeaves r.onLeaf e.2) :
    (mapEntries s es).outcome = onLeavesOfEntries r.onLeaf es := by
  induction es with
  | nil => rfl
  | cons e es ih =>
    obtain ⟨k, t⟩ := e
    rw [List.forall_mem_cons] at h
    simp only [mapEntries, onLeavesOfEntries, Traced.outcome_bind, Traced.outcome_locate, h.1,
      ih h.2]
    rfl

theorem depth_lt_of_mem {ts : List Tree} (h : t ∈ ts) : t.depth < (Tree.arr ts).depth := by
  rw [depth]
  induction ts with
  | nil => simp at h
  | cons u ts ih =>
    rw [depthItems]
    rcases List.mem_cons.1 h with rfl | h
    · exact Nat.lt_of_lt_of_le (Nat.lt_succ_self _) (Nat.le_max_left _ _)
    · exact Nat.lt_of_lt_of_le (ih h) (Nat.le_max_right _ _)

theorem depth_lt_of_mem_entries {es : List (String × Tree)} {e : String × Tree} (h : e ∈ es) :
    e.2.depth < (Tree.map es).depth := by
  rw [depth]
  induction es with
  | nil => simp at h
  | cons u es ih =>
    obtain ⟨k, u⟩ := u
    rw [depthEntries]
    rcases List.mem_cons.1 h with rfl | h
    · exact Nat.lt_of_lt_of_le (Nat.lt_succ_self _) (Nat.le_max_left _ _)
    · exact Nat.lt_of_lt_of_le (ih h) (Nat.le_max_right _ _)

/-- A scalar is not followed any further. -/
theorem bind_scalar (hr : r.Leafwise) (ht : t.isScalar = true) :
    ((r t).outcome >>= fun u => (match u with
      | .arr items => mapValue (deepMapWithin r n) (.arr items)
      | .map es => mapValue (deepMapWithin r n) (.map es)
      | scalar => pure scalar : Traced Tree).outcome) = r.onLeaf t := by
  rw [onLeaf]
  cases h : (r t).outcome with
  | error e => rfl
  | ok u =>
    have hu := hr.scalar ht h
    cases u <;> first | rfl | cases hu

theorem deepMapWithin_of_leafwise (hr : r.Leafwise) (h : t.depth < n) :
    (deepMapWithin r n t).outcome = onLeaves r.onLeaf t := by
  induction n generalizing t with
  | zero => omega
  | succ n ih =>
    rw [deepMapWithin, Traced.outcome_bind]
    cases t with
    | arr ts =>
      have hitems : (mapItems (deepMapWithin r n) 0 ts).outcome = onLeavesOfItems r.onLeaf 0 ts :=
        mapItems_eq _ 0 fun t ht =>
          ih (Nat.lt_of_lt_of_le (depth_lt_of_mem ht) (Nat.le_of_lt_succ h))
      rw [hr.arr, onLeaves, ← hitems]
      exact Traced.outcome_map
    | map es =>
      have hentries : (mapEntries (deepMapWithin r n) es).outcome =
          onLeavesOfEntries r.onLeaf es :=
        mapEntries_eq _ fun e he =>
          ih (Nat.lt_of_lt_of_le (depth_lt_of_mem_entries he) (Nat.le_of_lt_succ h))
      rw [hr.map, onLeaves, ← hentries]
      exact Traced.outcome_map
    | _ => exact (bind_scalar hr rfl).trans (onLeaves_scalar rfl).symm

/-- The descent never runs out of levels. -/
theorem deepMap_of_leafwise (hr : r.Leafwise) : (deepMap r t).outcome = onLeaves r.onLeaf t :=
  deepMapWithin_of_leafwise hr (Nat.lt_succ_self _)

end Reducer

namespace Tree

variable {f : Tree → Except ReduceError Tree} {t u v : Tree} {ts us : List Tree}
  {es fs : List (String × Tree)} {k : String} {i : Nat}

theorem forall₂_of_onLeavesOfItems (h : onLeavesOfItems f i ts = .ok us) :
    List.Forall₂ (fun t u => onLeaves f t = .ok u) ts us := by
  induction ts generalizing i us with
  | nil =>
    cases h
    exact .nil
  | cons t ts ih =>
    rw [onLeavesOfItems, bind_eq_ok_iff] at h
    obtain ⟨u, hu, h⟩ := h
    obtain ⟨us', hus, h⟩ := bind_eq_ok_iff.1 h
    cases h
    exact .cons (mapError_eq_ok_iff.1 hu) (ih hus)

theorem exists_of_forall₂ {α β : Type} {R : α → β → Prop} {as : List α} {bs : List β}
    (h : List.Forall₂ R as bs) : ∀ b ∈ bs, ∃ a ∈ as, R a b := by
  induction h with
  | nil => simp
  | @cons a b as bs hab _ ih =>
    rw [List.forall_mem_cons]
    refine ⟨⟨a, List.mem_cons_self, hab⟩, fun c hc => ?_⟩
    obtain ⟨d, hd, hdc⟩ := ih c hc
    exact ⟨d, List.mem_cons_of_mem _ hd, hdc⟩

theorem forall₂_of_onLeavesOfEntries (h : onLeavesOfEntries f es = .ok fs) :
    List.Forall₂ (fun e g => e.1 = g.1 ∧ onLeaves f e.2 = .ok g.2) es fs := by
  induction es generalizing fs with
  | nil =>
    cases h
    exact .nil
  | cons e es ih =>
    obtain ⟨k, t⟩ := e
    rw [onLeavesOfEntries, bind_eq_ok_iff] at h
    obtain ⟨u, hu, h⟩ := h
    obtain ⟨fs', hfs, h⟩ := bind_eq_ok_iff.1 h
    cases h
    exact .cons ⟨rfl, mapError_eq_ok_iff.1 hu⟩ (ih hfs)

/-- A map becomes a map. -/
theorem onLeaves_map_eq_ok (h : onLeaves f (map es) = .ok u) :
    ∃ fs, u = map fs ∧ onLeavesOfEntries f es = .ok fs := by
  rw [onLeaves, map_eq_ok_iff] at h
  obtain ⟨fs, hfs, rfl⟩ := h
  exact ⟨fs, rfl, hfs⟩

theorem onLeaves_arr_eq_ok (h : onLeaves f (arr ts) = .ok u) :
    ∃ us, u = arr us ∧ onLeavesOfItems f 0 ts = .ok us := by
  rw [onLeaves, map_eq_ok_iff] at h
  obtain ⟨us, hus, rfl⟩ := h
  exact ⟨us, rfl, hus⟩

/-- Under a key of the result is what the value there has become. -/
theorem get?_onLeaves (h : onLeavesOfEntries f es = .ok fs) :
    (Entries.get? k es = none ∧ Entries.get? k fs = none) ∨
      ∃ v w, Entries.get? k es = some v ∧ Entries.get? k fs = some w ∧ onLeaves f v = .ok w := by
  have hall := forall₂_of_onLeavesOfEntries h
  clear h
  induction hall with
  | nil => exact .inl ⟨rfl, rfl⟩
  | @cons e g es fs hhead _ ih =>
    obtain ⟨j, t⟩ := e
    obtain ⟨i, u⟩ := g
    obtain ⟨hkey, ht⟩ := hhead
    simp only at hkey
    subst hkey
    rw [Entries.get?_cons, Entries.get?_cons]
    by_cases hj : j = k
    · rw [if_pos hj, if_pos hj]
      exact .inr ⟨t, u, rfl, rfl, ht⟩
    · rw [if_neg hj, if_neg hj]
      exact ih

theorem keys_of_onLeaves (h : onLeavesOfEntries f es = .ok fs) :
    fs.map (·.1) = es.map (·.1) := by
  have hall := forall₂_of_onLeavesOfEntries h
  clear h
  induction hall with
  | nil => rfl
  | cons hhead _ ih => rw [List.map_cons, List.map_cons, ih, hhead.1]

/-- Keys stay in order. -/
theorem Ordered.onLeaves (hf : ∀ t u, t.isScalar = true → f t = .ok u → u.Ordered)
    (ht : t.Ordered) (h : Tree.onLeaves f t = .ok u) : u.Ordered := by
  induction t using byParts generalizing u with
  | scalar t hs =>
    rw [onLeaves_scalar hs] at h
    exact hf t u hs h
  | arr ts ih =>
    obtain ⟨us, rfl, hus⟩ := onLeaves_arr_eq_ok h
    rw [ordered_arr] at ht ⊢
    intro u hu
    obtain ⟨t, htm, htu⟩ := exists_of_forall₂ (forall₂_of_onLeavesOfItems hus) u hu
    exact ih t htm (ht t htm) htu
  | map es ih =>
    obtain ⟨fs, rfl, hfs⟩ := onLeaves_map_eq_ok h
    have hes := (ordered_map.1 ht).1
    have hkeys : Entries.Ordered fs := by
      rw [Entries.ordered_iff_keys, keys_of_onLeaves hfs]
      exact Entries.ordered_iff_keys.1 hes
    refine ordered_map.2 ⟨hkeys, fun g hg => ?_⟩
    obtain ⟨k, w⟩ := g
    have hw := (Entries.mem_iff_get? hkeys).1 hg
    rcases get?_onLeaves (k := k) hfs with ⟨-, hnone⟩ | ⟨v, w', hv, hw', hvw⟩
    · rw [hnone] at hw
      cases hw
    · rw [hw'] at hw
      cases hw
      exact ih k v hv (ht.get? hv) hvw

end Tree

end PreviewEnv
