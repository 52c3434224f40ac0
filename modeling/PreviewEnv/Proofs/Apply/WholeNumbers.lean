import PreviewEnv.Apply.Patch
import PreviewEnv.Proofs.Reduce.Leaves
import PreviewEnv.Proofs.Tree.Canonical

namespace PreviewEnv

open PreviewEnv.Tree

namespace Tree

variable {t u : Tree} {ts : List Tree} {es : List (String × Tree)} {k : String}

mutual

/-- The tree with every whole float as an integer. -/
def whole : Tree → Tree
  | arr ts => arr (wholeItems ts)
  | map es => map (wholeEntries es)
  | t => t.wholeNumber

def wholeItems : List Tree → List Tree
  | [] => []
  | t :: ts => whole t :: wholeItems ts

def wholeEntries : List (String × Tree) → List (String × Tree)
  | [] => []
  | (k, t) :: es => (k, whole t) :: wholeEntries es

end

theorem wholeItems_eq_map (ts : List Tree) : wholeItems ts = ts.map whole := by
  induction ts with
  | nil => rfl
  | cons t ts ih => rw [wholeItems, ih, List.map_cons]

theorem wholeEntries_eq_map (es : List (String × Tree)) :
    wholeEntries es = es.map fun e => (e.1, whole e.2) := by
  induction es with
  | nil => rfl
  | cons e es ih => rw [wholeEntries, ih, List.map_cons]

theorem isScalar_wholeNumber (h : t.isScalar = true) : t.wholeNumber.isScalar = true := by
  cases t with
  | float x =>
    rw [wholeNumber]
    split
    · split <;> rfl
    · rfl
  | _ => exact h

theorem whole_scalar (h : t.isScalar = true) : whole t = t.wholeNumber := by
  cases t <;> first | rfl | cases h

@[simp] theorem whole_null : whole null = null := rfl

@[simp] theorem whole_str (s : String) : whole (str s) = str s := rfl

theorem wholeNumber_eq_null : t.wholeNumber = null ↔ t = null := by
  cases t with
  | float x =>
    simp only [wholeNumber]
    split
    · split <;> simp
    · simp
  | _ => simp [wholeNumber]

theorem whole_eq_null : whole t = null ↔ t = null := by
  cases t with
  | arr ts => simp [whole]
  | map es => simp [whole]
  | _ =>
    rw [whole_scalar rfl]
    exact wholeNumber_eq_null

theorem get?_whole : (whole t).get? k = (t.get? k).map whole := by
  cases t with
  | map es => rw [whole, get?_map, wholeEntries_eq_map, Entries.get?_map_snd, get?_map]
  | float x =>
    have hscalar := isScalar_wholeNumber (t := float x) rfl
    rw [whole_scalar rfl]
    cases hx : (float x).wholeNumber with
    | map es =>
      rw [hx] at hscalar
      cases hscalar
    | _ => rfl
  | _ => rfl

theorem child_whole : (whole t).child k = whole (t.child k) := by
  rw [child, get?_whole, child]
  cases t.get? k <;> rfl

/-- At the end of a path is the whole form of what was there. -/
theorem within_whole (path : List String) : within path (whole t) = whole (within path t) := by
  induction path generalizing t with
  | nil => rfl
  | cons k ks ih => rw [within_cons, within_cons, child_whole, ih]

theorem Ordered.whole (h : t.Ordered) : (Tree.whole t).Ordered := by
  induction t using byParts with
  | scalar t hs =>
    rw [whole_scalar hs]
    have := isScalar_wholeNumber hs
    cases hw : t.wholeNumber <;> simp_all [isScalar, Tree.Ordered]
  | arr ts ih =>
    rw [Tree.whole, wholeItems_eq_map, ordered_arr]
    intro u hu
    obtain ⟨t, ht, rfl⟩ := List.mem_map.1 hu
    exact ih t ht (ordered_arr.1 h t ht)
  | map es ih =>
    have hes := ordered_map.1 h
    rw [Tree.whole, wholeEntries_eq_map, ordered_map]
    refine ⟨?_, fun g hg => ?_⟩
    · rw [Entries.ordered_iff_keys, List.map_map]
      exact Entries.ordered_iff_keys.1 hes.1
    · obtain ⟨e, he, rfl⟩ := List.mem_map.1 hg
      exact ih e.1 e.2 ((Entries.mem_iff_get? hes.1).1 he) (hes.2 e he)

/-- An integer that a float holds is the nearest one to itself. -/
theorem nearestInt_of_fits {n : Int} (h : fitsUnsigned 53 n.natAbs = true) :
    Binary64.nearestInt n = n := by
  have hlt : n.natAbs < 2 * Binary64.fractions := by
    simp only [fitsUnsigned, decide_eq_true_iff] at h
    have := h.2
    simp only [Binary64.fractions]
    omega
  rw [Binary64.nearestInt]
  simp only [hlt, ↓reduceIte]
  split <;> omega

theorem canonicalNumber_wholeNumber : canonicalNumber t.wholeNumber = canonicalNumber t := by
  cases t with
  | float x =>
    rw [wholeNumber]
    cases hx : x.toInt? with
    | none => rfl
    | some n =>
      simp only
      split
      · next hf => simp [canonicalNumber, hx, nearestInt_of_fits hf]
      · rfl
  | _ => rfl

/-- The comparison of stored objects cannot tell the difference. -/
theorem canonical_whole (h : t.Ordered) : canonical (whole t) = canonical t := by
  induction t using byParts with
  | scalar t hs =>
    rw [whole_scalar hs, canonical_of_isScalar (isScalar_wholeNumber hs),
      canonical_of_isScalar hs, canonicalNumber_wholeNumber]
  | arr ts ih =>
    rw [whole, wholeItems_eq_map, canonical_arr_eq_iff, List.map_map]
    apply List.map_congr_left
    intro t ht
    exact ih t ht (ordered_arr.1 h t ht)
  | map es ih =>
    rw [canonical_eq_iff_child h.whole h ⟨_, rfl⟩ ⟨_, rfl⟩]
    intro k
    rw [child_whole, child_map]
    cases hk : Entries.get? k es with
    | none => rfl
    | some v => exact ih k v hk (h.get? hk)

end Tree

namespace Patch

variable {t : Tree}

theorem leafwise_wholeNumber : Reducer.Leafwise fun t => pure t.wholeNumber where
  arr _ := rfl
  map _ := rfl
  scalar ht h := by
    cases h
    exact isScalar_wholeNumber ht

mutual

theorem onLeaves_wholeNumber :
    ∀ t : Tree, onLeaves (fun t => .ok t.wholeNumber) t = .ok (whole t)
  | .arr ts => by
    rw [onLeaves, onLeavesOfItems_wholeNumber, whole]
    rfl
  | .map es => by
    rw [onLeaves, onLeavesOfEntries_wholeNumber, whole]
    rfl
  | .null | .bool _ | .int _ | .float _ | .str _ => rfl

theorem onLeavesOfItems_wholeNumber {i : Nat} :
    ∀ ts : List Tree, onLeavesOfItems (fun t => .ok t.wholeNumber) i ts = .ok (wholeItems ts)
  | [] => rfl
  | t :: ts => by
    rw [onLeavesOfItems, onLeaves_wholeNumber t, onLeavesOfItems_wholeNumber ts]
    rfl

theorem onLeavesOfEntries_wholeNumber :
    ∀ es : List (String × Tree),
      onLeavesOfEntries (fun t => .ok t.wholeNumber) es = .ok (wholeEntries es)
  | [] => rfl
  | (k, t) :: es => by
    rw [onLeavesOfEntries, onLeaves_wholeNumber t, onLeavesOfEntries_wholeNumber es]
    rfl

end

/-- The stage always succeeds. -/
theorem wholeNumbers_outcome : (wholeNumbers t).outcome = .ok (whole t) := by
  rw [wholeNumbers, Reducer.deepMap_of_leafwise leafwise_wholeNumber]
  exact onLeaves_wholeNumber t

end Patch

end PreviewEnv
