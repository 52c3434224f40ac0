import PreviewEnv.Merge
import PreviewEnv.Proofs.Tree.NamedItems

/-!
The two strategies that object to nothing, by structure and by the names of array
elements, give a tree for every base and patch. `overlay` is that tree, without
the errors that other strategies can have.
-/

namespace PreviewEnv

/-- How the elements of two arrays find each other. -/
inductive Matching where
  | byPosition
  /-- By their names, where the elements of both arrays have them. -/
  | byName
deriving DecidableEq, Repr

/-- The strategy that matches elements like this and objects to nothing. -/
def Matching.strategy : Matching → Strategy
  | .byPosition => .default
  | .byName => .named

theorem exists_matching {s : Strategy} (hs : s = .default ∨ s = .named) :
    ∃ m : Matching, s = m.strategy :=
  hs.elim (fun h => ⟨.byPosition, h⟩) fun h => ⟨.byName, h⟩

/-- The elements of the base under their names, if elements are to be matched by them. -/
def Matching.names? (m : Matching) (bs ps : List Tree) : Option NamedArray :=
  match m, NamedArray.ofItems? ps with
  | .byName, some _ => NamedArray.ofItems? bs
  | _, _ => none

/-- Whether the elements of these arrays are matched by their names. -/
def Matching.Joins (m : Matching) (bs ps : List Tree) : Prop :=
  m = .byName ∧ Tree.Named bs ∧ Tree.Named ps

instance {m : Matching} {bs ps : List Tree} : Decidable (m.Joins bs ps) :=
  inferInstanceAs (Decidable (_ ∧ _))

theorem Matching.names?_eq_none_iff {m : Matching} {bs ps : List Tree} :
    m.names? bs ps = none ↔ ¬ m.Joins bs ps := by
  rw [Joins]
  cases m with
  | byPosition => simp [names?]
  | byName =>
    unfold names?
    cases hp : NamedArray.ofItems? ps with
    | none => simp [NamedArray.ofItems?_eq_none_iff.1 hp]
    | some array =>
      have hnamed : Tree.Named ps := by
        by_contra hn
        rw [NamedArray.ofItems?_eq_none_iff.2 hn] at hp
        cases hp
      simp [NamedArray.ofItems?_eq_none_iff, hnamed]

theorem Matching.ofItems?_of_names? {m : Matching} {bs ps : List Tree} {a : NamedArray}
    (h : m.names? bs ps = some a) : NamedArray.ofItems? bs = some a := by
  unfold names? at h
  split at h
  · exact h
  · cases h

theorem Matching.items_of_names? {m : Matching} {bs ps : List Tree} {a : NamedArray}
    (h : m.names? bs ps = some a) : a.entries.map (·.2) = bs := by
  rw [NamedArray.entries_of_ofItems? (ofItems?_of_names? h), NamedArray.map_snd_entriesOf]

namespace Tree

mutual

/-- The patch laid over the base. -/
def overlay (m : Matching) (base : Tree) : Tree → Tree
  | .arr ps =>
    match base with
    | .arr bs =>
      match m.names? bs ps with
      | some array => .arr ((overlayNamed m array.entries ps).map (·.2))
      | none => .arr (overlayItems m bs ps)
    | _ => .arr ps
  | .map ps =>
    match base with
    | .null => .map ps
    | .map bs => .map (overlayEntries m bs ps)
    | _ => if ps.isEmpty then base else .map ps
  | patch => patch
termination_by structural patch => patch

/-- The entries of the patch, in order, laid over those of the base. -/
def overlayEntries (m : Matching) (base : List (String × Tree)) :
    List (String × Tree) → List (String × Tree)
  | [] => base
  | (k, p) :: ps =>
    let merged := overlay m ((map base).child k) p
    overlayEntries m
      (if merged.isNull then Entries.erase k base else Entries.insert k merged base) ps
termination_by structural patch => patch

/-- The items of the patch laid over those of the base position by position. -/
def overlayItems (m : Matching) (base : List Tree) : List Tree → List Tree
  | [] => base
  | p :: ps =>
    match base with
    | [] => p :: ps
    | b :: bs => overlay m b p :: overlayItems m bs ps
termination_by structural patch => patch

/-- The items of the patch laid over the elements that have their names. -/
def overlayNamed (m : Matching) (base : List (String × Tree)) : List Tree → List (String × Tree)
  | [] => base
  | p :: ps =>
    match p.name? with
    | none => overlayNamed m base ps
    | some name =>
      let merged := overlay m ((map base).child name) p
      overlayNamed m (NamedArray.setEntry name merged base) ps
termination_by structural patch => patch

end

variable {m : Matching} {b p t : Tree} {bs ps : List Tree} {es fs : List (String × Tree)}
  {k : String}

theorem overlay_scalar (h : p.isScalar = true) : overlay m b p = p := by
  cases p <;> simp_all [overlay, isScalar]

/-- Null adds nothing. -/
@[simp] theorem overlay_null_left : overlay m null p = p := by
  cases p <;> simp [overlay]

@[simp] theorem overlay_null : overlay m b null = null := by simp [overlay]

/-- Only null gives null. -/
@[simp] theorem overlay_eq_null_iff : overlay m b p = null ↔ p = null := by
  cases p with
  | arr ps =>
    cases b with
    | arr bs =>
      rw [overlay]
      split <;> simp
    | _ => simp [overlay]
  | map ps =>
    cases b with
    | null | map => simp [overlay]
    | _ =>
      simp only [overlay]
      split <;> simp
  | _ => simp [overlay]

theorem overlay_arr_of_not_arr (h : ∀ bs, b ≠ arr bs) : overlay m b (arr ps) = arr ps := by
  cases b with
  | arr bs => exact absurd rfl (h bs)
  | _ => rfl

end Tree

namespace Strategy

open PreviewEnv.Tree

mutual

/-- Neither strategy objects to anything. -/
theorem merge_eq_overlay {m : Matching} (b : Tree) : ∀ p, m.strategy.merge b p = .ok (overlay m b p)
  | .arr ps => by
    cases b with
    | arr bs =>
      cases m with
      | byPosition =>
        simp only [Matching.strategy, default, merge, overlay, Matching.names?]
        rw [show Strategy.mk _ = Matching.byPosition.strategy from rfl,
          mergeItems_eq_overlayItems 0 bs ps]
        rfl
      | byName =>
        simp only [Matching.strategy, named, merge, overlay, Matching.names?]
        rw [show Strategy.mk _ = Matching.byName.strategy from rfl]
        cases NamedArray.ofItems? bs <;> cases NamedArray.ofItems? ps
        case some.some array _ =>
          obtain ⟨result, hr, he⟩ := mergeNamed_eq_overlayNamed (m := .byName) array ps
          simp only
          rw [← he]
          rw [hr]
          rfl
        all_goals
          simp only [mergeItems_eq_overlayItems 0 bs ps]
          rfl
    | _ => cases m <;> rfl
  | .map ps => by
    cases b with
    | map bs =>
      have h := mergeEntries_eq_overlayEntries (m := m) bs ps
      cases m <;>
      · simp only [Matching.strategy, default, named, merge, overlay]
        simp only [Matching.strategy, default, named] at h
        rw [h]
        rfl
    | _ => cases m <;> rfl
  | .null | .bool _ | .int _ | .float _ | .str _ => by cases m <;> rfl

theorem mergeEntries_eq_overlayEntries {m : Matching} (es : List (String × Tree)) :
    ∀ ps, m.strategy.mergeEntries es ps = .ok (overlayEntries m es ps)
  | [] => rfl
  | (k, p) :: ps => by
    rw [mergeEntries, overlayEntries, child_map]
    cases Entries.get? k es with
    | none =>
      simp only [Option.getD_none, overlay_null_left]
      exact mergeEntries_eq_overlayEntries _ ps
    | some b =>
      simp only [merge_eq_overlay b p]
      exact mergeEntries_eq_overlayEntries _ ps

theorem mergeItems_eq_overlayItems {m : Matching} (i : Nat) (bs : List Tree) :
    ∀ ps, m.strategy.mergeItems i bs ps = .ok (overlayItems m bs ps)
  | [] => rfl
  | p :: ps => by
    cases bs with
    | nil => rfl
    | cons b bs =>
      rw [mergeItems, overlayItems, merge_eq_overlay b p]
      simp only [mergeItems_eq_overlayItems (i + 1) bs ps]
      rfl

theorem mergeNamed_eq_overlayNamed {m : Matching} (a : NamedArray) :
    ∀ ps, ∃ a', m.strategy.mergeNamed a ps = .ok a' ∧ a'.entries = overlayNamed m a.entries ps
  | [] => ⟨a, rfl, rfl⟩
  | p :: ps => by
    rw [mergeNamed, overlayNamed]
    cases p.name? with
    | none => exact mergeNamed_eq_overlayNamed a ps
    | some name =>
      obtain ⟨a', ha, he⟩ := mergeNamed_eq_overlayNamed
        (a.set name (overlay m ((map a.entries).child name) p)) ps
      refine ⟨a', ?_, he⟩
      rw [← ha, child_map]
      simp only [NamedArray.get?]
      cases Entries.get? name a.entries with
      | none =>
        simp only [Option.getD_none, overlay_null_left]
        rfl
      | some b =>
        simp only [merge_eq_overlay b p]
        rfl

end

end Strategy

namespace Tree

variable {m : Matching} {b p t v : Tree} {bs ps : List Tree} {es fs : List (String × Tree)}
  {k n : String}

/-- The base with the patch laid over it, if there is a patch. -/
def patched (m : Matching) (base : Tree) : Option Tree → Tree
  | none => base
  | some patch => overlay m base patch

@[simp] theorem patched_none : patched m b none = b := rfl

@[simp] theorem patched_some : patched m b (some p) = overlay m b p := rfl

/-- Null with a patch is what the patch is. -/
theorem patched_null_left {o : Option Tree} : patched m null o = o.getD null := by
  cases o <;> simp

/-- One entry of the patch does not touch what is under other keys. -/
theorem get?_replaced_of_ne {j : String} (h : j ≠ k) :
    Entries.get? k (if t.isNull then Entries.erase j es else Entries.insert j t es) =
      Entries.get? k es := by
  split
  · rw [Entries.get?_erase, if_neg h]
  · rw [Entries.get?_insert, if_neg h]

theorem child_replaced_of_ne {j : String} (h : j ≠ k) :
    (map (if t.isNull then Entries.erase j es else Entries.insert j t es)).child k =
      (map es).child k := by
  rw [child_map, get?_replaced_of_ne h, child_map]

/-- A null of the patch takes the entry out, and anything else is laid over what is there. -/
theorem get?_overlayEntries (hf : Entries.Ordered fs) :
    Entries.get? k (overlayEntries m es fs) =
      match Entries.get? k fs with
      | none => Entries.get? k es
      | some p => if p = null then none else some (overlay m ((map es).child k) p) := by
  induction fs generalizing es with
  | nil => rfl
  | cons e fs ih =>
    obtain ⟨j, p⟩ := e
    rw [overlayEntries, ih (Entries.ordered_cons.1 hf).2, Entries.get?_cons]
    by_cases hj : j = k
    · subst hj
      rw [hf.get?_tail, if_pos rfl]
      by_cases hp : p = null
      · simp [hp, isNull, Entries.get?_erase]
      · have hn : (overlay m ((map es).child j) p).isNull = false := by
          rw [isNull_eq_false]
          exact mt overlay_eq_null_iff.1 hp
        simp [hp, hn, Entries.get?_insert]
    · rw [if_neg hj, get?_replaced_of_ne hj, child_replaced_of_ne hj]

theorem child_overlayEntries (hf : Entries.Ordered fs) :
    (map (overlayEntries m es fs)).child k = patched m ((map es).child k) (Entries.get? k fs) := by
  rw [child_map, get?_overlayEntries hf]
  cases Entries.get? k fs with
  | none => rfl
  | some p =>
    by_cases hp : p = null
    · simp [hp]
    · simp [hp]

/-- Under a key, the overlay of a map is the overlay of what the map has there. -/
theorem child_overlay (hf : (map fs).Ordered) :
    (overlay m b (map fs)).child k = patched m (b.child k) (Entries.get? k fs) := by
  cases b with
  | map es =>
    rw [overlay]
    exact child_overlayEntries (ordered_map.1 hf).1
  | null => rw [overlay_null_left, child_null, patched_null_left, child_map]
  | _ =>
    cases fs with
    | nil => rfl
    | cons e fs => exact (child_map).trans patched_null_left.symm

/-- The overlay of a map with something in it is a map. -/
theorem exists_overlay_map (h : b.isOpen = true ∨ fs ≠ []) :
    ∃ gs, overlay m b (map fs) = map gs := by
  cases b with
  | null => exact ⟨fs, overlay_null_left⟩
  | map es => exact ⟨_, rfl⟩
  | _ =>
    have hne : fs ≠ [] := h.resolve_left (by simp [isOpen])
    exact ⟨fs, by simp [overlay, hne]⟩

/-- Over a map or null, whether there is a map or null is up to the patch. -/
theorem isOpen_overlay (h : b.isOpen = true) : (overlay m b p).isOpen = p.isOpen := by
  cases p with
  | arr ps =>
    cases b with
    | arr bs => cases h
    | _ => rfl
  | map fs =>
    obtain ⟨gs, hgs⟩ : ∃ gs, overlay m b (map fs) = map gs := exists_overlay_map (.inl h)
    rw [hgs]
    rfl
  | _ => rw [overlay_scalar rfl]

/-- A patch with something in it is a map, and so is its overlay. -/
theorem isOpen_overlay_of_child (h : p.child k ≠ null) : (overlay m b p).isOpen = true := by
  cases p with
  | map fs =>
    have hne : fs ≠ [] := by
      rintro rfl
      exact h child_nil
    obtain ⟨gs, hgs⟩ := exists_overlay_map (m := m) (b := b) (.inr hne)
    rw [hgs]
    rfl
  | _ => exact absurd rfl h

theorem child_overlay_of_child (hp : p.Ordered) (h : p.child k ≠ null) :
    (overlay m b p).child k = overlay m (b.child k) (p.child k) := by
  cases p with
  | map fs =>
    rw [child_overlay hp, child_map]
    cases hg : Entries.get? k fs with
    | none => simp [child_map, hg] at h
    | some v => rfl
  | _ => exact absurd rfl h

theorem overlay_map_of_not_open (h : b.isOpen = false) (hne : fs ≠ []) :
    overlay m b (map fs) = map fs := by
  cases b <;> simp_all [overlay, isOpen]

/-- Where the base is no map, a map takes its place, unless it is empty and the base stays. -/
theorem overlay_map_of_not_isMap (m : Matching) (fs : List (String × Tree)) (h : b.isMap = false) :
    overlay m b (map fs) = map fs ∨ fs = [] ∧ overlay m b (map fs) = b := by
  cases b with
  | map es => cases h
  | null => exact .inl overlay_null_left
  | _ =>
    by_cases hfs : fs = []
    · subst hfs
      exact .inr ⟨rfl, rfl⟩
    · exact .inl (overlay_map_of_not_open rfl hfs)

theorem overlay_map_nil : overlay m b (map []) = if b = null then map [] else b := by
  cases b <;> simp [overlay, overlayEntries]

mutual

theorem Ordered.overlay {m : Matching} {b : Tree} (hb : b.Ordered) :
    ∀ {p : Tree}, p.Ordered → (Tree.overlay m b p).Ordered
  | .arr ps, hp => by
    cases b with
    | arr bs =>
      rw [Tree.overlay]
      split
      · next array ha =>
        rw [ordered_arr]
        intro t ht
        obtain ⟨e, he, rfl⟩ := List.mem_map.1 ht
        refine ordered_overlayNamed ?_ (ordered_arr.1 hp) e he
        intro e he
        have hmem := List.mem_map_of_mem (f := (·.2)) he
        rw [Matching.items_of_names? ha] at hmem
        exact ordered_arr.1 hb _ hmem
      · exact ordered_arr.2 (ordered_overlayItems (ordered_arr.1 hb) (ordered_arr.1 hp))
    | _ => exact hp
  | .map ps, hp => by
    cases b with
    | null => exact hp
    | map es =>
      rw [Tree.overlay]
      exact ordered_overlayEntries hb (ordered_map.1 hp).2
    | _ =>
      simp only [Tree.overlay]
      split
      · exact hb
      · exact hp
  | .null, _ | .bool _, _ | .int _, _ | .float _, _ | .str _, _ => by
    simp [Tree.overlay, Tree.Ordered]

theorem ordered_overlayEntries {m : Matching} {es : List (String × Tree)} (hb : (map es).Ordered) :
    ∀ {fs : List (String × Tree)}, (∀ e ∈ fs, e.2.Ordered) →
      (map (overlayEntries m es fs)).Ordered
  | [], _ => hb
  | (k, p) :: fs, hf => by
    have hm := (hb.child k).overlay (m := m) (hf (k, p) List.mem_cons_self)
    rw [overlayEntries]
    apply ordered_overlayEntries _ fun e he => hf e (List.mem_cons_of_mem _ he)
    split
    · exact hb.erase
    · exact hb.insert hm

theorem ordered_overlayItems {m : Matching} {bs : List Tree} (hb : ∀ t ∈ bs, t.Ordered) :
    ∀ {ps : List Tree}, (∀ t ∈ ps, t.Ordered) → ∀ t ∈ overlayItems m bs ps, t.Ordered
  | [], _ => hb
  | p :: ps, hp => by
    cases bs with
    | nil => exact hp
    | cons b bs =>
      rw [List.forall_mem_cons] at hb hp
      rw [overlayItems, List.forall_mem_cons]
      exact ⟨hb.1.overlay hp.1, ordered_overlayItems hb.2 hp.2⟩

theorem ordered_overlayNamed {m : Matching} {es : List (String × Tree)}
    (hb : ∀ e ∈ es, e.2.Ordered) :
    ∀ {ps : List Tree}, (∀ t ∈ ps, t.Ordered) → ∀ e ∈ overlayNamed m es ps, e.2.Ordered
  | [], _ => hb
  | p :: ps, hp => by
    rw [List.forall_mem_cons] at hp
    rw [overlayNamed]
    cases p.name? with
    | none => exact ordered_overlayNamed hb hp.2
    | some name =>
      apply ordered_overlayNamed _ hp.2
      intro e he
      rcases NamedArray.mem_of_mem_setEntry he with hv | he
      · rw [hv]
        exact (ordered_child_of_forall hb).overlay hp.1
      · exact hb e he

end

theorem Ordered.patched {m : Matching} {b : Tree} {o : Option Tree} (hb : b.Ordered)
    (ho : ∀ p ∈ o, p.Ordered) : (Tree.patched m b o).Ordered := by
  cases o with
  | none => exact hb
  | some p => exact hb.overlay (ho p rfl)

end Tree

end PreviewEnv
