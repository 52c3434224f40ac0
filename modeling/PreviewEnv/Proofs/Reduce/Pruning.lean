import PreviewEnv.Proofs.Merge.Stability
import PreviewEnv.Proofs.Reduce.Leaves

namespace PreviewEnv

open PreviewEnv.Tree

namespace Tree

/-- The tree is what is left of the other when entries of its maps are taken away. -/
inductive Pruned : Tree → Tree → Prop
  | refl (t : Tree) : Pruned t t
  | map {es fs : List (String × Tree)}
      (h : ∀ k, (Tree.map es).child k ≠ null →
        Pruned ((Tree.map es).child k) ((Tree.map fs).child k)) :
      Pruned (Tree.map es) (Tree.map fs)

variable {m : Matching} {s t u : Tree} {es fs : List (String × Tree)} {k : String}
  {ks : List String}

theorem Pruned.eq_null (h : Pruned u null) : u = null := by
  cases h
  rfl

theorem Pruned.exists_map (h : Pruned u (Tree.map fs)) : ∃ es, u = Tree.map es := by
  cases h with
  | refl => exact ⟨fs, rfl⟩
  | map => exact ⟨_, rfl⟩

theorem Pruned.child (h : Pruned u t) (hk : u.child k ≠ null) :
    Pruned (u.child k) (t.child k) := by
  cases h with
  | refl => exact .refl _
  | map h => exact h k hk

theorem Pruned.within (h : Pruned u t) (hk : Tree.within ks u ≠ null) :
    Pruned (Tree.within ks u) (Tree.within ks t) := by
  induction ks generalizing u t with
  | nil => exact h
  | cons k ks ih =>
    refine ih (h.child fun hnull => hk ?_) hk
    rw [within_cons, hnull, within_null]

theorem Pruned.trans (h : Pruned u t) (h' : Pruned t s) : Pruned u s := by
  induction h generalizing s with
  | refl => exact h'
  | @map es fs h ih =>
    cases h' with
    | refl => exact .map h
    | map h' =>
      apply Pruned.map
      intro k hk
      refine ih k hk (h' k fun hnull => hk ?_)
      have hpruned := h k hk
      rw [hnull] at hpruned
      exact hpruned.eq_null

theorem openTo_null : Tree.openTo ks null = true := by
  induction ks with
  | nil => rfl
  | cons k ks ih => exact ih

/-- What is left of maps on the way is maps, or nothing. -/
theorem Pruned.openTo (h : Pruned u t) (ht : Tree.openTo ks t = true) :
    Tree.openTo ks u = true := by
  induction ks generalizing u t with
  | nil => rfl
  | cons k ks ih =>
    rw [Tree.openTo, Bool.and_eq_true] at ht ⊢
    constructor
    · rcases isOpen_eq_true.1 ht.1 with rfl | ⟨fs, rfl⟩
      · rw [h.eq_null]
        rfl
      · obtain ⟨es, rfl⟩ := h.exists_map
        rfl
    · by_cases hk : u.child k = null
      · rw [hk]
        exact openTo_null
      · exact ih (h.child hk) ht.2

/-- A tree laid over what is left of it gives the tree again. -/
theorem canonical_overlay_of_pruned (h : Pruned u t) (hu : u.Ordered) (ht : t.Ordered) :
    canonical (overlay m u t) = canonical t := by
  induction h with
  | refl => exact overlay_self ht
  | @map es fs h ih =>
    rw [canonical_eq_iff_child (hu.overlay ht) ht (exists_overlay_map (.inl rfl)) ⟨fs, rfl⟩]
    intro k
    rw [child_overlay ht]
    by_cases hk : (Tree.map es).child k = null
    · rw [hk, patched_null_left, child_map]
    · have hpruned := h k hk
      have hchild := ih k hk (hu.child k) (ht.child k)
      cases hg : Entries.get? k fs with
      | none =>
        have hnull : (Tree.map fs).child k = null := by rw [child_map, hg, Option.getD_none]
        rw [hnull] at hpruned
        exact absurd hpruned.eq_null hk
      | some v =>
        rw [child_of_get? hg] at hchild ⊢
        exact hchild

theorem pruned_insert {v : Tree} (h : Pruned v ((Tree.map es).child k)) :
    Pruned (Tree.map (Entries.insert k v es)) (Tree.map es) := by
  apply Pruned.map
  intro j _
  rw [child_insert]
  split
  · next hkj => exact hkj ▸ h
  · exact .refl _

theorem pruned_filter (p : String → Bool) :
    Pruned (Tree.map (es.filter fun e => p e.1)) (Tree.map es) := by
  apply Pruned.map
  intro k hk
  cases hp : p k with
  | true =>
    rw [child_map, Entries.get?_filter_of_forall fun _ => hp]
    exact .refl _
  | false =>
    rw [child_map, Entries.get?_filter_of_forall_not fun _ => hp] at hk
    exact absurd rfl hk

theorem pruned_erase : Pruned (Tree.map (Entries.erase k es)) (Tree.map es) :=
  pruned_filter fun j => decide (j ≠ k)

theorem Ordered.entries (h : t.Ordered) : (Tree.map t.entries).Ordered := by
  cases t with
  | map es => exact h
  | _ => exact ordered_map.2 ⟨Entries.ordered_nil, by simp [Tree.entries]⟩

end Tree

namespace Reducer

variable {r : Reducer} {t u : Tree} {k : String} {ks : List String} {input output : Option Tree}

/-- The reducer takes away entries of maps and does nothing else. -/
def Prunes (r : Reducer) : Prop := ∀ t u, (r t).outcome = .ok u → Pruned u t

theorem prunes_filterKey (p : String → Bool) : (filterKey p).Prunes := by
  intro t u h
  cases t with
  | map es =>
    cases h
    exact pruned_filter p
  | _ => cases h

theorem prunes_deleteKeys (keys : List String) : (deleteKeys keys).Prunes := by
  intro t u h
  cases t with
  | map es => exact prunes_filterKey _ _ _ h
  | _ =>
    cases h
    exact .refl _

/-- Where there is nothing, nothing is made. -/
theorem pruned_reducePath (hr : r.Prunes) (h : (reducePath r ks input).outcome = .ok output) :
    Pruned (output.getD .null) (input.getD .null) ∧ (input = none → output = none) := by
  induction ks generalizing input output with
  | nil =>
    obtain ⟨u, hu, rfl⟩ := reducePath_nil_eq_ok_iff.1 h
    have hpruned := hr _ _ hu
    cases input with
    | none =>
      rw [Option.getD_none] at hpruned
      simp [hpruned.eq_null, isNull, Pruned.refl]
    | some t => exact ⟨hpruned, by simp⟩
  | cons k ks ih =>
    obtain ⟨hopen, inner, hinner, rfl⟩ := reducePath_cons_eq_ok_iff.1 h
    obtain ⟨hpruned, hnone⟩ := ih hinner
    rcases isOpen_eq_true.1 hopen with hnull | ⟨es, hmap⟩
    · rw [hnull] at hnone ⊢
      rw [hnone rfl, replaced, if_pos rfl]
      exact ⟨.refl _, fun _ => rfl⟩
    · have hsome : input ≠ none := by
        rintro rfl
        cases hmap
      rw [hmap] at hpruned ⊢
      refine ⟨?_, fun hn => absurd hn hsome⟩
      cases inner with
      | none => exact pruned_erase
      | some v => exact pruned_insert hpruned

theorem prunes_reduceNested (hr : r.Prunes) : (reduceNested ks r).Prunes := by
  intro t u h
  obtain ⟨output, houtput, rfl⟩ := reduceNested_eq_ok_iff.1 h
  exact (pruned_reducePath hr houtput).1

theorem prunes_deleteNested : (deleteNested ks).Prunes := by
  apply prunes_reduceNested
  intro t u h
  dsimp only at h
  split at h
  · exact prunes_filterKey _ _ _ h
  · cases h
    exact .refl _

/-- A reducer that never fails is applied where the values on the way are maps or null. -/
theorem exists_reducePath (hr : ∀ t, ∃ u, (r t).outcome = .ok u)
    (h : openTo ks (input.getD .null) = true) :
    ∃ output, (reducePath r ks input).outcome = .ok output := by
  induction ks generalizing input with
  | nil =>
    obtain ⟨u, hu⟩ := hr (input.getD .null)
    exact ⟨_, reducePath_nil_eq_ok_iff.2 ⟨u, hu, rfl⟩⟩
  | cons k ks ih =>
    rw [openTo, Bool.and_eq_true] at h
    have hopen : openTo ks (((input.getD .null).get? k).getD .null) = true := h.2
    obtain ⟨inner, hinner⟩ := ih hopen
    exact ⟨_, reducePath_cons_eq_ok_iff.2 ⟨h.1, inner, hinner, rfl⟩⟩

theorem exists_reduceNested (hr : ∀ t, ∃ u, (r t).outcome = .ok u) (h : openTo ks t = true) :
    ∃ u, (reduceNested ks r t).outcome = .ok u := by
  have hopen : openTo ks ((some t).getD .null) = true := h
  obtain ⟨output, houtput⟩ := exists_reducePath hr hopen
  exact ⟨_, reduceNested_eq_ok_iff.2 ⟨output, houtput, rfl⟩⟩

theorem exists_deleteKeys (keys : List String) (t : Tree) :
    ∃ u, (deleteKeys keys t).outcome = .ok u := by
  cases t <;> exact ⟨_, rfl⟩

/-- What the reducer gives for a tree in order is in order. -/
def KeepsOrder (r : Reducer) : Prop := ∀ t u, t.Ordered → (r t).outcome = .ok u → u.Ordered

theorem keepsOrder_filterKey (p : String → Bool) : (filterKey p).KeepsOrder := by
  intro t u ht h
  cases t with
  | map es =>
    cases h
    exact ht.filter _
  | _ => cases h

theorem keepsOrder_deleteKeys (keys : List String) : (deleteKeys keys).KeepsOrder := by
  intro t u ht h
  cases t with
  | map es => exact keepsOrder_filterKey _ _ _ ht h
  | _ =>
    cases h
    exact ht

theorem keepsOrder_whenPresent (hr : r.KeepsOrder) : (whenPresent r).KeepsOrder := by
  intro t u ht h
  rw [whenPresent] at h
  split at h
  · cases h
    exact ht
  · exact hr t u ht h

theorem ordered_mapItems (hr : r.KeepsOrder) {i : Nat} {ts us : List Tree}
    (ht : ∀ t ∈ ts, t.Ordered) (h : (mapItems r i ts).outcome = .ok us) :
    ∀ u ∈ us, u.Ordered := by
  induction ts generalizing i us with
  | nil =>
    cases h
    simp
  | cons t ts ih =>
    rw [List.forall_mem_cons] at ht
    obtain ⟨u, hu, h⟩ := Traced.bind_eq_ok_iff.1 h
    obtain ⟨vs, hvs, h⟩ := Traced.bind_eq_ok_iff.1 h
    cases h
    rw [List.forall_mem_cons]
    exact ⟨hr t u ht.1 (Traced.locate_eq_ok_iff.1 hu), ih ht.2 hvs⟩

theorem ordered_mapEntries (hr : r.KeepsOrder) {es fs : List (String × Tree)}
    (he : (Tree.map es).Ordered) (h : (mapEntries r es).outcome = .ok fs) :
    (Tree.map fs).Ordered := by
  have hall : fs.map (·.1) = es.map (·.1) ∧ ∀ f ∈ fs, f.2.Ordered := by
    have hes := (ordered_map.1 he).2
    clear he
    induction es generalizing fs with
    | nil =>
      cases h
      simp
    | cons e es ih =>
      obtain ⟨k, t⟩ := e
      rw [List.forall_mem_cons] at hes
      obtain ⟨u, hu, h⟩ := Traced.bind_eq_ok_iff.1 h
      obtain ⟨gs, hgs, h⟩ := Traced.bind_eq_ok_iff.1 h
      cases h
      obtain ⟨hkeys, hvalues⟩ := ih hgs hes.2
      rw [List.map_cons, List.map_cons, hkeys, List.forall_mem_cons]
      exact ⟨rfl, hr t u hes.1 (Traced.locate_eq_ok_iff.1 hu), hvalues⟩
  rw [ordered_map, Entries.ordered_iff_keys, hall.1, ← Entries.ordered_iff_keys]
  exact ⟨(ordered_map.1 he).1, hall.2⟩

theorem keepsOrder_mapValue (hr : r.KeepsOrder) : (mapValue r).KeepsOrder := by
  intro t u ht h
  cases t with
  | arr ts =>
    rw [mapValue, Traced.outcome_map, map_eq_ok_iff] at h
    obtain ⟨us, hus, rfl⟩ := h
    exact ordered_arr.2 (ordered_mapItems hr (ordered_arr.1 ht) hus)
  | map es =>
    rw [mapValue, Traced.outcome_map, map_eq_ok_iff] at h
    obtain ⟨fs, hfs, rfl⟩ := h
    exact ordered_mapEntries hr ht hfs
  | _ => cases h

theorem ordered_reducePath (hr : r.KeepsOrder) (hi : ∀ t ∈ input, t.Ordered)
    (h : (reducePath r ks input).outcome = .ok output) : ∀ u ∈ output, u.Ordered := by
  have hin : (input.getD .null).Ordered := by
    cases input with
    | none => exact ordered_null
    | some t => exact hi t rfl
  induction ks generalizing input output with
  | nil =>
    obtain ⟨u, hu, rfl⟩ := reducePath_nil_eq_ok_iff.1 h
    intro v hv
    split at hv
    · cases hv
    · cases hv
      exact hr _ _ hin hu
  | cons k ks ih =>
    obtain ⟨-, inner, hinner, rfl⟩ := reducePath_cons_eq_ok_iff.1 h
    have hget : ∀ t ∈ (input.getD .null).get? k, t.Ordered := by
      intro t ht
      cases hm : input.getD .null with
      | map es =>
        rw [hm] at ht hin
        exact hin.get? ht
      | _ =>
        rw [hm] at ht
        cases ht
    have hinnerOrdered := ih hget hinner (hin.child k)
    intro u hu
    cases inner with
    | none =>
      rw [replaced] at hu
      split at hu
      · cases hu
      · cases hu
        exact hin.entries.erase
    | some v =>
      cases hu
      exact hin.entries.insert (hinnerOrdered v rfl)

theorem keepsOrder_reduceNested (hr : r.KeepsOrder) : (reduceNested ks r).KeepsOrder := by
  intro t u ht h
  obtain ⟨output, houtput, rfl⟩ := reduceNested_eq_ok_iff.1 h
  have hordered := ordered_reducePath hr (by simpa using ht) houtput
  cases output with
  | none => exact ordered_null
  | some u => exact hordered u rfl

theorem keepsOrder_deleteNested : (deleteNested ks).KeepsOrder := by
  apply keepsOrder_reduceNested
  intro t u ht h
  dsimp only at h
  split at h
  · exact keepsOrder_filterKey _ _ _ ht h
  · cases h
    exact ht

end Reducer

namespace Pipeline

variable {rs : List Reducer} {t u : Tree}

theorem pruned_of_leads (hrs : ∀ r ∈ rs, r.Prunes) (h : Leads rs t u) : Pruned u t := by
  induction rs generalizing t with
  | nil => exact h ▸ .refl _
  | cons r rs ih =>
    rw [List.forall_mem_cons] at hrs
    obtain ⟨v, hv, hrest⟩ := h
    exact (ih hrs.2 hrest).trans (hrs.1 t v hv)

theorem ordered_of_leads (hrs : ∀ r ∈ rs, r.KeepsOrder) (ht : t.Ordered) (h : Leads rs t u) :
    u.Ordered := by
  induction rs generalizing t with
  | nil => exact h ▸ ht
  | cons r rs ih =>
    rw [List.forall_mem_cons] at hrs
    obtain ⟨v, hv, hrest⟩ := h
    exact ih hrs.2 (hrs.1 t v ht hv) hrest

end Pipeline

end PreviewEnv
