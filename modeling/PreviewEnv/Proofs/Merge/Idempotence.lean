import PreviewEnv.Proofs.Merge.Stability
import PreviewEnv.Proofs.Reduce.Outcomes

namespace PreviewEnv

namespace Tree

mutual

/-- No entry of a map holds null, at any depth. -/
def nullFree : Tree → Bool
  | arr ts => nullFreeItems ts
  | map es => nullFreeEntries es
  | _ => true

def nullFreeItems : List Tree → Bool
  | [] => true
  | t :: ts => nullFree t && nullFreeItems ts

def nullFreeEntries : List (String × Tree) → Bool
  | [] => true
  | (_, t) :: es => !t.isNull && nullFree t && nullFreeEntries es

end

variable {m : Matching} {b p t v : Tree} {bs ps ts : List Tree} {es fs gs : List (String × Tree)}
  {k : String}

theorem nullFree_arr : (arr ts).nullFree = true ↔ ∀ t ∈ ts, t.nullFree = true := by
  rw [nullFree]
  induction ts with
  | nil => simp [nullFreeItems]
  | cons t ts ih => simp [nullFreeItems, ih]

theorem nullFree_map :
    (map es).nullFree = true ↔ ∀ e ∈ es, e.2 ≠ null ∧ e.2.nullFree = true := by
  rw [nullFree]
  induction es with
  | nil => simp [nullFreeEntries]
  | cons e es ih =>
    obtain ⟨k, t⟩ := e
    simp [nullFreeEntries, ih, isNull_eq_false]

theorem nullFree_of_get? (h : (map es).nullFree = true) (hk : Entries.get? k es = some v) :
    v ≠ null ∧ v.nullFree = true :=
  nullFree_map.1 h _ (Entries.mem_of_get? hk)

/-- A map that holds what the patch says under each of its keys is left as it is. -/
theorem overlay_map_eq_self (hg : (map gs).Ordered) (hf : (map fs).Ordered)
    (h : ∀ k p, Entries.get? k fs = some p →
      if p = null then Entries.get? k gs = none
      else ∃ v, Entries.get? k gs = some v ∧ overlay m v p = v) :
    overlay m (map gs) (map fs) = map gs := by
  have ho := hg.overlay (m := m) hf
  rw [overlay] at ho ⊢
  congr 1
  apply Entries.ext_of_ordered (ordered_map.1 ho).1 (ordered_map.1 hg).1
  intro k
  rw [get?_overlayEntries (ordered_map.1 hf).1]
  cases hk : Entries.get? k fs with
  | none => rfl
  | some p =>
    have hp := h k p hk
    by_cases hn : p = null
    · rw [if_pos hn] at hp
      simp [hn, hp]
    · rw [if_neg hn] at hp
      obtain ⟨v, hv, hkeep⟩ := hp
      simp [hn, hv, child_of_get? hv, hkeep]

theorem get?_of_child (h : (map es).child k ≠ null) :
    Entries.get? k es = some ((map es).child k) := by
  rw [child_map] at h ⊢
  cases hk : Entries.get? k es with
  | none => simp [hk] at h
  | some v => rfl

/-- An empty map adds nothing to what is there. -/
theorem overlay_map_nil_again :
    overlay m (overlay m b (map [])) (map []) = overlay m b (map []) := by
  rw [overlay_map_nil, overlay_map_nil]
  split <;> simp_all

/-- A patch without nulls changes nothing when it is laid over its own result. -/
theorem overlay_eq_self_of_nullFree (hp : p.Ordered) (hb : b.Ordered) (hn : p.nullFree = true) :
    overlay m (overlay m b p) p = overlay m b p := by
  induction p using byParts generalizing b with
  | scalar p hs => rw [overlay_scalar hs, overlay_scalar hs]
  | arr ps ih =>
    have hpo := ordered_arr.1 hp
    obtain ⟨bs, hbo, hbs⟩ := exists_overlay_arr (m := m) ps hb
    rw [hbs, overlay_arr, overlay_arr, mergedItems_again hpo, mergedItems_eq_map]
    congr 1
    apply List.map_congr_left
    rintro ⟨b, o⟩ hz
    cases o with
    | none => rfl
    | some p =>
      have hpm := (mem_of_mem_meetings hz).2 p rfl
      exact ih p hpm (hpo p hpm) (ordered_of_mem_meetings hbo hz) (nullFree_arr.1 hn p hpm)
  | map fs ih =>
    by_cases hmap : b.isOpen = true ∨ fs ≠ []
    · obtain ⟨gs, hg⟩ := exists_overlay_map (m := m) hmap
      have ho := hb.overlay (m := m) hp
      have hchild (k : String) := child_overlay (m := m) (b := b) (k := k) hp
      rw [hg] at ho hchild ⊢
      apply overlay_map_eq_self ho hp
      intro k p hk
      obtain ⟨hne, hfree⟩ := nullFree_of_get? hn hk
      have hv : (map gs).child k = overlay m (b.child k) p := by rw [hchild, hk, patched_some]
      have hvn : (map gs).child k ≠ null := by rwa [hv, ne_eq, overlay_eq_null_iff]
      rw [if_neg hne]
      refine ⟨_, get?_of_child hvn, ?_⟩
      rw [hv]
      exact ih k p hk (hp.get? hk) (hb.child k) hfree
    · obtain ⟨-, rfl⟩ : ¬ b.isOpen = true ∧ fs = [] := by simpa using hmap
      exact overlay_map_nil_again

/-- No patch changes anything when it is laid over its own result twice. -/
theorem overlay_overlay_overlay (hp : p.Ordered) (hb : b.Ordered) :
    overlay m (overlay m (overlay m b p) p) p = overlay m (overlay m b p) p := by
  induction p using byParts generalizing b with
  | scalar p hs => rw [overlay_scalar hs, overlay_scalar hs]
  | arr ps ih =>
    have hpo := ordered_arr.1 hp
    obtain ⟨bs, hbo, hbs⟩ := exists_overlay_arr (m := m) ps hb
    rw [hbs, overlay_arr, overlay_arr, overlay_arr, mergedItems_again hpo, mergedItems_again hpo,
      meetings_again hpo, List.map_map]
    congr 1
    apply List.map_congr_left
    rintro ⟨b, o⟩ hz
    cases o with
    | none => rfl
    | some p =>
      have hpm := (mem_of_mem_meetings hz).2 p rfl
      exact ih p hpm (hpo p hpm) (ordered_of_mem_meetings hbo hz)
  | map fs ih =>
    by_cases hmap : b.isOpen = true ∨ fs ≠ []
    · obtain ⟨gs, hg⟩ := exists_overlay_map (m := m) hmap
      have ho := hb.overlay (m := m) hp
      have hchild (k : String) := child_overlay (m := m) (b := b) (k := k) hp
      rw [hg] at ho hchild ⊢
      have ho' := ho.overlay (m := m) hp
      rw [show overlay m (map gs) (map fs) = map (overlayEntries m gs fs) by rw [overlay]] at ho' ⊢
      apply overlay_map_eq_self ho' hp
      intro k p hk
      rw [get?_overlayEntries (ordered_map.1 hp).1, hk]
      by_cases hn : p = null
      · simp [hn]
      · simp only [hn, ↓reduceIte, Option.some.injEq, exists_eq_left']
        rw [hchild, hk, patched_some]
        exact ih k p hk (hp.get? hk) (hb.child k)
    · obtain ⟨-, rfl⟩ : ¬ b.isOpen = true ∧ fs = [] := by simpa using hmap
      rw [overlay_map_nil_again]

end Tree

/-- Merging by structure and merging by name object to nothing. A patch that is merged for the
second time changes nothing that the comparison of stored objects can see, and nothing at all if no
entry of its maps holds null; merged for the third time it changes nothing at all. -/
theorem merge_idempotent {s : Strategy} {base patch : Tree} (hs : s = .default ∨ s = .named)
    (hbase : base.Ordered) (hpatch : patch.Ordered) :
    ∃ once twice, s.merge base patch = .ok once ∧ s.merge once patch = .ok twice ∧
      twice.equal once = true ∧ (patch.nullFree = true → twice = once) ∧
      s.merge twice patch = .ok twice := by
  obtain ⟨m, rfl⟩ := exists_matching hs
  have honce := hbase.overlay (m := m) hpatch
  refine ⟨_, _, Strategy.merge_eq_overlay base patch, Strategy.merge_eq_overlay _ patch, ?_, ?_, ?_⟩
  · rw [Tree.equal_iff_canonical (honce.overlay hpatch) honce]
    exact Tree.overlay_idem hpatch hbase
  · exact Tree.overlay_eq_self_of_nullFree hpatch hbase
  · rw [Strategy.merge_eq_overlay, Tree.overlay_overlay_overlay hpatch hbase]

def servicePorts : Tree := .map [
  ("ports", .arr [.map [("port", .int 80)], .map [("name", .str "admin"), ("port", .int 8080)]])]

def namedPorts : Tree := .map [
  ("ports", .arr [.map [("name", .str "web")]]),
  ("selector", .map [("app", .str "web"), ("tier", .null)])]

def mergedPorts (selector : List (String × Tree)) : Tree := .map [
  ("ports", .arr [
    .map [("name", .str "web"), ("port", .int 80)],
    .map [("name", .str "admin"), ("port", .int 8080)]]),
  ("selector", .map selector)]

theorem merge_idempotent_ports :
    Strategy.named.merge servicePorts namedPorts =
        .ok (mergedPorts [("app", .str "web"), ("tier", .null)]) ∧
      Strategy.named.merge (mergedPorts [("app", .str "web"), ("tier", .null)]) namedPorts =
        .ok (mergedPorts [("app", .str "web")]) ∧
      (mergedPorts [("app", .str "web")]).equal
        (mergedPorts [("app", .str "web"), ("tier", .null)]) = true ∧
      Strategy.named.merge (mergedPorts [("app", .str "web")]) namedPorts =
        .ok (mergedPorts [("app", .str "web")]) := by
  have hfirst : Strategy.named.merge servicePorts namedPorts =
      .ok (mergedPorts [("app", .str "web"), ("tier", .null)]) := by decide +kernel
  have hsecond : Strategy.named.merge (mergedPorts [("app", .str "web"), ("tier", .null)])
      namedPorts = .ok (mergedPorts [("app", .str "web")]) := by decide +kernel
  obtain ⟨once, twice, honce, htwice, hequal, -, hthird⟩ :=
    @merge_idempotent .named servicePorts namedPorts (.inr rfl) (by decide) (by decide)
  cases hfirst.symm.trans honce
  cases hsecond.symm.trans htwice
  exact ⟨hfirst, hsecond, hequal, hthird⟩

end PreviewEnv
