import PreviewEnv.Proofs.Merge.Arrays
import PreviewEnv.Proofs.Tree.Canonical

namespace PreviewEnv

namespace Tree

variable {m : Matching} {b c p t u : Tree} {as bs cs ps ts us : List Tree}
  {es fs gs : List (String × Tree)} {o : Option Tree}

@[simp] theorem str?_canonical : (canonical t).str? = t.str? := by
  cases t with
  | float x =>
    simp only [canonical, canonicalNumber]
    split <;> rfl
  | _ => rfl

/-- The canonical form has the name of the tree. -/
theorem name?_canonical (ht : t.Ordered) : (canonical t).name? = t.name? := by
  cases t with
  | map es =>
    rw [name?_eq_child (t := map es), name?, canonical, get?_map,
      get?_canonicalEntries (ordered_map.1 ht).1]
    split
    · next hn => rw [isNull_eq_true.1 hn]; rfl
    · simp
  | float x =>
    simp only [canonical, canonicalNumber]
    split <;> rfl
  | _ => rfl

theorem map_name?_of_canonical (hb : ∀ t ∈ bs, t.Ordered) (hc : ∀ t ∈ cs, t.Ordered)
    (h : bs.map canonical = cs.map canonical) : bs.map name? = cs.map name? := by
  have hnames (ts : List Tree) (ht : ∀ t ∈ ts, t.Ordered) :
      ts.map name? = (ts.map canonical).map name? := by
    rw [List.map_map]
    exact List.map_congr_left fun t hm => (name?_canonical (ht t hm)).symm
  rw [hnames bs hb, hnames cs hc, h]

/-- Two arrays are equal exactly when they are so at every place. -/
theorem map_canonical_eq_iff :
    bs.map canonical = cs.map canonical ↔
      ∀ i : Nat, bs[i]?.map canonical = cs[i]?.map canonical := by
  rw [List.ext_getElem?_iff]
  simp only [List.getElem?_map]

/-- Two maps of trees give equal results on equal elements. -/
theorem map_canonical_congr {f g : Tree → Tree} (h : bs.map canonical = cs.map canonical)
    (hfg : ∀ b ∈ bs, ∀ c ∈ cs, canonical b = canonical c → canonical (f b) = canonical (g c)) :
    (bs.map f).map canonical = (cs.map g).map canonical := by
  induction bs generalizing cs with
  | nil =>
    cases cs with
    | nil => rfl
    | cons c cs => simp at h
  | cons b bs ih =>
    cases cs with
    | nil => simp at h
    | cons c cs =>
      simp only [List.map_cons, List.cons.injEq] at h ⊢
      refine ⟨hfg b List.mem_cons_self c List.mem_cons_self h.1, ih h.2 fun x hx y hy => ?_⟩
      exact hfg x (List.mem_cons_of_mem _ hx) y (List.mem_cons_of_mem _ hy)

theorem canonical_patched_congr (h : canonical b = canonical c)
    (hstep : ∀ p, o = some p → canonical (overlay m b p) = canonical (overlay m c p)) :
    canonical (patched m b o) = canonical (patched m c o) := by
  cases o with
  | none => exact h
  | some p => exact hstep p rfl

theorem canonical_joinNamed_congr (hb : ∀ t ∈ bs, t.Ordered) (hc : ∀ t ∈ cs, t.Ordered)
    (h : bs.map canonical = cs.map canonical)
    (hstep : ∀ p ∈ ps, ∀ b ∈ bs, ∀ c ∈ cs, canonical b = canonical c →
      canonical (overlay m b p) = canonical (overlay m c p)) :
    (joinNamed m bs ps).map canonical = (joinNamed m cs ps).map canonical := by
  have hnew : (ps.filter fun p => (namesake p.name? bs).isNone) =
      ps.filter fun p => (namesake p.name? cs).isNone := by
    apply List.filter_congr
    intro p _
    rw [Bool.eq_iff_iff, Option.isNone_iff_eq_none, Option.isNone_iff_eq_none,
      namesake_eq_none_iff, namesake_eq_none_iff, map_name?_of_canonical hb hc h]
  rw [joinNamed, joinNamed, List.map_append, List.map_append, hnew]
  congr 1
  apply map_canonical_congr h
  intro b hbm c hcm hbc
  have hname : b.name? = c.name? := by
    rw [← name?_canonical (hb b hbm), hbc, name?_canonical (hc c hcm)]
  rw [← hname]
  exact canonical_patched_congr hbc fun p hp => hstep p (mem_of_namesake hp) b hbm c hcm hbc

theorem canonical_overlayItems_congr (h : bs.map canonical = cs.map canonical)
    (hstep : ∀ p ∈ ps, ∀ b ∈ bs, ∀ c ∈ cs, canonical b = canonical c →
      canonical (overlay m b p) = canonical (overlay m c p)) :
    (overlayItems m bs ps).map canonical = (overlayItems m cs ps).map canonical := by
  rw [map_canonical_eq_iff] at h ⊢
  intro i
  have hi := h i
  rw [getElem?_overlayItems, getElem?_overlayItems]
  cases hb : bs[i]? with
  | none =>
    cases hc : cs[i]? with
    | none => rfl
    | some c => simp [hb, hc] at hi
  | some b =>
    cases hc : cs[i]? with
    | none => simp [hb, hc] at hi
    | some c =>
      simp only [hb, hc, Option.map_some, Option.some.injEq] at hi ⊢
      exact canonical_patched_congr hi fun p hp => hstep p (List.mem_of_getElem? hp) b
        (List.mem_of_getElem? hb) c (List.mem_of_getElem? hc) hi

/-- Equal bases give equal overlays. -/
theorem canonical_overlay_congr (hp : p.Ordered) (hb : b.Ordered) (hc : c.Ordered)
    (h : canonical b = canonical c) : canonical (overlay m b p) = canonical (overlay m c p) := by
  induction p using byParts generalizing b c with
  | scalar p hs => rw [overlay_scalar hs, overlay_scalar hs]
  | arr ps ih =>
    by_cases hbs : ∃ bs, b = arr bs
    · obtain ⟨bs, rfl⟩ := hbs
      obtain ⟨cs, rfl, hcs⟩ := eq_arr_of_canonical (h.symm.trans (canonical_arr bs))
      have hbo := ordered_arr.1 hb
      have hco := ordered_arr.1 hc
      have hstep : ∀ p ∈ ps, ∀ b ∈ bs, ∀ c ∈ cs, canonical b = canonical c →
          canonical (overlay m b p) = canonical (overlay m c p) := fun p hpm b hbm c hcm hbc =>
        ih p hpm (ordered_arr.1 hp p hpm) (hbo b hbm) (hco c hcm) hbc
      have hjoins : m.Joins bs ps ↔ m.Joins cs ps := by
        rw [Matching.Joins, Matching.Joins,
          named_congr (map_name?_of_canonical hbo hco hcs.symm)]
      rw [overlay_arr, overlay_arr, canonical_arr_eq_iff, mergedItems, mergedItems]
      by_cases hj : m.Joins bs ps
      · rw [if_pos hj, if_pos (hjoins.1 hj)]
        exact canonical_joinNamed_congr hbo hco hcs.symm hstep
      · rw [if_neg hj, if_neg (mt hjoins.2 hj)]
        exact canonical_overlayItems_congr hcs.symm hstep
    · have hcs : ∀ cs, c ≠ arr cs := by
        rintro cs rfl
        obtain ⟨bs, rfl, -⟩ := eq_arr_of_canonical (h.trans (canonical_arr cs))
        exact hbs ⟨bs, rfl⟩
      rw [overlay_arr_of_not_arr (fun bs he => hbs ⟨bs, he⟩), overlay_arr_of_not_arr hcs]
  | map fs ih =>
    by_cases hmap : b.isOpen = true ∨ fs ≠ []
    · have hmap' : c.isOpen = true ∨ fs ≠ [] := hmap.imp_left (isOpen_of_canonical h)
      rw [canonical_eq_iff_child (hb.overlay hp) (hc.overlay hp) (exists_overlay_map hmap)
        (exists_overlay_map hmap')]
      intro k
      rw [child_overlay hp, child_overlay hp]
      exact canonical_patched_congr (canonical_child h hb hc k) fun p hpk =>
        ih k p hpk (hp.get? hpk) (hb.child k) (hc.child k) (canonical_child h hb hc k)
    · obtain ⟨hopen, rfl⟩ : ¬ b.isOpen = true ∧ fs = [] := by simpa using hmap
      have hnull : b = null ↔ c = null := by
        rw [← canonical_eq_null, h, canonical_eq_null]
      rw [overlay_map_nil, overlay_map_nil]
      simp only [hnull]
      split
      · rfl
      · exact h

theorem canonical_patched_idem
    (hstep : ∀ p, o = some p →
      canonical (overlay m (overlay m b p) p) = canonical (overlay m b p)) :
    canonical (patched m (patched m b o) o) = canonical (patched m b o) := by
  cases o with
  | none => rfl
  | some p => exact hstep p rfl

/-- Laying a patch over its own result changes nothing. -/
theorem overlay_idem (hp : p.Ordered) (hb : b.Ordered) :
    canonical (overlay m (overlay m b p) p) = canonical (overlay m b p) := by
  induction p using byParts generalizing b with
  | scalar p hs => rw [overlay_scalar hs, overlay_scalar hs]
  | arr ps ih =>
    have hpo := ordered_arr.1 hp
    obtain ⟨bs, hbo, hbs⟩ := exists_overlay_arr (m := m) ps hb
    rw [hbs, overlay_arr, overlay_arr, canonical_arr_eq_iff, mergedItems_again hpo,
      mergedItems_eq_map, List.map_map, List.map_map]
    apply List.map_congr_left
    intro z hz
    apply canonical_patched_idem
    intro p hpz
    have hpm := (mem_of_mem_meetings hz).2 p hpz
    exact ih p hpm (hpo p hpm) (ordered_of_mem_meetings hbo hz)
  | map fs ih =>
    by_cases hmap : b.isOpen = true ∨ fs ≠ []
    · obtain ⟨gs, hg⟩ := exists_overlay_map (m := m) hmap
      have hmap' : (overlay m b (map fs)).isOpen = true ∨ fs ≠ [] := by
        rw [hg]
        exact .inl rfl
      rw [canonical_eq_iff_child ((hb.overlay hp).overlay hp) (hb.overlay hp)
        (exists_overlay_map hmap') ⟨gs, hg⟩]
      intro k
      rw [child_overlay hp, child_overlay hp]
      exact canonical_patched_idem fun p hpk => ih k p hpk (hp.get? hpk) (hb.child k)
    · obtain ⟨hopen, rfl⟩ : ¬ b.isOpen = true ∧ fs = [] := by simpa using hmap
      have hnull : b ≠ null := by
        rintro rfl
        exact hopen rfl
      have hkeep : overlay m b (map []) = b := by rw [overlay_map_nil, if_neg hnull]
      rw [hkeep, hkeep]

/-- Nor does laying a tree over itself. -/
theorem overlay_self (hp : p.Ordered) : canonical (overlay m p p) = canonical p := by
  have h := overlay_idem (m := m) (b := null) hp ordered_null
  rwa [overlay_null_left] at h

theorem canonical_patched (ho : ∀ p ∈ o, p.Ordered) (hb : b.Ordered) (hc : c.Ordered)
    (h : canonical b = canonical c) : canonical (patched m b o) = canonical (patched m c o) := by
  apply canonical_patched_congr h
  intro p hp
  exact canonical_overlay_congr (ho p hp) hb hc h

theorem patched_idem (ho : ∀ p ∈ o, p.Ordered) (hb : b.Ordered) :
    canonical (patched m (patched m b o) o) = canonical (patched m b o) := by
  apply canonical_patched_idem
  intro p hp
  exact overlay_idem (ho p hp) hb

end Tree

/-- **Merging sees no more of its base than the comparison of stored objects does.** Merging by
structure and merging by name object to nothing, and equal bases give equal results: a null of the
base counts as no entry at all, and a whole float as its integer. -/
theorem merge_of_equal {s : Strategy} {base other patch : Tree}
    (hs : s = .default ∨ s = .named) (hbase : base.Ordered) (hother : other.Ordered)
    (hpatch : patch.Ordered) (h : base.equal other = true) :
    ∃ merged merged', s.merge base patch = .ok merged ∧ s.merge other patch = .ok merged' ∧
      merged.equal merged' = true := by
  obtain ⟨m, rfl⟩ := exists_matching hs
  rw [Tree.equal_iff_canonical hbase hother] at h
  refine ⟨_, _, Strategy.merge_eq_overlay base patch, Strategy.merge_eq_overlay other patch, ?_⟩
  rw [Tree.equal_iff_canonical (hbase.overlay hpatch) (hother.overlay hpatch)]
  exact Tree.canonical_overlay_congr hpatch hbase hother h

def bareService : Tree := .map [
  ("ports", .arr [.map [("name", .str "web"), ("port", .int 80)]]), ("selector", .null)]

/-- The float 80. -/
def typedPort : Tree := .float ⟨false, 1029, 0x4000000000000, by decide, by decide⟩

def typedService : Tree := .map [
  ("ports", .arr [.map [("name", .str "web"), ("port", typedPort), ("protocol", .null)]])]

def openedService : Tree := .map [
  ("ports", .arr [
    .map [("name", .str "admin")],
    .map [("name", .str "web"), ("protocol", .empty)]]),
  ("selector", .empty)]

def mergedService (port : Tree) : Tree := .map [
  ("ports", .arr [
    .map [("name", .str "web"), ("port", port), ("protocol", .empty)],
    .map [("name", .str "admin")]]),
  ("selector", .empty)]

theorem merge_of_equal_services :
    bareService.equal typedService = true ∧
      Strategy.named.merge bareService openedService = .ok (mergedService (.int 80)) ∧
      Strategy.named.merge typedService openedService = .ok (mergedService typedPort) ∧
      (mergedService (.int 80)).equal (mergedService typedPort) = true := by
  have hequal : bareService.equal typedService = true := by decide +kernel
  have hbare : Strategy.named.merge bareService openedService = .ok (mergedService (.int 80)) := by
    decide +kernel
  have htyped :
      Strategy.named.merge typedService openedService = .ok (mergedService typedPort) := by
    decide +kernel
  obtain ⟨merged, merged', hmerged, hmerged', h⟩ := @merge_of_equal .named bareService typedService
    openedService (.inr rfl) (by decide) (by decide) (by decide) hequal
  cases hbare.symm.trans hmerged
  cases htyped.symm.trans hmerged'
  exact ⟨hequal, hbare, htyped, h⟩

end PreviewEnv
