import PreviewEnv.Proofs.Apply.Build
import PreviewEnv.Proofs.Reduce.Pruning

namespace PreviewEnv.Patch

open PreviewEnv.Tree Reducer

variable {kind : GroupVersionKind} {original : Option Tree} {e start : Tree}

theorem keepsOrder_mergeObject (he : e.Ordered) : (mergeObject e).KeepsOrder := by
  intro t u ht h
  rw [mergeObject_eq_ok_iff.1 h]
  exact ht.overlay he

theorem keepsOrder_copyOriginal (he : e.Ordered) : ∀ r ∈ copyOriginal kind e, r.KeepsOrder := by
  have haddresses : ∀ r ∈ withoutAddresses, r.KeepsOrder := by
    simp only [withoutAddresses, List.forall_mem_cons]
    refine ⟨keepsOrder_deleteNested, keepsOrder_deleteNested, ?_, by simp⟩
    exact keepsOrder_reduceNested
      (keepsOrder_whenPresent (keepsOrder_mapValue (keepsOrder_deleteKeys _)))
  intro r hr
  rw [copyOriginal, List.mem_append] at hr
  rcases hr with hr | hr
  · revert r
    simp only [List.forall_mem_cons]
    exact ⟨keepsOrder_mergeObject he, keepsOrder_deleteNested,
      keepsOrder_reduceNested (keepsOrder_deleteKeys _),
      keepsOrder_reduceNested (keepsOrder_deleteKeys _), by simp⟩
  · split at hr
    · exact haddresses r hr
    · cases hr

/-- What is copied from an original in order is in order. -/
theorem ordered_of_copied (he : ∀ e ∈ original, e.Ordered) (h : copied kind original = .ok start) :
    start.Ordered := by
  cases original with
  | none =>
    cases h
    exact ordered_null
  | some e =>
    rw [copied, Pipeline.reduce_eq_ok_iff] at h
    exact Pipeline.ordered_of_leads (keepsOrder_copyOriginal (he e rfl)) ordered_null h

/-- What is taken from an original that is not a service. -/
def strips : List Reducer := [
  .deleteNested ["status"],
  .reduceNested ["metadata"] (.deleteKeys assignedMetadata),
  .reduceNested ["metadata", "annotations"] (.deleteKeys bookkeepingAnnotations)]

theorem copied_eq_ok_iff (hkind : kind.isService = false) :
    copied kind (some e) = .ok start ↔ Pipeline.Leads strips e start := by
  rw [copied, Pipeline.reduce_eq_ok_iff]
  change Pipeline.Leads (mergeObject e :: strips ++ if kind.isService then withoutAddresses else [])
    .null start ↔ _
  rw [hkind, if_neg (by simp), List.append_nil]
  simp only [Pipeline.Leads, mergeObject_eq_ok_iff, overlay_null_left, exists_eq_left]

theorem prunes_strips : ∀ r ∈ strips, r.Prunes := by
  simp only [strips, List.forall_mem_cons]
  exact ⟨prunes_deleteNested, prunes_reduceNested (prunes_deleteKeys _),
    prunes_reduceNested (prunes_deleteKeys _), by simp⟩

/-- What is copied is what is left of the original. -/
theorem pruned_of_copied (hkind : kind.isService = false) (h : copied kind (some e) = .ok start) :
    Pruned start e :=
  Pipeline.pruned_of_leads prunes_strips ((copied_eq_ok_iff hkind).1 h)

/-- What is a service's own aside, anything can be taken from an original with room for metadata. -/
theorem exists_strips (hmap : ∃ es, e = map es) (hroom : hasRoom e = true) :
    ∃ start, Pipeline.Leads strips e start := by
  obtain ⟨es, rfl⟩ := hmap
  have hopen : openTo ["metadata", "annotations"] (map es) = true := by rwa [openTo_metadata]
  obtain ⟨t, ht⟩ : ∃ t, (deleteNested ["status"] (map es)).outcome = .ok t := by
    refine ⟨map (es.filter fun e => ["status"].getLast? != some e.1), ?_⟩
    rw [deleteNested, reduceNested_eq_ok_iff]
    exact ⟨_, reducePath_nil_eq_ok_iff.2 ⟨_, rfl, rfl⟩, rfl⟩
  have htp := prunes_deleteNested _ _ ht
  have htopen : openTo ["metadata"] t = true := htp.openTo (t := map es) rfl
  obtain ⟨u, hu⟩ := exists_reduceNested (exists_deleteKeys assignedMetadata) htopen
  have hup := (prunes_reduceNested (prunes_deleteKeys _) _ _ hu).trans htp
  obtain ⟨start, hstart⟩ := exists_reduceNested (exists_deleteKeys bookkeepingAnnotations)
    (hup.openTo hopen)
  exact ⟨start, t, ht, u, hu, start, hstart, rfl⟩

/-- An original with room for metadata can be copied. -/
theorem exists_copied (hkind : kind.isService = false) (hmap : ∃ es, e = map es)
    (hroom : hasRoom e = true) : ∃ start, copied kind (some e) = .ok start := by
  obtain ⟨start, hleads⟩ := exists_strips hmap hroom
  exact ⟨start, (copied_eq_ok_iff hkind).2 hleads⟩

end PreviewEnv.Patch
