import PreviewEnv.Proofs.Apply.WholeNumbers
import PreviewEnv.Proofs.Merge.Overlay

/-!
An object is built in one piece: what is kept of the original, with the applied
object and then the rendered declaration laid over it, adopted by its target and
with its whole floats as integers.
-/

namespace PreviewEnv

open PreviewEnv.Tree

namespace Patch

variable {kind : GroupVersionKind} {original applied : Option Tree}
  {start rendered built t u v : Tree} {target : Target} {path : List String}

/-- What is kept of an original; nothing, if there is none. -/
def copied (kind : GroupVersionKind) : Option Tree → Except ReduceError Tree
  | none => .ok .null
  | some e => ((⟨copyOriginal kind e⟩ : Pipeline).reduce .null).outcome

/-- The applied object, if there is one, and then the rendered declaration, laid over the start. -/
def laid (start : Tree) (applied : Option Tree) (rendered : Tree) : Tree :=
  overlay .byName (patched .byName start applied) rendered

/-- The fields that adopting an object sets. -/
def forcedFields : List (List String) :=
  [["metadata", "name"], ["metadata", "namespace"], ["metadata", "ownerReferences"]]

/-- The object under the name of its target, with its owner. -/
def adopted (target : Target) (t : Tree) : Tree :=
  let t := t.put ["metadata", "name"] (.str target.name)
  let t := t.put ["metadata", "namespace"] (.str target.ns)
  t.put ["metadata", "ownerReferences"] (.arr [target.owner.blocking])

/-- Whether there is room for metadata: the object and its metadata are maps, or null. -/
def hasRoom (t : Tree) : Bool := t.isOpen && (t.child "metadata").isOpen

theorem openTo_metadata {k : String} : openTo ["metadata", k] t = hasRoom t := by
  simp [openTo, hasRoom]

theorem hasRoom_put {k : String} {v : Tree} : hasRoom (t.put ["metadata", k] v) = true := by
  rw [hasRoom, child_put, if_pos rfl, put_cons, put_cons]
  rfl

theorem mergeObject_eq_ok_iff : (mergeObject u t).outcome = .ok v ↔ v = overlay .byName t u := by
  rw [mergeObject, Reducer.mergeWith, Traced.outcome_ofExcept,
    show Strategy.named = Matching.byName.strategy from rfl, Strategy.merge_eq_overlay,
    Except.ok.injEq, eq_comm]

theorem leads_adopt :
    Pipeline.Leads (adopt target) t u ↔ hasRoom t = true ∧ u = adopted target t := by
  have hname : Tree.str target.name ≠ .null := by simp
  have hns : Tree.str target.ns ≠ .null := by simp
  have howner : Tree.arr [target.owner.blocking] ≠ .null := by simp
  simp only [adopt, Pipeline.Leads, Reducer.setNested_eq_ok_iff hname,
    Reducer.setNested_eq_ok_iff hns, Reducer.setNested_eq_ok_iff howner, openTo_metadata]
  constructor
  · rintro ⟨_, ⟨hroom, rfl⟩, _, ⟨-, rfl⟩, _, ⟨-, rfl⟩, rfl⟩
    exact ⟨hroom, rfl⟩
  · rintro ⟨hroom, rfl⟩
    exact ⟨_, ⟨hroom, rfl⟩, _, ⟨hasRoom_put, rfl⟩, _, ⟨hasRoom_put, rfl⟩, rfl⟩

/-- The original's stages lead to what is copied from it. -/
theorem leads_copied :
    Pipeline.Leads (match original with
      | some e => copyOriginal kind e
      | none => []) .null start ↔ copied kind original = .ok start := by
  cases original with
  | none => simp [Pipeline.Leads, copied]
  | some e =>
    rw [copied, Pipeline.reduce_eq_ok_iff]

theorem leads_applied :
    Pipeline.Leads (match applied with
      | some a => [mergeObject a]
      | none => []) start u ↔ u = patched .byName start applied := by
  cases applied with
  | none => exact eq_comm
  | some a =>
    simp only [Pipeline.Leads, mergeObject_eq_ok_iff, exists_eq_left, patched_some]
    exact eq_comm

/-- What the pipeline does, and where it fails. -/
theorem build_eq_ok_iff :
    build kind original applied rendered target = .ok built ↔
      ∃ start, copied kind original = .ok start ∧ hasRoom (laid start applied rendered) = true ∧
        built = whole (adopted target (laid start applied rendered)) := by
  rw [build, Pipeline.reduce_eq_ok_iff]
  change Pipeline.Leads ((match original with
      | some e => copyOriginal kind e
      | none => []) ++ (match applied with
      | some a => [mergeObject a]
      | none => []) ++ (mergeObject rendered :: adopt target) ++ [wholeNumbers]) .null built ↔ _
  simp only [Pipeline.leads_append, leads_copied, leads_applied, Pipeline.Leads,
    mergeObject_eq_ok_iff, leads_adopt, wholeNumbers_outcome, Except.ok.injEq]
  constructor
  · rintro ⟨_, ⟨_, ⟨start, hstart, rfl⟩, _, rfl, hroom, rfl⟩, _, rfl, rfl⟩
    exact ⟨start, hstart, hroom, rfl⟩
  · rintro ⟨start, hstart, hroom, rfl⟩
    exact ⟨_, ⟨_, ⟨start, hstart, rfl⟩, _, rfl, hroom, rfl⟩, _, rfl, rfl⟩

/-- An object with metadata makes room for metadata, whatever it is laid over. -/
theorem hasRoom_overlay {k : String} (ht : t.Ordered) (h : within ["metadata", k] t ≠ .null) :
    hasRoom (overlay .byName u t) = true := by
  have hmetadata : t.child "metadata" ≠ .null := by
    intro hnull
    rw [within_cons, hnull, within_null] at h
    exact h rfl
  rw [hasRoom, child_overlay_of_child ht hmetadata, isOpen_overlay_of_child hmetadata,
    isOpen_overlay_of_child h]
  rfl

/-- There is room for metadata unless the declaration takes it away. -/
theorem hasRoom_laid_iff (hbase : hasRoom (patched .byName start applied) = true)
    (hr : rendered.Ordered) (hmap : ∃ fs, rendered = .map fs) :
    hasRoom (laid start applied rendered) = true ↔
      ∀ v, rendered.get? "metadata" = some v → v.isOpen = true := by
  rw [hasRoom, Bool.and_eq_true] at hbase
  obtain ⟨fs, rfl⟩ := hmap
  have hopen : (Tree.map fs).isOpen = true := rfl
  rw [hasRoom, laid, isOpen_overlay hbase.1, hopen, Bool.true_and, child_overlay hr, get?_map]
  cases Entries.get? "metadata" fs with
  | none => simpa using hbase.2
  | some v => simp [isOpen_overlay hbase.2]

/-- Adopting an object touches three fields of its metadata. -/
theorem within_adopted (h : ∀ field ∈ forcedFields, ¬ field <+: path ∧ ¬ path <+: field) :
    within path (adopted target t) = within path t := by
  simp only [forcedFields, List.forall_mem_cons] at h
  obtain ⟨hname, hns, howner, -⟩ := h
  rw [adopted, within_put_of_disjoint howner.1 howner.2, within_put_of_disjoint hns.1 hns.2,
    within_put_of_disjoint hname.1 hname.2]

theorem name_adopted : within ["metadata", "name"] (adopted target t) = .str target.name := by
  rw [adopted, within_put_of_disjoint (by decide) (by decide),
    within_put_of_disjoint (by decide) (by decide), within_put]

theorem ns_adopted : within ["metadata", "namespace"] (adopted target t) = .str target.ns := by
  rw [adopted, within_put_of_disjoint (by decide) (by decide), within_put]

theorem owner_adopted :
    within ["metadata", "ownerReferences"] (adopted target t) = .arr [target.owner.blocking] := by
  rw [adopted, within_put]

end Patch

end PreviewEnv
