import PreviewEnv.Proofs.Apply.Copying
import PreviewEnv.Proofs.Apply.Precedence
import PreviewEnv.Proofs.Reduce.Masks

namespace PreviewEnv.Patch

open PreviewEnv.Tree Reducer

variable {kind : GroupVersionKind} {original applied : Option Tree}
  {e f start rendered built t u : Tree} {target : Target}

/-- Under these keys of a map as the mask says. -/
def under (keys : List String) (m : Mask) : Mask := .fields fun k => if k ∈ keys then m else .same

/-- In metadata what the cluster has assigned, and in its annotations those in which tools keep
their own books. -/
def metadataMask (assigned books : Mask) : Mask := .fields fun k =>
  if k ∈ assignedMetadata then assigned
  else if k = "annotations" then under bookkeepingAnnotations books
  else .same

/-- In the specification of a service its addresses, and the node port of each port. -/
def specMask (address addresses nodePort : Mask) : Mask := .fields fun k =>
  if k = "clusterIP" then address
  else if k = "clusterIPs" then addresses
  else if k = "ports" then .each (under ["nodePort"] nodePort)
  else .same

/-- In an object its status, its metadata and its specification. -/
def objectMask (status metadata spec : Mask) : Mask := .fields fun k =>
  if k = "status" then status
  else if k = "metadata" then metadata
  else if k = "spec" then spec
  else .same

/-- What is an original's own, as the mask says. -/
def ownMask (kind : GroupVersionKind) (m : Mask) : Mask :=
  objectMask m (metadataMask m m) (if kind.isService then specMask m m m else .same)

variable {m n a b c d : Mask}

theorem narrows_under {keys : List String} :
    (deleteKeys keys).Narrows (under keys m) (under keys n) := by
  apply filters_deleteKeys.narrows
  intro k hk
  have hnot : k ∉ keys := by simpa using hk
  simp only [hnot, ↓reduceIte]

theorem narrows_status :
    (deleteNested ["status"]).Narrows (objectMask a b c) (objectMask d b c) :=
  narrows_deleteNested fun k hk => by simp only [hk, ↓reduceIte]

theorem narrows_metadata :
    (reduceNested ["metadata"] (deleteKeys assignedMetadata)).Narrows
      (objectMask a (metadataMask b c) d) (objectMask a (metadataMask n c) d) := by
  apply narrows_reduceNested
  refine narrowsPath_cons ?_ (fun j hj => ?_) rfl
  · refine narrowsPath_nil (filters_deleteKeys.narrows fun k hk => ?_) rfl
      fun _ _ => Mask.isSome_of_fields
    have hnot : k ∉ assignedMetadata := by simpa using hk
    simp only [hnot, ↓reduceIte]
  · simp only [Ne.symm hj, ↓reduceIte]

theorem narrows_annotations :
    (reduceNested ["metadata", "annotations"] (deleteKeys bookkeepingAnnotations)).Narrows
      (objectMask a (metadataMask b c) d) (objectMask a (metadataMask b n) d) := by
  apply narrows_reduceNested
  refine narrowsPath_cons (narrowsPath_cons ?_ (fun j hj => ?_) rfl) (fun j hj => ?_) rfl
  · exact narrowsPath_nil narrows_under rfl fun _ _ => Mask.isSome_of_fields
  · simp only [Ne.symm hj, ↓reduceIte]
  · simp only [Ne.symm hj, ↓reduceIte]

theorem narrows_ports :
    (reduceNested ["spec", "ports"] (.whenPresent (.mapValue (.deleteKeys ["nodePort"])))).Narrows
      (objectMask a b (specMask c d m)) (objectMask a b (specMask c d n)) := by
  apply narrows_reduceNested
  refine narrowsPath_cons (narrowsPath_cons ?_ (fun j hj => ?_) rfl) (fun j hj => ?_) rfl
  · exact narrowsPath_nil (narrows_whenPresent (narrows_mapValue narrows_under)) rfl
      fun _ _ => Mask.isSome_of_each
  · simp only [Ne.symm hj, ↓reduceIte]
  · simp only [Ne.symm hj, ↓reduceIte]

theorem narrows_address :
    (deleteNested ["spec", "clusterIP"]).Narrows
      (objectMask a b (specMask c d m)) (objectMask a b (specMask n d m)) :=
  narrows_deleteNested_pair rfl rfl (fun j hj => by simp only [hj, ↓reduceIte])
    fun j hj => by simp only [Ne.symm hj, ↓reduceIte]

theorem narrows_addresses :
    (deleteNested ["spec", "clusterIPs"]).Narrows
      (objectMask a b (specMask c d m)) (objectMask a b (specMask c n m)) :=
  narrows_deleteNested_pair rfl rfl (fun j hj => by simp only [hj, ↓reduceIte])
    fun j hj => by simp only [Ne.symm hj, ↓reduceIte]

/-- Taking an original without what is its own takes what is its own from it. -/
theorem narrowing_copyOriginal :
    Pipeline.Narrowing (strips ++ if kind.isService then withoutAddresses else [])
      (ownMask kind .any) (ownMask kind .gone) := by
  cases hkind : kind.isService with
  | false =>
    simp only [ownMask, hkind, Bool.false_eq_true, ↓reduceIte, List.append_nil]
    exact .cons narrows_status (.cons narrows_metadata (.cons narrows_annotations .nil))
  | true =>
    simp only [ownMask, hkind, ↓reduceIte]
    exact .cons narrows_status (.cons narrows_metadata (.cons narrows_annotations
      (.cons narrows_address (.cons narrows_addresses (.cons narrows_ports .nil)))))

/-- What holds of a mask, and of masks made of such, holds of what is an original's own. -/
theorem ownMask_induction {P : Mask → Prop} (hsame : P .same)
    (hfields : ∀ f : String → Mask, (∀ k, P (f k)) → P (.fields f))
    (heach : ∀ n, P n → P (.each n)) (h : P m) : P (ownMask kind m) := by
  have hunder (keys : List String) : P (under keys m) := by
    refine hfields _ fun k => ?_
    split
    · exact h
    · exact hsame
  have hmetadata : P (metadataMask m m) := by
    refine hfields _ fun k => ?_
    split
    · exact h
    · split
      · exact hunder _
      · exact hsame
  have hspec : P (specMask m m m) := by
    refine hfields _ fun k => ?_
    split
    · exact h
    · split
      · exact h
      · split
        · exact heach _ (hunder _)
        · exact hsame
  refine hfields _ fun k => ?_
  split
  · exact h
  · split
    · exact hmetadata
    · split
      · split
        · exact hspec
        · exact hsame
      · exact hsame

theorem settled_ownMask : (ownMask kind .gone).Settled :=
  ownMask_induction trivial (fun _ h => h) (fun _ h => h) trivial

theorem open_ownMask : (ownMask kind .any).Open :=
  ownMask_induction trivial (fun _ h => h) (fun _ h => h) trivial

theorem copied_some :
    copied kind (some e) = (Pipeline.reduceFrom 1
      (strips ++ if kind.isService then withoutAddresses else []) e).outcome := by
  change (((mergeObject e) .null).locate (.atStage 0) >>= _).outcome = _
  rw [Traced.outcome_bind, Traced.outcome_locate, mergeObject_eq_ok_iff.2 overlay_null_left.symm]
  rfl

/-- What is copied from originals that differ in what is their own has none of it. -/
theorem agree_copied (h : (ownMask kind .any).Allows (some e) (some f)) :
    Agree (fun t u => (ownMask kind .gone).Allows (some t) (some u)) (copied kind (some e))
      (copied kind (some f)) := by
  rw [copied_some, copied_some]
  exact narrowing_copyOriginal.narrows _ _ h

/-- What is copied does not depend on what the cluster has assigned to the original. -/
theorem copied_congr (he : e.Ordered) (hf : f.Ordered)
    (h : (ownMask kind .any).Allows (some e) (some f)) :
    copied kind (some e) = copied kind (some f) := by
  have hagree := agree_copied h
  generalize hx : copied kind (some e) = x at hagree ⊢
  generalize hy : copied kind (some f) = y at hagree ⊢
  cases hagree with
  | error e => rfl
  | @ok t u htu =>
    have ht := ordered_of_copied (by simpa using he) hx
    have hu := ordered_of_copied (by simpa using hf) hy
    rw [Option.some.inj (settled_ownMask.eq htu (by simpa using ht) (by simpa using hu))]

/-- The stages after those that copy the original. -/
def laterStages (applied : Option Tree) (rendered : Tree) (target : Target) : List Reducer :=
  (match applied with
    | some a => [mergeObject a]
    | none => []) ++ (mergeObject rendered :: adopt target ++ [wholeNumbers])

theorem build_some :
    build kind (some e) applied rendered target =
      copied kind (some e) >>= fun t =>
        (Pipeline.reduceFrom (copyOriginal kind e).length
          (laterStages applied rendered target) t).outcome := by
  have hstages : (pipeline kind (some e) applied rendered target).stages =
      copyOriginal kind e ++ laterStages applied rendered target :=
    (List.append_assoc _ _ _).trans (List.append_assoc _ _ _)
  rw [build, Pipeline.reduce, hstages, Pipeline.outcome_reduceFrom_append, Nat.zero_add]
  rfl

/-- Of an original nothing matters but what is copied from it. -/
theorem build_congr (h : copied kind (some e) = copied kind (some f)) :
    build kind (some e) applied rendered target = build kind (some f) applied rendered target := by
  rw [build_some, build_some, h]
  rfl

/-- What an original's own is found at, but for the node ports of a service. -/
def ownPaths (kind : GroupVersionKind) : List (List String) :=
  ["status"] :: assignedMetadata.map (["metadata", ·]) ++
    bookkeepingAnnotations.map (["metadata", "annotations", ·]) ++
    if kind.isService then [["spec", "clusterIP"], ["spec", "clusterIPs"]] else []

theorem at?_ownMask : ∀ path ∈ ownPaths kind, (ownMask kind m).at? path = m := by
  simp only [ownPaths, List.cons_append, List.forall_mem_cons, List.forall_mem_append,
    List.forall_mem_map]
  refine ⟨rfl, ⟨fun k hk => if_pos hk, fun k hk => if_pos hk⟩, ?_⟩
  cases hkind : kind.isService with
  | false => simp
  | true =>
    simp only [↓reduceIte, List.forall_mem_cons, ownMask, hkind]
    exact ⟨rfl, rfl, by simp⟩

theorem unforced_ownPaths : ∀ path ∈ ownPaths kind, Unforced path ∧ path ≠ [] := by
  rw [ownPaths]
  cases kind.isService <;> decide

/-- Nothing of an original's own is copied. -/
theorem allows_of_copied (h : copied kind original = .ok start) :
    (ownMask kind .gone).Allows (some start) (some start) := by
  cases original with
  | none =>
    cases h
    exact rfl
  | some e =>
    have hagree := agree_copied (open_ownMask.allows (a := some e) : (ownMask kind .any).Allows _ _)
    rw [h] at hagree
    cases hagree with
    | ok h => exact h

theorem within_copied (h : copied kind original = .ok start) :
    ∀ path ∈ ownPaths kind, within path start = null := by
  intro path hpath
  have hgone := (allows_of_copied h).at? path
  rw [at?_ownMask path hpath] at hgone
  rw [within_eq_at?, show start.at? path = none from hgone.1, Option.getD_none]

theorem nodePort_copied (h : copied kind original = .ok start) (hkind : kind.isService = true) :
    ∀ t ∈ (within ["spec", "ports"] start).elements, t.get? "nodePort" = none := by
  have hports : (Mask.each (under ["nodePort"] .gone)).Allows (start.at? ["spec", "ports"])
      (start.at? ["spec", "ports"]) := by
    have hown := allows_of_copied h
    rw [ownMask, hkind] at hown
    exact hown.at? ["spec", "ports"]
  have hbare {t u : Tree} (htu : (under ["nodePort"] .gone).Allows (some t) (some u)) :
      u.get? "nodePort" = none := by
    have hgone := (htu.at? ["nodePort"]).2
    simpa [at?] using hgone
  rw [within_eq_at?]
  rcases Mask.allows_each.1 hports with ⟨ts, us, -, hus, hall⟩ | ⟨es, fs, -, hfs, hall⟩ |
    ⟨-, harr, hmap⟩
  · rw [hus]
    intro t ht
    obtain ⟨u, -, hu⟩ := exists_of_forall₂ hall t ht
    exact hbare hu
  · rw [hfs]
    intro t ht
    obtain ⟨e, he, rfl⟩ := List.mem_map.1 ht
    obtain ⟨g, -, -, hg⟩ := exists_of_forall₂ hall e he
    exact hbare hg
  · cases hat : start.at? ["spec", "ports"] with
    | none => simp [elements]
    | some t =>
      rw [hat] at harr hmap
      cases t with
      | arr ts => exact absurd rfl (harr ts)
      | map es => exact absurd rfl (hmap es)
      | _ => simp [elements]

theorem elements_whole : (whole t).elements = t.elements.map whole := by
  cases t with
  | arr ts => rw [whole, elements, elements, wholeItems_eq_map]
  | map es =>
    rw [whole, elements, elements, wholeEntries_eq_map, List.map_map, List.map_map]
    rfl
  | float x =>
    have hscalar := isScalar_wholeNumber (t := float x) rfl
    rw [whole_scalar rfl]
    cases hx : (float x).wholeNumber <;> simp_all [isScalar, elements]
  | _ => rfl

/-- What is true of the ports of the original that are copied and of those of the declaration is
true of those that are built. -/
theorem forall_ports_built {P : Tree → Prop} (hnull : P null)
    (hover : ∀ b p, p.Ordered → P b → P p → P (overlay .byName b p))
    (hwhole : ∀ t, P t → P (whole t)) (hstart : start.Ordered) (hrendered : rendered.Ordered)
    (hcopied : ∀ t ∈ (within ["spec", "ports"] start).elements, P t)
    (hdeclared : ∀ t ∈ (within ["spec", "ports"] rendered).elements, P t) :
    ∀ t ∈ (within ["spec", "ports"] (whole (adopted target
      (overlay .byName start rendered)))).elements, P t := by
  have hlaid : ∀ t ∈ (within ["spec", "ports"] (overlay .byName start rendered)).elements, P t := by
    rcases within_overlay_cases (m := .byName) (b := start) ["spec", "ports"] hrendered with
      ⟨hbase, -⟩ | hboth | hpatch
    · rwa [hbase]
    · rw [hboth]
      exact forall_elements_overlay hnull hover (hstart.within _) (hrendered.within _) hcopied
        hdeclared
    · rwa [hpatch]
  rw [within_built rfl (by decide) (by simp), elements_whole, List.forall_mem_map]
  exact fun t ht => hwhole t (hlaid t ht)

/-- What is an original's own stays behind. Originals that differ in nothing else make no
difference: the same object is built, or building it fails in the same way. Where no pass has
applied the object, what is found in such a place of it has been declared, and the ports of a
service have node ports only if some of them has been declared with one. -/
theorem own_stays_behind (kind : GroupVersionKind) (rendered : Tree) (target : Target) :
    (∀ e f applied, e.Ordered → f.Ordered → (ownMask kind .any).Allows (some e) (some f) →
      build kind (some e) applied rendered target = build kind (some f) applied rendered target) ∧
    ∀ original built, (∀ e ∈ original, e.Ordered) → rendered.Ordered →
      build kind original none rendered target = .ok built →
      (∀ path ∈ ownPaths kind, within path built ≠ null ↔ within path rendered ≠ null) ∧
      (kind.isService = true →
        ((∀ t ∈ (within ["spec", "ports"] rendered).elements, t.get? "nodePort" = none) →
          ∀ t ∈ (within ["spec", "ports"] built).elements, t.get? "nodePort" = none) ∧
        ((∀ t ∈ (within ["spec", "ports"] rendered).elements, t.child "nodePort" = null) →
          ∀ t ∈ (within ["spec", "ports"] built).elements, t.child "nodePort" = null)) := by
  refine ⟨fun e f applied he hf h => build_congr (copied_congr he hf h), ?_⟩
  intro original built horiginal hrendered hbuilt
  obtain ⟨start, hstart, -, rfl⟩ := build_eq_ok_iff.1 hbuilt
  have hordered := ordered_of_copied horiginal hstart
  rw [laid, patched_none]
  refine ⟨fun path hpath => ?_, fun hkind => ?_⟩
  · obtain ⟨hunforced, hne⟩ := unforced_ownPaths path hpath
    rw [within_built rfl hunforced hne,
      within_overlay_of_null hrendered (within_copied hstart path hpath), ne_eq, whole_eq_null]
  · have hnone := nodePort_copied hstart hkind
    constructor
    · refine forall_ports_built rfl (fun b p hp => get?_overlay_eq_none hp) (fun t ht => ?_)
        hordered hrendered hnone
      rw [get?_whole, ht, Option.map_none]
    · refine forall_ports_built rfl (fun b p hp hb h => ?_) (fun t ht => ?_) hordered hrendered
        fun t ht => by rw [child, hnone t ht, Option.getD_none]
      · have hwithin : within ["nodePort"] (overlay .byName b p) = within ["nodePort"] p :=
          within_overlay_of_null hp hb
        exact hwithin.trans h
      · rw [child_whole, ht, whole_null]

def serviceKind : GroupVersionKind := ⟨"", "v1", "Service"⟩

/-- A service with the given entries next to its name, its annotation and its port. -/
def frontService (annotations metadata spec port : List (String × Tree)) : Tree := .map [
  ("apiVersion", .str "v1"),
  ("kind", .str "Service"),
  ("metadata", .map ([
    ("annotations", .map (annotations ++ [("team", .str "web")])),
    ("name", .str "front")] ++ metadata)),
  ("spec", .map (spec ++ [("ports", .arr [.map ([("name", .str "http")] ++ port ++
    [("port", .int 80)])])]))]

def clusterService : Tree := frontService
  [("kubectl.kubernetes.io/last-applied-configuration", .str "\x7b\x7d")]
  [("resourceVersion", .str "77"), ("uid", .str "u-7")]
  [("clusterIP", .str "10.0.0.12")] [("nodePort", .int 30080)]

def plainService : Tree := frontService [] [] [] []

def declaredService : Tree := .map [
  ("apiVersion", .str "v1"),
  ("kind", .str "Service"),
  ("metadata", .map [("name", .str "front")]),
  ("spec", .map [("ports", .arr [.map [("name", .str "http"), ("targetPort", .int 8080)]])])]

def builtService : Tree := .map [
  ("apiVersion", .str "v1"),
  ("kind", .str "Service"),
  ("metadata", .map [
    ("annotations", .map [("team", .str "web")]),
    ("name", .str "pr-1"),
    ("namespace", .str "review"),
    ("ownerReferences", .arr [reviewTarget.owner.blocking])]),
  ("spec", .map [("ports", .arr [.map [
    ("name", .str "http"), ("port", .int 80), ("targetPort", .int 8080)]])])]

/-- They differ in what is the service's own. -/
theorem allows_services :
    (ownMask serviceKind .any).Allows (some clusterService) (some plainService) := by
  have hannotations : (under bookkeepingAnnotations .any).Allows
      (clusterService.at? ["metadata", "annotations"])
      (plainService.at? ["metadata", "annotations"]) := by
    apply Mask.allows_of_keys
    simp only [List.map_cons, List.map_nil, List.cons_append, List.nil_append,
      List.forall_mem_cons]
    exact ⟨trivial, rfl, rfl, by simp⟩
  have hmetadata : (metadataMask .any .any).Allows (clusterService.get? "metadata")
      (plainService.get? "metadata") := by
    apply Mask.allows_of_keys
    simp only [List.map_cons, List.map_nil, List.cons_append, List.nil_append,
      List.forall_mem_cons]
    exact ⟨hannotations, rfl, trivial, trivial, hannotations, rfl, by simp⟩
  have hport : (under ["nodePort"] .any).Allows
      (some (.map [("name", .str "http"), ("nodePort", .int 30080), ("port", .int 80)]))
      (some (.map [("name", .str "http"), ("port", .int 80)])) := by
    apply Mask.allows_of_keys
    simp only [List.map_cons, List.map_nil, List.cons_append, List.nil_append,
      List.forall_mem_cons]
    exact ⟨rfl, trivial, rfl, rfl, rfl, by simp⟩
  have hspec : (specMask .any .any .any).Allows (clusterService.get? "spec")
      (plainService.get? "spec") := by
    have hports : (Mask.each (under ["nodePort"] .any)).Allows
        (clusterService.at? ["spec", "ports"]) (plainService.at? ["spec", "ports"]) :=
      .cons hport .nil
    apply Mask.allows_of_keys
    simp only [List.map_cons, List.map_nil, List.cons_append, List.nil_append,
      List.forall_mem_cons]
    exact ⟨trivial, hports, hports, by simp⟩
  apply Mask.allows_of_keys
  simp only [List.map_cons, List.map_nil, List.cons_append, List.nil_append, List.forall_mem_cons]
  exact ⟨rfl, rfl, hmetadata, hspec, rfl, rfl, hmetadata, hspec, by simp⟩

theorem own_stays_behind_service :
    build serviceKind (some clusterService) none declaredService reviewTarget = .ok builtService ∧
      build serviceKind (some plainService) none declaredService reviewTarget = .ok builtService ∧
      within ["spec", "clusterIP"] builtService = null ∧
      ∀ t ∈ (within ["spec", "ports"] builtService).elements, t.get? "nodePort" = none := by
  have hbuilt : build serviceKind (some clusterService) none declaredService reviewTarget =
      .ok builtService := by decide +kernel
  obtain ⟨hsame, hdeclared⟩ := own_stays_behind serviceKind declaredService reviewTarget
  obtain ⟨hpaths, hports⟩ := hdeclared (some clusterService) builtService
    (fun e he => by cases he; decide) (by decide) hbuilt
  refine ⟨hbuilt, ?_, ?_, (hports rfl).1 (by decide)⟩
  · rw [← hsame clusterService plainService none (by decide) (by decide) allows_services]
    exact hbuilt
  · by_contra h
    exact (hpaths ["spec", "clusterIP"] (by decide)).1 h (by decide)

end PreviewEnv.Patch
