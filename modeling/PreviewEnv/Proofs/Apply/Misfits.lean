import PreviewEnv.Proofs.Apply.Assigned
import PreviewEnv.Proofs.Apply.Locality
import PreviewEnv.Proofs.Apply.SecondPass
import PreviewEnv.Proofs.Reduce.Updates

/-!
# Where an object cannot be built

The steps that build an object are strict in three places only: the metadata of
the declaration, and the specification and the ports of a service that is its
original. Everything else may have any shape. Main results:

* `ClusterStep.placed_run`: objects are kept where they belong, so an original
  has a name and with it metadata;
* `copied_cases`: an original is copied, unless it is a service of a strange
  shape;
* `build_cases`: over it an object is built, unless the declaration has something
  else but a map for its metadata;
* `apply_misfit_iff`: where no call fails, a declaration that renders is applied
  unless one of the three is in the way, and the error says which.
-/

namespace PreviewEnv

open PreviewEnv.Tree Reducer Patch

namespace Pipeline

variable {r : Reducer} {rs ss : List Reducer} {t u : Tree} {n : Nat} {e root : ReduceError}

theorem reduceFrom_of_leads (h : Leads rs t u) :
    (reduceFrom n (rs ++ ss) t).outcome = (reduceFrom (n + rs.length) ss u).outcome := by
  rw [outcome_reduceFrom_append, reduceFrom_eq_ok_iff.2 h]
  rfl

theorem reduceFrom_cons_of_error (h : (r t).outcome = .error e) :
    (reduceFrom n (r :: rs) t).outcome = .error (.atStage n e) := by
  rw [reduceFrom, Traced.outcome_bind, Traced.outcome_locate, h]
  rfl

/-- All errors of the reducer have one root. -/
def FailsWith (root : ReduceError) (r : Reducer) : Prop :=
  ∀ t e, (r t).outcome = .error e → e.root = root

theorem failsWith_reduceFrom (h : ∀ r ∈ rs, FailsWith root r) :
    FailsWith root (reduceFrom n rs) := by
  induction rs generalizing n with
  | nil =>
    intro t e he
    cases he
  | cons r rs ih =>
    rw [List.forall_mem_cons] at h
    intro t e he
    cases hr : (r t).outcome with
    | error d =>
      rw [reduceFrom_cons_of_error hr] at he
      cases he
      exact h.1 t d hr
    | ok u =>
      have hleads : Leads [r] t u := ⟨u, hr, rfl⟩
      exact ih h.2 u e ((reduceFrom_of_leads (n := n) hleads).symm.trans he)

end Pipeline

namespace Reducer

variable {r : Reducer} {t u : Tree} {j k : String} {ks : List String} {i : Nat}

theorem failsWith_setNested {v : Tree} (hks : ks ≠ []) :
    Pipeline.FailsWith .notMap (setNested ks v) := by
  intro t e he
  rw [setNested_eq hks] at he
  split at he
  · cases he
  · cases he
    rfl

/-- A reducer under keys leaves alone what is under other keys. -/
theorem child_of_reduceNested (h : (reduceNested (k :: ks) r t).outcome = .ok u) (hjk : k ≠ j) :
    u.child j = t.child j := by
  obtain ⟨output, houtput, rfl⟩ := reduceNested_eq_ok_iff.1 h
  obtain ⟨-, inner, -, rfl⟩ := reducePath_cons_eq_ok_iff.1 houtput
  rw [child, get?_replaced, if_neg hjk]
  rfl

theorem exists_mapItems (hr : ∀ t, ∃ u, (r t).outcome = .ok u) (ts : List Tree) :
    ∃ us, (mapItems r i ts).outcome = .ok us := by
  induction ts generalizing i with
  | nil => exact ⟨[], rfl⟩
  | cons t ts ih =>
    obtain ⟨u, hu⟩ := hr t
    obtain ⟨us, hus⟩ := ih (i := i + 1)
    exact ⟨u :: us, Traced.bind_eq_ok_iff.2
      ⟨u, Traced.locate_eq_ok_iff.2 hu, Traced.bind_eq_ok_iff.2 ⟨us, hus, rfl⟩⟩⟩

theorem exists_mapEntries (hr : ∀ t, ∃ u, (r t).outcome = .ok u) (es : List (String × Tree)) :
    ∃ fs, (mapEntries r es).outcome = .ok fs := by
  induction es with
  | nil => exact ⟨[], rfl⟩
  | cons e es ih =>
    obtain ⟨k, t⟩ := e
    obtain ⟨u, hu⟩ := hr t
    obtain ⟨fs, hfs⟩ := ih
    exact ⟨(k, u) :: fs, Traced.bind_eq_ok_iff.2
      ⟨u, Traced.locate_eq_ok_iff.2 hu, Traced.bind_eq_ok_iff.2 ⟨fs, hfs, rfl⟩⟩⟩

/-- Where all elements can be reduced, an array or a map can. -/
theorem exists_mapValue (hr : ∀ t, ∃ u, (r t).outcome = .ok u)
    (ht : (∃ ts, t = .arr ts) ∨ ∃ es, t = .map es) : ∃ u, (mapValue r t).outcome = .ok u := by
  rcases ht with ⟨ts, rfl⟩ | ⟨es, rfl⟩
  · obtain ⟨us, hus⟩ := exists_mapItems (i := 0) hr ts
    exact ⟨.arr us, by rw [mapValue, Traced.outcome_map, hus]; rfl⟩
  · obtain ⟨fs, hfs⟩ := exists_mapEntries hr es
    exact ⟨.map fs, by rw [mapValue, Traced.outcome_map, hfs]; rfl⟩

end Reducer

namespace Patch

variable {kind : GroupVersionKind} {original applied : Option Tree}
  {e start rendered t u : Tree} {target : Target} {k : String} {n : Nat} {root : ReduceError}

/-- What can have no elements at all: it is neither nothing nor an array nor a map. -/
def isSolid : Tree → Bool
  | .null | .arr _ | .map _ => false
  | _ => true

theorem whenPresent_ports (h : isSolid t = false) :
    ∃ u, (whenPresent (mapValue (deleteKeys ["nodePort"])) t).outcome = .ok u := by
  cases t with
  | null => exact ⟨_, rfl⟩
  | arr ts => exact exists_mapValue (exists_deleteKeys _) (.inl ⟨ts, rfl⟩)
  | map es => exact exists_mapValue (exists_deleteKeys _) (.inr ⟨es, rfl⟩)
  | _ => cases h

theorem whenPresent_solid (h : isSolid t = true) :
    whenPresent (mapValue (deleteKeys ["nodePort"])) t = .fail .notArrayOrMap := by
  cases t with
  | null | arr | map => cases h
  | _ => rfl

theorem child_without {j : String} (h : j ≠ k) : (t.without k).child j = t.child j := by
  rw [child, ← part?_key, part?_without (by simpa using h), part?_key]
  rfl

/-- An address of a service is taken out of its specification, if that is a map. -/
theorem leads_deleteAddress (hk : "ports" ≠ k) (hopen : openTo ["spec", "ports"] t = true) :
    ∃ u, (deleteNested ["spec", k] t).outcome = .ok u ∧ openTo ["spec", "ports"] u = true ∧
      within ["spec", "ports"] u = within ["spec", "ports"] t ∧
      u.child "metadata" = t.child "metadata" := by
  have hrun : deleteNested (["spec"] ++ [k]) t =
      pure (updated ["spec"] ((within ["spec"] t).without k) t) :=
    (deleteNested_concat (by simp)).trans (if_pos hopen)
  have hok : (deleteNested ["spec", k] t).outcome =
      .ok (updated ["spec"] ((within ["spec"] t).without k) t) := congrArg Traced.outcome hrun
  refine ⟨_, hok, (prunes_deleteNested _ _ hok).openTo hopen, ?_, ?_⟩
  · have hports (u : Tree) : within ["spec", "ports"] u = (within ["spec"] u).child "ports" := rfl
    rw [hports, within_updated, child_without hk, hports]
  · exact child_of_reduceNested hok (by decide)

theorem withoutAddresses_of_spec (h : (t.child "spec").isOpen = false) :
    (Pipeline.reduceFrom n withoutAddresses t).outcome =
      .error (.atStage n (.atPath ["spec"] .notMap)) := by
  refine Pipeline.reduceFrom_cons_of_error ?_
  have hrun : deleteNested (["spec"] ++ ["clusterIP"]) t = .fail (.atPath ["spec"] .notMap) :=
    (deleteNested_concat (by simp)).trans (if_neg (by simp [openTo, h]))
  exact congrArg Traced.outcome hrun

/-- The addresses are gone, and the ports are still to be looked at. -/
theorem leads_addresses (hopen : openTo ["spec", "ports"] t = true) :
    ∃ u, Pipeline.Leads [.deleteNested ["spec", "clusterIP"], .deleteNested ["spec", "clusterIPs"]]
        t u ∧ openTo ["spec", "ports"] u = true ∧
      within ["spec", "ports"] u = within ["spec", "ports"] t ∧
      u.child "metadata" = t.child "metadata" := by
  obtain ⟨v, hv, hvopen, hvports, hvmetadata⟩ :=
    leads_deleteAddress (k := "clusterIP") (by decide) hopen
  obtain ⟨u, hu, huopen, huports, humetadata⟩ :=
    leads_deleteAddress (k := "clusterIPs") (by decide) hvopen
  exact ⟨u, ⟨v, hv, u, hu, rfl⟩, huopen, huports.trans hvports, humetadata.trans hvmetadata⟩

theorem withoutAddresses_of_ports (hopen : openTo ["spec", "ports"] t = true)
    (h : isSolid (within ["spec", "ports"] t) = true) :
    (Pipeline.reduceFrom n withoutAddresses t).outcome =
      .error (.atStage (n + 2) (.atPath ["spec", "ports"] .notArrayOrMap)) := by
  obtain ⟨u, hleads, huopen, hports, -⟩ := leads_addresses hopen
  rw [← hports] at h
  refine (Pipeline.reduceFrom_of_leads hleads).trans (Pipeline.reduceFrom_cons_of_error ?_)
  rw [reduceNested_eq (by simp), if_pos huopen, whenPresent_solid h]
  rfl

theorem exists_withoutAddresses (hroom : hasRoom t = true)
    (hopen : openTo ["spec", "ports"] t = true)
    (h : isSolid (within ["spec", "ports"] t) = false) :
    ∃ u, (Pipeline.reduceFrom n withoutAddresses t).outcome = .ok u ∧ hasRoom u = true := by
  obtain ⟨v, hleads, hvopen, hports, hmetadata⟩ := leads_addresses hopen
  rw [← hports] at h
  obtain ⟨w, hw⟩ := whenPresent_ports h
  have hstage : (reduceNested ["spec", "ports"]
      (whenPresent (mapValue (deleteKeys ["nodePort"]))) v).outcome =
        .ok (updated ["spec", "ports"] w v) := by
    rw [reduceNested_eq (by simp), if_pos hvopen, Traced.bind_eq_ok_iff]
    exact ⟨w, Traced.locate_eq_ok_iff.2 hw, rfl⟩
  have hrest : Pipeline.Leads [reduceNested ["spec", "ports"]
      (whenPresent (mapValue (deleteKeys ["nodePort"])))] v (updated ["spec", "ports"] w v) :=
    ⟨_, hstage, rfl⟩
  refine ⟨_, Pipeline.reduceFrom_eq_ok_iff.2 (Pipeline.leads_append.2 ⟨v, hleads, hrest⟩), ?_⟩
  have hkept := child_of_reduceNested (j := "metadata") hstage (by decide)
  have huopen : openTo ["spec", "ports"] (updated ["spec", "ports"] w v) = true := openTo_updated
  rw [openTo, Bool.and_eq_true] at huopen
  rw [hasRoom, Bool.and_eq_true] at hroom ⊢
  rw [hkept, hmetadata]
  exact ⟨huopen.1, hroom.2⟩

/-- Whether the original is a service whose addresses cannot be taken away, and the root of the
error. -/
inductive Stuck (kind : GroupVersionKind) (e : Tree) : ReduceError → Prop
  | spec {spec : Tree} (hkind : kind.isService = true) (h : e.at? ["spec"] = some spec)
      (hspec : spec.isOpen = false) : Stuck kind e .notMap
  | ports {ports : Tree} (hkind : kind.isService = true) (h : e.at? ["spec", "ports"] = some ports)
      (hports : isSolid ports = true) : Stuck kind e .notArrayOrMap

/-- A value that no null is like is at the end of a path exactly when `within` gives one. -/
theorem exists_at?_iff {p : Tree → Bool} (ks : List String) (hnull : p null = false) :
    (∃ v, t.at? ks = some v ∧ p v = true) ↔ p (within ks t) = true := by
  constructor
  · rintro ⟨v, hv, hp⟩
    rwa [within_of_at? hv]
  · intro hp
    refine ⟨_, (at?_eq_some_iff fun h => ?_).2 rfl, hp⟩
    rw [h, hnull] at hp
    cases hp

theorem stuck_iff (hkind : kind.isService = true) :
    Stuck kind e root ↔ (e.child "spec").isOpen = false ∧ .notMap = root ∨
      isSolid (within ["spec", "ports"] e) = true ∧ .notArrayOrMap = root := by
  have hspec : (∃ v, e.at? ["spec"] = some v ∧ v.isOpen = false) ↔
      (e.child "spec").isOpen = false := by
    simpa using exists_at?_iff (t := e) (p := fun v => !v.isOpen) ["spec"] rfl
  have hports := exists_at?_iff (t := e) (p := isSolid) ["spec", "ports"] rfl
  constructor
  · rintro (⟨-, h, hopen⟩ | ⟨-, h, hsolid⟩)
    · exact .inl ⟨hspec.1 ⟨_, h, hopen⟩, rfl⟩
    · exact .inr ⟨hports.1 ⟨_, h, hsolid⟩, rfl⟩
  · rintro (⟨hopen, rfl⟩ | ⟨hsolid, rfl⟩)
    · obtain ⟨v, h, hv⟩ := hspec.2 hopen
      exact .spec hkind h hv
    · obtain ⟨v, h, hv⟩ := hports.2 hsolid
      exact .ports hkind h hv

theorem hasRoom_of_pruned (h : Pruned u t) (ht : hasRoom t = true) : hasRoom u = true := by
  rw [← openTo_metadata (k := "name")] at ht ⊢
  exact h.openTo ht

/-- What is taken from any original is not in the specification. -/
theorem child_spec_of_strips (h : Pipeline.Leads strips e u) :
    u.child "spec" = e.child "spec" := by
  obtain ⟨t, ht, v, hv, w, hw, rfl⟩ := h
  have hstatus : t.child "spec" = e.child "spec" := by
    rw [deleteNested_single] at ht
    split at ht
    · cases ht
      exact child_without (by decide)
    · cases ht
  rw [child_of_reduceNested hw (by decide), child_of_reduceNested hv (by decide), hstatus]

/-- Of a service, the addresses are taken last. -/
theorem copied_of_service (hkind : kind.isService = true) (h : Pipeline.Leads strips e u) :
    copied kind (some e) = (Pipeline.reduceFrom 4 withoutAddresses u).outcome := by
  have hleads : Pipeline.Leads (mergeObject e :: strips) null u :=
    ⟨e, mergeObject_eq_ok_iff.2 overlay_null_left.symm, h⟩
  rw [copied, copyOriginal, if_pos hkind]
  exact Pipeline.reduceFrom_of_leads hleads

theorem HasMetadata.hasRoom (h : HasMetadata t) : hasRoom t = true := by
  obtain ⟨⟨es, rfl⟩, ms, hms⟩ := h
  rw [Patch.hasRoom, hms]
  rfl

/-- An original with metadata is copied unless it is stuck. -/
theorem copied_cases (kind : GroupVersionKind) (he : HasMetadata e) :
    (∃ start, copied kind (some e) = .ok start ∧ hasRoom start = true ∧
      ∀ root, ¬ Stuck kind e root) ∨
    ∃ error, copied kind (some e) = .error error ∧
      ∀ root, Stuck kind e root ↔ error.root = root := by
  obtain ⟨u, hleads⟩ := exists_strips he.1 he.hasRoom
  have huroom := hasRoom_of_pruned (Pipeline.pruned_of_leads prunes_strips hleads) he.hasRoom
  cases hkind : kind.isService with
  | false =>
    refine .inl ⟨u, (copied_eq_ok_iff hkind).2 hleads, huroom, fun root h => ?_⟩
    cases h <;> simp_all
  | true =>
    simp only [copied_of_service hkind hleads, stuck_iff hkind, within_cons,
      ← child_spec_of_strips hleads]
    have huopen : u.isOpen = true := (Bool.and_eq_true _ _ ▸ huroom).1
    cases hspec : (u.child "spec").isOpen with
    | false =>
      have hnull : (u.child "spec").child "ports" = null := child_of_not_map fun es h => by
        rw [h] at hspec
        cases hspec
      refine .inr ⟨_, withoutAddresses_of_spec hspec, fun root => ?_⟩
      simp [hnull, isSolid, ReduceError.root]
    | true =>
      have hopen : openTo ["spec", "ports"] u = true := by simp [openTo, huopen, hspec]
      cases hports : isSolid (within ["spec", "ports"] u) with
      | true =>
        refine .inr ⟨_, withoutAddresses_of_ports hopen hports, fun root => ?_⟩
        rw [within_cons, within_cons, within_nil] at hports
        simp [hports, ReduceError.root]
      | false =>
        obtain ⟨start, hstart, hroom⟩ := exists_withoutAddresses huroom hopen hports
        refine .inl ⟨start, hstart, hroom, fun root => ?_⟩
        rw [within_cons, within_cons, within_nil] at hports
        simp [hports]

theorem mergeObject_outcome : (mergeObject u t).outcome = .ok (overlay .byName t u) :=
  mergeObject_eq_ok_iff.2 rfl

/-- The stages after those that copy the original object to the metadata only. -/
theorem failsWith_laterStages : ∀ r ∈ laterStages applied rendered target,
    Pipeline.FailsWith .notMap r := by
  have hmerge (u : Tree) : Pipeline.FailsWith .notMap (mergeObject u) := by
    intro t e he
    rw [mergeObject_outcome] at he
    cases he
  have hwhole : Pipeline.FailsWith .notMap wholeNumbers := by
    intro t e he
    rw [wholeNumbers_outcome] at he
    cases he
  simp only [laterStages, adopt, List.forall_mem_append, List.forall_mem_cons]
  refine ⟨?_, ⟨hmerge _, failsWith_setNested (by simp), failsWith_setNested (by simp),
    failsWith_setNested (by simp), by simp⟩, hwhole, by simp⟩
  cases applied with
  | none => simp
  | some a => simpa using hmerge a

/-- Once the original has been copied only the metadata can be in the way. -/
theorem root_of_build_error {error : ReduceError} (hstart : copied kind original = .ok start)
    (h : build kind original applied rendered target = .error error) : error.root = .notMap := by
  cases original with
  | some e =>
    rw [build_some, hstart] at h
    exact Pipeline.failsWith_reduceFrom failsWith_laterStages _ _ h
  | none =>
    have hstages : (pipeline kind none applied rendered target).stages =
        laterStages applied rendered target := List.append_assoc _ _ _
    rw [build, Pipeline.reduce, hstages] at h
    exact Pipeline.failsWith_reduceFrom failsWith_laterStages _ _ h

/-- What keeps an object from being built, and the root of the error: the declaration has something
else but a map for its metadata, or the original is stuck. -/
inductive Misfit (kind : GroupVersionKind) (original : Option Tree) (rendered : Tree) :
    ReduceError → Prop
  | metadata {v : Tree} (h : rendered.at? ["metadata"] = some v) (hv : v.isOpen = false) :
      Misfit kind original rendered .notMap
  | original {e : Tree} {root : ReduceError} (he : original = some e) (h : Stuck kind e root) :
      Misfit kind original rendered root

theorem at?_metadata {v : Tree} : t.at? ["metadata"] = some v ↔ t.get? "metadata" = some v := by
  rw [at?]
  cases t.get? "metadata" <;> rfl

/-- Over what has been copied an object is built unless the metadata does not fit. -/
theorem build_cases_of_copied (target : Target) (hstart : copied kind original = .ok start)
    (hroom : hasRoom start = true)
    (happlied : ∀ a ∈ applied, a.Ordered ∧ ∃ k, within ["metadata", k] a ≠ null)
    (hr : rendered.Ordered) (hmap : ∃ fs, rendered = map fs) :
    (∃ built, build kind original applied rendered target = .ok built ∧
      ∀ v, rendered.at? ["metadata"] = some v → v.isOpen = true) ∨
    ∃ error v, build kind original applied rendered target = .error error ∧ error.root = .notMap ∧
      rendered.at? ["metadata"] = some v ∧ v.isOpen = false := by
  have hbase : hasRoom (patched .byName start applied) = true := by
    cases applied with
    | none => exact hroom
    | some a =>
      obtain ⟨ha, k, hk⟩ := happlied a rfl
      exact hasRoom_overlay ha hk
  have hlaid := hasRoom_laid_iff hbase hr hmap
  simp only [← at?_metadata] at hlaid
  cases hbuild : build kind original applied rendered target with
  | ok built =>
    obtain ⟨_, hcopied, hbuilt, -⟩ := build_eq_ok_iff.1 hbuild
    cases hstart.symm.trans hcopied
    exact .inl ⟨built, rfl, hlaid.1 hbuilt⟩
  | error error =>
    refine .inr ⟨error, ?_⟩
    have hfull : ¬ hasRoom (laid start applied rendered) = true := fun hbuilt => by
      cases hbuild.symm.trans (build_eq_ok_iff.2 ⟨start, hstart, hbuilt, rfl⟩)
    rw [hlaid] at hfull
    push Not at hfull
    obtain ⟨v, hv, hopen⟩ := hfull
    exact ⟨v, rfl, root_of_build_error hstart hbuild, hv, by simpa using hopen⟩

/-- An object is built unless there is a misfit, and an error is that of the misfit. -/
theorem build_cases (target : Target)
    (horiginal : ∀ e ∈ original, HasMetadata e ∧ HasMetadata rendered)
    (happlied : ∀ a ∈ applied, a.Ordered ∧ ∃ k, within ["metadata", k] a ≠ null)
    (hr : rendered.Ordered) (hmap : ∃ fs, rendered = map fs) :
    (∃ built, build kind original applied rendered target = .ok built ∧
      ∀ root, ¬ Misfit kind original rendered root) ∨
    ∃ error, build kind original applied rendered target = .error error ∧
      ∀ root, Misfit kind original rendered root ↔ error.root = root := by
  have hfits (start : Tree) (hstart : copied kind original = .ok start)
      (hroom : hasRoom start = true) (hfree : ∀ e ∈ original, ∀ root, ¬ Stuck kind e root) :
      (∃ built, build kind original applied rendered target = .ok built ∧
        ∀ root, ¬ Misfit kind original rendered root) ∨
      ∃ error, build kind original applied rendered target = .error error ∧
        ∀ root, Misfit kind original rendered root ↔ error.root = root := by
    rcases build_cases_of_copied target hstart hroom happlied hr hmap with
      ⟨built, hbuilt, hopen⟩ | ⟨error, v, herror, hroot, hv, hclosed⟩
    · refine .inl ⟨built, hbuilt, ?_⟩
      rintro root (⟨hv, hclosed⟩ | ⟨rfl, h⟩)
      · rw [hopen _ hv] at hclosed
        cases hclosed
      · exact hfree _ rfl root h
    · refine .inr ⟨error, herror, fun root => ⟨?_, ?_⟩⟩
      · rintro (- | ⟨rfl, h⟩)
        · exact hroot
        · exact absurd h (hfree _ rfl root)
      · rintro rfl
        rw [hroot]
        exact .metadata hv hclosed
  cases original with
  | none => exact hfits null rfl rfl (by simp)
  | some e =>
    obtain ⟨he, -, ms, hms⟩ := horiginal e rfl
    rcases copied_cases kind he with ⟨start, hstart, hroom, hfree⟩ | ⟨error, herror, hstuck⟩
    · exact hfits start hstart hroom (by simpa using hfree)
    · refine .inr ⟨error, by rw [build_some, herror]; rfl, fun root => ⟨?_, fun h => ?_⟩⟩
      · rintro (⟨hv, hclosed⟩ | ⟨⟨⟩, h⟩)
        · rw [child, at?_metadata.1 hv] at hms
          cases hms
          cases hclosed
        · exact (hstuck root).1 h
      · exact .original rfl ((hstuck root).2 h)

end Patch

namespace Objects

variable {objects : Objects} {object : Tree} {key : ObjectKey}

/-- Every object is kept where it belongs by what it says of itself. -/
def Placed (objects : Objects) : Prop := ∀ e ∈ objects, e.1 = ObjectKey.ofObject e.2

theorem Placed.store (h : objects.Placed) : (objects.store object).Placed := by
  intro e he
  rcases Entries.mem_of_mem_insert he with rfl | he
  · rfl
  · exact h e he

theorem Placed.erase (h : objects.Placed) : Placed (Entries.erase key objects) :=
  fun e he => h e (List.mem_filter.1 he).1

end Objects

section

variable {failures : Memory.Schedule} {engine : Template.Engine} {target : Target}
  {context declaration rendered t : Tree} {kind : GroupVersionKind} {s s' : Memory}
  {outcome : Outcome} {objects : Objects} {ns k : String}

theorem placed_of_applies (h : Applies failures engine target context declaration s outcome s')
    (hs : s.objects.Placed) : s'.objects.Placed := by
  cases h with
  | created | updated => exact hs.store
  | _ => exact hs

namespace ClusterStep

/-- Whatever is done to a cluster, objects are kept where they belong. -/
theorem placed_run {steps : List ClusterStep} (h : objects.Placed) :
    (run objects steps).Placed := by
  induction steps generalizing objects with
  | nil => exact h
  | cons step steps ih =>
    apply ih
    cases step with
    | put object => exact h.store
    | remove key => exact h.erase
    | apply engine target context declaration failures =>
      exact placed_of_applies (s := ⟨objects, []⟩) applies_apply h

end ClusterStep

theorem exists_map_of_get? {v : Tree} (h : t.get? k = some v) : ∃ es, t = map es :=
  exists_map_of_part? ((part?_key k t).trans h)

/-- An object that has a name, or any other text in its metadata, has metadata. -/
theorem hasMetadata_of_textAt (h : t.textAt ["metadata", k] ≠ "") : HasMetadata t := by
  obtain ⟨v, hv, hat⟩ := Option.bind_eq_some_iff.1 (at?_of_textAt h)
  obtain ⟨w, hw, -⟩ := Option.bind_eq_some_iff.1 hat
  refine ⟨exists_map_of_get? hv, ?_⟩
  rw [child, hv]
  exact exists_map_of_get? hw

/-- An original bears the name of the declaration, so both have metadata. -/
theorem hasMetadata_originalIn (hplaced : objects.Placed) :
    ∀ e ∈ originalIn objects kind ns rendered, HasMetadata e ∧ HasMetadata rendered := by
  intro e he
  simp only [originalIn] at he
  split at he
  · cases he
  · next hname =>
    have hkey := hplaced _ (Entries.mem_of_get? he)
    have hsame : rendered.textAt ["metadata", "name"] = e.textAt ["metadata", "name"] :=
      congrArg ObjectKey.name hkey
    rw [String.isEmpty_iff] at hname
    exact ⟨hasMetadata_of_textAt (hsame ▸ hname), hasMetadata_of_textAt hname⟩

/-- **A declaration is applied unless one of three shapes is in the way.** Where no call fails, it
renders and nothing else controls the object that is there, the declaration is in vain exactly when
its metadata is neither a map nor null, or its original is a service with such a specification or
with ports that can have no elements. The error says which; no other shape in the three objects
matters. -/
theorem apply_misfit_iff (hplaced : s.objects.Placed) (hobjects : ∀ e ∈ s.objects, e.2.Ordered)
    (hd : declaration.Ordered) (hkind : checkedKind declaration = .ok kind)
    (hrendered : renderDeclaration engine context declaration = .ok rendered)
    (hcontrolled : ∀ a ∈ Entries.get? (target.slot kind) s.objects, target.owner.controls a = true)
    (hrun : (apply (Memory.store failures) engine target context declaration).run s = (outcome, s'))
    (hcalm : Memory.Calm failures s s') :
    (∀ root, (∃ e, outcome = .error (.reduce e) ∧ e.root = root) ↔
      Misfit kind (originalIn s.objects kind target.ns rendered) rendered root) ∧
    ((∀ root, ¬ Misfit kind (originalIn s.objects kind target.ns rendered) rendered root) →
      ∃ applied, outcome = .ok applied) := by
  obtain ⟨houtcome, -⟩ := resolve_of_applies (applies_of_run hrun) hcalm
  rw [resolvedOutcome, resolve_of_rendered hkind hrendered,
    checkControl_of_controlled hcontrolled] at houtcome
  obtain ⟨es, rfl⟩ := exists_map_of_checkedKind hkind
  have happlied : ∀ a ∈ Entries.get? (target.slot kind) s.objects,
      a.Ordered ∧ ∃ k, within ["metadata", k] a ≠ null := fun a ha =>
    ⟨ordered_of_get? hobjects a ha, _, within_of_controls (hcontrolled a ha)⟩
  rcases build_cases target (hasMetadata_originalIn hplaced) happlied
    (Ordered.of_render hrendered hd) (exists_map_of_rendered hrendered) with
    ⟨built, hbuilt, hfree⟩ | ⟨error, herror, hmisfit⟩
  · rw [hbuilt] at houtcome
    refine ⟨fun root => iff_of_false ?_ (hfree root), fun _ => ⟨_, houtcome⟩⟩
    rintro ⟨e, he, -⟩
    cases houtcome.symm.trans he
  · rw [herror] at houtcome
    have hreduce : outcome = .error (.reduce error) := houtcome
    refine ⟨fun root => ?_, fun hfree => absurd ((hmisfit _).2 rfl) (hfree _)⟩
    rw [hmisfit, hreduce]
    simp

/-- A service with parts of odd shapes, of which only the ports can be in the way. -/
def oddService (ports : Tree) : Tree := .map [
  ("apiVersion", .str "v1"),
  ("kind", .str "Service"),
  ("metadata", .map [
    ("annotations", .int 1), ("name", .str "front"), ("namespace", .str "review")]),
  ("spec", .map [("clusterIP", .arr []), ("ports", ports)]),
  ("status", .str "lost")]

def oddMemory (ports : Tree) : Memory :=
  ⟨[(ObjectKey.ofObject (oddService ports), oddService ports)], []⟩

theorem apply_misfit_iff_oddService :
    checkedKind declaredService = .ok serviceKind ∧
      renderDeclaration reviewEngine .empty declaredService = .ok declaredService ∧
      (∀ ports, (oddMemory ports).objects.Placed) ∧
      (∃ e, (pass declaredService (oddMemory (.str "80"))).1 = .error (.reduce e) ∧
        e.root = .notArrayOrMap) ∧
      ∃ applied, (pass declaredService (oddMemory .null)).1 = .ok applied := by
  have hkind : checkedKind declaredService = .ok serviceKind := by decide +kernel
  have hrendered : renderDeclaration reviewEngine .empty declaredService = .ok declaredService := by
    decide +kernel
  have hplaced (ports : Tree) : (oddMemory ports).objects.Placed := by
    intro e he
    cases List.mem_singleton.1 he
    rfl
  have hcalm (s s' : Memory) : Memory.Calm (fun _ => none) s s' := fun _ _ _ => rfl
  have hrun (s : Memory) : (apply (Memory.store fun _ => none) reviewEngine reviewTarget .empty
      declaredService).run s = ((pass declaredService s).1, (pass declaredService s).2) := rfl
  obtain ⟨hroot, -⟩ := apply_misfit_iff (hplaced (.str "80")) (by decide) (by decide) hkind
    hrendered (by decide) (hrun _) (hcalm _ _)
  obtain ⟨-, hfit⟩ := apply_misfit_iff (hplaced .null) (by decide) (by decide) hkind
    hrendered (by decide) (hrun _) (hcalm _ _)
  refine ⟨hkind, hrendered, hplaced, ?_, ?_⟩
  · have horiginal : originalIn (oddMemory (.str "80")).objects serviceKind reviewTarget.ns
        declaredService = some (oddService (.str "80")) := by decide +kernel
    exact (hroot _).2 (.original horiginal (.ports rfl rfl rfl))
  · refine hfit ?_
    have horiginal : originalIn (oddMemory .null).objects serviceKind reviewTarget.ns
        declaredService = some (oddService .null) := by decide +kernel
    rintro root (⟨hv, hclosed⟩ | ⟨he, h⟩)
    · cases hv
      cases hclosed
    · cases horiginal.symm.trans he
      rcases h with ⟨-, hv, hclosed⟩ | ⟨-, hv, hsolid⟩
      · cases hv
        cases hclosed
      · cases hv
        cases hsolid

end

end PreviewEnv
