import PreviewEnv.Proofs.Apply.Failures
import PreviewEnv.Proofs.Apply.Locality

/-!
The calls of an application name the kind that its declaration has before it is
rendered, and what is written says its kind after that.
-/

namespace PreviewEnv

open PreviewEnv.Tree

/-- The kind that a call names. -/
def Call.kind : Call → GroupVersionKind
  | get kind _ _ | create kind _ _ | update kind _ _ => kind

/-- The object that a call writes. -/
def Call.written? : Call → Option Tree
  | get .. => none
  | create _ _ object | update _ _ object => some object

variable {failures : Memory.Schedule} {engine : Template.Engine} {target : Target}
  {context declaration rendered : Tree} {kind : GroupVersionKind} {s s' : Memory}
  {outcome : Outcome} {calls : List Call} {call write : Call} {object t u : Tree}
  {original applied : Option Tree}

theorem kind_of_mem_readCalls : ∀ call ∈ readCalls kind target rendered, call.kind = kind := by
  simp only [readCalls, originalCalls]
  split <;> simp [Call.kind]

theorem kind_of_mem_calls (h : write.kind = kind) :
    ∀ call ∈ readCalls kind target rendered ++ [write], call.kind = kind := by
  intro call hcall
  rcases List.mem_append.1 hcall with hcall | hcall
  · exact kind_of_mem_readCalls call hcall
  · rwa [List.mem_singleton.1 hcall]

/-- Calls that only read write nothing. -/
theorem not_mem_of_written (hwrite : write.written? = some object)
    (hgets : ∀ call ∈ calls, call.isGet = true) : write ∉ calls := by
  intro hmem
  have hget := hgets write hmem
  cases write with
  | get => cases hwrite
  | create | update => cases hget

theorem eq_last_of_written (hwrite : write.written? = some object)
    (hmem : write ∈ readCalls kind target rendered ++ [call]) : write = call :=
  List.mem_singleton.1
    ((List.mem_append.1 hmem).resolve_left (not_mem_of_written hwrite isGet_of_mem_readCalls))

/-- Where there is a call that writes, the object has been built, and all calls name the kind of
the declaration. -/
theorem builds_of_write (h : Applies failures engine target context declaration s outcome s')
    (hcalls : s'.calls = s.calls ++ calls) (hmem : write ∈ calls)
    (hwrite : write.written? = some object) :
    ∃ kind rendered found,
      Builds failures engine target context declaration s kind rendered found object ∧
        ∀ call ∈ calls, call.kind = kind := by
  cases h with
  | unfit | unrendered =>
    cases List.self_eq_append_right.1 hcalls
    cases hmem
  | originalUnread =>
    cases List.append_cancel_left hcalls
    exact absurd hmem (not_mem_of_written hwrite isGet_of_mem_originalCalls)
  | appliedUnread | foreign | unbuilt | unchanged =>
    cases List.append_cancel_left hcalls
    exact absurd hmem (not_mem_of_written hwrite isGet_of_mem_readCalls)
  | uncreated hb | created hb | unupdated hb | updated hb =>
    cases List.append_cancel_left hcalls
    cases eq_last_of_written hwrite hmem
    cases hwrite
    exact ⟨_, _, _, hb, kind_of_mem_calls rfl⟩

/-- The texts that say the kind of a tree are those of the kind. -/
theorem textAt_of_checkedKind (h : checkedKind t = .ok kind) :
    t.textAt ["apiVersion"] = kind.apiVersion ∧ t.textAt ["kind"] = kind.kind := by
  obtain ⟨hsplit, hkind, -⟩ := fields_of_checkedKind h
  exact ⟨(apiVersion_of_split hsplit).symm, hkind⟩

/-- The kind of a map depends on two of its texts. -/
theorem checkedKind_congr (ht : ∃ es, t = map es) (hu : ∃ fs, u = map fs)
    (h : ∀ key ∈ ["apiVersion", "kind"], t.textAt [key] = u.textAt [key]) :
    checkedKind t = checkedKind u := by
  obtain ⟨es, rfl⟩ := ht
  obtain ⟨fs, rfl⟩ := hu
  rw [checkedKind, checkedKind, declaredKind, declaredKind, h "apiVersion" (by simp),
    h "kind" (by simp)]

theorem exists_map_of_built
    (h : Patch.build kind original applied rendered target = .ok object) :
    ∃ es, object = map es := by
  obtain ⟨start, -, -, rfl⟩ := Patch.build_eq_ok_iff.1 h
  rw [Patch.adopted, put_cons]
  exact ⟨_, rfl⟩

section
variable (hkind : checkedKind declaration = .ok kind)
  (hrendered : renderDeclaration engine context declaration = .ok rendered)
  (hd : declaration.Ordered)
  (hbuilt : Patch.build kind original applied rendered target = .ok object)
include hkind hrendered hd hbuilt

/-- What has been built is of the kind of the declaration exactly when rendering has left this
kind as it was. -/
theorem checkedKind_built_iff :
    checkedKind object = .ok kind ↔ KeepsKind engine context declaration := by
  have hsame : ∀ key ∈ ["apiVersion", "kind"], object.textAt [key] = rendered.textAt [key] :=
    fun key => textAt_built hkind hrendered hd hbuilt
  constructor
  · intro hobject r hr key hkey
    cases hrendered.symm.trans hr
    obtain ⟨hversion, hname⟩ := textAt_of_checkedKind hobject
    obtain ⟨hversion', hname'⟩ := textAt_of_checkedKind hkind
    rw [← hsame key hkey]
    rcases List.mem_cons.1 hkey with rfl | hkey
    · rw [hversion, hversion']
    · cases List.mem_singleton.1 hkey
      rw [hname, hname']
  · intro hkeep
    rw [← hkind]
    refine checkedKind_congr (exists_map_of_built hbuilt) (exists_map_of_checkedKind hkind) ?_
    intro key hkey
    rw [hsame key hkey, hkeep rendered hrendered key hkey]

/-- It replaces what has been read exactly when rendering has left the group and the kind. -/
theorem ofObject_built_iff :
    ObjectKey.ofObject object = target.slot kind ↔
      GroupVersionKind.groupOf rendered = kind.group ∧ rendered.textAt ["kind"] = kind.kind := by
  rw [ofObject_eq_of_built hkind hrendered hd hbuilt, Target.slot, ObjectKey.mk.injEq]
  simp

end

/-- A declaration is applied, and there is a call that writes. All calls name the kind of what is
written exactly when rendering has left the API version and the kind of the declaration as they
were. Whatever rendering has done to them, the object that has been looked up is the one that is
replaced exactly when it has left the group and the kind. -/
theorem addressed_iff (hd : declaration.Ordered)
    (hrun : (apply (Memory.store failures) engine target context declaration).run s =
      (outcome, s')) :
    ∃ calls, s'.calls = s.calls ++ calls ∧
      ∀ write ∈ calls, ∀ object, write.written? = some object →
        ∃ kind rendered, checkedKind declaration = .ok kind ∧
          renderDeclaration engine context declaration = .ok rendered ∧
          ((∀ call ∈ calls, checkedKind object = .ok call.kind) ↔
            KeepsKind engine context declaration) ∧
          (ObjectKey.ofObject object = target.slot kind ↔
            GroupVersionKind.groupOf rendered = kind.group ∧
              rendered.textAt ["kind"] = kind.kind) := by
  have happlies := applies_of_run hrun
  obtain ⟨calls, hcalls⟩ := exists_calls_of_applies happlies
  refine ⟨calls, hcalls, fun write hmem object hwrite => ?_⟩
  obtain ⟨kind, rendered, found, hb, hkinds⟩ := builds_of_write happlies hcalls hmem hwrite
  refine ⟨kind, rendered, hb.checked, hb.renders, ?_,
    ofObject_built_iff hb.checked hb.renders hd hb.built⟩
  rw [← checkedKind_built_iff hb.checked hb.renders hd hb.built]
  constructor
  · intro h
    rw [h write hmem, hkinds write hmem]
  · intro h call hcall
    rw [h, hkinds call hcall]

/-- The kind of a declaration that says it in a template. -/
def templatedKind : GroupVersionKind := ⟨"", "v1", "\x7b\x7b 'ConfigMap' \x7d\x7d"⟩

def templatedSettings : Tree := .map [
  ("apiVersion", .str "v1"),
  ("data", .map [("size", .int 3)]),
  ("kind", .str templatedKind.kind)]

def adoptedSettings : Tree := .map [
  ("apiVersion", .str "v1"),
  ("data", .map [("size", .int 3)]),
  ("kind", .str "ConfigMap"),
  ("metadata", .map [
    ("name", .str "pr-1"),
    ("namespace", .str "review"),
    ("ownerReferences", .arr [Patch.reviewTarget.owner.blocking])])]

def strangeSettings : Tree := .map [
  ("apiVersion", .str "v1"),
  ("kind", .str "ConfigMap"),
  ("metadata", .map [("name", .str "pr-1"), ("namespace", .str "review")])]

/-- The settings are applied where there are these objects. -/
def applyOver (declaration : Tree) (objects : List Tree) : Outcome × Memory :=
  applyCalmly Patch.reviewEngine Patch.reviewTarget .empty declaration
    ⟨objects.map fun object => (ObjectKey.ofObject object, object), []⟩

/-- The object that is there is looked for under another kind, and replaced. -/
theorem addressed_elsewhere :
    Patch.reviewTarget.owner.controls strangeSettings = false ∧
      (applyOver templatedSettings [strangeSettings]).1.reason = .created ∧
      (applyOver templatedSettings [strangeSettings]).2.calls =
        [.get templatedKind "review" "pr-1", .create templatedKind "review" adoptedSettings] ∧
      checkedKind adoptedSettings = .ok Patch.reviewKind ∧
      Patch.reviewKind ≠ templatedKind ∧
      (applyOver templatedSettings [strangeSettings]).2.objects =
        [(ObjectKey.ofObject strangeSettings, Objects.created adoptedSettings)] := by
  decide +kernel

theorem addressed_settings :
    ∃ write ∈ (applyOver Patch.declaredSettings []).2.calls, ∃ object,
      write.written? = some object ∧
        ∀ call ∈ (applyOver Patch.declaredSettings []).2.calls,
          checkedKind object = .ok call.kind := by
  have hrenders : renderDeclaration Patch.reviewEngine .empty Patch.declaredSettings =
      .ok Patch.declaredSettings := by
    decide +kernel
  have hrun : (apply (Memory.store fun _ => none) Patch.reviewEngine Patch.reviewTarget .empty
      Patch.declaredSettings).run ⟨[], []⟩ =
        ((applyOver Patch.declaredSettings []).1, (applyOver Patch.declaredSettings []).2) := rfl
  obtain ⟨calls, hcalls, haddressed⟩ := addressed_iff (by decide) hrun
  rw [List.nil_append] at hcalls
  have hthird : (calls[2]?.bind Call.written?).isSome = true := by
    rw [← hcalls]
    decide +kernel
  obtain ⟨object, hobject⟩ := Option.isSome_iff_exists.1 hthird
  obtain ⟨write, hwrite, hwritten⟩ := Option.bind_eq_some_iff.1 hobject
  obtain ⟨kind, rendered, -, -, hkinds, -⟩ :=
    haddressed write (List.mem_of_getElem? hwrite) object hwritten
  rw [hcalls]
  exact ⟨write, List.mem_of_getElem? hwrite, object, hwritten,
    hkinds.2 (ClusterStep.keepsKind_of_render hrenders)⟩

end PreviewEnv
