import PreviewEnv.Proofs.Apply.Ownership

namespace PreviewEnv

open PreviewEnv.Tree

variable {failures : Memory.Schedule} {engine : Template.Engine} {target : Target}
  {context declaration rendered : Tree} {kind : GroupVersionKind} {s s' : Memory}
  {outcome : Outcome} {objects objects' : Objects} {key : ObjectKey} {object stored : Tree}
  {found : Option Tree} {applied : Applied}

/-- What is reported of an object that has been built, and what is kept if it is written. -/
def settle (object : Tree) : Option Tree → Applied × Option Tree
  | none => (⟨.created, objectName object⟩, some (Objects.created object))
  | some found =>
    if object.equal found then (⟨.unchanged, objectName object⟩, none)
    else (⟨.updated, objectName object⟩, some (Objects.updated object))

/-- What comes of applying a declaration where no call fails: what is reported, and what is kept if
an object is written. -/
def resolve (engine : Template.Engine) (target : Target) (context declaration : Tree)
    (objects : Objects) :
    Except ApplyError (Applied × Option Tree) := do
  let kind ← checkedKind declaration
  let rendered ← renderDeclaration engine context declaration
  let found := Entries.get? (target.slot kind) objects
  checkControl target.owner found
  let object ← (Patch.build kind (originalIn objects kind target.ns rendered) found rendered
    target).mapError .reduce
  return settle object found

/-- The outcome of applying a declaration where no call fails. -/
def resolvedOutcome (engine : Template.Engine) (target : Target) (context declaration : Tree)
    (objects : Objects) : Outcome :=
  Prod.fst <$> resolve engine target context declaration objects

/-- The objects with what is kept, if an object is written. -/
def Objects.keep (objects : Objects) : Except ApplyError (Applied × Option Tree) → Objects
  | .ok (_, some stored) => objects.store stored
  | .ok (_, none) | .error _ => objects

/-- The objects after a declaration has been applied where no call fails. -/
def resolvedObjects (engine : Template.Engine) (target : Target) (context declaration : Tree)
    (objects : Objects) : Objects :=
  objects.keep (resolve engine target context declaration objects)

/-- A declaration that has been rendered is resolved by what is in its slot and its original. -/
theorem resolve_of_rendered (hkind : checkedKind declaration = .ok kind)
    (hrendered : renderDeclaration engine context declaration = .ok rendered) :
    resolve engine target context declaration objects = (do
      checkControl target.owner (Entries.get? (target.slot kind) objects)
      let object ← (Patch.build kind (originalIn objects kind target.ns rendered)
        (Entries.get? (target.slot kind) objects) rendered target).mapError .reduce
      return settle object (Entries.get? (target.slot kind) objects)) := by
  rw [resolve, hkind, hrendered]
  rfl

theorem checkControl_of_controlled {owner : OwnerReference}
    (h : ∀ a ∈ found, owner.controls a = true) : checkControl owner found = .ok () := by
  cases found with
  | none => rfl
  | some a => rw [checkControl, if_pos (h a rfl)]

/-- An object that can be built is what the declaration is resolved to. -/
theorem resolve_of_builds
    (h : Builds failures engine target context declaration s kind rendered found object) :
    resolve engine target context declaration s.objects = .ok (settle object found) := by
  rw [resolve_of_rendered h.checked h.renders, h.found, checkControl_of_controlled h.controlled,
    h.built]
  rfl

/-- Where no call fails, the outcome and the objects afterwards depend on the objects alone. -/
theorem resolve_of_applies (h : Applies failures engine target context declaration s outcome s')
    (hcalm : Memory.Calm failures s s') :
    outcome = resolvedOutcome engine target context declaration s.objects ∧
      s'.objects = resolvedObjects engine target context declaration s.objects := by
  unfold resolvedOutcome resolvedObjects
  cases h with
  | unfit h =>
    rw [resolve, h]
    exact ⟨rfl, rfl⟩
  | unrendered hkind h =>
    rw [resolve, hkind, h]
    exact ⟨rfl, rfl⟩
  | originalUnread _ _ hname h =>
    exact absurd h (hcalm.not_fails (n := 0) (List.length_pos_of_ne_nil hname))
  | appliedUnread _ _ _ h =>
    exact absurd h (hcalm.not_fails (by rw [length_readCalls]; omega))
  | foreign hreads hfound h =>
    rw [resolve_of_rendered hreads.checked hreads.renders, hfound, checkControl, h]
    exact ⟨rfl, rfl⟩
  | unbuilt hreads hfound hcontrolled h =>
    rw [resolve_of_rendered hreads.checked hreads.renders, hfound,
      checkControl_of_controlled hcontrolled, h]
    exact ⟨rfl, rfl⟩
  | uncreated _ h | unupdated _ _ h =>
    refine absurd h (hcalm.not_fails ?_)
    rw [List.length_append, List.length_singleton]
    omega
  | created hb =>
    rw [resolve_of_builds hb]
    exact ⟨rfl, rfl⟩
  | unchanged hb h =>
    rw [resolve_of_builds hb, settle, if_pos h]
    exact ⟨rfl, rfl⟩
  | updated hb h =>
    rw [resolve_of_builds hb, settle, if_neg (by simp [h])]
    exact ⟨rfl, rfl⟩

/-- A declaration is applied, and no call fails. -/
def applyCalmly (engine : Template.Engine) (target : Target) (context declaration : Tree)
    (s : Memory) : Outcome × Memory :=
  (apply (Memory.store fun _ => none) engine target context declaration).run s

theorem applyCalmly_eq :
    (applyCalmly engine target context declaration s).1 =
        resolvedOutcome engine target context declaration s.objects ∧
      (applyCalmly engine target context declaration s).2.objects =
        resolvedObjects engine target context declaration s.objects :=
  resolve_of_applies (applies_of_run rfl) fun _ _ _ => rfl

/-- The objects of the kind are the same. -/
def SameOfKind (kind : GroupVersionKind) (objects objects' : Objects) : Prop :=
  ∀ key : ObjectKey, key.group = kind.group → key.kind = kind.kind →
    Entries.get? key objects' = Entries.get? key objects

/-- The declarations are of different kinds, whatever the versions. -/
def DifferentKinds (d e : Tree) : Prop :=
  ∀ k l, checkedKind d = .ok k → checkedKind e = .ok l → (k.group, k.kind) ≠ (l.group, l.kind)

instance : Std.Symm DifferentKinds := ⟨fun _ _ h k l hk hl => (h l k hl hk).symm⟩

theorem originalIn_of_same {ns : String} (h : SameOfKind kind objects objects') :
    originalIn objects' kind ns rendered = originalIn objects kind ns rendered := by
  simp only [originalIn]
  split
  · rfl
  · exact h _ rfl rfl

/-- A declaration is resolved by the objects of its own kind. -/
theorem resolve_congr (h : ∀ k, checkedKind declaration = .ok k → SameOfKind k objects objects') :
    resolve engine target context declaration objects' =
      resolve engine target context declaration objects := by
  cases hkind : checkedKind declaration with
  | error e =>
    rw [resolve, resolve, hkind]
    rfl
  | ok kind =>
    cases hrendered : renderDeclaration engine context declaration with
    | error e =>
      rw [resolve, resolve, hkind, hrendered]
      rfl
    | ok rendered =>
      have hsame := h kind hkind
      rw [resolve_of_rendered hkind hrendered, resolve_of_rendered hkind hrendered,
        originalIn_of_same hsame, hsame (target.slot kind) rfl rfl]

/-- Applying a declaration leaves the objects of other kinds alone. -/
theorem sameOfKind_of_applies (h : Applies failures engine target context declaration s outcome s')
    (hd : declaration.Ordered) (hkeep : KeepsKind engine context declaration)
    (hother : ∀ k, checkedKind declaration = .ok k → (k.group, k.kind) ≠ (kind.group, kind.kind)) :
    SameOfKind kind s.objects s'.objects := by
  intro key hgroup hkind
  apply get?_of_applies h hd hkeep
  rintro k hk rfl
  exact hother k hk (Prod.ext hgroup hkind)

end PreviewEnv
