import PreviewEnv.Proofs.Apply.SecondPass
import PreviewEnv.Proofs.Tree.Integers

namespace PreviewEnv

open PreviewEnv.Tree Patch

namespace Tree

variable {a b : Tree} {path : List Step} {m n : Int}

theorem eq_of_nearestInt_of_fits (h : Binary64.nearestInt m = Binary64.nearestInt n)
    (hm : fitsUnsigned 53 m.natAbs = true) : m = n := by
  refine Binary64.eq_of_nearestInt h ?_
  simp only [fitsUnsigned, decide_eq_true_iff] at hm
  have := hm.2
  simp only [Binary64.fractions]
  omega

/-- Equal trees without floats are the same but for nulls if the integers of one of them have at
most 53 bits. -/
theorem identical_of_equal (ha : a.Ordered) (hb : b.Ordered) (hna : a.hasNoFloats = true)
    (hnb : b.hasNoFloats = true) (h : a.equal b = true)
    (hsmall : ∀ path m, a.along? path = some (int m) → fitsUnsigned 53 m.natAbs = true) :
    a.withoutNulls = b.withoutNulls := by
  rw [withoutNulls_eq_iff ha hb hna hnb]
  refine ⟨h, fun path m n hm hn => ?_⟩
  exact eq_of_nearestInt_of_fits (nearestInt_of_equal ha hb hna hnb h hm hn) (hsmall path m hm)

end Tree

variable {failures : Memory.Schedule} {engine : Template.Engine} {target : Target}
  {context declaration rendered found : Tree} {kind : GroupVersionKind} {s s' : Memory}
  {applied : Applied} {path : List String} {m n : Int}

/-- Where an object is left unchanged, what has been built is equal to it. -/
theorem equal_of_unchanged
    (h : Applies failures engine target context declaration s (.ok applied) s')
    (hchange : applied.change = .unchanged) :
    ∃ kind rendered found object,
      Builds failures engine target context declaration s kind rendered (some found) object ∧
        object.equal found = true := by
  cases h with
  | unchanged hb hequal => exact ⟨_, _, _, _, hb, hequal⟩
  | created | updated => cases hchange

/-- Off the forced fields, an integer of the declaration is in the object that is built, and the one
that is there at its place has the same float. -/
theorem nearestInt_of_unchanged {object : Tree}
    (hb : Builds failures engine target context declaration s kind rendered (some found) object)
    (hequal : object.equal found = true) (hd : declaration.Ordered)
    (hobjects : ∀ e ∈ s.objects, e.2.Ordered)
    (hpath : ∀ field ∈ forcedFields, ¬ field <+: path)
    (hm : rendered.at? path = some (.int m)) (hn : found.at? path = some (.int n)) :
    Binary64.nearestInt m = Binary64.nearestInt n := by
  have hfound : found.Ordered := ordered_of_get? hobjects found hb.found
  have hobject : object.Ordered := hb.ordered_object hd hobjects
  have hmetadata : path ≠ ["metadata"] := by
    rintro rfl
    refine within_of_controls (hb.controlled found rfl) ?_
    have hmetadata : found.child "metadata" = .int n := within_of_at? hn
    rw [within_cons, hmetadata]
    rfl
  obtain ⟨start, hstart, -, -⟩ := build_eq_ok_iff.1 hb.built
  obtain ⟨hdeclared, -⟩ := built_precedence hb.checked hb.renders hd
    (fun a ha => Option.some.inj ha ▸ hfound) hstart hb.built ⟨hmetadata, hpath⟩
  have hbuilt : object.at? path = some (.int m) := hdeclared (.int m) rfl (by simp) hm
  have hcanonical := canonical_within ((equal_iff_canonical hobject hfound).1 hequal) hobject hfound
    path
  rw [within_of_at? hbuilt, within_of_at? hn] at hcanonical
  exact int.inj hcanonical

/-- **Integers are told apart as far as floats are.** Two trees without floats are equal exactly
when they are the same but for nulls and for the rounding of integers to floats; they are the same
but for nulls exactly when they are equal and nowhere hold two different integers. So where an
object is left unchanged, an integer that the declaration has off the forced fields and the one that
is there have one float, and they are the same if one of them has at most 53 bits. -/
theorem integers_told_apart (a b : Tree) :
    (a.Ordered → b.Ordered → a.hasNoFloats = true → b.hasNoFloats = true →
      (a.equal b = true ↔ a.withoutNulls.rounded = b.withoutNulls.rounded) ∧
        (a.withoutNulls = b.withoutNulls ↔ a.equal b = true ∧ SameIntegers a b) ∧
        (a.equal b = true →
          (∀ path m, a.along? path = some (.int m) → fitsUnsigned 53 m.natAbs = true) →
          a.withoutNulls = b.withoutNulls)) ∧
      ∀ {failures engine target context declaration kind rendered s applied s'},
        checkedKind declaration = .ok kind →
        renderDeclaration engine context declaration = .ok rendered → declaration.Ordered →
        (∀ e ∈ s.objects, e.2.Ordered) →
        (apply (Memory.store failures) engine target context declaration).run s =
          (.ok applied, s') →
        applied.change = .unchanged →
        ∃ found, Entries.get? (target.slot kind) s.objects = some found ∧
          ∀ path m n, (∀ field ∈ forcedFields, ¬ field <+: path) →
            rendered.at? path = some (.int m) → found.at? path = some (.int n) →
            Binary64.nearestInt m = Binary64.nearestInt n ∧
              (fitsUnsigned 53 m.natAbs = true ∨ fitsUnsigned 53 n.natAbs = true → m = n) := by
  constructor
  · intro ha hb hna hnb
    exact ⟨equal_iff_rounded ha hb hna hnb, withoutNulls_eq_iff ha hb hna hnb,
      identical_of_equal ha hb hna hnb⟩
  · intro failures engine target context declaration kind rendered s applied s' hkind hrendered hd
      hobjects hrun hchange
    obtain ⟨_, _, found, object, hbuilds, hequal⟩ :=
      equal_of_unchanged (applies_of_run hrun) hchange
    obtain ⟨rfl, rfl⟩ := hbuilds.toReads.unique hkind hrendered
    refine ⟨found, hbuilds.found, fun path m n hpath hm hn => ?_⟩
    have hfloat := nearestInt_of_unchanged hbuilds hequal hd hobjects hpath hm hn
    refine ⟨hfloat, ?_⟩
    rintro (hsmall | hsmall)
    · exact eq_of_nearestInt_of_fits hfloat hsmall
    · exact (eq_of_nearestInt_of_fits hfloat.symm hsmall).symm

/-- The settings as they are built for the target and kept, with a size that may be another one than
the declared size. -/
def keptSettings (size : Int) : Tree := .map [
  ("apiVersion", .str "v1"),
  ("data", .map [("size", .int size)]),
  ("kind", .str "ConfigMap"),
  ("metadata", .map [
    ("name", .str "pr-1"),
    ("namespace", .str "review"),
    ("ownerReferences", .arr [reviewTarget.owner.blocking])])]

def keptMemory (size : Int) : Memory := ⟨[(reviewTarget.slot reviewKind, keptSettings size)], []⟩

/-- A map with a size and an entry that is cleared. -/
def clearedSizes : Tree := .map [("cleared", .null), ("size", .int 3)]

theorem integers_told_apart_settings :
    clearedSizes.withoutNulls = .map [("size", .int 3)] ∧
      (pass (configMap [("size", .int 3)]) (keptMemory 3)).1 =
        .ok ⟨.unchanged, "v1 ConfigMap: \"pr-1\""⟩ ∧
      ∀ n, (keptSettings 3).at? ["data", "size"] = some (.int n) → 3 = n := by
  have hkind : checkedKind (configMap [("size", .int 3)]) = .ok reviewKind := by decide +kernel
  have hrendered : renderDeclaration reviewEngine .empty (configMap [("size", .int 3)]) =
      .ok (configMap [("size", .int 3)]) := by decide +kernel
  have hpass : pass (configMap [("size", .int 3)]) (keptMemory 3) =
      (.ok ⟨.unchanged, "v1 ConfigMap: \"pr-1\""⟩,
        (pass (configMap [("size", .int 3)]) (keptMemory 3)).2) :=
    Prod.fst_eq_iff.1 (by decide +kernel)
  have hsmall : ∀ path m, clearedSizes.along? path = some (.int m) →
      fitsUnsigned 53 m.natAbs = true := by
    rintro (_ | ⟨k | i, path⟩) m hm
    · cases hm
    · obtain ⟨t, ht, hm⟩ := Option.bind_eq_some_iff.1 hm
      obtain ⟨-, rfl⟩ | ⟨-, rfl⟩ : k = "cleared" ∧ t = .null ∨ k = "size" ∧ t = .int 3 := by
        simpa using Entries.mem_of_get? ht
      · cases eq_of_along?_of_isScalar rfl hm
      · cases eq_of_along?_of_isScalar rfl hm
        decide
    · cases hm
  obtain ⟨htrees, hunchanged⟩ := integers_told_apart clearedSizes (.map [("size", .int 3)])
  obtain ⟨-, -, hsame⟩ := htrees (by decide) (by decide) (by decide) (by decide)
  obtain ⟨found, hfound, hint⟩ := hunchanged hkind hrendered (by decide) (by decide) hpass rfl
  refine ⟨hsame (by decide +kernel) hsmall, Prod.fst_eq_iff.2 hpass, ?_⟩
  obtain rfl : keptSettings 3 = found := by
    have hkept : Entries.get? (reviewTarget.slot reviewKind) (keptMemory 3).objects =
        some (keptSettings 3) := by decide +kernel
    exact Option.some.inj (hkept.symm.trans hfound)
  intro n hn
  exact (hint ["data", "size"] 3 n (by decide) (by decide) hn).2 (.inl (by decide))

/-- An integer of 54 bits is declared where another one is that has the same float, and the object
is left unchanged. -/
theorem update_lost :
    (Tree.int 9007199254740993).hasNoFloats = true ∧
      (Tree.int 9007199254740992).hasNoFloats = true ∧
      (Tree.int 9007199254740993).equal (.int 9007199254740992) = true ∧
      (Tree.int 9007199254740993).withoutNulls ≠ (Tree.int 9007199254740992).withoutNulls ∧
      renderDeclaration reviewEngine .empty (configMap [("size", .int 9007199254740993)]) =
        .ok (configMap [("size", .int 9007199254740993)]) ∧
      (pass (configMap [("size", .int 9007199254740993)]) (keptMemory 9007199254740992)).1 =
        .ok ⟨.unchanged, "v1 ConfigMap: \"pr-1\""⟩ ∧
      (configMap [("size", .int 9007199254740993)]).at? ["data", "size"] =
        some (.int 9007199254740993) ∧
      (keptSettings 9007199254740992).at? ["data", "size"] = some (.int 9007199254740992) := by
  decide +kernel

end PreviewEnv
