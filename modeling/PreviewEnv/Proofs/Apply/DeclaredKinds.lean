import PreviewEnv.Proofs.Apply.Stored

namespace PreviewEnv

namespace GroupVersionKind

/-- A text that can stand on either side of the slash. -/
def IsPart (s : String) : Prop := s ≠ "" ∧ '/' ∉ s.toList

/-- The text is an API version, of this group and this version. -/
inductive Written : (group version apiVersion : String) → Prop
  | alone {version : String} (hv : IsPart version) : Written "" version version
  | grouped {group version : String} (hg : IsPart group) (hv : IsPart version) :
      Written group version (group ++ "/" ++ version)

variable {s group version : String} {c : Char} {cs rest : List Char}

theorem IsPart.toList_ne_nil (h : IsPart s) : s.toList ≠ [] :=
  fun hnil => h.1 (String.toList_eq_nil_iff.1 hnil)

theorem isPart_ofList (hne : cs ≠ []) (hslash : '/' ∉ cs) : IsPart (.ofList cs) := by
  constructor
  · intro h
    apply hne
    simpa using congrArg String.toList h
  · rwa [String.toList_ofList]

theorem Written.ne_empty (h : Written group version s) : s ≠ "" := by
  cases h with
  | alone hv => exact hv.1
  | grouped hg hv =>
    intro hs
    have := congrArg String.toList hs
    simp at this

theorem forall_ne_slash (h : '/' ∉ cs) : ∀ c ∈ cs, decide (c ≠ '/') = true := by
  intro c hc
  rw [decide_eq_true_iff]
  rintro rfl
  exact h hc

theorem slash_not_mem_takeWhile : '/' ∉ cs.takeWhile (· ≠ '/') := by
  intro hmem
  have := List.mem_takeWhile_imp hmem
  simp at this

/-- What is left of a text when everything before its first slash is dropped begins with it. -/
theorem eq_slash_of_dropWhile (h : cs.dropWhile (· ≠ '/') = c :: rest) : c = '/' := by
  have hhead := List.head?_dropWhile_not (fun c => decide (c ≠ '/')) cs
  rw [h] at hhead
  simpa using hhead

theorem splitApiVersion?_of_written (h : Written group version s) :
    splitApiVersion? s = some (group, version) := by
  cases h with
  | alone hv =>
    have htake : s.toList.takeWhile (· ≠ '/') = s.toList :=
      List.takeWhile_eq_self_iff.2 (forall_ne_slash hv.2)
    have hdrop : s.toList.dropWhile (· ≠ '/') = [] :=
      List.dropWhile_eq_nil_iff.2 (forall_ne_slash hv.2)
    simp only [splitApiVersion?, htake, hdrop]
    simp [hv.toList_ne_nil, hv.2]
  | grouped hg hv =>
    have hparts : (group ++ "/" ++ version).toList = group.toList ++ '/' :: version.toList := by
      simp
    have htake : (group ++ "/" ++ version).toList.takeWhile (· ≠ '/') = group.toList := by
      rw [hparts, List.takeWhile_append_of_pos (forall_ne_slash hg.2)]
      simp
    have hdrop :
        (group ++ "/" ++ version).toList.dropWhile (· ≠ '/') = '/' :: version.toList := by
      rw [hparts, List.dropWhile_append_of_pos (forall_ne_slash hg.2)]
      simp
    simp only [splitApiVersion?, htake, hdrop]
    simp [hg.toList_ne_nil, hv.toList_ne_nil, hv.2]

theorem written_of_splitApiVersion? (h : splitApiVersion? s = some (group, version)) :
    Written group version s := by
  have hparts : s.toList.takeWhile (· ≠ '/') ++ s.toList.dropWhile (· ≠ '/') = s.toList :=
    List.takeWhile_append_dropWhile
  simp only [splitApiVersion?] at h
  cases hrest : s.toList.dropWhile (· ≠ '/') with
  | nil =>
    rw [hrest, List.append_nil] at hparts
    simp only [hrest, hparts, Option.ite_none_right_eq_some, Option.some.injEq, Prod.mk.injEq] at h
    obtain ⟨hvalid, rfl, rfl⟩ := h
    refine .alone ⟨?_, hparts ▸ slash_not_mem_takeWhile⟩
    rintro rfl
    simp at hvalid
  | cons c rest =>
    rw [hrest, eq_slash_of_dropWhile hrest] at hparts
    simp only [hrest, Option.ite_none_right_eq_some, Option.some.injEq, Prod.mk.injEq,
      Bool.and_eq_true, Bool.not_eq_true', List.isEmpty_eq_false_iff] at h
    obtain ⟨⟨hgroup, hversion, hslash⟩, rfl, rfl⟩ := h
    have hs : s = .ofList (s.toList.takeWhile (· ≠ '/')) ++ "/" ++ .ofList rest := by
      apply String.toList_injective
      simpa using hparts.symm
    have hwritten : Written (.ofList (s.toList.takeWhile (· ≠ '/'))) (.ofList rest)
        (.ofList (s.toList.takeWhile (· ≠ '/')) ++ "/" ++ .ofList rest) :=
      .grouped (isPart_ofList hgroup slash_not_mem_takeWhile)
        (isPart_ofList hversion (by simpa using hslash))
    rwa [← hs] at hwritten

/-- A text splits into a group and a version exactly when it is written from them. -/
theorem splitApiVersion?_eq_some_iff :
    splitApiVersion? s = some (group, version) ↔ Written group version s :=
  ⟨written_of_splitApiVersion?, splitApiVersion?_of_written⟩

end GroupVersionKind

open GroupVersionKind

variable {t : Tree} {kind : GroupVersionKind} {e : ApplyError} {key s group version : String}

/-- The text under a key, empty if there is none. -/
theorem textAt_singleton : t.textAt [key] = ((t.get? key).bind Tree.str?).getD "" := by
  rw [Tree.textAt, Tree.at?]
  cases t.get? key <;> rfl

/-- A text that is not empty is the value under the key. -/
theorem textAt_singleton_eq_iff (h : s ≠ "") :
    t.textAt [key] = s ↔ t.get? key = some (.str s) := by
  constructor
  · rintro rfl
    have hat := Tree.at?_of_textAt h
    rw [Tree.at?] at hat
    obtain ⟨v, hv, hat⟩ := Option.bind_eq_some_iff.1 hat
    cases hat
    exact hv
  · intro hs
    rw [textAt_singleton, hs]
    rfl

/-- The declaration has an API version, of this group and this version. -/
def SaysApiVersion (t : Tree) (group version : String) : Prop :=
  ∃ s, t.get? "apiVersion" = some (.str s) ∧ Written group version s

/-- The declaration has a kind. -/
def SaysKind (t : Tree) (kind : String) : Prop :=
  t.get? "kind" = some (.str kind) ∧ kind ≠ ""

theorem splitApiVersion?_textAt_iff :
    splitApiVersion? (t.textAt ["apiVersion"]) = some (group, version) ↔
      SaysApiVersion t group version := by
  rw [splitApiVersion?_eq_some_iff]
  constructor
  · intro hw
    exact ⟨_, (textAt_singleton_eq_iff hw.ne_empty).1 rfl, hw⟩
  · rintro ⟨s, hs, hw⟩
    rwa [(textAt_singleton_eq_iff hw.ne_empty).2 hs]

theorem declaredKind_of_kind (hversion : SaysApiVersion t group version)
    (hkind : SaysKind t s) : declaredKind t = .ok ⟨group, version, s⟩ := by
  have htext : t.textAt ["kind"] = s := (textAt_singleton_eq_iff hkind.2).2 hkind.1
  have hne : s.isEmpty = false := by simpa using hkind.2
  rw [declaredKind, splitApiVersion?_textAt_iff.2 hversion]
  simp [htext, hne]

theorem declaredKind_of_no_kind (hversion : SaysApiVersion t group version)
    (hkind : ∀ s, ¬ SaysKind t s) : declaredKind t = .error .missingKind := by
  have htext : t.textAt ["kind"] = "" := by
    by_contra hne
    exact hkind _ ⟨(textAt_singleton_eq_iff hne).1 rfl, hne⟩
  rw [declaredKind, splitApiVersion?_textAt_iff.2 hversion]
  simp [htext]

theorem declaredKind_of_no_apiVersion (h : ∀ group version, ¬ SaysApiVersion t group version) :
    declaredKind t =
      .error (.invalidApiVersion (((t.get? "apiVersion").bind Tree.str?).getD "")) := by
  have hsplit : splitApiVersion? (t.textAt ["apiVersion"]) = none := by
    rw [Option.eq_none_iff_forall_ne_some]
    rintro ⟨group, version⟩ hparts
    exact h group version (splitApiVersion?_textAt_iff.1 hparts)
  rw [declaredKind, hsplit, textAt_singleton]

/-- A declaration says of what kind it is when it has an API version and a kind. -/
theorem declaredKind_eq_ok_iff :
    declaredKind t = .ok kind ↔
      SaysApiVersion t kind.group kind.version ∧ SaysKind t kind.kind := by
  constructor
  · intro h
    by_cases hversion : ∃ group version, SaysApiVersion t group version
    · obtain ⟨group, version, hversion⟩ := hversion
      by_cases hkind : ∃ s, SaysKind t s
      · obtain ⟨s, hkind⟩ := hkind
        cases (declaredKind_of_kind hversion hkind).symm.trans h
        exact ⟨hversion, hkind⟩
      · cases (declaredKind_of_no_kind hversion (not_exists.1 hkind)).symm.trans h
    · have hnone : ∀ group version, ¬ SaysApiVersion t group version := by simpa using hversion
      cases (declaredKind_of_no_apiVersion hnone).symm.trans h
  · rintro ⟨hversion, hkind⟩
    exact declaredKind_of_kind hversion hkind

/-- **Kinds are read from declarations exactly.** A declaration is of the kind that it names, in
the group and the version of which its API version is written, and these two put together are the
API version again. It is no declaration of any kind when it has no text that is an API version,
which is then what the error holds, if it is a text at all; and only when it has one, because it
names no kind. -/
theorem declaredKind_exact (t : Tree) :
    (∀ kind, declaredKind t = .ok kind ↔
      SaysApiVersion t kind.group kind.version ∧ SaysKind t kind.kind) ∧
    (∀ kind, declaredKind t = .ok kind →
      t.get? "apiVersion" = some (.str kind.apiVersion)) ∧
    (∀ e, declaredKind t = .error e ↔
      (∀ group version, ¬ SaysApiVersion t group version) ∧
          e = .invalidApiVersion (((t.get? "apiVersion").bind Tree.str?).getD "") ∨
        (∃ group version, SaysApiVersion t group version) ∧ (∀ s, ¬ SaysKind t s) ∧
          e = .missingKind) := by
  refine ⟨fun kind => declaredKind_eq_ok_iff, fun kind h => ?_, fun e => ⟨fun h => ?_, ?_⟩⟩
  · obtain ⟨⟨s, hs, hw⟩, -⟩ := declaredKind_eq_ok_iff.1 h
    rw [apiVersion_of_split (splitApiVersion?_of_written hw), hs]
  · by_cases hversion : ∃ group version, SaysApiVersion t group version
    · obtain ⟨group, version, hparts⟩ := hversion
      have hkind : ∀ s, ¬ SaysKind t s := by
        intro s hs
        cases (declaredKind_of_kind hparts hs).symm.trans h
      cases (declaredKind_of_no_kind hparts hkind).symm.trans h
      exact .inr ⟨⟨group, version, hparts⟩, hkind, rfl⟩
    · have hnone : ∀ group version, ¬ SaysApiVersion t group version := by simpa using hversion
      cases (declaredKind_of_no_apiVersion hnone).symm.trans h
      exact .inl ⟨hnone, rfl⟩
  · rintro (⟨hnone, rfl⟩ | ⟨⟨group, version, hversion⟩, hkind, rfl⟩)
    · exact declaredKind_of_no_apiVersion hnone
    · exact declaredKind_of_no_kind hversion hkind

end PreviewEnv
