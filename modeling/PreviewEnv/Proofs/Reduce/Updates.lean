import PreviewEnv.Proofs.Reduce.Pruning

/-!
A reducer that is applied under keys updates one value of a tree. What becomes of
the tree depends on the value that the reducer gives, and on nothing else of it.
-/

namespace PreviewEnv

open PreviewEnv.Tree

namespace Tree

variable {t u v : Tree} {k j : String} {ks front back : List String} {path : List Step}

theorem at?_append : t.at? (front ++ back) = (t.at? front).bind (at? back) := by
  induction front generalizing t with
  | nil => rfl
  | cons k front ih =>
    rw [List.cons_append, at?, at?, Option.bind_assoc]
    exact congrArg _ (funext fun _ => ih)

theorem part?_key (k : String) (t : Tree) : t.part? (.key k) = t.get? k := by
  cases t <;> rfl

/-- A path of keys alone. -/
theorem along?_keys : t.along? (ks.map .key) = t.at? ks := by
  induction ks generalizing t with
  | nil => rfl
  | cons k ks ih =>
    rw [List.map_cons, along?_cons, at?, part?_key]
    exact congrArg _ (funext fun _ => ih)

/-- On the way to the end of the path, that end left out, there is something that is neither a map
nor null. -/
def Blocked (keys : List String) (t : Tree) : Prop :=
  ∃ front u, front <+: keys ∧ front ≠ keys ∧ t.at? front = some u ∧ u.isOpen = false

theorem blocked_cons : Blocked (k :: ks) t ↔ t.isOpen = false ∨ Blocked ks (t.child k) := by
  constructor
  · rintro ⟨front, u, hfront, hne, hat, hu⟩
    cases front with
    | nil =>
      cases hat
      exact .inl hu
    | cons j front =>
      obtain ⟨rfl, hrest⟩ := List.cons_prefix_cons.1 hfront
      obtain ⟨v, hv, hat⟩ := Option.bind_eq_some_iff.1 hat
      refine .inr ⟨front, u, hrest, fun h => hne (h ▸ rfl), ?_, hu⟩
      rw [child, hv]
      exact hat
  · rintro (ht | ⟨front, u, hfront, hne, hat, hu⟩)
    · exact ⟨[], t, List.nil_prefix, by simp, rfl, ht⟩
    · refine ⟨k :: front, u, List.cons_prefix_cons.2 ⟨rfl, hfront⟩, by simpa using hne, ?_, hu⟩
      cases hg : t.get? k with
      | some v =>
        rw [child, hg] at hat
        rw [at?, hg]
        exact hat
      | none =>
        -- Where there is nothing, nothing can be in the way.
        rw [child, hg] at hat
        cases front with
        | nil =>
          cases hat
          cases hu
        | cons j front => cases hat

theorem openTo_eq_false_iff : openTo ks t = false ↔ Blocked ks t := by
  induction ks generalizing t with
  | nil =>
    refine iff_of_false (by simp [openTo]) ?_
    rintro ⟨front, u, hfront, hne, -⟩
    exact hne (List.prefix_nil.1 hfront)
  | cons k ks ih => rw [openTo, blocked_cons, Bool.and_eq_false_iff, ih]

instance : Decidable (Blocked ks t) := decidable_of_iff _ openTo_eq_false_iff

theorem openTo_of_not_blocked (h : ¬ Blocked ks t) : openTo ks t = true := by
  rwa [← Bool.not_eq_false, openTo_eq_false_iff]

theorem within_concat : within (ks ++ [k]) t = (within ks t).child k := by
  induction ks generalizing t with
  | nil => rfl
  | cons j ks ih => exact ih

theorem openTo_concat : openTo (ks ++ [k]) t = (openTo ks t && (within ks t).isOpen) := by
  induction ks generalizing t with
  | nil => simp [openTo]
  | cons j ks ih => rw [List.cons_append, openTo, ih, openTo, within_cons, Bool.and_assoc]

end Tree

namespace Reducer

variable {r : Reducer} {t u v w : Tree} {k j : String} {ks : List String}
  {input o o' : Option Tree} {path : List Step}

/-- What becomes of a value, which may be missing, when the one at the end of a path in it becomes
`v`. A null that was not there is not put there, and the nulls on the way to it go. -/
def updated? (v : Tree) : List String → Option Tree → Option Tree
  | [], input => if input.isNone && v.isNull then none else some v
  | k :: ks, input => replaced k (input.getD .null) (updated? v ks ((input.getD .null).get? k))

/-- Reducing the value at the end of a path. -/
theorem reducePath_eq :
    reducePath r ks input =
      if openTo ks (input.getD .null) = true then
        (updated? · ks input) <$> r (within ks (input.getD .null))
      else .fail .notMap := by
  induction ks generalizing input with
  | nil => rfl
  | cons k ks ih =>
    rw [reducePath_cons, openTo, child]
    cases (input.getD .null).isOpen with
    | false => rfl
    | true =>
      rw [if_pos rfl, ih, Bool.true_and]
      by_cases hrest : openTo ks (((input.getD .null).get? k).getD .null) = true
      · rw [if_pos hrest, if_pos hrest, ← LawfulFunctor.comp_map]
        rfl
      · rw [if_neg hrest, if_neg hrest]
        rfl

theorem get?_entries : Entries.get? k t.entries = t.get? k := by
  cases t <;> rfl

theorem get?_getD : (o.getD .null).get? k = o.bind (Tree.get? k) := by
  cases o <;> rfl

theorem get?_replaced :
    ((replaced k t o).getD .null).get? j = if k = j then o else t.get? j := by
  cases o with
  | some v => rw [replaced, Option.getD_some, get?_map, Entries.get?_insert, get?_entries]
  | none =>
    rw [replaced]
    split
    · next h =>
      subst h
      exact (ite_self _).symm
    · rw [Option.getD_some, get?_map, Entries.get?_erase, get?_entries]

theorem exists_map_replaced (h : ∃ es, t = .map es) :
    ∃ es, (replaced k t o).getD .null = .map es := by
  obtain ⟨es, rfl⟩ := h
  cases o <;> exact ⟨_, rfl⟩

/-- No array and no scalar is made on the way. -/
theorem isOpen_replaced : ((replaced k t o).getD .null).isOpen = true := by
  cases o with
  | some v => rfl
  | none =>
    rw [replaced]
    split <;> rfl

theorem part?_index_of_isOpen {i : Nat} (h : t.isOpen = true) : t.part? (.index i) = none := by
  rcases isOpen_eq_true.1 h with rfl | ⟨es, rfl⟩ <;> rfl

/-- The value is then at the end of the path, unless it is a null that was not there. -/
theorem at?_updated? (v : Tree) (ks : List String) (input : Option Tree) :
    (updated? v ks input).bind (at? ks) =
      if input.bind (at? ks) = none ∧ v = .null then none else some v := by
  induction ks generalizing input with
  | nil =>
    cases input with
    | none =>
      by_cases hv : v = .null
      · subst hv
        rfl
      · simp [updated?, isNull_eq_false.2 hv, hv, at?]
    | some t => simp [updated?, at?]
  | cons k ks ih =>
    have hsplit (o : Option Tree) :
        o.bind (at? (k :: ks)) = (o.bind (Tree.get? k)).bind (at? ks) := by
      rw [Option.bind_assoc]
      rfl
    rw [hsplit, hsplit, updated?, ← get?_getD, get?_replaced, if_pos rfl, ih, get?_getD]

/-- What is neither on the path nor behind its end is not touched. -/
theorem along?_updated? (v : Tree) (hopen : openTo ks (input.getD .null) = true)
    (hbefore : ¬ path <+: ks.map .key) (hbehind : ¬ ks.map .key <+: path) :
    (updated? v ks input).bind (along? path) = input.bind (along? path) := by
  induction ks generalizing input path with
  | nil => exact absurd List.nil_prefix hbehind
  | cons k ks ih =>
    cases path with
    | nil => exact absurd List.nil_prefix hbefore
    | cons s path =>
      rw [openTo, Bool.and_eq_true] at hopen
      have hsplit (o : Option Tree) :
          o.bind (along? (s :: path)) = ((o.getD .null).part? s).bind (along? path) := by
        cases o with
        | none => cases s <;> rfl
        | some t => rfl
      rw [hsplit, hsplit, updated?]
      cases s with
      | index i =>
        rw [part?_index_of_isOpen isOpen_replaced, part?_index_of_isOpen hopen.1]
      | key j =>
        rw [part?_key, part?_key, get?_replaced]
        split
        · next hkj =>
          subst hkj
          rw [List.map_cons, List.cons_prefix_cons] at hbefore hbehind
          exact ih hopen.2 (fun h => hbefore ⟨rfl, h⟩) fun h => hbehind ⟨rfl, h⟩
        · rfl

theorem openTo_updated? : openTo ks ((updated? v ks input).getD .null) = true := by
  induction ks generalizing input with
  | nil => rfl
  | cons k ks ih =>
    rw [openTo, updated?, isOpen_replaced, Bool.true_and, child, get?_replaced, if_pos rfl]
    exact ih

theorem ordered_updated? (ks : List String) (hv : v.Ordered) (hi : (input.getD .null).Ordered) :
    ((updated? v ks input).getD .null).Ordered := by
  induction ks generalizing input with
  | nil =>
    rw [updated?]
    split
    · exact ordered_null
    · exact hv
  | cons k ks ih =>
    have hinner := ih (hi.child k)
    rw [updated?]
    cases hu : updated? v ks ((input.getD .null).get? k) with
    | some u =>
      rw [hu] at hinner
      exact hi.entries.insert hinner
    | none =>
      rw [replaced]
      split
      · exact ordered_null
      · exact hi.entries.erase

/-- A null that was not there is not put there. -/
theorem updated?_null_none : updated? .null ks none = none := by
  induction ks with
  | nil => rfl
  | cons k ks ih =>
    have hget : (Option.getD none Tree.null).get? k = none := rfl
    rw [updated?, hget, ih]
    rfl

theorem updated?_ne_none (hv : v ≠ .null) : updated? v ks input ≠ none := by
  intro h
  have hat := at?_updated? v ks input
  rw [h, if_neg fun hc => hv hc.2] at hat
  cases hat

/-- A value with the canonical form of the one that is there changes nothing that counts. -/
theorem canonical_updated? (hv : v.Ordered) (hi : (input.getD .null).Ordered)
    (hopen : openTo ks (input.getD .null) = true)
    (hsame : canonical v = canonical (within ks (input.getD .null))) :
    canonical ((updated? v ks input).getD .null) = canonical (input.getD .null) := by
  induction ks generalizing input with
  | nil =>
    rw [updated?]
    split
    · next h =>
      rw [Bool.and_eq_true, Option.isNone_iff_eq_none] at h
      rw [h.1]
    · exact hsame
  | cons k ks ih =>
    have hordered := ordered_updated? (k :: ks) hv hi
    rw [openTo, Bool.and_eq_true] at hopen
    have hinner : canonical ((updated? v ks ((input.getD .null).get? k)).getD .null) =
        canonical ((input.getD .null).child k) := ih (hi.child k) hopen.2 hsame
    rw [updated?] at hordered ⊢
    rcases isOpen_eq_true.1 hopen.1 with hnull | hmap
    · rw [hnull] at hsame ⊢
      have hvnull : v = .null := by simpa using hsame
      have hget : Tree.null.get? k = none := rfl
      rw [hvnull, hget, updated?_null_none]
      rfl
    · rw [canonical_eq_iff_child hordered hi (exists_map_replaced hmap) hmap]
      intro j
      rw [child, get?_replaced]
      split
      · next hkj =>
        subst hkj
        exact hinner
      · rfl

theorem entries_replaced (hkj : k ≠ j) :
    Entries.get? j ((replaced k t o).getD .null).entries = Entries.get? j t.entries := by
  rw [get?_entries, get?_entries, get?_replaced, if_neg hkj]

theorem ordered_entries_replaced (ht : t.Ordered) :
    Entries.Ordered ((replaced k t o).getD .null).entries := by
  have hte := (ordered_map.1 ht.entries).1
  cases o with
  | some v => exact hte.insert
  | none =>
    rw [replaced]
    split
    · exact Entries.ordered_nil
    · exact hte.erase

/-- Of two values that are put under a key the second one counts. -/
theorem replaced_replaced (ht : t.Ordered) (h : o' = none → o = none) :
    replaced k ((replaced k t o).getD .null) o' = replaced k t o' := by
  have hte := (ordered_map.1 ht.entries).1
  have hue : Entries.Ordered ((replaced k t o).getD .null).entries := ordered_entries_replaced ht
  cases o' with
  | some v =>
    exact congrArg (some <| Tree.map ·) (Entries.insert_congr hue hte fun _ => entries_replaced)
  | none =>
    obtain rfl := h rfl
    rw [replaced]
    by_cases hnull : t = .null
    · subst hnull
      rfl
    · rw [if_neg (by simp [replaced, hnull]), Entries.erase_congr hue hte fun _ => entries_replaced,
        replaced, if_neg hnull]

/-- Of two updates at the end of a path the second one counts. Where there was nothing, a null can
only follow a null, though: it would not be put there, but it would stay. -/
theorem updated?_updated? (hi : (input.getD .null).Ordered) (h : w = .null → v = .null) :
    updated? w ks (updated? v ks input) = updated? w ks input := by
  induction ks generalizing input with
  | nil =>
    cases input with
    | some t => rfl
    | none =>
      cases hn : v.isNull with
      | true => simp only [updated?, hn, Option.isNone_none, Bool.and_self, ↓reduceIte]
      | false =>
        have hw : w.isNull = false :=
          isNull_eq_false.2 fun hw => isNull_eq_false.1 hn (h hw)
        simp [updated?, hn, hw]
  | cons k ks ih =>
    have hinner : updated? w ks (updated? v ks ((input.getD .null).get? k)) =
        updated? w ks ((input.getD .null).get? k) := ih (hi.child k)
    rw [updated?, updated?, get?_replaced, if_pos rfl, hinner, updated?, replaced_replaced hi]
    intro hnone
    by_cases hw : w = .null
    · rw [hw] at hnone
      rwa [h hw]
    · exact absurd hnone (updated?_ne_none hw)

/-- The tree when the value at the end of the path becomes `v`. -/
def updated (ks : List String) (v t : Tree) : Tree := (updated? v ks (some t)).getD .null

/-- The reducer runs once, on the value at the end of the path, or not at all. -/
theorem reduceNested_eq (hks : ks ≠ []) :
    reduceNested ks r t =
      if openTo ks t = true then (do
        let v ← (r (within ks t)).locate (.atPath ks)
        return updated ks v t)
      else .fail (.atPath ks .notMap) := by
  rw [reduceNested, if_neg (by simpa using hks), reducePath_eq, Option.getD_some]
  split
  · rw [Traced.locate_map, map_eq_pure_bind, bind_assoc]
    rfl
  · rfl

theorem setNested_eq (hks : ks ≠ []) :
    setNested ks v t =
      if openTo ks t = true then pure (updated ks v t) else .fail (.atPath ks .notMap) :=
  reduceNested_eq hks

theorem at?_updated :
    (updated ks v t).at? ks = if t.at? ks = none ∧ v = .null then none else some v := by
  have hat := at?_updated? v ks (some t)
  rw [Option.bind_some] at hat
  cases ks with
  | nil => rfl
  | cons k ks =>
    rw [← hat, updated]
    cases updated? v (k :: ks) (some t) <;> rfl

theorem within_updated : within ks (updated ks v t) = v := by
  rw [within_eq_at?, at?_updated]
  split
  · next h => exact h.2.symm
  · rfl

theorem along?_updated (hopen : openTo ks t = true) (hbefore : ¬ path <+: ks.map .key)
    (hbehind : ¬ ks.map .key <+: path) : (updated ks v t).along? path = t.along? path := by
  have halong : (updated? v ks (some t)).bind (along? path) = t.along? path :=
    along?_updated? v hopen hbefore hbehind
  rw [← halong, updated]
  cases updated? v ks (some t) with
  | some u => rfl
  | none =>
    cases path with
    | nil => exact absurd List.nil_prefix hbefore
    | cons s path => cases s <;> rfl

theorem openTo_updated : openTo ks (updated ks v t) = true := openTo_updated?

theorem ordered_updated (hv : v.Ordered) (ht : t.Ordered) : (updated ks v t).Ordered :=
  ordered_updated? ks hv ht

theorem equal_updated (hv : v.Ordered) (ht : t.Ordered) (hopen : openTo ks t = true)
    (hsame : canonical v = canonical (within ks t)) : (updated ks v t).equal t = true :=
  (equal_iff_canonical (ordered_updated hv ht) ht).2 (canonical_updated? hv ht hopen hsame)

theorem updated_updated (ht : t.Ordered) (h : w = .null → v = .null) :
    updated ks w (updated ks v t) = updated ks w t := by
  have hsecond : updated? w ks (updated? v ks (some t)) = updated? w ks (some t) :=
    updated?_updated? ht h
  cases ks with
  | nil => rfl
  | cons k ks => exact congrArg (Option.getD · .null) hsecond

end Reducer

section

open Reducer

variable {keys : List String} {k : String} {r : Reducer} {t u v w : Tree}

/-- The one tree is the other with `v` at the end of the path, unless that is a null that was not
there before. -/
structure UpdatedAt (keys : List String) (v t u : Tree) : Prop where
  set : t.at? keys ≠ none ∨ v ≠ .null → u.at? keys = some v
  unset : t.at? keys = none → v = .null → u.at? keys = none ∧ u.equal t = true
  apart : ∀ path : List Step, ¬ path <+: keys.map .key → ¬ keys.map .key <+: path →
    u.along? path = t.along? path

theorem updatedAt_updated (ht : t.Ordered) (hopen : openTo keys t = true) :
    UpdatedAt keys v t (updated keys v t) where
  set h := by
    rw [at?_updated, if_neg]
    rintro ⟨hnone, hnull⟩
    exact h.elim (absurd hnone) (absurd hnull)
  unset hnone hnull := by
    subst hnull
    refine ⟨by rw [at?_updated, if_pos ⟨hnone, rfl⟩], equal_updated ordered_null ht hopen ?_⟩
    rw [within_eq_at?, hnone, Option.getD_none]
  apart path hbefore hbehind := along?_updated hopen hbefore hbehind

/-- **A reducer under keys is a lawful update.** If there is something in the way, the reducer is
not run; the failure is the same for all of them. Otherwise it runs once, on the value at the end of
the path, and what it gives is put there, with all else as before. So of two values that are set at
one place the second one counts. -/
theorem reduceNested_lawful (hkeys : keys ≠ []) (ht : t.Ordered) :
    (Blocked keys t → ∀ r, reduceNested keys r t = .fail (.atPath keys .notMap)) ∧
      (¬ Blocked keys t → ∃ update : Tree → Tree,
        (∀ r, reduceNested keys r t = do
          let v ← (r ((t.at? keys).getD .null)).locate (.atPath keys)
          return update v) ∧
        ∀ v, UpdatedAt keys v t (update v)) ∧
      ∀ v w, w ≠ .null → (setNested keys v t >>= setNested keys w) = setNested keys w t := by
  refine ⟨fun hblocked r => ?_, fun hfree => ⟨(updated keys · t), fun r => ?_, fun v => ?_⟩,
    fun v w hw => ?_⟩
  · rw [reduceNested_eq hkeys, if_neg (by simp [openTo_eq_false_iff.2 hblocked])]
  · rw [reduceNested_eq hkeys, if_pos (openTo_of_not_blocked hfree), within_eq_at?]
  · exact updatedAt_updated ht (openTo_of_not_blocked hfree)
  · rw [setNested_eq hkeys, setNested_eq hkeys]
    split
    · rw [pure_bind, setNested_eq hkeys, if_pos openTo_updated, updated_updated ht (absurd · hw)]
    · rfl

/-- An object with null where its metadata will be. -/
def draftObject : Tree := .map [
  ("metadata", .null),
  ("spec", .map [("paused", .bool true), ("replicas", .int 2)]),
  ("status", .str "waiting")]

theorem reduceNested_lawful_draftObject :
    draftObject.Ordered ∧ Blocked ["status", "phase"] draftObject ∧
      ¬ Blocked ["metadata", "labels"] draftObject ∧
      (∀ r, reduceNested ["status", "phase"] r draftObject =
        .fail (.atPath ["status", "phase"] .notMap)) ∧
      (∃ update : Tree → Tree,
        (∀ r, reduceNested ["metadata", "labels"] r draftObject = do
          let v ← (r .null).locate (.atPath ["metadata", "labels"])
          return update v) ∧
        (update Tree.empty).at? ["metadata", "labels"] = some Tree.empty ∧
        (update Tree.empty).at? ["status"] = some (.str "waiting") ∧
        (update .null).at? ["metadata", "labels"] = none ∧
        (update .null).equal draftObject = true) ∧
      (setNested ["spec", "replicas"] .null draftObject >>=
          setNested ["spec", "replicas"] (.int 3)) =
        setNested ["spec", "replicas"] (.int 3) draftObject := by
  have hordered : draftObject.Ordered := by decide
  have hblocked : Blocked ["status", "phase"] draftObject := by decide
  have hfree : ¬ Blocked ["metadata", "labels"] draftObject := by decide
  obtain ⟨hfail, -, -⟩ := @reduceNested_lawful ["status", "phase"] _ (by simp) hordered
  obtain ⟨-, hupdate, -⟩ := @reduceNested_lawful ["metadata", "labels"] _ (by simp) hordered
  obtain ⟨-, -, hset⟩ := @reduceNested_lawful ["spec", "replicas"] _ (by simp) hordered
  obtain ⟨update, hrun, hat⟩ := hupdate hfree
  have hunset := (hat .null).unset rfl rfl
  have hapart := (hat Tree.empty).apart [.key "status"] (by decide) (by decide)
  rw [show [Step.key "status"] = ["status"].map .key from rfl, along?_keys, along?_keys] at hapart
  exact ⟨hordered, hblocked, hfree, hfail hblocked, ⟨update, hrun, (hat _).set (.inr (by decide)),
    hapart, hunset.1, hunset.2⟩, hset _ _ (by decide)⟩

/-- The one tree is the other without what is at the end of the path. -/
structure DeletedAt (keys : List String) (t u : Tree) : Prop where
  gone : u.at? keys = none
  apart : ∀ path : List Step, ¬ path <+: keys.map .key → ¬ keys.map .key <+: path →
    u.along? path = t.along? path
  unchanged : (t.at? keys).getD .null = .null → u.equal t = true
  maps : ∀ front es, u.at? front = some (.map es) → ∃ fs, t.at? front = some (.map fs)
  again : deleteNested keys u = pure u

/-- A map without the key, and anything else as it is. -/
def Tree.without (k : String) : Tree → Tree
  | .map es => .map (Entries.erase k es)
  | t => t

theorem filterKey_ne : filterKey (fun j => some k != some j) t =
    if t.isMap = true then pure (t.without k) else .fail .notMap := by
  cases t with
  | map es =>
    refine congrArg (fun fs => pure (Tree.map fs)) (List.filter_congr fun e _ => ?_)
    rw [Bool.eq_iff_iff, bne_iff_ne, decide_eq_true_iff, ne_eq, Option.some_inj, ne_comm]
  | _ => rfl

theorem deleteNested_single : deleteNested [k] t =
    if t.isMap = true then pure (t.without k) else .fail .notMap := by
  rw [← filterKey_ne]
  exact reduceNested_nil

theorem deleteNested_concat {parents : List String} (hparents : parents ≠ []) :
    deleteNested (parents ++ [k]) t =
      if openTo (parents ++ [k]) t = true then
        pure (updated parents ((within parents t).without k) t)
      else .fail (.atPath parents .notMap) := by
  have hempty : parents.isEmpty = false := by simpa using hparents
  rw [deleteNested, List.dropLast_concat, List.getLast?_concat, reduceNested_eq hparents,
    openTo_concat, filterKey_ne, hempty, Bool.false_or]
  cases openTo parents t with
  | false => rfl
  | true => cases within parents t <;> rfl

theorem part?_without {s : Step} (h : s ≠ .key k) : (t.without k).part? s = t.part? s := by
  cases t with
  | map es =>
    cases s with
    | key j => exact Entries.get?_erase.trans (if_neg fun hkj => h (congrArg Step.key hkj.symm))
    | index i => rfl
  | _ => rfl

theorem get?_without : (t.without k).get? k = none := by
  cases t with
  | map es => exact Entries.get?_erase.trans (if_pos rfl)
  | _ => rfl

theorem without_without : (t.without k).without k = t.without k := by
  cases t with
  | map es => exact congrArg Tree.map (List.filter_eq_self.2 fun e he => (List.mem_filter.1 he).2)
  | _ => rfl

theorem isOpen_without : (t.without k).isOpen = t.isOpen := by
  cases t <;> rfl

theorem Tree.Ordered.without (h : t.Ordered) : (t.without k).Ordered := by
  cases t with
  | map es => exact h.erase
  | _ => exact h

theorem Tree.Pruned.exists_map_right {es : List (String × Tree)} (h : Pruned (.map es) t) :
    ∃ fs, t = .map fs := by
  cases h with
  | refl => exact ⟨es, rfl⟩
  | map => exact ⟨_, rfl⟩

theorem canonical_without (ht : t.Ordered) (h : t.child k = .null) :
    canonical (t.without k) = canonical t := by
  cases t with
  | map es =>
    rw [canonical_eq_iff_child ht.without ht ⟨_, rfl⟩ ⟨_, rfl⟩]
    intro j
    by_cases hj : j = k
    · rw [hj, h, child, get?_without]
      rfl
    · rw [child, ← part?_key, part?_without (by simpa using hj), part?_key]
      rfl
  | _ => rfl

theorem deletedAt_updated (parents : List String) (ht : t.Ordered) (hopen : openTo parents t = true)
    (hu : u = updated parents ((within parents t).without k) t)
    (hrun : deleteNested (parents ++ [k]) t = pure u)
    (hagain : deleteNested (parents ++ [k]) u = pure u) : DeletedAt (parents ++ [k]) t u where
  gone := by
    rw [at?_append, hu, at?_updated]
    split
    · rfl
    · rw [Option.bind_some, at?, get?_without]
      rfl
  apart path hbefore hbehind := by
    rw [List.map_append] at hbefore hbehind
    have hnotprefix : ¬ path <+: parents.map .key := fun h =>
      hbefore (h.trans (List.prefix_append _ _))
    by_cases hparents : parents.map .key <+: path
    · obtain ⟨rest, rfl⟩ := hparents
      rw [List.prefix_append_right_inj] at hbefore hbehind
      rw [along?_append, along?_append, along?_keys, along?_keys, hu, at?_updated]
      cases rest with
      | nil => exact absurd List.nil_prefix hbefore
      | cons s rest =>
        have hs : s ≠ .key k := by
          rintro rfl
          exact hbehind (List.prefix_append [Step.key k] rest)
        cases hat : t.at? parents with
        | none => rw [within_eq_at?, hat, if_pos ⟨rfl, rfl⟩]
        | some v =>
          rw [within_of_at? hat, if_neg (by simp), Option.bind_some, Option.bind_some, along?_cons,
            along?_cons, part?_without hs]
    · rw [hu]
      exact along?_updated hopen hnotprefix hparents
  unchanged h := by
    rw [hu]
    refine equal_updated (ht.within _).without ht hopen (canonical_without (ht.within _) ?_)
    rwa [← within_concat, within_eq_at?]
  maps front es h := by
    have hpruned : Pruned u t := prunes_deleteNested t u (by rw [hrun]; rfl)
    rw [at?_eq_some_iff (by simp)] at h
    have hmap : Pruned (within front u) (within front t) := hpruned.within (by simp [h])
    rw [h] at hmap
    obtain ⟨fs, hfs⟩ := hmap.exists_map_right
    exact ⟨fs, (at?_eq_some_iff (by simp)).2 hfs⟩
  again := hagain

/-- Under at least one other key the last one can be taken away where nothing is in the way. -/
theorem exists_deletedAt {parents : List String} (hparents : parents ≠ []) (ht : t.Ordered)
    (hfree : ¬ Blocked (parents ++ [k]) t) :
    ∃ u, deleteNested (parents ++ [k]) t = pure u ∧ DeletedAt (parents ++ [k]) t u := by
  have hopen := openTo_of_not_blocked hfree
  have hrun := (deleteNested_concat hparents).trans (if_pos hopen)
  rw [openTo_concat, Bool.and_eq_true] at hopen
  refine ⟨_, hrun, deletedAt_updated parents ht hopen.1 rfl hrun ?_⟩
  rw [deleteNested_concat hparents, openTo_concat, openTo_updated, within_updated,
    isOpen_without, hopen.2, without_without, updated_updated ht id]
  rfl

/-- **Deleting takes one path away and nothing else.** Under other keys it fails exactly when there
is something in the way; a single key can only be taken away from a map. -/
theorem deleteNested_lawful (ht : t.Ordered) :
    (∀ keys : List String, 2 ≤ keys.length →
      (Blocked keys t → deleteNested keys t = .fail (.atPath keys.dropLast .notMap)) ∧
      (¬ Blocked keys t → ∃ u, deleteNested keys t = pure u ∧ DeletedAt keys t u)) ∧
    ∀ k, (t.isMap = false → deleteNested [k] t = .fail .notMap) ∧
      ∀ es, t = .map es → deleteNested [k] t = pure (.map (Entries.erase k es)) ∧
        DeletedAt [k] t (.map (Entries.erase k es)) := by
  refine ⟨fun keys hkeys => ?_, fun k => ⟨fun hmap => ?_, ?_⟩⟩
  · obtain ⟨parents, k, rfl⟩ : ∃ parents k, keys = parents ++ [k] := by
      rcases keys.eq_nil_or_concat with rfl | h
      · simp at hkeys
      · simpa using h
    have hparents : parents ≠ [] := by
      rintro rfl
      simp at hkeys
    refine ⟨fun hblocked => ?_, exists_deletedAt hparents ht⟩
    rw [deleteNested_concat hparents, if_neg (by simp [openTo_eq_false_iff.2 hblocked]),
      List.dropLast_concat]
  · rw [deleteNested_single, if_neg (by simp [hmap])]
  · rintro es rfl
    have hrun : deleteNested [k] (.map es) = pure (.map (Entries.erase k es)) :=
      deleteNested_single
    refine ⟨hrun, deletedAt_updated [] ht rfl rfl hrun ?_⟩
    exact deleteNested_single.trans (congrArg pure (without_without (t := .map es)))

theorem deleteNested_lawful_draftObject :
    draftObject.Ordered ∧ Blocked ["status", "phase"] draftObject ∧
      ¬ Blocked ["spec", "replicas"] draftObject ∧
      deleteNested ["status", "phase"] draftObject = .fail (.atPath ["status"] .notMap) ∧
      deleteNested ["spec", "replicas"] draftObject = pure (.map [
        ("metadata", .null),
        ("spec", .map [("paused", .bool true)]),
        ("status", .str "waiting")]) ∧
      (∃ u, deleteNested ["spec", "replicas"] draftObject = pure u ∧
        DeletedAt ["spec", "replicas"] draftObject u) ∧
      deleteNested ["spec"] draftObject =
        pure (.map [("metadata", .null), ("status", .str "waiting")]) := by
  have hordered : draftObject.Ordered := by decide
  have hblocked : Blocked ["status", "phase"] draftObject := by decide
  have hfree : ¬ Blocked ["spec", "replicas"] draftObject := by decide
  obtain ⟨hnested, hsingle⟩ := deleteNested_lawful hordered
  refine ⟨hordered, hblocked, hfree, (hnested _ (by simp)).1 hblocked, rfl,
    (hnested _ (by simp)).2 hfree, ((hsingle "spec").2 _ rfl).1⟩

end

end PreviewEnv
