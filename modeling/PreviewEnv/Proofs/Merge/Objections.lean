import PreviewEnv.Proofs.Merge.Pointwise
import PreviewEnv.Proofs.Tree.Steps

/-!
A strategy that refuses some patches, and merges by structure otherwise, is asked
about every value of the patch that meets one of the base, depth first and in the
order of keys and positions.
-/

namespace PreviewEnv

namespace Tree

variable {s : Strategy} {bad : Tree → Option ReduceError} {b c p q : Tree} {bs ps : List Tree}
  {es fs : List (String × Tree)} {step other : Step} {path path' : List Step}
  {e e' : ReduceError} {k : String}

/-- The two trees have these values at the step. -/
def Meets (b p : Tree) (step : Step) (c q : Tree) : Prop :=
  b.part? step = some c ∧ p.part? step = some q

theorem Meets.alike (h : Meets b p step c q) : Alike b p := alike_of_part? h.1 h.2

/-- What meets in two arrays are their first elements or meets in what is left of the two. -/
theorem meets_arr_cons :
    Meets (arr (b :: bs)) (arr (p :: ps)) step c q ↔
      (step = .index 0 ∧ c = b ∧ q = p) ∨
        ∃ j, step = .index (j + 1) ∧ Meets (arr bs) (arr ps) (.index j) c q := by
  cases step with
  | key k => simp [Meets, part?]
  | index j => cases j <;> simp [Meets, part?, eq_comm]

/-- What meets in two maps is under the first key of the patch, or meets in what is left when the
entry there is replaced. -/
theorem meets_map_cons (t : Tree) (hf : Entries.Ordered ((k, p) :: fs)) :
    Meets (map es) (map ((k, p) :: fs)) step c q ↔
      (step = .key k ∧ Entries.get? k es = some c ∧ q = p) ∨
        Meets (map (if t.isNull then Entries.erase k es else Entries.insert k t es)) (map fs)
          step c q := by
  cases step with
  | index i => simp [Meets, part?]
  | key j =>
    by_cases hj : k = j
    · subst hj
      simp [Meets, part?, Entries.get?_cons, hf.get?_tail, @eq_comm _ q]
    · have hne : j ≠ k := Ne.symm hj
      simp only [Meets, part?, get?_replaced_of_ne hj, Entries.get?_cons, if_neg hj,
        Step.key.injEq, hne, false_and, false_or]

/-- The patch has nothing under the keys before its first one. -/
theorem not_meets_before (hf : Entries.Ordered ((k, p) :: fs)) (h : other.Before (.key k)) :
    ¬ Meets (map es) (map ((k, p) :: fs)) other c q := by
  intro hm
  cases other with
  | index i => cases h
  | key j =>
    have hq : Entries.get? j ((k, p) :: fs) = some q := hm.2
    rw [hf.get?_of_lt h] at hq
    cases hq

/-- The two are merged as by structure. -/
def Passes (s : Strategy) (b p : Tree) : Prop := s.merge b p = .ok (overlay .byPosition b p)

theorem mergeItems_cons_of_passes (i : Nat) (h : Passes s b p) :
    s.mergeItems i (b :: bs) (p :: ps) =
      (overlay .byPosition b p :: ·) <$> s.mergeItems (i + 1) bs ps := by
  rw [Strategy.mergeItems, h]
  rfl

theorem mergeItems_cons_of_error (i : Nat) (h : s.merge b p = .error e) :
    s.mergeItems i (b :: bs) (p :: ps) = .error (.atIndex i e) := by
  rw [Strategy.mergeItems, h]
  rfl

/-- A merge of items fails with the first pair that does. -/
theorem ends_mergeItems (i : Nat)
    (h : ∀ step c q, Meets (arr bs) (arr ps) step c q →
      Passes s c q ∨ ∃ e, s.merge c q = .error e) :
    (s.mergeItems i bs ps = .ok (overlayItems .byPosition bs ps) ∧
      ∀ step c q, Meets (arr bs) (arr ps) step c q → Passes s c q) ∨
    ∃ j c q e, Meets (arr bs) (arr ps) (.index j) c q ∧ s.merge c q = .error e ∧
      s.mergeItems i bs ps = .error (.atIndex (i + j) e) ∧
      ∀ other c q, other.Before (.index j) → Meets (arr bs) (arr ps) other c q →
        Passes s c q := by
  induction ps generalizing bs i with
  | nil => exact .inl ⟨rfl, fun step => by cases step <;> simp [Meets, part?]⟩
  | cons p ps ih =>
    cases bs with
    | nil => exact .inl ⟨rfl, fun step => by cases step <;> simp [Meets, part?]⟩
    | cons b bs =>
      rcases h (.index 0) b p ⟨rfl, rfl⟩ with hpass | ⟨e, he⟩
      · have htail (step c q) (hm : Meets (arr bs) (arr ps) step c q) :
            Passes s c q ∨ ∃ e, s.merge c q = .error e := by
          cases step with
          | key k => cases hm.1
          | index j => exact h _ c q (meets_arr_cons.2 (.inr ⟨j, rfl, hm⟩))
        rw [mergeItems_cons_of_passes i hpass]
        rcases ih (i + 1) htail with ⟨hok, hall⟩ | ⟨j, c, q, e, hm, he, herr, hlt⟩
        · left
          refine ⟨by rw [hok]; rfl, fun step c q hm => ?_⟩
          rcases meets_arr_cons.1 hm with ⟨rfl, rfl, rfl⟩ | ⟨j, rfl, hm⟩
          · exact hpass
          · exact hall (.index j) c q hm
        · right
          refine ⟨j + 1, c, q, e, meets_arr_cons.2 (.inr ⟨j, rfl, hm⟩), he, ?_, ?_⟩
          · rw [herr, Nat.add_right_comm, Nat.add_assoc]
            rfl
          · intro other c q hbefore hm
            rcases meets_arr_cons.1 hm with ⟨rfl, rfl, rfl⟩ | ⟨l, rfl, hm⟩
            · exact hpass
            · exact hlt (.index l) c q (Nat.lt_of_succ_lt_succ hbefore) hm
      · exact .inr ⟨0, b, p, e, ⟨rfl, rfl⟩, he, mergeItems_cons_of_error i he,
          fun _ _ _ hbefore => absurd hbefore Step.not_before_zero⟩

/-- The first entry of the patch replaces one, and the others are laid over what that gives. -/
theorem overlay_map_cons (m : Matching) (es fs : List (String × Tree)) (k : String) (p : Tree) :
    overlay m (map es) (map ((k, p) :: fs)) =
      overlay m (map (if (overlay m ((map es).child k) p).isNull then Entries.erase k es
        else Entries.insert k (overlay m ((map es).child k) p) es)) (map fs) := by
  rw [overlay, overlay, overlayEntries]

theorem mergeEntries_cons_of_passes (h : ∀ c, Entries.get? k es = some c → Passes s c p) :
    s.mergeEntries es ((k, p) :: fs) =
      s.mergeEntries (if (overlay .byPosition ((map es).child k) p).isNull then Entries.erase k es
        else Entries.insert k (overlay .byPosition ((map es).child k) p) es) fs := by
  rw [Strategy.mergeEntries, child_map]
  cases hk : Entries.get? k es with
  | none =>
    rw [Option.getD_none, overlay_null_left]
    rfl
  | some c =>
    have hc : s.merge c p = .ok (overlay .byPosition c p) := h c hk
    simp only [hc]
    rfl

theorem mergeEntries_cons_of_error (hk : Entries.get? k es = some c) (h : s.merge c p = .error e) :
    s.mergeEntries es ((k, p) :: fs) = .error (.atKey k e) := by
  rw [Strategy.mergeEntries, hk]
  simp only [h]
  rfl

/-- How a merge ends that goes on to the parts of the two. -/
inductive Ends (s : Strategy) (b p : Tree) : Except ReduceError Tree → Prop
  /-- All parts that meet are merged as by structure. -/
  | passed (h : ∀ step c q, Meets b p step c q → Passes s c q) :
      Ends s b p (.ok (overlay .byPosition b p))
  /-- A part fails, and none before it. -/
  | failed {step : Step} {c q : Tree} {e : ReduceError} (hm : Meets b p step c q)
      (he : s.merge c q = .error e)
      (hlt : ∀ other c q, other.Before step → Meets b p other c q → Passes s c q) :
      Ends s b p (.error (e.along [step]))

/-- A merge of entries fails with the first pair that does. -/
theorem ends_mergeEntries (hf : Entries.Ordered fs)
    (h : ∀ step c q, Meets (map es) (map fs) step c q →
      Passes s c q ∨ ∃ e, s.merge c q = .error e) :
    Ends s (map es) (map fs) (map <$> s.mergeEntries es fs) := by
  induction fs generalizing es with
  | nil => exact .passed fun step c q hm => by cases step <;> simp [Meets, part?] at hm
  | cons f fs ih =>
    obtain ⟨k, p⟩ := f
    have hk : Entries.get? k ((k, p) :: fs) = some p := by rw [Entries.get?_cons, if_pos rfl]
    by_cases hpass : ∀ c, Entries.get? k es = some c → Passes s c p
    · have hcons {step : Step} {c q : Tree} : Meets (map es) (map ((k, p) :: fs)) step c q ↔ _ :=
        meets_map_cons (overlay .byPosition ((map es).child k) p) hf
      have hends := ih (Entries.ordered_cons.1 hf).2 fun step c q hm =>
        h step c q (hcons.2 (.inr hm))
      rw [mergeEntries_cons_of_passes hpass]
      generalize map <$> s.mergeEntries _ fs = r at hends ⊢
      cases hends with
      | passed hall =>
        rw [← overlay_map_cons]
        refine .passed fun step c q hm => ?_
        rcases hcons.1 hm with ⟨rfl, hc, rfl⟩ | hm
        · exact hpass c hc
        · exact hall step c q hm
      | failed hm he hlt =>
        refine .failed (hcons.2 (.inr hm)) he fun other c q hbefore hm => ?_
        rcases hcons.1 hm with ⟨rfl, hc, rfl⟩ | hm
        · exact hpass c hc
        · exact hlt other c q hbefore hm
    · simp only [not_forall] at hpass
      obtain ⟨c, hc, hnot⟩ := hpass
      have hm : Meets (map es) (map ((k, p) :: fs)) (.key k) c p := ⟨hc, hk⟩
      obtain ⟨e, he⟩ := (h _ c p hm).resolve_left hnot
      rw [mergeEntries_cons_of_error hc he]
      exact .failed hm he fun _ _ _ hbefore hm => absurd hm (not_meets_before hf hbefore)

theorem merge_of_rejected (h : bad p = some e) : (Strategy.rejecting bad).merge b p = .error e := by
  have hd : (Strategy.rejecting bad).decide b p = .reject e := by simp only [Strategy.rejecting, h]
  cases p <;> simp only [Strategy.merge, hd]

theorem decide_of_accepted (h : bad p = none) :
    (Strategy.rejecting bad).decide b p = .structural := by
  simp only [Strategy.rejecting, h]

/-- What is not refused is merged by structure: part by part, if both are maps or both arrays. -/
theorem merge_arrays_of_accepted (h : bad (arr ps) = none) :
    (Strategy.rejecting bad).merge (arr bs) (arr ps) =
      arr <$> (Strategy.rejecting bad).mergeItems 0 bs ps := by
  simp only [Strategy.merge, decide_of_accepted h]

theorem merge_maps_of_accepted (h : bad (map fs) = none) :
    (Strategy.rejecting bad).merge (map es) (map fs) =
      map <$> (Strategy.rejecting bad).mergeEntries es fs := by
  simp only [Strategy.merge, decide_of_accepted h]

theorem passes_of_not_alike (h : bad p = none) (hne : ¬ Alike b p) :
    Passes (Strategy.rejecting bad) b p := by
  have hd := decide_of_accepted (b := b) h
  unfold Passes
  cases p with
  | arr ps =>
    cases b with
    | arr bs => exact absurd (.inr ⟨_, _, rfl, rfl⟩) hne
    | _ => simp only [Strategy.merge, hd, overlay]
  | map fs =>
    cases b with
    | map es => exact absurd (.inl ⟨_, _, rfl, rfl⟩) hne
    | _ => simp only [Strategy.merge, hd, overlay]
  | _ => simp only [Strategy.merge, hd, overlay]

/-- A merge that is not refused as a whole ends as its parts do. -/
theorem ends_of_accepted (hp : p.Ordered) (h : bad p = none)
    (hparts : ∀ step c q, Meets b p step c q →
      Passes (Strategy.rejecting bad) c q ∨ ∃ e, (Strategy.rejecting bad).merge c q = .error e) :
    Ends (Strategy.rejecting bad) b p ((Strategy.rejecting bad).merge b p) := by
  by_cases halike : Alike b p
  · rcases halike with ⟨es, fs, rfl, rfl⟩ | ⟨bs, ps, rfl, rfl⟩
    · rw [merge_maps_of_accepted h]
      exact ends_mergeEntries (ordered_map.1 hp).1 hparts
    · rw [merge_arrays_of_accepted h]
      rcases ends_mergeItems 0 hparts with ⟨hok, hall⟩ | ⟨i, c, q, e, hm, he, herr, hlt⟩
      · rw [hok]
        change Ends _ _ _ (.ok (arr (overlayItems .byPosition bs ps)))
        rw [← overlay_byPosition_arr]
        exact .passed hall
      · rw [herr, Nat.zero_add]
        exact .failed hm he hlt
  · have hpass : (Strategy.rejecting bad).merge b p = .ok (overlay .byPosition b p) :=
      passes_of_not_alike h halike
    rw [hpass]
    exact .passed fun step c q hm => absurd hm.alike halike

/-- At the end of the path a value of the patch meets one of the base and is refused with this
error, and no value on the way there is refused. -/
structure Objection (bad : Tree → Option ReduceError) (base patch : Tree) (path : List Step)
    (e : ReduceError) : Prop where
  meets : ∃ b, base.along? path = some b
  refused : ∃ p, patch.along? path = some p ∧ bad p = some e
  reached : ∀ front step rest p, path = front ++ step :: rest → patch.along? front = some p →
    bad p = none

/-- The objection that comes first when values are visited depth first, keys and positions in their
order. -/
structure FirstObjection (bad : Tree → Option ReduceError) (base patch : Tree) (path : List Step)
    (e : ReduceError) : Prop extends Objection bad base patch path e where
  first : ∀ path' e', Objection bad base patch path' e' → path' = path ∨ Earlier path path'

/-- Of a patch that is refused as a whole, nothing else is visited. -/
theorem objection_of_rejected (h : bad p = some e) :
    Objection bad b p path e' ↔ path = [] ∧ e' = e := by
  constructor
  · intro ho
    cases path with
    | nil =>
      obtain ⟨q, hq, hbad⟩ := ho.refused
      cases Option.some.inj hq
      exact ⟨rfl, Option.some.inj (hbad.symm.trans h)⟩
    | cons step path =>
      have hnone := ho.reached [] step path p rfl rfl
      rw [h] at hnone
      cases hnone
  · rintro ⟨rfl, rfl⟩
    exact ⟨⟨b, rfl⟩, ⟨p, rfl, h⟩, fun front step rest q hpath => by simp at hpath⟩

theorem not_objection_nil (h : bad p = none) : ¬ Objection bad b p [] e := by
  intro ho
  obtain ⟨q, hq, hbad⟩ := ho.refused
  cases Option.some.inj hq
  rw [h] at hbad
  cases hbad

/-- Where the patch is not refused as a whole, an objection is one to a part that meets another. -/
theorem objection_cons (h : bad p = none) :
    Objection bad b p (step :: path) e ↔
      ∃ c q, Meets b p step c q ∧ Objection bad c q path e := by
  constructor
  · rintro ⟨⟨b', hb⟩, ⟨p', hp, hbad⟩, hreached⟩
    obtain ⟨c, hc, hb⟩ := Option.bind_eq_some_iff.1 hb
    obtain ⟨q, hq, hp⟩ := Option.bind_eq_some_iff.1 hp
    refine ⟨c, q, ⟨hc, hq⟩, ⟨b', hb⟩, ⟨p', hp, hbad⟩, fun front other rest t hpath ht => ?_⟩
    refine hreached (step :: front) other rest t (by rw [hpath]; rfl) ?_
    rw [along?_cons, hq]
    exact ht
  · rintro ⟨c, q, ⟨hc, hq⟩, ⟨b', hb⟩, ⟨p', hp, hbad⟩, hreached⟩
    refine ⟨⟨b', ?_⟩, ⟨p', ?_, hbad⟩, fun front other rest t hpath ht => ?_⟩
    · rw [along?_cons, hc]
      exact hb
    · rw [along?_cons, hq]
      exact hp
    · cases front with
      | nil =>
        cases Option.some.inj ht
        exact h
      | cons s front =>
        obtain ⟨rfl, rfl⟩ := List.cons.inj hpath
        rw [along?_cons, hq] at ht
        exact hreached front other rest t rfl ht

theorem objection_of_accepted (h : bad p = none) (ho : Objection bad b p path e) :
    ∃ step rest c q, path = step :: rest ∧ Meets b p step c q ∧ Objection bad c q rest e := by
  cases path with
  | nil => exact absurd ho (not_objection_nil h)
  | cons step rest =>
    obtain ⟨c, q, hm, ho⟩ := (objection_cons h).1 ho
    exact ⟨step, rest, c, q, rfl, hm, ho⟩

/-- A part's first objection comes first, if there is none to the parts before it. -/
theorem firstObjection_cons (h : bad p = none) (hm : Meets b p step c q)
    (ho : FirstObjection bad c q path e)
    (hlt : ∀ other c q, other.Before step → Meets b p other c q →
      ∀ path e, ¬ Objection bad c q path e) :
    FirstObjection bad b p (step :: path) e where
  toObjection := (objection_cons h).2 ⟨c, q, hm, ho.toObjection⟩
  first path' e' ho' := by
    obtain ⟨other, rest, c', q', rfl, hm', ho'⟩ := objection_of_accepted h ho'
    rcases Step.before_or_eq hm.2 hm'.2 with hbefore | rfl | hafter
    · exact absurd ho' (hlt other c' q' hbefore hm' rest e')
    · cases hm.1.symm.trans hm'.1
      cases hm.2.symm.trans hm'.2
      rcases ho.first rest e' ho' with rfl | hearlier
      · exact .inl rfl
      · exact .inr (.cons hearlier)
    · exact .inr (.rel hafter)

/-- There is at most one first objection. -/
theorem FirstObjection.unique (h : FirstObjection bad b p path e)
    (h' : FirstObjection bad b p path' e') : path' = path ∧ e' = e := by
  have hpath : path' = path := by
    rcases h.first path' e' h'.toObjection with heq | hlt
    · exact heq
    · rcases h'.first path e h.toObjection with heq | hgt
      · exact heq.symm
      · exact absurd hgt (not_earlier_of_earlier hlt)
  subst hpath
  obtain ⟨q, hq, hbad⟩ := h.refused
  obtain ⟨q', hq', hbad'⟩ := h'.refused
  cases hq.symm.trans hq'
  exact ⟨rfl, Option.some.inj (hbad'.symm.trans hbad)⟩

/-- What a merge says of the objections to its patch. -/
inductive Verdict (bad : Tree → Option ReduceError) (b p : Tree) : Except ReduceError Tree → Prop
  | accepted (h : ∀ path e, ¬ Objection bad b p path e) :
      Verdict bad b p (.ok (overlay .byPosition b p))
  | refused {path : List Step} {e : ReduceError} (h : FirstObjection bad b p path e) :
      Verdict bad b p (.error (e.along path))

section
variable {r : Except ReduceError Tree} {t : Tree}

/-- It fails exactly where there is an objection. -/
theorem Verdict.fails_iff (h : Verdict bad b p r) :
    (∃ e, r = .error e) ↔ ∃ path e, Objection bad b p path e := by
  cases h with
  | accepted hnone =>
    constructor
    · rintro ⟨e, he⟩
      cases he
    · rintro ⟨path, e, ho⟩
      exact absurd ho (hnone path e)
  | refused ho => exact ⟨fun _ => ⟨_, _, ho.toObjection⟩, fun _ => ⟨_, rfl⟩⟩

/-- The error is that of the first objection. -/
theorem Verdict.eq_error_iff (h : Verdict bad b p r) :
    r = .error e ↔ ∃ path source, FirstObjection bad b p path source ∧ e = source.along path := by
  cases h with
  | accepted hnone =>
    constructor
    · intro he
      cases he
    · rintro ⟨path, source, ho, -⟩
      exact absurd ho.toObjection (hnone path source)
  | refused ho =>
    constructor
    · intro he
      exact ⟨_, _, ho, (Except.error.inj he).symm⟩
    · rintro ⟨path, source, ho', rfl⟩
      obtain ⟨rfl, rfl⟩ := ho.unique ho'
      rfl

theorem Verdict.eq_ok (h : Verdict bad b p r) (hnone : ∀ path e, ¬ Objection bad b p path e) :
    r = .ok (overlay .byPosition b p) := by
  cases h with
  | accepted => rfl
  | refused ho => exact absurd ho.toObjection (hnone _ _)

theorem Verdict.not_objection (h : Verdict bad b p r) (hr : r = .ok t) :
    ¬ Objection bad b p path e := by
  intro ho
  obtain ⟨e', he⟩ := h.fails_iff.2 ⟨path, e, ho⟩
  cases hr.symm.trans he

theorem Verdict.eq_ok_or_error (h : Verdict bad b p r) :
    r = .ok (overlay .byPosition b p) ∨ ∃ e, r = .error e := by
  cases h with
  | accepted => exact .inl rfl
  | refused => exact .inr ⟨_, rfl⟩

end

/-- A merge ends with the first objection, or as by structure if there is none. -/
theorem verdict_merge (hp : p.Ordered) :
    Verdict bad b p ((Strategy.rejecting bad).merge b p) := by
  induction p using byPart generalizing b with | part p ih =>
  cases h : bad p with
  | some e =>
    rw [merge_of_rejected h]
    have hroot : FirstObjection bad b p [] e :=
      ⟨(objection_of_rejected h).2 ⟨rfl, rfl⟩, fun _ _ ho =>
        .inl ((objection_of_rejected h).1 ho).1⟩
    exact .refused hroot
  | none =>
    have hparts (step c q) (hm : Meets b p step c q) :
        Verdict bad c q ((Strategy.rejecting bad).merge c q) := ih step q hm.2 (hp.part? hm.2)
    have hends := ends_of_accepted (b := b) hp h fun step c q hm =>
      (hparts step c q hm).eq_ok_or_error
    generalize (Strategy.rejecting bad).merge b p = r at hends ⊢
    cases hends with
    | passed hall =>
      refine .accepted fun path e ho => ?_
      obtain ⟨step, rest, c, q, rfl, hm, ho⟩ := objection_of_accepted h ho
      exact (hparts step c q hm).not_objection (hall step c q hm) ho
    | @failed step c q e hm he hlt =>
      obtain ⟨path, source, ho, rfl⟩ := (hparts step c q hm).eq_error_iff.1 he
      rw [← ReduceError.along_cons]
      exact .refused (firstObjection_cons h hm ho fun other c q hbefore hm _ _ =>
        (hparts other c q hm).not_objection (hlt other c q hbefore hm))

end Tree

/-- **A strategy fails exactly where it objects.** Merging by structure, with objections to patches,
fails if and only if there is an objection to a value of the patch that meets one of the base. The
error is then that of the first objection, with the steps that lead to it around it; otherwise the
result is that of merging by structure. What only the patch has is never objected to. -/
theorem merge_rejecting {bad : Tree → Option ReduceError} {base patch : Tree}
    (hpatch : patch.Ordered) :
    ((∃ e, (Strategy.rejecting bad).merge base patch = .error e) ↔
      ∃ path e, Tree.Objection bad base patch path e) ∧
    (∀ e, (Strategy.rejecting bad).merge base patch = .error e ↔
      ∃ path source, Tree.FirstObjection bad base patch path source ∧ e = source.along path) ∧
    ((∀ path e, ¬ Tree.Objection bad base patch path e) →
      ∃ merged, (Strategy.rejecting bad).merge base patch = .ok merged ∧
        Strategy.default.merge base patch = .ok merged) ∧
    ((∀ path p, patch.along? path = some p → bad p ≠ none → base.along? path = none) →
      ∃ merged, (Strategy.rejecting bad).merge base patch = .ok merged ∧
        Strategy.default.merge base patch = .ok merged) := by
  have hverdict : Tree.Verdict bad base patch ((Strategy.rejecting bad).merge base patch) :=
    Tree.verdict_merge hpatch
  have hok (hnone : ∀ path e, ¬ Tree.Objection bad base patch path e) :
      ∃ merged, (Strategy.rejecting bad).merge base patch = .ok merged ∧
        Strategy.default.merge base patch = .ok merged :=
    ⟨_, hverdict.eq_ok hnone, Strategy.merge_eq_overlay (m := .byPosition) base patch⟩
  refine ⟨hverdict.fails_iff, fun e => hverdict.eq_error_iff, hok, fun hnowhere => hok ?_⟩
  rintro path e ⟨⟨b, hb⟩, ⟨p, hp, hbad⟩, -⟩
  have hnone := hnowhere path p hp (by simp [hbad])
  rw [hb] at hnone
  cases hnone

/-- Two texts are marks that are objected to. -/
def marked (t : Tree) : Option ReduceError :=
  if t = .str "!" then some .notMap else if t = .str "?" then some .notArrayOrMap else none

def service : Tree := .map [
  ("args", .arr [.str "serve", .map [("port", .int 80)]]),
  ("mode", .str "quiet")]

/-- Three marks: one where the base has nothing, and two that meet a value of it. -/
def markedPatch : Tree := .map [
  ("apps", .str "!"),
  ("args", .arr [.str "check", .map [("host", .str "!"), ("port", .str "?")], .str "!"]),
  ("mode", .str "!")]

theorem merge_rejecting_marked :
    markedPatch.Ordered ∧
      (Strategy.rejecting marked).merge service markedPatch =
        .error (.atKey "args" (.atIndex 1 (.atKey "port" .notArrayOrMap))) ∧
      ∃ path source, Tree.FirstObjection marked service markedPatch path source ∧
        source.along path = .atKey "args" (.atIndex 1 (.atKey "port" .notArrayOrMap)) := by
  have hmerge : (Strategy.rejecting marked).merge service markedPatch =
      .error (.atKey "args" (.atIndex 1 (.atKey "port" .notArrayOrMap))) := by decide +kernel
  obtain ⟨path, source, ho, heq⟩ :=
    ((@merge_rejecting marked service markedPatch (by decide)).2.1 _).1 hmerge
  exact ⟨by decide, hmerge, path, source, ho, heq.symm⟩

end PreviewEnv
