import Mathlib.Data.List.Forall2
import PreviewEnv.Proofs.Reduce.Leaves
import PreviewEnv.Proofs.Tree.Steps

namespace PreviewEnv.Tree

variable {f : Tree → Except ReduceError Tree} {t u v w : Tree} {ts us : List Tree}
  {es fs : List (String × Tree)} {step other : Step} {path path' : List Step}
  {e e' : ReduceError} {k : String} {i : Nat}

theorem exists_getElem?_of_forall₂ {α β : Type} {R : α → β → Prop} {as : List α} {bs : List β}
    {a : α} (h : List.Forall₂ R as bs) (ha : as[i]? = some a) :
    ∃ b, bs[i]? = some b ∧ R a b := by
  induction h generalizing i with
  | nil => cases ha
  | @cons x y _ _ hxy _ ih =>
    cases i with
    | zero =>
      cases ha
      exact ⟨y, rfl, hxy⟩
    | succ i => exact ih ha

theorem part?_onLeaves (h : onLeaves f t = .ok u) (hv : t.part? step = some v) :
    ∃ w, u.part? step = some w ∧ onLeaves f v = .ok w := by
  cases step with
  | key k =>
    obtain ⟨es, rfl⟩ := exists_map_of_part? hv
    obtain ⟨fs, rfl, hfs⟩ := onLeaves_map_eq_ok h
    have hk : Entries.get? k es = some v := hv
    rcases get?_onLeaves (k := k) hfs with ⟨hnone, -⟩ | ⟨v', w, hv', hw, hvw⟩
    · cases hnone.symm.trans hk
    · cases hk.symm.trans hv'
      exact ⟨w, hw, hvw⟩
  | index i =>
    obtain ⟨ts, rfl⟩ := exists_arr_of_part? hv
    obtain ⟨us, rfl, hus⟩ := onLeaves_arr_eq_ok h
    exact exists_getElem?_of_forall₂ (forall₂_of_onLeavesOfItems hus) hv

/-- At the end of a path is what the value there has become. -/
theorem along?_onLeaves (h : onLeaves f t = .ok u) (hv : t.along? path = some v) :
    ∃ w, u.along? path = some w ∧ onLeaves f v = .ok w := by
  induction path generalizing t u with
  | nil =>
    cases hv
    exact ⟨u, rfl, h⟩
  | cons step path ih =>
    obtain ⟨c, hc, hv⟩ := Option.bind_eq_some_iff.1 hv
    obtain ⟨d, hd, hcd⟩ := part?_onLeaves h hc
    obtain ⟨w, hw, hvw⟩ := ih hcd hv
    exact ⟨w, by rw [along?_cons, hd]; exact hw, hvw⟩

theorem length_onLeaves (h : onLeavesOfItems f i ts = .ok us) : us.length = ts.length :=
  (forall₂_of_onLeavesOfItems h).length_eq.symm

/-- No part is added. -/
theorem part?_onLeaves_eq_none
    (hf : ∀ t u, t.isScalar = true → f t = .ok u → u.isScalar = true)
    (h : onLeaves f t = .ok u) (hnone : t.part? step = none) : u.part? step = none := by
  cases t with
  | arr ts =>
    obtain ⟨us, rfl, hus⟩ := onLeaves_arr_eq_ok h
    cases step with
    | key k => rfl
    | index i =>
      simp only [part?, List.getElem?_eq_none_iff] at hnone ⊢
      rwa [length_onLeaves hus]
  | map es =>
    obtain ⟨fs, rfl, hfs⟩ := onLeaves_map_eq_ok h
    cases step with
    | index i => rfl
    | key k =>
      have hk : Entries.get? k es = none := hnone
      rcases get?_onLeaves (k := k) hfs with ⟨-, hw⟩ | ⟨v, w, hv, -, -⟩
      · exact hw
      · cases hk.symm.trans hv
  | _ => exact part?_of_isScalar (hf _ _ rfl h)

theorem along?_onLeaves_eq_none
    (hf : ∀ t u, t.isScalar = true → f t = .ok u → u.isScalar = true)
    (h : onLeaves f t = .ok u) (hnone : t.along? path = none) : u.along? path = none := by
  induction path generalizing t u with
  | nil => cases hnone
  | cons step path ih =>
    rw [along?_cons] at hnone ⊢
    cases hc : t.part? step with
    | none => rw [part?_onLeaves_eq_none hf h hc]; rfl
    | some c =>
      obtain ⟨d, hd, hcd⟩ := part?_onLeaves h hc
      rw [hc] at hnone
      rw [hd]
      exact ih hcd hnone

/-- The items before the one that fails are fine. -/
theorem exists_first_item (h : onLeavesOfItems f i ts = .error e) :
    ∃ j v source, ts[j]? = some v ∧ onLeaves f v = .error source ∧
      e = .atIndex (i + j) source ∧
      ∀ l w, l < j → ts[l]? = some w → ∃ u, onLeaves f w = .ok u := by
  induction ts generalizing i with
  | nil => cases h
  | cons t ts ih =>
    rw [onLeavesOfItems] at h
    cases ht : onLeaves f t with
    | error source =>
      rw [ht] at h
      cases h
      exact ⟨0, t, source, rfl, ht, rfl, fun l w hl => absurd hl (Nat.not_lt_zero l)⟩
    | ok u =>
      cases hts : onLeavesOfItems f (i + 1) ts with
      | ok us =>
        rw [ht, hts] at h
        cases h
      | error e' =>
        rw [ht, hts] at h
        cases h
        obtain ⟨j, v, source, hv, hfail, rfl, hbefore⟩ := ih hts
        refine ⟨j + 1, v, source, hv, hfail, ?_, ?_⟩
        · rw [Nat.add_right_comm, Nat.add_assoc]
        · intro l w hl hw
          cases l with
          | zero =>
            cases hw
            exact ⟨u, ht⟩
          | succ l => exact hbefore l w (Nat.lt_of_succ_lt_succ hl) hw

/-- The values under the keys before the one that fails are fine. -/
theorem exists_first_entry (ho : Entries.Ordered es) (h : onLeavesOfEntries f es = .error e) :
    ∃ k v source, Entries.get? k es = some v ∧ onLeaves f v = .error source ∧
      e = .atKey k source ∧
      ∀ j w, j < k → Entries.get? j es = some w → ∃ u, onLeaves f w = .ok u := by
  induction es with
  | nil => cases h
  | cons entry es ih =>
    obtain ⟨k, t⟩ := entry
    rw [onLeavesOfEntries] at h
    cases ht : onLeaves f t with
    | error source =>
      rw [ht] at h
      cases h
      refine ⟨k, t, source, by rw [Entries.get?_cons, if_pos rfl], ht, rfl, ?_⟩
      intro j w hj hw
      rw [ho.get?_of_lt hj] at hw
      cases hw
    | ok u =>
      cases hes : onLeavesOfEntries f es with
      | ok fs =>
        rw [ht, hes] at h
        cases h
      | error e' =>
        rw [ht, hes] at h
        cases h
        obtain ⟨k', v, source, hv, hfail, rfl, hbefore⟩ := ih (Entries.ordered_cons.1 ho).2 hes
        have hne : k ≠ k' := by
          rintro rfl
          rw [ho.get?_tail] at hv
          cases hv
        refine ⟨k', v, source, by rw [Entries.get?_cons, if_neg hne]; exact hv, hfail, rfl, ?_⟩
        intro j w hj hw
        rw [Entries.get?_cons] at hw
        by_cases hjk : k = j
        · rw [if_pos hjk] at hw
          cases hw
          exact ⟨u, ht⟩
        · rw [if_neg hjk] at hw
          exact hbefore j w hj hw

/-- A failure is that of the first part that fails. -/
theorem exists_first_part (ht : t.Ordered) (hs : t.isScalar = false)
    (h : onLeaves f t = .error e) :
    ∃ step v source, t.part? step = some v ∧ onLeaves f v = .error source ∧
      e = source.along [step] ∧
      ∀ other w, other.Before step → t.part? other = some w → ∃ u, onLeaves f w = .ok u := by
  cases t with
  | arr ts =>
    cases hts : onLeavesOfItems f 0 ts with
    | ok us =>
      rw [onLeaves, hts] at h
      cases h
    | error e' =>
      rw [onLeaves, hts] at h
      cases h
      obtain ⟨j, v, source, hv, hfail, rfl, hbefore⟩ := exists_first_item hts
      refine ⟨.index j, v, source, hv, hfail, by rw [Nat.zero_add]; rfl, ?_⟩
      intro other w hother hw
      cases other with
      | key k => cases hw
      | index l => exact hbefore l w hother hw
  | map es =>
    cases hes : onLeavesOfEntries f es with
    | ok fs =>
      rw [onLeaves, hes] at h
      cases h
    | error e' =>
      rw [onLeaves, hes] at h
      cases h
      obtain ⟨k, v, source, hv, hfail, rfl, hbefore⟩ :=
        exists_first_entry (ordered_map.1 ht).1 hes
      refine ⟨.key k, v, source, hv, hfail, rfl, ?_⟩
      intro other w hother hw
      cases other with
      | key j => exact hbefore j w hother hw
      | index i => cases hw
  | _ => cases hs

/-- The function fails with this error at the leaf at the end of the path. -/
def FailsAt (f : Tree → Except ReduceError Tree) (t : Tree) (path : List Step)
    (e : ReduceError) : Prop :=
  ∃ v, t.along? path = some v ∧ v.isScalar = true ∧ f v = .error e

/-- The leaf at the end of the path is the first that the function fails at. -/
structure FirstFailure (f : Tree → Except ReduceError Tree) (t : Tree) (path : List Step)
    (e : ReduceError) : Prop where
  fails : FailsAt f t path e
  first : ∀ path' e', FailsAt f t path' e' → path' = path ∨ Earlier path path'

theorem failsAt_cons :
    FailsAt f t (step :: path) e ↔ ∃ v, t.part? step = some v ∧ FailsAt f v path e := by
  constructor
  · rintro ⟨v, hv, hs, hfail⟩
    obtain ⟨c, hc, hv⟩ := Option.bind_eq_some_iff.1 hv
    exact ⟨c, hc, v, hv, hs, hfail⟩
  · rintro ⟨c, hc, v, hv, hs, hfail⟩
    exact ⟨v, by rw [along?_cons, hc]; exact hv, hs, hfail⟩

theorem not_failsAt_of_ok (h : onLeaves f t = .ok u) : ¬ FailsAt f t path e := by
  rintro ⟨v, hv, hs, hfail⟩
  obtain ⟨w, -, hw⟩ := along?_onLeaves h hv
  rw [onLeaves_scalar hs, hfail] at hw
  cases hw

/-- The first failure in a part comes first in the whole, if there is none in the parts before
it. -/
theorem FirstFailure.cons (hs : t.isScalar = false) (hv : t.part? step = some v)
    (h : FirstFailure f v path e)
    (hbefore : ∀ other w, other.Before step → t.part? other = some w →
      ∃ u, onLeaves f w = .ok u) :
    FirstFailure f t (step :: path) e where
  fails := failsAt_cons.2 ⟨v, hv, h.fails⟩
  first path' e' h' := by
    cases path' with
    | nil =>
      obtain ⟨w, hw, hsw, -⟩ := h'
      cases hw
      rw [hs] at hsw
      cases hsw
    | cons other rest =>
      obtain ⟨w, hw, h'⟩ := failsAt_cons.1 h'
      rcases Step.before_or_eq hv hw with hlt | rfl | hgt
      · obtain ⟨u, hu⟩ := hbefore other w hlt hw
        exact absurd h' (not_failsAt_of_ok hu)
      · cases hv.symm.trans hw
        rcases h.first rest e' h' with rfl | hearlier
        · exact .inl rfl
        · exact .inr (.cons hearlier)
      · exact .inr (.rel hgt)

theorem FirstFailure.unique (h : FirstFailure f t path e) (h' : FirstFailure f t path' e') :
    path' = path ∧ e' = e := by
  have hpath : path' = path := by
    rcases h.first path' e' h'.fails with heq | hlt
    · exact heq
    · rcases h'.first path e h.fails with heq | hgt
      · exact heq.symm
      · exact absurd hgt (not_earlier_of_earlier hlt)
  subst hpath
  obtain ⟨v, hv, -, hfail⟩ := h.fails
  obtain ⟨w, hw, -, hfail'⟩ := h'.fails
  cases hv.symm.trans hw
  exact ⟨rfl, Except.error.inj (hfail'.symm.trans hfail)⟩

theorem exists_firstFailure (ht : t.Ordered) (h : onLeaves f t = .error e) :
    ∃ path source, FirstFailure f t path source ∧ e = source.along path := by
  induction t using byPart generalizing e with | part t ih =>
  cases hs : t.isScalar with
  | true =>
    rw [onLeaves_scalar hs] at h
    refine ⟨[], e, ⟨⟨t, rfl, hs, h⟩, ?_⟩, rfl⟩
    intro path' e' h'
    cases path' with
    | nil => exact .inl rfl
    | cons step rest =>
      obtain ⟨v, hv, -⟩ := failsAt_cons.1 h'
      rw [part?_of_isScalar hs] at hv
      cases hv
  | false =>
    obtain ⟨step, v, source, hv, hfail, rfl, hbefore⟩ := exists_first_part ht hs h
    obtain ⟨path, source', hfirst, rfl⟩ := ih step v hv (ht.part? hv) hfail
    exact ⟨step :: path, source', hfirst.cons hs hv hbefore, by rw [← ReduceError.along_cons]⟩

/-- The error is that of the first leaf that fails, with the steps that lead to it around it. -/
theorem onLeaves_eq_error_iff (ht : t.Ordered) :
    onLeaves f t = .error e ↔
      ∃ path source, FirstFailure f t path source ∧ e = source.along path := by
  constructor
  · exact exists_firstFailure ht
  · rintro ⟨path, source, hfirst, rfl⟩
    cases h : onLeaves f t with
    | ok u => exact absurd hfirst.fails (not_failsAt_of_ok h)
    | error e' =>
      obtain ⟨path', source', hfirst', rfl⟩ := exists_firstFailure ht h
      obtain ⟨rfl, rfl⟩ := hfirst.unique hfirst'
      rfl

/-- The visit comes to its end when no leaf fails. -/
theorem exists_onLeaves_iff (ht : t.Ordered) :
    (∃ u, onLeaves f t = .ok u) ↔
      ∀ path v, t.along? path = some v → v.isScalar = true → ∃ w, f v = .ok w := by
  constructor
  · rintro ⟨u, hu⟩ path v hv hs
    obtain ⟨w, -, hw⟩ := along?_onLeaves hu hv
    rw [onLeaves_scalar hs] at hw
    exact ⟨w, hw⟩
  · intro hall
    cases h : onLeaves f t with
    | ok u => exact ⟨u, rfl⟩
    | error e =>
      obtain ⟨path, source, ⟨⟨v, hv, hs, hfail⟩, -⟩, -⟩ := exists_firstFailure ht h
      obtain ⟨w, hw⟩ := hall path v hv hs
      cases hfail.symm.trans hw

theorem onLeavesOfItems_self (h : ∀ t ∈ ts, onLeaves f t = .ok t) :
    onLeavesOfItems f i ts = .ok ts := by
  induction ts generalizing i with
  | nil => rfl
  | cons t ts ih =>
    rw [List.forall_mem_cons] at h
    rw [onLeavesOfItems, h.1, ih h.2]
    rfl

theorem onLeavesOfEntries_self (h : ∀ entry ∈ es, onLeaves f entry.2 = .ok entry.2) :
    onLeavesOfEntries f es = .ok es := by
  induction es with
  | nil => rfl
  | cons entry es ih =>
    rw [List.forall_mem_cons] at h
    rw [onLeavesOfEntries, h.1, ih h.2]
    rfl

/-- A tree whose leaves stay as they are stays as it is. -/
theorem onLeaves_self (ht : t.Ordered)
    (h : ∀ path v, t.along? path = some v → v.isScalar = true → f v = .ok v) :
    onLeaves f t = .ok t := by
  induction t using byPart with | part t ih =>
  have hparts (step : Step) (v : Tree) (hv : t.part? step = some v) : onLeaves f v = .ok v := by
    refine ih step v hv (ht.part? hv) fun path w hw hs => h (step :: path) w ?_ hs
    rw [along?_cons, hv]
    exact hw
  cases t with
  | arr ts =>
    have hitems : onLeavesOfItems f 0 ts = .ok ts := by
      apply onLeavesOfItems_self
      intro t ht
      obtain ⟨i, hi⟩ := List.mem_iff_getElem?.1 ht
      exact hparts (.index i) t hi
    rw [onLeaves, hitems]
    rfl
  | map es =>
    have hentries : onLeavesOfEntries f es = .ok es := by
      apply onLeavesOfEntries_self
      intro entry hentry
      exact hparts (.key entry.1) entry.2 ((Entries.mem_iff_get? (ordered_map.1 ht).1).1 hentry)
    rw [onLeaves, hentries]
    rfl
  | _ => exact (onLeaves_scalar rfl).trans (h [] _ rfl rfl)

end PreviewEnv.Tree
