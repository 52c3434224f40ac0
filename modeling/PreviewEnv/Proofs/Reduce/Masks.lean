import Mathlib.Data.List.Forall2
import PreviewEnv.Proofs.Reduce.Outcomes

/-!
# Reducers and trees that differ

A mask tells where two trees may differ, and reducers that delete what is in these
places make the trees alike. Main results:

* `Reducer.Narrows`: the reducer fails in the same way for trees that differ where
  one mask allows it, or gives trees that differ where another one does;
* `Reducer.Filters.narrows`, `narrows_mapValue`, `narrows_reduceNested`: what reducers
  that delete keys do to masks, also when they are applied to elements and to nested
  values;
* `Pipeline.Narrowing.narrows`: what one reducer after the other does;
* `Mask.Settled.eq`: where nothing may differ, trees in order are the same.
-/

namespace PreviewEnv

open PreviewEnv.Tree

/-- Two computations fail in the same way, or give values that are related. -/
inductive Agree {ε α β : Type} (R : α → β → Prop) : Except ε α → Except ε β → Prop
  | error (e : ε) : Agree R (.error e) (.error e)
  | ok {a : α} {b : β} (h : R a b) : Agree R (.ok a) (.ok b)

section
variable {ε ε' α β γ δ : Type} {R : α → β → Prop} {S : γ → δ → Prop} {x : Except ε α}
  {y : Except ε β}

theorem Agree.bind {f : α → Except ε γ} {g : β → Except ε δ} (h : Agree R x y)
    (hfg : ∀ a b, R a b → Agree S (f a) (g b)) : Agree S (x >>= f) (y >>= g) := by
  cases h with
  | error e => exact .error e
  | ok h => exact hfg _ _ h

theorem Agree.map {f : α → γ} {g : β → δ} (h : Agree R x y)
    (hfg : ∀ a b, R a b → S (f a) (g b)) : Agree S (f <$> x) (g <$> y) := by
  cases h with
  | error e => exact .error e
  | ok h => exact .ok (hfg _ _ h)

theorem Agree.mapError {place : ε → ε'} (h : Agree R x y) :
    Agree R (x.mapError place) (y.mapError place) := by
  cases h with
  | error e => exact .error _
  | ok h => exact .ok h

end

/-- Where two values may differ. -/
inductive Mask where
  /-- Nowhere. -/
  | same
  /-- In every way, and one of them may be missing. -/
  | any
  /-- They are both missing. -/
  | gone
  /-- Under each key as the mask for it says, if both are maps, and otherwise nowhere. -/
  | fields (f : String → Mask)
  /-- In each element as the mask says, if both are arrays or both are maps of the same keys, and
  otherwise nowhere. -/
  | each (m : Mask)

namespace Mask

/-- Two values, each of which may be missing, differ only where the mask says that they may. -/
def Allows : Mask → Option Tree → Option Tree → Prop
  | same, a, b => a = b
  | any, _, _ => True
  | gone, a, b => a = none ∧ b = none
  | fields f, some (.map es), some (.map fs) =>
    ∀ k, (f k).Allows (Entries.get? k es) (Entries.get? k fs)
  | fields _, a, b => a = b
  | each m, some (.arr ts), some (.arr us) =>
    List.Forall₂ (fun t u => m.Allows (some t) (some u)) ts us
  | each m, some (.map es), some (.map fs) =>
    List.Forall₂ (fun e g => e.1 = g.1 ∧ m.Allows (some e.2) (some g.2)) es fs
  | each _, a, b => a = b

variable {m n : Mask} {f g : String → Mask} {a b : Option Tree} {t u : Tree}
  {es fs : List (String × Tree)} {ts us : List Tree} {k : String}

/-- Values under a mask for fields are maps that differ as it says, or the same and not a map. -/
theorem allows_fields :
    (fields f).Allows a b ↔
      (∃ es fs, a = some (.map es) ∧ b = some (.map fs) ∧
        ∀ k, (f k).Allows (Entries.get? k es) (Entries.get? k fs)) ∨
      a = b ∧ ∀ es, a ≠ some (.map es) := by
  by_cases hmaps : ∃ es fs, a = some (.map es) ∧ b = some (.map fs)
  · obtain ⟨es, fs, rfl, rfl⟩ := hmaps
    simp [Allows]
  · rw [Allows]
    · constructor
      · rintro rfl
        exact .inr ⟨rfl, fun es he => hmaps ⟨es, es, he, he⟩⟩
      · rintro (⟨es, fs, ha, hb, -⟩ | ⟨rfl, -⟩)
        · exact absurd ⟨es, fs, ha, hb⟩ hmaps
        · rfl
    · exact fun es fs ha hb => hmaps ⟨es, fs, ha, hb⟩

theorem allows_each :
    (each m).Allows a b ↔
      (∃ ts us, a = some (.arr ts) ∧ b = some (.arr us) ∧
        List.Forall₂ (fun t u => m.Allows (some t) (some u)) ts us) ∨
      (∃ es fs, a = some (.map es) ∧ b = some (.map fs) ∧
        List.Forall₂ (fun e g => e.1 = g.1 ∧ m.Allows (some e.2) (some g.2)) es fs) ∨
      a = b ∧ (∀ ts, a ≠ some (.arr ts)) ∧ ∀ es, a ≠ some (.map es) := by
  by_cases harrs : ∃ ts us, a = some (.arr ts) ∧ b = some (.arr us)
  · obtain ⟨ts, us, rfl, rfl⟩ := harrs
    simp [Allows]
  by_cases hmaps : ∃ es fs, a = some (.map es) ∧ b = some (.map fs)
  · obtain ⟨es, fs, rfl, rfl⟩ := hmaps
    simp [Allows]
  rw [Allows]
  · constructor
    · rintro rfl
      exact .inr (.inr ⟨rfl, fun ts ht => harrs ⟨ts, ts, ht, ht⟩,
        fun es he => hmaps ⟨es, es, he, he⟩⟩)
    · rintro (⟨ts, us, ha, hb, -⟩ | ⟨es, fs, ha, hb, -⟩ | ⟨rfl, -⟩)
      · exact absurd ⟨ts, us, ha, hb⟩ harrs
      · exact absurd ⟨es, fs, ha, hb⟩ hmaps
      · rfl
  · exact fun ts us ha hb => harrs ⟨ts, us, ha, hb⟩
  · exact fun es fs ha hb => hmaps ⟨es, fs, ha, hb⟩

theorem allows_none : m.Allows none none := by
  cases m <;> simp [Allows]

/-- Whether the mask leaves a value as it may be. -/
def Open : Mask → Prop
  | same | any => True
  | gone => False
  | fields f => ∀ k, (f k).Open
  | each m => m.Open

/-- Whether the mask lets nothing differ. -/
def Settled : Mask → Prop
  | same | gone => True
  | any => False
  | fields f => ∀ k, (f k).Settled
  | each m => m.Settled

theorem Open.allows (h : m.Open) : m.Allows a a := by
  induction m generalizing a with
  | same => exact rfl
  | any => trivial
  | gone => exact h.elim
  | fields f ih =>
    rw [allows_fields]
    by_cases hmap : ∃ es, a = some (.map es)
    · obtain ⟨es, rfl⟩ := hmap
      exact .inl ⟨es, es, rfl, rfl, fun k => ih k (h k)⟩
    · exact .inr ⟨rfl, fun es he => hmap ⟨es, he⟩⟩
  | each m ih =>
    rw [allows_each]
    by_cases harr : ∃ ts, a = some (.arr ts)
    · obtain ⟨ts, rfl⟩ := harr
      exact .inl ⟨ts, ts, rfl, rfl, List.forall₂_same.2 fun t _ => ih h⟩
    by_cases hmap : ∃ es, a = some (.map es)
    · obtain ⟨es, rfl⟩ := hmap
      exact .inr (.inl ⟨es, es, rfl, rfl, List.forall₂_same.2 fun e _ => ⟨rfl, ih h⟩⟩)
    · exact .inr (.inr ⟨rfl, fun ts ht => harr ⟨ts, ht⟩, fun es he => hmap ⟨es, he⟩⟩)

theorem eq_of_forall₂ {α : Type} {R : α → α → Prop} {as bs : List α} (h : List.Forall₂ R as bs)
    (hR : ∀ a ∈ as, ∀ b ∈ bs, R a b → a = b) : as = bs := by
  induction h with
  | nil => rfl
  | @cons a b as bs hab _ ih =>
    rw [hR a List.mem_cons_self b List.mem_cons_self hab,
      ih fun c hc d hd => hR c (List.mem_cons_of_mem _ hc) d (List.mem_cons_of_mem _ hd)]

/-- Where nothing may differ, trees in order are the same. -/
theorem Settled.eq (h : m.Settled) (hab : m.Allows a b) (ha : ∀ t ∈ a, t.Ordered)
    (hb : ∀ u ∈ b, u.Ordered) : a = b := by
  induction m generalizing a b with
  | same => exact hab
  | any => exact h.elim
  | gone => exact hab.1.trans hab.2.symm
  | fields f ih =>
    rcases allows_fields.1 hab with ⟨es, fs, rfl, rfl, hkeys⟩ | ⟨rfl, -⟩
    · have hes := ha _ rfl
      have hfs := hb _ rfl
      rw [Entries.ext_of_ordered (ordered_map.1 hes).1 (ordered_map.1 hfs).1 fun k =>
        ih k (h k) (hkeys k) (fun t ht => hes.get? ht) fun u hu => hfs.get? hu]
    · rfl
  | each m ih =>
    rcases allows_each.1 hab with ⟨ts, us, rfl, rfl, hall⟩ | ⟨es, fs, rfl, rfl, hall⟩ | ⟨rfl, -⟩
    · have hts := ordered_arr.1 (ha _ rfl)
      have hus := ordered_arr.1 (hb _ rfl)
      rw [eq_of_forall₂ hall fun t ht u hu htu => Option.some.inj
        (ih h htu (by simpa using hts t ht) (by simpa using hus u hu))]
    · have hes := (ordered_map.1 (ha _ rfl)).2
      have hfs := (ordered_map.1 (hb _ rfl)).2
      rw [eq_of_forall₂ hall fun e he g hg heg => Prod.ext heg.1 (Option.some.inj
        (ih h heg.2 (by simpa using hes e he) (by simpa using hfs g hg)))]
    · rfl

/-- Maps need to be looked at only under the keys that they have. -/
theorem allows_of_keys
    (h : ∀ k ∈ es.map (·.1) ++ fs.map (·.1),
      (f k).Allows (Entries.get? k es) (Entries.get? k fs)) :
    (fields f).Allows (some (.map es)) (some (.map fs)) := by
  refine allows_fields.2 (.inl ⟨es, fs, rfl, rfl, fun k => ?_⟩)
  by_cases hk : k ∈ es.map (·.1) ++ fs.map (·.1)
  · exact h k hk
  · rw [List.mem_append, not_or] at hk
    have hes : Entries.get? k es = none := Entries.get?_eq_none_of_forall fun e he hek =>
      hk.1 (hek ▸ List.mem_map_of_mem he)
    have hfs : Entries.get? k fs = none := Entries.get?_eq_none_of_forall fun e he hek =>
      hk.2 (hek ▸ List.mem_map_of_mem he)
    rw [hes, hfs]
    exact allows_none

/-- The mask for what is at the end of a path of keys. -/
def at? : List String → Mask → Mask
  | [], m => m
  | k :: ks, fields f => at? ks (f k)
  | _ :: _, _ => any

theorem Allows.at? (h : m.Allows a b) (ks : List String) :
    (m.at? ks).Allows (a.bind (Tree.at? ks)) (b.bind (Tree.at? ks)) := by
  induction ks generalizing m a b with
  | nil => cases a <;> cases b <;> exact h
  | cons k ks ih =>
    cases m with
    | fields f =>
      rcases allows_fields.1 h with ⟨es, fs, rfl, rfl, hkeys⟩ | ⟨rfl, hnot⟩
      · exact ih (hkeys k)
      · have hnone : a.bind (Tree.at? (k :: ks)) = none := by
          match a with
          | none => rfl
          | some (.map es) => exact absurd rfl (hnot es)
          | some .null | some (.bool _) | some (.int _) | some (.float _) | some (.str _)
          | some (.arr _) => rfl
        rw [hnone]
        exact allows_none
    | _ => trivial

/-- Where fields may differ, a value is not missing on one side only. -/
theorem isSome_of_fields (h : (fields f).Allows a b) : a.isSome = b.isSome := by
  rcases allows_fields.1 h with ⟨es, fs, rfl, rfl, -⟩ | ⟨rfl, -⟩ <;> rfl

theorem isSome_of_each (h : (each m).Allows a b) : a.isSome = b.isSome := by
  rcases allows_each.1 h with ⟨ts, us, rfl, rfl, -⟩ | ⟨es, fs, rfl, rfl, -⟩ | ⟨rfl, -⟩ <;> rfl

end Mask

namespace Reducer

variable {r : Reducer} {m n : Mask} {f g : String → Mask} {p : String → Bool} {t u : Tree}
  {ts us : List Tree} {es fs : List (String × Tree)} {k : String} {keys ks : List String}
  {input output : Option Tree}

/-- Trees that differ where the one mask allows it make the reducer fail in the same way, or give
trees that differ where the other one does. -/
def Narrows (r : Reducer) (m n : Mask) : Prop :=
  ∀ t u, m.Allows (some t) (some u) →
    Agree (fun t u => n.Allows (some t) (some u)) (r t).outcome (r u).outcome

/-- The reducer keeps the entries of a map whose keys satisfy `p`, and keeps or refuses anything
else. -/
structure Filters (r : Reducer) (p : String → Bool) : Prop where
  map (es : List (String × Tree)) :
    (r (.map es)).outcome = .ok (.map (es.filter fun e => p e.1))
  other (t : Tree) (h : ∀ es, t ≠ .map es) :
    (r t).outcome = .ok t ∨ ∃ e, (r t).outcome = .error e

theorem filters_filterKey : (filterKey p).Filters p where
  map _ := rfl
  other t h := by
    cases t with
    | map es => exact absurd rfl (h es)
    | _ => exact .inr ⟨_, rfl⟩

theorem filters_deleteKeys : (deleteKeys keys).Filters fun k => !keys.contains k where
  map _ := rfl
  other t h := by
    cases t with
    | map es => exact absurd rfl (h es)
    | _ => exact .inl rfl

/-- As `deleteNested` deletes the last key, from the tree itself or from what is nested in it. -/
theorem filters_deleted {top : Bool} :
    Filters (fun t => if top || !t.isNull then filterKey p t else pure t) p where
  map _ := by
    simp only [isNull, Bool.not_false, Bool.or_true, ↓reduceIte]
    rfl
  other t h := by
    split
    · exact filters_filterKey.other t h
    · exact .inl rfl

/-- Where a key is deleted from both, the mask for it does not matter any more. -/
theorem Filters.narrows (hr : r.Filters p) (hkeep : ∀ k, p k = true → g k = f k) :
    r.Narrows (.fields f) (.fields g) := by
  intro t u h
  rcases Mask.allows_fields.1 h with ⟨es, fs, ht, hu, hkeys⟩ | ⟨htu, hnot⟩
  · cases ht
    cases hu
    rw [hr.map, hr.map]
    refine .ok (Mask.allows_fields.2 (.inl ⟨_, _, rfl, rfl, fun k => ?_⟩))
    cases hp : p k with
    | true =>
      rw [Entries.get?_filter_of_forall fun _ => hp, Entries.get?_filter_of_forall fun _ => hp,
        hkeep k hp]
      exact hkeys k
    | false =>
      rw [Entries.get?_filter_of_forall_not fun _ => hp,
        Entries.get?_filter_of_forall_not fun _ => hp]
      exact Mask.allows_none
  · cases htu
    rcases hr.other t fun es he => hnot es (congrArg some he) with ho | ⟨e, ho⟩
    · rw [ho]
      exact .ok (Mask.allows_fields.2 (.inr ⟨rfl, hnot⟩))
    · rw [ho]
      exact .error e

theorem agree_mapItems (hr : r.Narrows m n) {i : Nat}
    (h : List.Forall₂ (fun t u => m.Allows (some t) (some u)) ts us) :
    Agree (List.Forall₂ fun t u => n.Allows (some t) (some u)) (mapItems r i ts).outcome
      (mapItems r i us).outcome := by
  induction h generalizing i with
  | nil => exact .ok .nil
  | cons htu _ ih =>
    rw [mapItems, mapItems, Traced.outcome_bind, Traced.outcome_bind]
    refine (hr _ _ htu).mapError.bind fun t u htu => ?_
    rw [Traced.outcome_bind, Traced.outcome_bind]
    exact ih.bind fun ts us htus => .ok (.cons htu htus)

theorem agree_mapEntries (hr : r.Narrows m n)
    (h : List.Forall₂ (fun e g => e.1 = g.1 ∧ m.Allows (some e.2) (some g.2)) es fs) :
    Agree (List.Forall₂ fun e g => e.1 = g.1 ∧ n.Allows (some e.2) (some g.2))
      (mapEntries r es).outcome (mapEntries r fs).outcome := by
  induction h with
  | nil => exact .ok .nil
  | @cons e g es fs heg _ ih =>
    obtain ⟨k, t⟩ := e
    obtain ⟨j, u⟩ := g
    obtain ⟨rfl, htu⟩ := heg
    rw [mapEntries, mapEntries, Traced.outcome_bind, Traced.outcome_bind]
    refine (hr _ _ htu).mapError.bind fun t u htu => ?_
    rw [Traced.outcome_bind, Traced.outcome_bind]
    exact ih.bind fun es fs hes => .ok (.cons ⟨rfl, htu⟩ hes)

theorem narrows_mapValue (hr : r.Narrows m n) : (mapValue r).Narrows (.each m) (.each n) := by
  intro t u h
  rcases Mask.allows_each.1 h with ⟨ts, us, ht, hu, hall⟩ | ⟨es, fs, ht, hu, hall⟩ | ⟨htu, ha, hm⟩
  · cases ht
    cases hu
    rw [mapValue, mapValue, Traced.outcome_map, Traced.outcome_map]
    exact (agree_mapItems hr hall).map fun ts us hts => hts
  · cases ht
    cases hu
    rw [mapValue, mapValue, Traced.outcome_map, Traced.outcome_map]
    exact (agree_mapEntries hr hall).map fun es fs hes => hes
  · cases htu
    cases t with
    | arr ts => exact absurd rfl (ha ts)
    | map es => exact absurd rfl (hm es)
    | _ => exact .error _

theorem narrows_whenPresent (hr : r.Narrows (.each m) (.each n)) :
    (whenPresent r).Narrows (.each m) (.each n) := by
  intro t u h
  rw [whenPresent, whenPresent]
  rcases Mask.allows_each.1 h with ⟨ts, us, ht, hu, -⟩ | ⟨es, fs, ht, hu, -⟩ | ⟨htu, -, -⟩
  · cases ht
    cases hu
    exact hr _ _ h
  · cases ht
    cases hu
    exact hr _ _ h
  · cases htu
    cases t with
    | null => exact .ok rfl
    | _ => exact hr _ _ h

/-- The same of values that may be missing, when the reducer is applied under keys. -/
def NarrowsPath (r : Reducer) (ks : List String) (m n : Mask) : Prop :=
  ∀ a b, m.Allows a b → Agree n.Allows (reducePath r ks a).outcome (reducePath r ks b).outcome

theorem outcome_reducePath_nil :
    (reducePath r [] (some t)).outcome = some <$> (r t).outcome := by
  rw [reducePath, Option.getD_some, Traced.outcome_bind]
  cases (r t).outcome <;> rfl

theorem outcome_reducePath_none (hr : (r .null).outcome = .ok .null) :
    (reducePath r ks none).outcome = .ok none := by
  induction ks with
  | nil =>
    rw [reducePath, Option.getD_none, Traced.outcome_bind, hr]
    rfl
  | cons k ks ih =>
    have hcons : reducePath r (k :: ks) none = replaced k .null <$> reducePath r ks none :=
      reducePath_cons.trans (if_pos rfl)
    rw [hcons, Traced.outcome_map, ih]
    rfl

theorem outcome_reducePath_map :
    (reducePath r (k :: ks) (some (.map es))).outcome =
      replaced k (.map es) <$> (reducePath r ks (Entries.get? k es)).outcome := by
  have hcons : reducePath r (k :: ks) (some (.map es)) =
      replaced k (.map es) <$> reducePath r ks (Entries.get? k es) :=
    reducePath_cons.trans (if_pos rfl)
  rw [hcons, Traced.outcome_map]

theorem exists_replaced (k : String) (es : List (String × Tree)) (output : Option Tree) :
    ∃ gs, replaced k (.map es) output = some (.map gs) ∧
      ∀ j, Entries.get? j gs = if k = j then output else Entries.get? j es := by
  cases output with
  | none => exact ⟨_, rfl, fun j => Entries.get?_erase⟩
  | some v => exact ⟨_, rfl, fun j => Entries.get?_insert⟩

theorem narrowsPath_nil (hr : r.Narrows m n) (hnull : (r .null).outcome = .ok .null)
    (hm : ∀ a b, m.Allows a b → a.isSome = b.isSome) : r.NarrowsPath [] m n := by
  intro a b h
  have hsome := hm a b h
  match a, b with
  | none, none =>
    rw [outcome_reducePath_none hnull]
    exact .ok Mask.allows_none
  | some t, some u =>
    rw [outcome_reducePath_nil, outcome_reducePath_nil]
    exact (hr t u h).map fun t u htu => htu
  | none, some u => cases hsome
  | some t, none => cases hsome

/-- Other keys are left alone. -/
theorem narrowsPath_cons (hin : r.NarrowsPath ks (f k) (g k)) (hother : ∀ j, k ≠ j → g j = f j)
    (hnull : (r .null).outcome = .ok .null) : r.NarrowsPath (k :: ks) (.fields f) (.fields g) := by
  intro a b h
  rcases Mask.allows_fields.1 h with ⟨es, fs, rfl, rfl, hkeys⟩ | ⟨rfl, hnot⟩
  · rw [outcome_reducePath_map, outcome_reducePath_map]
    refine (hin _ _ (hkeys k)).map fun x y hxy => ?_
    obtain ⟨es', hes, hget⟩ := exists_replaced k es x
    obtain ⟨fs', hfs, hget'⟩ := exists_replaced k fs y
    refine Mask.allows_fields.2 (.inl ⟨es', fs', hes, hfs, fun j => ?_⟩)
    rw [hget, hget']
    split
    · next hj => exact hj ▸ hxy
    · next hj =>
      rw [hother j hj]
      exact hkeys j
  · cases a with
    | none =>
      rw [outcome_reducePath_none hnull]
      exact .ok Mask.allows_none
    | some t =>
      cases t with
      | null =>
        change Agree _ (reducePath r (k :: ks) none).outcome (reducePath r (k :: ks) none).outcome
        rw [outcome_reducePath_none hnull]
        exact .ok Mask.allows_none
      | map es => exact absurd rfl (hnot es)
      | _ => exact .error _

theorem narrows_reduceNested (h : r.NarrowsPath ks (.fields f) (.fields g)) :
    (reduceNested ks r).Narrows (.fields f) (.fields g) := by
  intro t u htu
  rw [reduceNested, reduceNested, Traced.outcome_bind, Traced.outcome_bind]
  refine (h _ _ htu).mapError.bind fun x y hxy => .ok ?_
  have hsome := Mask.isSome_of_fields hxy
  rcases x with _ | t <;> rcases y with _ | u
  · exact rfl
  · cases hsome
  · cases hsome
  · exact hxy

theorem narrows_reduceNested_nil (hr : r.Narrows m n) : (reduceNested [] r).Narrows m n := by
  intro t u htu
  rw [reduceNested_nil, reduceNested_nil]
  exact hr t u htu

theorem narrows_deleteNested (h : ∀ j, j ≠ k → g j = f j) :
    (deleteNested [k]).Narrows (.fields f) (.fields g) := by
  apply narrows_reduceNested_nil
  apply filters_deleted.narrows
  intro j hj
  apply h
  rintro rfl
  simp at hj

theorem narrows_deleteNested_pair {f' g' : String → Mask} {l : String} (hf : f k = .fields f')
    (hg : g k = .fields g') (hin : ∀ j, j ≠ l → g' j = f' j) (hother : ∀ j, k ≠ j → g j = f j) :
    (deleteNested [k, l]).Narrows (.fields f) (.fields g) := by
  apply narrows_reduceNested
  refine narrowsPath_cons ?_ hother rfl
  rw [hf, hg]
  refine narrowsPath_nil (filters_deleted.narrows fun j hj => hin j ?_) rfl
    fun _ _ => Mask.isSome_of_fields
  rintro rfl
  simp at hj

end Reducer

namespace Pipeline

variable {r : Reducer} {rs ss : List Reducer} {m n p : Mask} {t : Tree} {i : Nat}

/-- One stage after the other narrows the mask. -/
inductive Narrowing : List Reducer → Mask → Mask → Prop
  | nil {m : Mask} : Narrowing [] m m
  | cons {r : Reducer} {rs : List Reducer} {m n p : Mask} (h : r.Narrows m n)
      (hrest : Narrowing rs n p) : Narrowing (r :: rs) m p

theorem Narrowing.narrows (h : Narrowing rs m n) : (reduceFrom i rs).Narrows m n := by
  induction h generalizing i with
  | nil =>
    intro t u htu
    exact .ok htu
  | cons h _ ih =>
    intro t u htu
    rw [reduceFrom, Traced.outcome_bind, Traced.outcome_bind]
    exact (h t u htu).mapError.bind ih

theorem outcome_reduceFrom_append :
    (reduceFrom i (rs ++ ss) t).outcome =
      (reduceFrom i rs t).outcome >>= fun u => (reduceFrom (i + rs.length) ss u).outcome := by
  induction rs generalizing i t with
  | nil => rfl
  | cons r rs ih =>
    rw [List.cons_append, reduceFrom, reduceFrom, Traced.outcome_bind, Traced.outcome_bind,
      List.length_cons, ← Nat.add_assoc, Nat.add_right_comm]
    cases ((r t).locate (.atStage i)).outcome with
    | error e => rfl
    | ok u => exact ih

end Pipeline

end PreviewEnv
