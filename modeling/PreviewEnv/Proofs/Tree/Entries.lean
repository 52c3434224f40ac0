import Mathlib.Data.String.Basic
import Mathlib.Order.RelClasses
import PreviewEnv.Tree.Entries

namespace PreviewEnv.Entries

section
variable {κ α β : Type} [DecidableEq κ] {k : κ} {v : α} {es : List (κ × α)}

theorem get?_eq_none_of_forall (h : ∀ e ∈ es, e.1 ≠ k) : get? k es = none := by
  induction es with
  | nil => rfl
  | cons e es ih =>
    obtain ⟨i, w⟩ := e
    rw [get?_cons, if_neg (h _ List.mem_cons_self)]
    exact ih fun e he => h e (List.mem_cons_of_mem _ he)

theorem mem_of_get? (h : get? k es = some v) : (k, v) ∈ es := by
  induction es with
  | nil => simp at h
  | cons e es ih =>
    obtain ⟨i, w⟩ := e
    rw [get?_cons] at h
    by_cases hi : i = k
    · rw [if_pos hi] at h
      simp only [Option.some.injEq] at h
      simp [hi, h]
    · rw [if_neg hi] at h
      exact List.mem_cons_of_mem _ (ih h)

theorem mem_iff_get?_of_nodup (h : (es.map (·.1)).Nodup) : (k, v) ∈ es ↔ get? k es = some v := by
  refine ⟨fun hm => ?_, mem_of_get?⟩
  induction es with
  | nil => simp at hm
  | cons e es ih =>
    obtain ⟨i, w⟩ := e
    obtain ⟨hi, hes⟩ := List.nodup_cons.1 h
    rcases List.mem_cons.1 hm with he | hm
    · simp only [Prod.mk.injEq] at he
      simp [get?_cons, he.1, he.2]
    · have hne : i ≠ k := fun he => hi (he ▸ List.mem_map.2 ⟨_, hm, rfl⟩)
      rw [get?_cons, if_neg hne]
      exact ih hes hm

theorem get?_filter_of_forall {p : κ × α → Bool} (h : ∀ v, p (k, v) = true) :
    get? k (es.filter p) = get? k es := by
  induction es with
  | nil => rfl
  | cons e es ih =>
    obtain ⟨i, w⟩ := e
    by_cases hi : i = k
    · subst hi
      simp [h, get?_cons]
    · rw [List.filter_cons]
      split <;> simp [get?_cons, hi, ih]

theorem get?_filter_of_forall_not {p : κ × α → Bool} (h : ∀ v, p (k, v) = false) :
    get? k (es.filter p) = none := by
  apply get?_eq_none_of_forall
  rintro ⟨i, w⟩ he rfl
  simp [List.mem_filter, h] at he

theorem get?_map_snd (f : α → β) :
    get? k (es.map fun e => (e.1, f e.2)) = (get? k es).map f := by
  induction es with
  | nil => rfl
  | cons e es ih =>
    obtain ⟨i, w⟩ := e
    simp only [List.map_cons, get?_cons, ih]
    split <;> rfl

end

section
variable {κ α β : Type} [LT κ] {k : κ} {v : α} {es : List (κ × α)}

theorem ordered_nil : Ordered ([] : List (κ × α)) := List.Pairwise.nil

theorem ordered_cons : Ordered ((k, v) :: es) ↔ (∀ e ∈ es, k < e.1) ∧ Ordered es :=
  List.pairwise_cons

/-- The order is one of the keys alone. -/
theorem ordered_iff_keys : Ordered es ↔ (es.map (·.1)).Pairwise (· < ·) :=
  List.pairwise_map.symm

theorem Ordered.of_keys_sublist {fs : List (κ × β)} (h : Ordered es)
    (hs : (fs.map (·.1)).Sublist (es.map (·.1))) : Ordered fs :=
  ordered_iff_keys.2 ((ordered_iff_keys.1 h).sublist hs)

theorem Ordered.filter (p : κ × α → Bool) (h : Ordered es) : Ordered (es.filter p) :=
  List.Pairwise.filter p h

theorem Ordered.erase [DecidableEq κ] (h : Ordered es) : Ordered (erase k es) := h.filter _

/-- Every entry after an insertion is the new one or one that was there. -/
theorem mem_of_mem_insert [DecidableEq κ] [DecidableLT κ] {e : κ × α}
    (h : e ∈ insert k v es) : e = (k, v) ∨ e ∈ es := by
  induction es with
  | nil => simpa [insert] using h
  | cons d es ih =>
    obtain ⟨i, w⟩ := d
    simp only [insert] at h
    split at h
    · rcases List.mem_cons.1 h with he | he
      · exact .inl he
      · exact .inr (List.mem_cons_of_mem _ he)
    · split at h
      · rcases List.mem_cons.1 h with he | he
        · exact .inl he
        · exact .inr he
      · rcases List.mem_cons.1 h with he | he
        · exact .inr (he ▸ List.mem_cons_self)
        · exact (ih he).imp_right (List.mem_cons_of_mem _)

end

section
variable {κ α : Type} [LT κ] [IsStrictTotalOrder κ (· < ·)]
variable {k : κ} {v : α} {es as bs : List (κ × α)}

theorem ne_of_lt_key {i j : κ} (h : i < j) : i ≠ j := fun he =>
  irrefl (r := (· < ·)) j (he ▸ h)

theorem Ordered.nodup_keys (h : Ordered es) : (es.map (·.1)).Nodup :=
  List.Pairwise.imp ne_of_lt_key (ordered_iff_keys.1 h)

variable [DecidableEq κ]

theorem Ordered.get?_tail (h : Ordered ((k, v) :: es)) : get? k es = none :=
  get?_eq_none_of_forall fun e he => (ne_of_lt_key ((ordered_cons.1 h).1 e he)).symm

/-- Where every key is there once, what is left under it is what was there, if it is kept. -/
theorem get?_filter_snd (p : α → Bool) (h : Ordered es) :
    get? k (es.filter fun e => p e.2) = (get? k es).filter p := by
  induction es with
  | nil => rfl
  | cons e es ih =>
    obtain ⟨j, w⟩ := e
    have ih := ih (ordered_cons.1 h).2
    rw [List.filter_cons, get?_cons]
    by_cases hj : j = k
    · subst hj
      rw [h.get?_tail] at ih
      rw [if_pos rfl, Option.filter_some]
      split
      · rw [get?_cons, if_pos rfl]
      · exact ih
    · rw [if_neg hj]
      split
      · rw [get?_cons, if_neg hj, ih]
      · exact ih

theorem mem_iff_get? (h : Ordered es) : (k, v) ∈ es ↔ get? k es = some v :=
  mem_iff_get?_of_nodup h.nodup_keys

/-- In ordered entries, a key below the first one is not there. -/
theorem Ordered.get?_of_lt {j : κ} (h : Ordered ((k, v) :: es)) (hlt : j < k) :
    get? j ((k, v) :: es) = none := by
  apply get?_eq_none_of_forall
  intro e he
  rcases List.mem_cons.1 he with rfl | he
  · exact (ne_of_lt_key hlt).symm
  · exact (ne_of_lt_key (IsTrans.trans _ _ _ hlt ((ordered_cons.1 h).1 e he))).symm

/-- Ordered entries are determined by what look-ups give. -/
theorem ext_of_ordered (ha : Ordered as) (hb : Ordered bs)
    (h : ∀ k, get? k as = get? k bs) : as = bs := by
  induction as generalizing bs with
  | nil =>
    cases bs with
    | nil => rfl
    | cons b bs =>
      obtain ⟨j, w⟩ := b
      have hj := h j
      simp [get?_cons] at hj
  | cons a as ih =>
    obtain ⟨k, v⟩ := a
    cases bs with
    | nil =>
      have hk := h k
      simp [get?_cons] at hk
    | cons b bs =>
      obtain ⟨j, w⟩ := b
      -- Were the first keys different, the smaller one would be missing on the other side.
      have hkj : k = j := by
        rcases trichotomous_of (· < ·) k j with hlt | he | hlt
        · have hk := h k
          rw [get?_cons, if_pos rfl, hb.get?_of_lt hlt] at hk
          cases hk
        · exact he
        · have hj := h j
          rw [ha.get?_of_lt hlt, get?_cons, if_pos rfl] at hj
          cases hj
      subst hkj
      have hvw : v = w := by simpa [get?_cons] using h k
      have htail : as = bs := by
        apply ih (ordered_cons.1 ha).2 (ordered_cons.1 hb).2
        intro i
        by_cases hi : k = i
        · subst hi
          rw [ha.get?_tail, hb.get?_tail]
        · simpa [get?_cons, hi] using h i
      rw [hvw, htail]

theorem erase_congr {fs : List (κ × α)} (he : Ordered es) (hf : Ordered fs)
    (h : ∀ j, k ≠ j → get? j es = get? j fs) : erase k es = erase k fs := by
  refine ext_of_ordered he.erase hf.erase fun j => ?_
  rw [get?_erase, get?_erase]
  split
  · rfl
  · next hkj => exact h j hkj

theorem Ordered.insert [DecidableLT κ] (h : Ordered es) : Ordered (insert k v es) := by
  induction es with
  | nil => simp [Entries.insert, Ordered]
  | cons e es ih =>
    obtain ⟨j, w⟩ := e
    have hj := ordered_cons.1 h
    simp only [Entries.insert]
    split
    · next he => exact ordered_cons.2 ⟨he ▸ hj.1, hj.2⟩
    · next hne =>
      split
      · next hlt =>
        refine ordered_cons.2 ⟨fun e he => ?_, h⟩
        rcases List.mem_cons.1 he with rfl | he
        · exact hlt
        · exact IsTrans.trans _ _ _ hlt (hj.1 e he)
      · next hnlt =>
        have hlt : j < k := by
          rcases trichotomous_of (· < ·) j k with hlt | he | hgt
          · exact hlt
          · exact absurd he hne
          · exact absurd hgt hnlt
        refine ordered_cons.2 ⟨fun e he => ?_, ih hj.2⟩
        rcases mem_of_mem_insert he with rfl | he
        · exact hlt
        · exact hj.1 e he

variable [DecidableLT κ] {j : κ} {w : α}

/-- Under the key that is set it does not matter what was there. -/
theorem insert_congr {fs : List (κ × α)} (he : Ordered es) (hf : Ordered fs)
    (h : ∀ j, k ≠ j → get? j es = get? j fs) : insert k v es = insert k v fs := by
  refine ext_of_ordered he.insert hf.insert fun j => ?_
  rw [get?_insert, get?_insert]
  split
  · rfl
  · next hkj => exact h j hkj

theorem insert_insert_of_lt (h : j < k) :
    insert j v (insert k w es) = insert k w (insert j v es) := by
  have hnlt : ¬ k < j := asymm h
  have hne := ne_of_lt_key h
  induction es with
  | nil => simp [insert, hne, hne.symm, h, hnlt]
  | cons e es ih =>
    obtain ⟨i, u⟩ := e
    -- The larger key goes past the first entry, replaces it or goes before it.
    rcases trichotomous_of (· < ·) i k with hlt | rfl | hgt
    · have hik := ne_of_lt_key hlt
      have hki : ¬ k < i := asymm hlt
      rcases trichotomous_of (· < ·) i j with hij | rfl | hji
      · have hji : ¬ j < i := asymm hij
        simp only [insert, hik, hki, ne_of_lt_key hij, hji, ↓reduceIte, ih]
      · simp only [insert, hik, hki, ↓reduceIte]
      · simp only [insert, hik, hki, (ne_of_lt_key hji).symm, hji, hne, hnlt, ↓reduceIte]
    · simp only [insert, hne, hne.symm, h, hnlt, ↓reduceIte]
    · have hji : j < i := IsTrans.trans _ _ _ h hgt
      simp only [insert, (ne_of_lt_key hgt).symm, hgt, (ne_of_lt_key hji).symm, hji, hne, hne.symm,
        h, hnlt, ↓reduceIte]

/-- Insertions under different keys can be made in any order. -/
theorem insert_comm (hne : j ≠ k) :
    insert j v (insert k w es) = insert k w (insert j v es) := by
  rcases trichotomous_of (· < ·) j k with hlt | he | hgt
  · exact insert_insert_of_lt hlt
  · exact absurd he hne
  · exact (insert_insert_of_lt hgt).symm

end

end PreviewEnv.Entries
