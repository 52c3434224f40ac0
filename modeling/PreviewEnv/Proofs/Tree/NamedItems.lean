import Mathlib.Data.List.Nodup
import PreviewEnv.Proofs.Tree.Lookup
import PreviewEnv.Tree.NamedArray

namespace PreviewEnv

namespace Tree

variable {t u : Tree} {ts us : List Tree} {n : Option String}

/-- Every element has a name, and no two share one. -/
def Named (ts : List Tree) : Prop := none ∉ ts.map name? ∧ (ts.map name?).Nodup

instance : Decidable (Named ts) := inferInstanceAs (Decidable (_ ∧ _))

/-- The first element that is called `n`. -/
def namesake (n : Option String) (ts : List Tree) : Option Tree := ts.find? fun t => t.name? == n

mutual

/-- The arrays in the tree, at any depth. -/
def arrays : Tree → List (List Tree)
  | arr ts => ts :: arraysOfItems ts
  | map es => arraysOfEntries es
  | _ => []

def arraysOfItems : List Tree → List (List Tree)
  | [] => []
  | t :: ts => arrays t ++ arraysOfItems ts

def arraysOfEntries : List (String × Tree) → List (List Tree)
  | [] => []
  | (_, t) :: es => arrays t ++ arraysOfEntries es

end

theorem mem_arrays_arr : us ∈ (arr ts).arrays ↔ us = ts ∨ ∃ t ∈ ts, us ∈ t.arrays := by
  have hitems : us ∈ arraysOfItems ts ↔ ∃ t ∈ ts, us ∈ t.arrays := by
    induction ts with
    | nil => simp [arraysOfItems]
    | cons t ts ih => simp [arraysOfItems, ih]
  rw [arrays, List.mem_cons, hitems]

theorem mem_arrays_map {es : List (String × Tree)} :
    us ∈ (map es).arrays ↔ ∃ e ∈ es, us ∈ e.2.arrays := by
  rw [arrays]
  induction es with
  | nil => simp [arraysOfEntries]
  | cons e es ih => simp [arraysOfEntries, ih]

theorem named_congr (h : ts.map name? = us.map name?) : Named ts ↔ Named us := by
  rw [Named, Named, h]

theorem Named.tail (h : Named (t :: ts)) : Named ts :=
  ⟨fun hn => h.1 (List.mem_cons_of_mem _ hn), (List.nodup_cons.1 h.2).2⟩

theorem exists_name? (h : none ∉ ts.map name?) (ht : t ∈ ts) : ∃ name, t.name? = some name := by
  rw [← Option.ne_none_iff_exists']
  intro hn
  exact h (List.mem_map.2 ⟨t, ht, hn⟩)

theorem Named.exists_name? (h : Named ts) (ht : t ∈ ts) : ∃ name, t.name? = some name :=
  Tree.exists_name? h.1 ht

@[simp] theorem namesake_nil : namesake n [] = none := rfl

theorem namesake_cons : namesake n (t :: ts) = if t.name? = n then some t else namesake n ts := by
  rw [namesake, List.find?_cons]
  by_cases h : t.name? = n
  · simp [h]
  · rw [beq_false_of_ne h, if_neg h]
    rfl

theorem namesake_eq_none_iff : namesake n ts = none ↔ n ∉ ts.map name? := by
  simp [namesake, List.find?_eq_none]

theorem mem_of_namesake (h : namesake n ts = some t) : t ∈ ts := List.mem_of_find?_eq_some h

theorem name?_of_namesake (h : namesake n ts = some t) : t.name? = n := by
  simpa using List.find?_some h

/-- An element is found under its name. -/
theorem namesake_of_mem (h : Named ts) (ht : t ∈ ts) : namesake t.name? ts = some t := by
  induction ts with
  | nil => simp at ht
  | cons u ts ih =>
    rw [namesake_cons]
    rcases List.mem_cons.1 ht with rfl | ht
    · rw [if_pos rfl]
    · have hne : u.name? ≠ t.name? := by
        intro he
        exact (List.nodup_cons.1 h.2).1 (he ▸ List.mem_map_of_mem ht)
      rw [if_neg hne]
      exact ih h.tail ht

end Tree

namespace NamedArray

open PreviewEnv.Tree

variable {t v : Tree} {ts us : List Tree} {es : List (String × Tree)} {a : NamedArray}
  {name : String}

/-- The elements under their own names; only for elements that have one. -/
def entriesOf (ts : List Tree) : List (String × Tree) := ts.map fun t => (t.name?.getD "", t)

theorem namedItems?_eq (ts : List Tree) :
    namedItems? ts = if none ∈ ts.map name? then none else some (entriesOf ts) := by
  induction ts with
  | nil => rfl
  | cons t ts ih =>
    rw [namedItems?, ih]
    cases hn : t.name? with
    | none => simp [hn]
    | some name =>
      by_cases hm : none ∈ ts.map name? <;> simp [hn, hm, entriesOf]

/-- The names of elements that all have one. -/
theorem map_name?_eq (h : none ∉ ts.map name?) :
    ts.map name? = ((entriesOf ts).map (·.1)).map some := by
  rw [entriesOf, List.map_map, List.map_map]
  apply List.map_congr_left
  intro t ht
  cases hn : t.name? with
  | none => exact absurd (List.mem_map.2 ⟨t, ht, hn⟩) h
  | some name => simp [hn]

theorem nodup_keys_entriesOf (h : none ∉ ts.map name?) :
    ((entriesOf ts).map (·.1)).Nodup ↔ (ts.map name?).Nodup := by
  rw [map_name?_eq h, List.nodup_map_iff fun _ _ => Option.some.inj]

/-- No array but one of named elements is a mapping. -/
theorem ofItems?_eq_none_iff : ofItems? ts = none ↔ ¬ Named ts := by
  rw [ofItems?, namedItems?_eq, Named]
  by_cases hm : none ∈ ts.map name?
  · simp [hm]
  · simp only [hm, ↓reduceIte, nodup_keys_entriesOf hm]
    simp

theorem entries_of_ofItems? (h : ofItems? ts = some a) : a.entries = entriesOf ts := by
  rw [ofItems?, namedItems?_eq] at h
  by_cases hm : none ∈ ts.map name?
  · simp [hm] at h
  · simp only [hm, ↓reduceIte, Option.dite_none_right_eq_some, Option.some.injEq] at h
    obtain ⟨_, rfl⟩ := h
    rfl

theorem map_snd_entriesOf (ts : List Tree) : (entriesOf ts).map (·.2) = ts := by
  rw [entriesOf, List.map_map]
  exact List.map_id ts

/-- After setting an element, every element is the new one or one that was there. -/
theorem mem_of_mem_setEntry {e : String × Tree} (h : e ∈ setEntry name v es) :
    e.2 = v ∨ e ∈ es := by
  induction es with
  | nil =>
    left
    simp only [setEntry, List.mem_singleton] at h
    rw [h]
  | cons d es ih =>
    obtain ⟨j, w⟩ := d
    rw [setEntry] at h
    split at h
    · rcases List.mem_cons.1 h with rfl | he
      · exact .inl rfl
      · exact .inr (List.mem_cons_of_mem _ he)
    · rcases List.mem_cons.1 h with rfl | he
      · exact .inr List.mem_cons_self
      · exact (ih he).imp_right (List.mem_cons_of_mem _)

theorem setEntry_of_not_mem (h : name ∉ es.map (·.1)) : setEntry name v es = es ++ [(name, v)] := by
  induction es with
  | nil => rfl
  | cons e es ih =>
    obtain ⟨j, w⟩ := e
    obtain ⟨hj, hes⟩ := not_or.1 (mt List.mem_cons.2 h)
    rw [setEntry, if_neg (Ne.symm hj), ih hes, List.cons_append]

theorem setEntry_of_mem (hn : (es.map (·.1)).Nodup) (h : name ∈ es.map (·.1)) :
    setEntry name v es = es.map fun e => if e.1 = name then (e.1, v) else e := by
  induction es with
  | nil => simp at h
  | cons e es ih =>
    obtain ⟨j, w⟩ := e
    obtain ⟨hj, hes⟩ := List.nodup_cons.1 hn
    rw [setEntry, List.map_cons]
    by_cases hje : j = name
    · subst hje
      -- No other element has the name.
      have hrest : es.map (fun e => if e.1 = j then (e.1, v) else e) = es := by
        refine (List.map_congr_left fun e he => ?_).trans (List.map_id es)
        exact if_neg fun heq => hj (List.mem_map.2 ⟨e, he, heq⟩)
      simp [hrest]
    · rw [if_neg hje, if_neg hje, ih hes ((List.mem_cons.1 h).resolve_left (Ne.symm hje))]

end NamedArray

end PreviewEnv
