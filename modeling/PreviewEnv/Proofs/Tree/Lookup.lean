import PreviewEnv.Cluster.Memory
import PreviewEnv.Proofs.Tree.Entries

/-!
`child` and `within` give the value under a key, or at the end of a path of keys,
and null where there is nothing: as far as a comparison of stored objects can tell,
an entry that holds null is no entry.
-/

namespace PreviewEnv.Tree

variable {t v : Tree} {ts : List Tree} {es : List (String × Tree)} {k j : String}

/-- Whether the tree is neither an array nor a map. -/
def isScalar : Tree → Bool
  | arr _ | map _ => false
  | _ => true

def isMap : Tree → Bool
  | map _ => true
  | _ => false

/-- Induction over trees, with the hypothesis for every element of an array and every value of a
map. -/
@[elab_as_elim]
theorem byParts {motive : Tree → Prop} (scalar : ∀ t : Tree, t.isScalar = true → motive t)
    (arr : ∀ ts, (∀ t ∈ ts, motive t) → motive (arr ts))
    (map : ∀ es, (∀ k v, Entries.get? k es = some v → motive v) → motive (map es)) (t : Tree) :
    motive t := by
  refine @Tree.rec motive (fun ts => ∀ t ∈ ts, motive t) (fun es => ∀ e ∈ es, motive e.2)
    (fun e => motive e.2) (scalar _ rfl) (fun _ => scalar _ rfl) (fun _ => scalar _ rfl)
    (fun _ => scalar _ rfl) (fun _ => scalar _ rfl) arr
    (fun es ih => map es fun k v h => ih _ (Entries.mem_of_get? h)) ?_ ?_ ?_ ?_ (fun _ _ h => h) t
  · simp
  · intro t ts ht hts u hu
    rcases List.mem_cons.1 hu with rfl | hu
    · exact ht
    · exact hts u hu
  · simp
  · intro e es he hes f hf
    rcases List.mem_cons.1 hf with rfl | hf
    · exact he
    · exact hes f hf

/-- The value under a key of a map, null if there is none. -/
def child (k : String) (t : Tree) : Tree := (t.get? k).getD .null

/-- The value at the end of a path of map keys, null if there is none. -/
def within : List String → Tree → Tree
  | [], t => t
  | k :: ks, t => within ks (t.child k)

/-- Whether the tree is a map or null, so that there can be something under its keys. -/
def isOpen : Tree → Bool
  | null | map _ => true
  | _ => false

@[simp] theorem get?_map : (map es).get? k = Entries.get? k es := rfl

theorem child_map : (map es).child k = (Entries.get? k es).getD .null := rfl

@[simp] theorem child_null : null.child k = null := rfl

theorem child_of_get? (h : Entries.get? k es = some v) : (map es).child k = v := by
  simp [child_map, h]

theorem child_of_not_map (h : ∀ es, t ≠ map es) : t.child k = null := by
  cases t with
  | map es => exact absurd rfl (h es)
  | _ => rfl

theorem child_nil : (map []).child k = null := rfl

theorem isNull_eq_true : t.isNull = true ↔ t = null := by
  cases t <;> simp [isNull]

theorem isNull_eq_false : t.isNull = false ↔ t ≠ null := by
  cases t <;> simp [isNull]

theorem isMap_eq_true : t.isMap = true ↔ ∃ es, t = map es := by
  cases t <;> simp [isMap]

theorem isOpen_eq_true : t.isOpen = true ↔ t = null ∨ ∃ es, t = map es := by
  cases t <;> simp [isOpen]

@[simp] theorem within_nil : within [] t = t := rfl

@[simp] theorem within_cons (ks : List String) : within (k :: ks) t = within ks (t.child k) := rfl

@[simp] theorem within_null (ks : List String) : within ks null = null := by
  induction ks with
  | nil => rfl
  | cons k ks ih => exact ih

theorem within_eq_at? (ks : List String) (t : Tree) : within ks t = (t.at? ks).getD null := by
  induction ks generalizing t with
  | nil => rfl
  | cons k ks ih =>
    rw [within_cons, child, at?]
    cases h : t.get? k with
    | none => simp
    | some u => simpa using ih u

/-- A value other than null is at the end of a path exactly when `within` gives it. -/
theorem at?_eq_some_iff {ks : List String} (hv : v ≠ null) :
    t.at? ks = some v ↔ within ks t = v := by
  rw [within_eq_at?]
  cases h : t.at? ks with
  | none => simpa using hv.symm
  | some u => simp

theorem within_of_at? {ks : List String} (h : t.at? ks = some v) : within ks t = v := by
  simp [within_eq_at?, h]

theorem textAt_eq_within (ks : List String) (t : Tree) :
    t.textAt ks = ((within ks t).str?).getD "" := by
  rw [textAt, within_eq_at?]
  cases t.at? ks <;> rfl

/-- A text that is not empty is a text that is there. -/
theorem at?_of_textAt {ks : List String} (h : t.textAt ks ≠ "") :
    t.at? ks = some (str (t.textAt ks)) := by
  unfold textAt at h ⊢
  cases hat : t.at? ks with
  | none => simp [hat] at h
  | some v => cases v <;> simp_all [str?]

/-- One step down a tree: to the value under a key of a map, or to an element of an array. -/
inductive Step where
  | key (k : String)
  | index (i : Nat)
deriving DecidableEq, Repr

/-- The value one step down. -/
def part? : Step → Tree → Option Tree
  | .key k, map es => Entries.get? k es
  | .index i, arr ts => ts[i]?
  | _, _ => none

/-- The value at the end of a path of keys and indices. -/
def along? : List Step → Tree → Option Tree
  | [], t => some t
  | s :: path, t => (t.part? s).bind (along? path)

@[simp] theorem along?_nil : along? [] t = some t := rfl

theorem along?_cons (s : Step) (path : List Step) :
    along? (s :: path) t = (t.part? s).bind (along? path) := rfl

theorem along?_append (front back : List Step) :
    along? (front ++ back) t = (along? front t).bind (along? back) := by
  induction front generalizing t with
  | nil => rfl
  | cons s front ih =>
    rw [List.cons_append, along?_cons, along?_cons, Option.bind_assoc]
    exact congrArg _ (funext fun _ => ih)

/-- There is nothing inside a scalar. -/
theorem part?_of_isScalar {s : Step} (h : t.isScalar = true) : t.part? s = none := by
  cases t <;> cases s <;> simp_all [part?, isScalar]

/-- A path that starts at a scalar ends there. -/
theorem eq_of_along?_of_isScalar {path : List Step} (ht : t.isScalar = true)
    (h : t.along? path = some v) : v = t := by
  cases path with
  | nil => exact (Option.some.inj h).symm
  | cons s path =>
    rw [along?_cons, part?_of_isScalar ht] at h
    cases h

theorem exists_map_of_part? (h : t.part? (.key k) = some v) : ∃ es, t = map es := by
  cases t with
  | map es => exact ⟨es, rfl⟩
  | _ => cases h

theorem exists_arr_of_part? {i : Nat} (h : t.part? (.index i) = some v) : ∃ ts, t = arr ts := by
  cases t with
  | arr ts => exact ⟨ts, rfl⟩
  | _ => cases h

/-- Induction over trees, with the hypothesis for every value one step down. -/
@[elab_as_elim]
theorem byPart {motive : Tree → Prop}
    (part : ∀ t, (∀ s v, t.part? s = some v → motive v) → motive t) (t : Tree) : motive t := by
  induction t using byParts with
  | scalar t hs =>
    refine part t fun s v h => ?_
    rw [part?_of_isScalar hs] at h
    cases h
  | arr ts ih =>
    refine part _ fun s v h => ?_
    cases s with
    | key k => cases h
    | index i => exact ih v (List.mem_of_getElem? h)
  | map es ih =>
    refine part _ fun s v h => ?_
    cases s with
    | key k => exact ih k v h
    | index i => cases h

theorem orderedItems_iff : OrderedItems ts ↔ ∀ t ∈ ts, t.Ordered := by
  induction ts with
  | nil => simp [OrderedItems]
  | cons t ts ih => simp [OrderedItems, ih]

theorem orderedEntries_iff : OrderedEntries es ↔ ∀ e ∈ es, e.2.Ordered := by
  induction es with
  | nil => simp [OrderedEntries]
  | cons e es ih =>
    obtain ⟨k, t⟩ := e
    simp [OrderedEntries, ih]

theorem ordered_arr : (arr ts).Ordered ↔ ∀ t ∈ ts, t.Ordered := by
  rw [Ordered, orderedItems_iff]

theorem ordered_map : (map es).Ordered ↔ Entries.Ordered es ∧ ∀ e ∈ es, e.2.Ordered := by
  rw [Ordered, orderedEntries_iff]

instance : Decidable (Entries.Ordered es) :=
  inferInstanceAs (Decidable (es.Pairwise fun a b => a.1 < b.1))

mutual

/-- Whether the keys of a tree are in order can be computed. -/
def decideOrdered : (t : Tree) → Decidable t.Ordered
  | arr ts => decideOrderedItems ts
  | map es => @instDecidableAnd _ _ inferInstance (decideOrderedEntries es)
  | null | bool _ | int _ | float _ | str _ => .isTrue trivial

def decideOrderedItems : (ts : List Tree) → Decidable (OrderedItems ts)
  | [] => .isTrue trivial
  | t :: ts => @instDecidableAnd _ _ (decideOrdered t) (decideOrderedItems ts)

def decideOrderedEntries : (es : List (String × Tree)) → Decidable (OrderedEntries es)
  | [] => .isTrue trivial
  | (_, t) :: es => @instDecidableAnd _ _ (decideOrdered t) (decideOrderedEntries es)

end

instance : Decidable t.Ordered := decideOrdered t

@[simp] theorem ordered_null : null.Ordered := trivial

@[simp] theorem ordered_str (s : String) : (str s).Ordered := trivial

theorem Ordered.get? (h : (map es).Ordered) (hk : Entries.get? k es = some v) : v.Ordered :=
  (ordered_map.1 h).2 _ (Entries.mem_of_get? hk)

theorem ordered_child_of_forall (h : ∀ e ∈ es, e.2.Ordered) : ((map es).child k).Ordered := by
  rw [child_map]
  cases hk : Entries.get? k es with
  | none => trivial
  | some v => exact h _ (Entries.mem_of_get? hk)

theorem Ordered.child (h : t.Ordered) (k : String) : (t.child k).Ordered := by
  cases t with
  | map es => exact ordered_child_of_forall (ordered_map.1 h).2
  | _ => trivial

theorem Ordered.part? {s : Step} (h : t.Ordered) (hs : t.part? s = some v) : v.Ordered := by
  cases s with
  | key k =>
    obtain ⟨es, rfl⟩ := exists_map_of_part? hs
    exact h.get? hs
  | index i =>
    obtain ⟨ts, rfl⟩ := exists_arr_of_part? hs
    exact ordered_arr.1 h v (List.mem_of_getElem? hs)

theorem Ordered.along? {path : List Step} (h : t.Ordered) (hv : t.along? path = some v) :
    v.Ordered := by
  induction path generalizing t with
  | nil => exact Option.some.inj hv ▸ h
  | cons s path ih =>
    obtain ⟨u, hu, hv⟩ := Option.bind_eq_some_iff.1 hv
    exact ih (h.part? hu) hv

theorem Ordered.within (h : t.Ordered) (ks : List String) : (Tree.within ks t).Ordered := by
  induction ks generalizing t with
  | nil => exact h
  | cons k ks ih => exact ih (h.child k)

theorem Ordered.at? (h : t.Ordered) {ks : List String} (hv : t.at? ks = some v) : v.Ordered := by
  have hw := h.within ks
  rwa [within_of_at? hv] at hw

theorem Ordered.insert (h : (map es).Ordered) (hv : v.Ordered) :
    (map (Entries.insert k v es)).Ordered := by
  obtain ⟨ho, hvs⟩ := ordered_map.1 h
  refine ordered_map.2 ⟨ho.insert, fun e he => ?_⟩
  rcases Entries.mem_of_mem_insert he with rfl | he
  · exact hv
  · exact hvs e he

theorem Ordered.filter (p : String × Tree → Bool) (h : (map es).Ordered) :
    (map (es.filter p)).Ordered := by
  obtain ⟨ho, hvs⟩ := ordered_map.1 h
  exact ordered_map.2 ⟨ho.filter p, fun e he => hvs e (List.mem_filter.1 he).1⟩

theorem Ordered.erase (h : (map es).Ordered) : (map (Entries.erase k es)).Ordered := h.filter _

/-- The entries that setting a value under a key starts from. -/
def entries : Tree → List (String × Tree)
  | map es => es
  | _ => []

theorem put_cons (ks : List String) :
    t.put (k :: ks) v = map (Entries.insert k ((t.child k).put ks v) t.entries) := by
  cases t <;> rfl

theorem child_entries : (map t.entries).child k = t.child k := by
  cases t <;> rfl

theorem child_insert :
    (map (Entries.insert j v es)).child k = if j = k then v else (map es).child k := by
  rw [child_map, Entries.get?_insert]
  split <;> rfl

theorem child_put (ks : List String) :
    (t.put (j :: ks) v).child k = if j = k then (t.child j).put ks v else t.child k := by
  rw [put_cons, child_insert, child_entries]

theorem within_put (ks : List String) : within ks (t.put ks v) = v := by
  induction ks generalizing t with
  | nil => cases t <;> rfl
  | cons k ks ih => simpa [child_put] using ih

/-- A value set at the end of a path is not seen from a path that leaves it before its end. -/
theorem within_put_of_disjoint {ks js : List String} (h : ¬ ks <+: js) (h' : ¬ js <+: ks) :
    within js (t.put ks v) = within js t := by
  induction ks generalizing t js with
  | nil => exact absurd List.nil_prefix h
  | cons k ks ih =>
    cases js with
    | nil => exact absurd List.nil_prefix h'
    | cons j js =>
      rw [within_cons, within_cons, child_put]
      split
      · next hkj =>
        subst hkj
        rw [List.cons_prefix_cons] at h h'
        exact ih (fun hp => h ⟨rfl, hp⟩) (fun hp => h' ⟨rfl, hp⟩)
      · rfl

theorem Ordered.put (h : t.Ordered) (hv : v.Ordered) (ks : List String) :
    (t.put ks v).Ordered := by
  induction ks generalizing t with
  | nil => cases t <;> exact hv
  | cons k ks ih =>
    rw [put_cons]
    apply Ordered.insert _ (ih (h.child k))
    cases t with
    | map es => exact h
    | _ => exact ordered_map.2 ⟨Entries.ordered_nil, by simp [entries]⟩

end PreviewEnv.Tree
