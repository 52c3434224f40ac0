import PreviewEnv.Proofs.Binary64.Integers
import PreviewEnv.Proofs.Tree.Canonical

/-!
The comparison of stored objects takes an integer for the float that is nearest to
it. Where all numbers of two trees are integers it therefore sees the trees
without nulls and with every integer rounded.
-/

namespace PreviewEnv.Tree

variable {a b t u v : Tree} {es fs : List (String × Tree)} {k : String} {s : Step}
  {path : List Step} {m n : Int}

mutual

/-- The tree without the map entries that hold null, at any depth. -/
def withoutNulls : Tree → Tree
  | arr items => arr (withoutNullsItems items)
  | map es => map (withoutNullsEntries es)
  | t => t

def withoutNullsItems : List Tree → List Tree
  | [] => []
  | t :: ts => withoutNulls t :: withoutNullsItems ts

def withoutNullsEntries : List (String × Tree) → List (String × Tree)
  | [] => []
  | (k, t) :: es =>
    if t.isNull then withoutNullsEntries es else (k, withoutNulls t) :: withoutNullsEntries es

end

mutual

/-- The tree with every integer as the whole number that its float is. -/
def rounded : Tree → Tree
  | arr items => arr (roundedItems items)
  | map es => map (roundedEntries es)
  | int n => int (Binary64.nearestInt n)
  | t => t

def roundedItems : List Tree → List Tree
  | [] => []
  | t :: ts => rounded t :: roundedItems ts

def roundedEntries : List (String × Tree) → List (String × Tree)
  | [] => []
  | (k, t) :: es => (k, rounded t) :: roundedEntries es

end

mutual

/-- Whether all numbers of the tree are integers. -/
def hasNoFloats : Tree → Bool
  | arr items => hasNoFloatsItems items
  | map es => hasNoFloatsEntries es
  | float _ => false
  | _ => true

def hasNoFloatsItems : List Tree → Bool
  | [] => true
  | t :: ts => hasNoFloats t && hasNoFloatsItems ts

def hasNoFloatsEntries : List (String × Tree) → Bool
  | [] => true
  | (_, t) :: es => hasNoFloats t && hasNoFloatsEntries es

end

/-- Where both trees hold an integer, at the end of one path, it is the same one. -/
def SameIntegers (a b : Tree) : Prop :=
  ∀ path m n, a.along? path = some (int m) → b.along? path = some (int n) → m = n

mutual

/-- Where all numbers are integers, the canonical form is the tree without nulls and with every
integer rounded. -/
theorem canonical_eq_rounded : (t : Tree) → t.hasNoFloats = true →
    canonical t = rounded (withoutNulls t)
  | arr ts, h => congrArg arr (canonicalItems_eq_rounded ts h)
  | map es, h => congrArg map (canonicalEntries_eq_rounded es h)
  | float _, h => by cases h
  | null, _ | bool _, _ | int _, _ | str _, _ => rfl

theorem canonicalItems_eq_rounded : (ts : List Tree) → hasNoFloatsItems ts = true →
    canonicalItems ts = roundedItems (withoutNullsItems ts)
  | [], _ => rfl
  | t :: ts, h => by
    rw [hasNoFloatsItems, Bool.and_eq_true] at h
    rw [canonicalItems, withoutNullsItems, roundedItems, canonical_eq_rounded t h.1,
      canonicalItems_eq_rounded ts h.2]

theorem canonicalEntries_eq_rounded : (es : List (String × Tree)) →
    hasNoFloatsEntries es = true →
      canonicalEntries es = roundedEntries (withoutNullsEntries es)
  | [], _ => rfl
  | (k, t) :: es, h => by
    rw [hasNoFloatsEntries, Bool.and_eq_true] at h
    rw [canonicalEntries, withoutNullsEntries]
    split
    · exact canonicalEntries_eq_rounded es h.2
    · rw [roundedEntries, canonical_eq_rounded t h.1, canonicalEntries_eq_rounded es h.2]

end

/-- Trees without floats are equal exactly when they are the same without nulls and rounded. -/
theorem equal_iff_rounded (ha : a.Ordered) (hb : b.Ordered) (hna : a.hasNoFloats = true)
    (hnb : b.hasNoFloats = true) :
    a.equal b = true ↔ a.withoutNulls.rounded = b.withoutNulls.rounded := by
  rw [equal_iff_canonical ha hb, canonical_eq_rounded a hna, canonical_eq_rounded b hnb]

theorem roundedItems_eq_map (ts : List Tree) : roundedItems ts = ts.map rounded := by
  induction ts with
  | nil => rfl
  | cons t ts ih => rw [roundedItems, ih, List.map_cons]

theorem roundedEntries_eq_map (es : List (String × Tree)) :
    roundedEntries es = es.map fun e => (e.1, rounded e.2) := by
  induction es with
  | nil => rfl
  | cons e es ih => rw [roundedEntries, ih, List.map_cons]

theorem withoutNullsItems_eq_map (ts : List Tree) :
    withoutNullsItems ts = ts.map withoutNulls := by
  induction ts with
  | nil => rfl
  | cons t ts ih => rw [withoutNullsItems, ih, List.map_cons]

theorem withoutNullsEntries_eq_map (es : List (String × Tree)) :
    withoutNullsEntries es =
      (es.filter fun e => !e.2.isNull).map fun e => (e.1, withoutNulls e.2) := by
  induction es with
  | nil => rfl
  | cons e es ih =>
    obtain ⟨k, t⟩ := e
    rw [withoutNullsEntries]
    split
    · next h => simp [h, ih]
    · next h => simp [h, ih]

theorem part?_rounded : t.rounded.part? s = (t.part? s).map rounded := by
  cases t with
  | arr ts =>
    cases s with
    | key k => rfl
    | index i => rw [rounded, part?, roundedItems_eq_map, List.getElem?_map, part?]
  | map es =>
    cases s with
    | key k => rw [rounded, part?, roundedEntries_eq_map, Entries.get?_map_snd, part?]
    | index i => rfl
  | _ => cases s <;> rfl

theorem along?_rounded : t.rounded.along? path = (t.along? path).map rounded := by
  induction path generalizing t with
  | nil => rfl
  | cons s path ih =>
    rw [along?_cons, part?_rounded, along?_cons]
    cases t.part? s with
    | none => rfl
    | some u => exact ih

theorem get?_withoutNulls (ht : t.Ordered) :
    t.withoutNulls.get? k = ((t.get? k).filter fun v => !v.isNull).map withoutNulls := by
  cases t with
  | map es =>
    rw [withoutNulls, get?_map, get?_map, withoutNullsEntries_eq_map, Entries.get?_map_snd,
      Entries.get?_filter_snd (fun v : Tree => !v.isNull) (ordered_map.1 ht).1]
  | _ => rfl

/-- What is there and not null is there without the nulls. -/
theorem part?_withoutNulls (ht : t.Ordered) (h : t.part? s = some v) (hv : v ≠ null) :
    t.withoutNulls.part? s = some v.withoutNulls := by
  cases s with
  | key k =>
    obtain ⟨es, rfl⟩ := exists_map_of_part? h
    have hget := get?_withoutNulls (k := k) ht
    rw [get?_map, show Entries.get? k es = some v from h, Option.filter_some,
      if_pos (by simp [isNull_eq_false.2 hv])] at hget
    exact hget
  | index i =>
    obtain ⟨ts, rfl⟩ := exists_arr_of_part? h
    rw [part?] at h
    rw [withoutNulls, part?, withoutNullsItems_eq_map, List.getElem?_map, h, Option.map_some]

/-- What is there without the nulls is there with them. -/
theorem part?_of_withoutNulls (ht : t.Ordered) (h : t.withoutNulls.part? s = some u) :
    ∃ v, t.part? s = some v ∧ v.withoutNulls = u := by
  cases t with
  | arr ts =>
    cases s with
    | key k => cases h
    | index i =>
      rw [withoutNulls, part?, withoutNullsItems_eq_map, List.getElem?_map] at h
      exact Option.map_eq_some_iff.1 h
  | map es =>
    cases s with
    | key k =>
      have hget := (get?_withoutNulls ht).symm.trans h
      obtain ⟨v, hv, rfl⟩ := Option.map_eq_some_iff.1 hget
      exact ⟨v, (Option.filter_eq_some_iff.1 hv).1, rfl⟩
    | index i => cases h
  | _ => cases s <;> cases h

theorem along?_withoutNulls (ht : t.Ordered) (h : t.along? path = some v) (hv : v ≠ null) :
    t.withoutNulls.along? path = some v.withoutNulls := by
  induction path generalizing t with
  | nil =>
    cases h
    rfl
  | cons s path ih =>
    obtain ⟨u, hu, h⟩ := Option.bind_eq_some_iff.1 h
    have hne : u ≠ null := by
      rintro rfl
      exact hv (eq_of_along?_of_isScalar rfl h)
    rw [along?_cons, part?_withoutNulls ht hu hne]
    exact ih (ht.part? hu) h

theorem along?_of_withoutNulls (ht : t.Ordered) (h : t.withoutNulls.along? path = some u) :
    ∃ v, t.along? path = some v ∧ v.withoutNulls = u := by
  induction path generalizing t with
  | nil => exact ⟨t, rfl, Option.some.inj h⟩
  | cons s path ih =>
    obtain ⟨w, hw, h⟩ := Option.bind_eq_some_iff.1 h
    obtain ⟨v, hv, rfl⟩ := part?_of_withoutNulls ht hw
    rw [along?_cons, hv]
    exact ih (ht.part? hv) h

theorem Ordered.withoutNulls (h : t.Ordered) : (Tree.withoutNulls t).Ordered := by
  induction t using byParts with
  | scalar t hs => cases t <;> first | exact h | cases hs
  | arr ts ih =>
    rw [Tree.withoutNulls, withoutNullsItems_eq_map, ordered_arr]
    intro u hu
    obtain ⟨t, ht, rfl⟩ := List.mem_map.1 hu
    exact ih t ht (ordered_arr.1 h t ht)
  | map es ih =>
    have hes := ordered_map.1 h
    rw [Tree.withoutNulls, withoutNullsEntries_eq_map, ordered_map]
    refine ⟨?_, fun g hg => ?_⟩
    · apply hes.1.of_keys_sublist
      rw [List.map_map]
      exact List.Sublist.map _ List.filter_sublist
    · obtain ⟨e, he, rfl⟩ := List.mem_map.1 hg
      have hmem := (List.mem_filter.1 he).1
      exact ih e.1 e.2 ((Entries.mem_iff_get? hes.1).1 hmem) (hes.2 e hmem)

theorem along?_withoutNulls_int (ht : t.Ordered) :
    t.withoutNulls.along? path = some (int m) ↔ t.along? path = some (int m) := by
  constructor
  · intro h
    obtain ⟨v, hv, hint⟩ := along?_of_withoutNulls ht h
    cases v with
    | int n => rwa [← hint]
    | _ => cases hint
  · intro h
    exact along?_withoutNulls ht h (by simp)

theorem sameIntegers_withoutNulls (ha : a.Ordered) (hb : b.Ordered) :
    SameIntegers a.withoutNulls b.withoutNulls ↔ SameIntegers a b := by
  simp only [SameIntegers, along?_withoutNulls_int ha, along?_withoutNulls_int hb]

/-- Trees that are the same when rounded are the same where no two integers differ. -/
theorem eq_of_rounded (ha : a.Ordered) (hb : b.Ordered) (h : a.rounded = b.rounded)
    (hsame : SameIntegers a b) : a = b := by
  induction a using byPart generalizing b with
  | part a ih =>
    have hpart (s : Step) : a.part? s = b.part? s := by
      have hrounded : (a.part? s).map rounded = (b.part? s).map rounded := by
        rw [← part?_rounded, h, part?_rounded]
      cases hu : a.part? s with
      | none =>
        rw [hu] at hrounded
        exact (Option.map_eq_none_iff.1 hrounded.symm).symm
      | some u =>
        rw [hu] at hrounded
        obtain ⟨v, hv, huv⟩ := Option.map_eq_some_iff.1 hrounded.symm
        rw [hv, ih s u hu (ha.part? hu) (hb.part? hv) huv.symm]
        intro path m n hm hn
        refine hsame (s :: path) m n ?_ ?_
        · rwa [along?_cons, hu]
        · rwa [along?_cons, hv]
    cases a with
    | arr ts =>
      cases b with
      | arr us => exact congrArg arr (List.ext_getElem? fun i => hpart (.index i))
      | _ => cases h
    | map es =>
      cases b with
      | map fs =>
        exact congrArg map (Entries.ext_of_ordered (ordered_map.1 ha).1 (ordered_map.1 hb).1
          fun k => hpart (.key k))
      | _ => cases h
    | int m =>
      cases b with
      | int n => rw [hsame [] m n rfl rfl]
      | _ => cases h
    | _ => cases b <;> first | exact h | cases h

/-- In equal trees, integers at one place have one float. -/
theorem nearestInt_of_rounded (h : a.rounded = b.rounded) (hm : a.along? path = some (int m))
    (hn : b.along? path = some (int n)) : Binary64.nearestInt m = Binary64.nearestInt n := by
  have hfloat : (a.along? path).map rounded = (b.along? path).map rounded := by
    rw [← along?_rounded, h, along?_rounded]
  rw [hm, hn] at hfloat
  exact int.inj (Option.some.inj hfloat)

/-- Trees without floats are the same but for nulls exactly when they are equal and nowhere hold two
different integers. -/
theorem withoutNulls_eq_iff (ha : a.Ordered) (hb : b.Ordered) (hna : a.hasNoFloats = true)
    (hnb : b.hasNoFloats = true) :
    a.withoutNulls = b.withoutNulls ↔ a.equal b = true ∧ SameIntegers a b := by
  rw [equal_iff_rounded ha hb hna hnb]
  constructor
  · intro h
    refine ⟨congrArg rounded h, (sameIntegers_withoutNulls ha hb).1 ?_⟩
    rw [h]
    intro path m n hm hn
    exact int.inj (Option.some.inj (hm.symm.trans hn))
  · rintro ⟨h, hsame⟩
    exact eq_of_rounded ha.withoutNulls hb.withoutNulls h
      ((sameIntegers_withoutNulls ha hb).2 hsame)

/-- In equal trees, integers at one place have one float. -/
theorem nearestInt_of_equal (ha : a.Ordered) (hb : b.Ordered) (hna : a.hasNoFloats = true)
    (hnb : b.hasNoFloats = true) (h : a.equal b = true) (hm : a.along? path = some (int m))
    (hn : b.along? path = some (int n)) : Binary64.nearestInt m = Binary64.nearestInt n :=
  nearestInt_of_rounded ((equal_iff_rounded ha hb hna hnb).1 h)
    ((along?_withoutNulls_int ha).2 hm) ((along?_withoutNulls_int hb).2 hn)

end PreviewEnv.Tree
