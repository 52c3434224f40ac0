import PreviewEnv.Proofs.Binary64.Integers
import PreviewEnv.Proofs.Tree.Canonical

/-!
In normal form a tree has no map entries that hold null, and every number in it is
a float. The canonical form writes the whole ones of those floats as integers
instead, which the comparison of stored objects does too; either form can be had
from the other.
-/

namespace PreviewEnv.Tree

variable {a b c t u : Tree}

/-- A number as the float that it converts to, zero without its sign. An integer that is beyond the
floats, which no machine word is, stands for itself, rounded as they are. -/
def normalNumber : Tree → Tree
  | int n => match Binary64.ofInt? n with
    | some x => float x.unsigned
    | none => int (Binary64.nearestInt n)
  | float x => float x.unsigned
  | t => t

theorem normalNumber_of_ofInt? {n : Int} {x : Binary64} (h : Binary64.ofInt? n = some x) :
    normalNumber (int n) = float x.unsigned := by
  simp only [normalNumber, h]

/-- Every integer that fits into a machine word has a float for its normal form. -/
theorem normalNumber_of_fits {n : Int} (h : fitsSigned 64 n = true ∨ fitsUnsigned 64 n = true) :
    ∃ x, Binary64.ofInt? n = some x ∧ normalNumber (int n) = float x.unsigned := by
  obtain ⟨x, hx⟩ := Binary64.exists_ofInt?_of_fits h
  exact ⟨x, hx, normalNumber_of_ofInt? hx⟩

/-- An integer that is a float has that float for its normal form. -/
theorem normalNumber_of_toInt? {n : Int} {x : Binary64} (h : x.toInt? = some n) :
    normalNumber (int n) = float x.unsigned := by
  obtain ⟨y, hy, hyn⟩ := Binary64.exists_ofInt?_of_toInt? h
  rw [normalNumber_of_ofInt? hy, Binary64.unsigned_eq_iff.2 (Binary64.sameValue_of_toInt? hyn h)]

theorem normalNumber_canonicalNumber (t : Tree) :
    normalNumber (canonicalNumber t) = normalNumber t := by
  cases t with
  | int n =>
    rw [canonicalNumber]
    cases hn : Binary64.ofInt? n with
    | some x =>
      rw [normalNumber_of_ofInt? hn, normalNumber_of_toInt? (Binary64.toInt?_of_ofInt? hn)]
    | none =>
      have hround : Binary64.ofInt? (Binary64.nearestInt n) = none := by
        rwa [Binary64.ofInt?_eq_none_iff, Binary64.natAbs_nearestInt, Binary64.rounded_rounded,
          ← Binary64.ofInt?_eq_none_iff]
      simp only [normalNumber, hn, hround, Binary64.nearestInt_nearestInt]
  | float x =>
    rw [canonicalNumber]
    split
    · next h => exact normalNumber_of_toInt? h
    · rfl
  | _ => rfl

theorem canonicalNumber_float (x : Binary64) :
    canonicalNumber (float x.unsigned) = canonicalNumber (float x) := by
  rw [canonicalNumber, canonicalNumber, Binary64.toInt?_unsigned]
  cases hx : x.toInt? with
  | some n => rfl
  | none =>
    -- Zero is whole, so the float is none of the zeros.
    have hzero : x.isZero = false := by
      rw [← Bool.not_eq_true]
      intro hz
      rw [Binary64.toInt?_of_isZero hz] at hx
      cases hx
    rw [Binary64.unsigned_of_not_isZero hzero]

theorem canonicalNumber_normalNumber (t : Tree) :
    canonicalNumber (normalNumber t) = canonicalNumber t := by
  cases t with
  | int n =>
    cases hn : Binary64.ofInt? n with
    | some x =>
      rw [normalNumber_of_ofInt? hn, canonicalNumber_float]
      simp only [canonicalNumber, Binary64.toInt?_of_ofInt? hn]
    | none => simp only [normalNumber, hn, canonicalNumber, Binary64.nearestInt_nearestInt]
  | float x => exact canonicalNumber_float x
  | _ => rfl

mutual

/-- The tree without the map entries that hold null, at any depth, and with every number as the
float that it converts to. Nulls that are elements of arrays stay. -/
def normal : Tree → Tree
  | arr items => arr (normalItems items)
  | map es => map (normalEntries es)
  | t => normalNumber t

def normalItems : List Tree → List Tree
  | [] => []
  | t :: ts => normal t :: normalItems ts

def normalEntries : List (String × Tree) → List (String × Tree)
  | [] => []
  | (k, t) :: es => if t.isNull then normalEntries es else (k, normal t) :: normalEntries es

end

theorem normal_of_isScalar (h : t.isScalar = true) : normal t = normalNumber t := by
  cases t <;> simp_all [normal, isScalar]

theorem isNull_normal (t : Tree) : t.normal.isNull = t.isNull := by
  cases t with
  | int n =>
    rw [normal_of_isScalar rfl, normalNumber]
    split <;> rfl
  | _ => rfl

theorem isNull_canonical (t : Tree) : t.canonical.isNull = t.isNull := by
  rw [Bool.eq_iff_iff, isNull_eq_true, isNull_eq_true, canonical_eq_null]

theorem isScalar_normalNumber (h : t.isScalar = true) : (normalNumber t).isScalar = true := by
  cases t with
  | int n =>
    rw [normalNumber]
    split <;> rfl
  | _ => exact h

theorem isScalar_canonicalNumber (h : t.isScalar = true) : (canonicalNumber t).isScalar = true := by
  cases t with
  | float x =>
    rw [canonicalNumber]
    split <;> rfl
  | _ => exact h

theorem canonical_normal_of_isScalar (h : t.isScalar = true) :
    t.normal.canonical = t.canonical := by
  rw [normal_of_isScalar h, canonical_of_isScalar (isScalar_normalNumber h),
    canonicalNumber_normalNumber, canonical_of_isScalar h]

theorem normal_canonical_of_isScalar (h : t.isScalar = true) : t.canonical.normal = t.normal := by
  rw [canonical_of_isScalar h, normal_of_isScalar (isScalar_canonicalNumber h),
    normalNumber_canonicalNumber, normal_of_isScalar h]

mutual

/-- The normal form of a tree has the canonical form of the tree. -/
theorem canonical_normal : (t : Tree) → t.normal.canonical = t.canonical
  | arr ts => congrArg arr (canonicalItems_normalItems ts)
  | map es => congrArg map (canonicalEntries_normalEntries es)
  | null | bool _ | int _ | float _ | str _ => canonical_normal_of_isScalar rfl

theorem canonicalItems_normalItems :
    (ts : List Tree) → canonicalItems (normalItems ts) = canonicalItems ts
  | [] => rfl
  | t :: ts => by
    rw [normalItems, canonicalItems, canonicalItems, canonical_normal t,
      canonicalItems_normalItems ts]

theorem canonicalEntries_normalEntries :
    (es : List (String × Tree)) → canonicalEntries (normalEntries es) = canonicalEntries es
  | [] => rfl
  | (k, t) :: es => by
    rw [normalEntries, canonicalEntries]
    split
    · exact canonicalEntries_normalEntries es
    · next h =>
      rw [canonicalEntries, isNull_normal, if_neg h, canonical_normal t,
        canonicalEntries_normalEntries es]

end

mutual

/-- The canonical form of a tree has the normal form of the tree. -/
theorem normal_canonical : (t : Tree) → t.canonical.normal = t.normal
  | arr ts => congrArg arr (normalItems_canonicalItems ts)
  | map es => congrArg map (normalEntries_canonicalEntries es)
  | null | bool _ | int _ | float _ | str _ => normal_canonical_of_isScalar rfl

theorem normalItems_canonicalItems :
    (ts : List Tree) → normalItems (canonicalItems ts) = normalItems ts
  | [] => rfl
  | t :: ts => by
    rw [canonicalItems, normalItems, normalItems, normal_canonical t, normalItems_canonicalItems ts]

theorem normalEntries_canonicalEntries :
    (es : List (String × Tree)) → normalEntries (canonicalEntries es) = normalEntries es
  | [] => rfl
  | (k, t) :: es => by
    rw [canonicalEntries, normalEntries]
    split
    · exact normalEntries_canonicalEntries es
    · next h =>
      rw [normalEntries, isNull_canonical, if_neg h, normal_canonical t,
        normalEntries_canonicalEntries es]

end

/-- Trees have one canonical form exactly when they have one normal form. -/
theorem canonical_eq_iff_normal : a.canonical = b.canonical ↔ a.normal = b.normal := by
  constructor
  · intro h
    rw [← normal_canonical a, h, normal_canonical]
  · intro h
    rw [← canonical_normal a, h, canonical_normal]

/-- **The comparison of stored objects is equality of normal forms.** Trees are equal exactly when
they are the same tree without null entries and with floats for numbers; so every tree is equal to
itself, and equality can be turned around and chained. -/
theorem equal_iff_normal (ha : a.Ordered) (hb : b.Ordered) (hc : c.Ordered) :
    (a.equal b = true ↔ a.normal = b.normal) ∧
      a.equal a = true ∧
      (a.equal b = true → b.equal a = true) ∧
      (a.equal b = true → b.equal c = true → a.equal c = true) := by
  have hiff {t u : Tree} (ht : t.Ordered) (hu : u.Ordered) :
      t.equal u = true ↔ t.normal = u.normal :=
    (equal_iff_canonical ht hu).trans canonical_eq_iff_normal
  refine ⟨hiff ha hb, (hiff ha ha).2 rfl, ?_, ?_⟩
  · rw [hiff ha hb, hiff hb ha]
    exact Eq.symm
  · rw [hiff ha hb, hiff hb hc, hiff ha hc]
    exact Eq.trans

def sentObject : Tree := map [
  ("limits", arr [null, int 1]),
  ("paused", null),
  ("weight", float ⟨true, 0, 0, by decide, by decide⟩)]

def storedObject : Tree := map [
  ("limits", arr [null, float ⟨false, 1023, 0, by decide, by decide⟩]),
  ("weight", int 0)]

def listedObject : Tree := map [
  ("limits", arr [null, int 1]),
  ("owner", null),
  ("weight", float ⟨false, 0, 0, by decide, by decide⟩)]

def shortObject : Tree := map [
  ("limits", arr [int 1]),
  ("weight", int 0)]

theorem equal_iff_normal_sentObject :
    sentObject.Ordered ∧ storedObject.Ordered ∧ listedObject.Ordered ∧ shortObject.Ordered ∧
      sentObject.normal = storedObject.normal ∧ sentObject.equal storedObject = true ∧
      storedObject.equal sentObject = true ∧ sentObject.equal listedObject = true ∧
      sentObject.normal ≠ shortObject.normal := by
  have hsent : sentObject.Ordered := by decide
  have hstored : storedObject.Ordered := by decide
  have hlisted : listedObject.Ordered := by decide
  have hshort : shortObject.Ordered := by decide
  obtain ⟨hiff, -, hsymm, htrans⟩ := equal_iff_normal hsent hstored hlisted
  obtain ⟨hdiffer, -⟩ := equal_iff_normal hsent hshort hsent
  have hnormal : sentObject.normal = storedObject.normal := by decide +kernel
  have hequal := hiff.2 hnormal
  refine ⟨hsent, hstored, hlisted, hshort, hnormal, hequal, hsymm hequal,
    htrans hequal (by decide +kernel), ?_⟩
  rw [ne_eq, ← hdiffer]
  decide +kernel

end PreviewEnv.Tree
