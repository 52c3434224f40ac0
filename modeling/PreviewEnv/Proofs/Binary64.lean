import Mathlib.Data.Nat.Basic
import PreviewEnv.Binary64

namespace PreviewEnv.Binary64

-- Powers are those of the core library, whatever else is imported.
attribute [local instance (high)] instPowNat

variable {x y : Binary64} {n : Int}

/-- The smallest scale is that of `2 ^ -grid`. -/
def grid : Nat := 1074

/-- The exponent of the significand, counted from the smallest scale. -/
def shift (x : Binary64) : Nat := max x.exponent 1 - 1

theorem scale_eq (x : Binary64) : x.scale = (x.shift : Int) - grid := by
  simp only [scale, shift, grid]
  omega

theorem fractions_pos : 0 < fractions := by decide

theorem significand_lt (x : Binary64) : x.significand < 2 * fractions := by
  have := x.fraction_lt
  unfold significand
  split <;> omega

/-- Above the smallest scale, significands have their leading bit. -/
theorem le_significand (h : 0 < x.shift) : fractions ≤ x.significand := by
  unfold shift at h
  unfold significand
  rw [if_neg (by omega)]
  omega

/-- The magnitude of a float that is whole. -/
def whole? (x : Binary64) : Option Nat :=
  if 0 ≤ x.scale then some (x.significand * 2 ^ x.scale.toNat)
  else if x.significand % 2 ^ (-x.scale).toNat = 0 then
    some (x.significand / 2 ^ (-x.scale).toNat)
  else none

theorem toInt?_eq_some_iff :
    x.toInt? = some n ↔
      ∃ m : Nat, x.whole? = some m ∧ n = if x.negative then -(m : Int) else m := by
  have hsome (a : Nat) :
      (some a).map (fun m : Nat => if x.negative then -(m : Int) else m) = some n ↔
      ∃ m : Nat, some a = some m ∧ n = if x.negative then -(m : Int) else m := by
    constructor
    · intro h
      exact ⟨a, rfl, (Option.some.inj h).symm⟩
    · rintro ⟨m, hm, rfl⟩
      cases hm
      rfl
  unfold toInt? whole?
  by_cases hs : 0 ≤ x.scale
  · simp only [hs, ↓reduceIte]
    exact hsome _
  · by_cases hm : x.significand % 2 ^ (-x.scale).toNat = 0
    · simp only [hs, hm, ↓reduceIte]
      exact hsome _
    · simp [hs, hm]

/-- A whole magnitude, in units of the smallest scale. -/
theorem mul_of_whole? {m : Nat} (h : x.whole? = some m) :
    m * 2 ^ grid = x.significand * 2 ^ x.shift := by
  have hscale := x.scale_eq
  simp only [whole?] at h
  by_cases hs : 0 ≤ x.scale
  · have he : x.shift = x.scale.toNat + grid := by omega
    simp only [hs, ↓reduceIte, Option.some.injEq] at h
    rw [← h, he, Nat.pow_add, Nat.mul_assoc]
  · have he : grid = (-x.scale).toNat + x.shift := by omega
    simp only [hs, ↓reduceIte] at h
    split at h
    · next hmod =>
      have hdiv := Nat.div_mul_cancel (Nat.dvd_of_mod_eq_zero hmod)
      simp only [Option.some.injEq] at h
      rw [← h, he, Nat.pow_add, ← Nat.mul_assoc, hdiv]
    · simp at h

theorem shift_le_of_mul_eq (h : x.significand * 2 ^ x.shift = y.significand * 2 ^ y.shift) :
    y.shift ≤ x.shift := by
  -- Otherwise the leading bit of `y` alone is worth more than all of `x`.
  apply Nat.le_of_not_lt
  intro hlt
  obtain ⟨d, hd⟩ := Nat.exists_eq_add_of_lt hlt
  have hy := le_significand (x := y) (by omega)
  have hx := significand_lt x
  have hpos : 0 < 2 ^ x.shift := Nat.pow_pos (by decide)
  have hcancel : x.significand = y.significand * 2 ^ (d + 1) := by
    apply Nat.eq_of_mul_eq_mul_right hpos
    rw [h, hd, Nat.mul_assoc, ← Nat.pow_add]
    congr 2
    omega
  have hle : y.significand * 2 ≤ y.significand * 2 ^ (d + 1) := by
    apply Nat.mul_le_mul_left
    rw [Nat.pow_succ]
    have := Nat.pow_pos (a := 2) (n := d) (by decide)
    omega
  omega

/-- The fields of a float are determined by its significand and its scale. -/
theorem fields_eq (hs : x.significand = y.significand) (he : x.shift = y.shift) :
    x.exponent = y.exponent ∧ x.fraction = y.fraction := by
  have hx := x.fraction_lt
  have hy := y.fraction_lt
  unfold significand at hs
  unfold shift at he
  split at hs <;> split at hs <;> omega

theorem isZero_of_significand (h : x.significand = 0) : x.isZero = true := by
  have hpos := fractions_pos
  unfold significand at h
  split at h
  · next he => simp [isZero, he, h]
  · omega

/-- Two floats of one whole magnitude have the same fields, the sign apart. -/
theorem fields_eq_of_whole? {m : Nat} (hx : x.whole? = some m) (hy : y.whole? = some m) :
    x.exponent = y.exponent ∧ x.fraction = y.fraction := by
  have hmul := (mul_of_whole? hx).symm.trans (mul_of_whole? hy)
  have hshift : x.shift = y.shift :=
    Nat.le_antisymm (shift_le_of_mul_eq hmul.symm) (shift_le_of_mul_eq hmul)
  rw [hshift] at hmul
  exact fields_eq (Nat.eq_of_mul_eq_mul_right (Nat.pow_pos (by decide)) hmul) hshift

theorem isZero_of_whole? (h : x.whole? = some 0) : x.isZero = true := by
  have hm := mul_of_whole? h
  have hpos : 0 < 2 ^ x.shift := Nat.pow_pos (by decide)
  apply isZero_of_significand
  rw [Nat.zero_mul] at hm
  exact (Nat.mul_eq_zero.1 hm.symm).resolve_right (by omega)

/-- Two floats that are one integer have the same value. -/
theorem sameValue_of_toInt? (hx : x.toInt? = some n) (hy : y.toInt? = some n) :
    x.sameValue y = true := by
  obtain ⟨a, ha, hna⟩ := toInt?_eq_some_iff.1 hx
  obtain ⟨b, hb, hnb⟩ := toInt?_eq_some_iff.1 hy
  have hab : a = b := by
    split at hna <;> split at hnb <;> omega
  subst hab
  by_cases hz : a = 0
  · subst hz
    simp [sameValue, isZero_of_whole? ha, isZero_of_whole? hb]
  · have hfields := fields_eq_of_whole? ha hb
    have hneg : x.negative = y.negative := by
      rw [hna] at hnb
      cases hxn : x.negative <;> cases hyn : y.negative <;>
        simp only [hxn, hyn, ↓reduceIte, Bool.false_eq_true] at hnb ⊢ <;> omega
    have heq : x = y := by
      cases x
      cases y
      simp only [mk.injEq]
      exact ⟨hneg, hfields⟩
    simp [sameValue, heq]

theorem toInt?_of_isZero (h : x.isZero = true) : x.toInt? = some 0 := by
  simp only [isZero, Bool.and_eq_true, beq_iff_eq] at h
  have hz : x.significand = 0 := by simp [significand, h.1, h.2]
  refine toInt?_eq_some_iff.2 ⟨0, ?_, by simp⟩
  simp [whole?, hz]

/-- Floats of the same value are the same integer, or neither is one. -/
theorem toInt?_eq_of_sameValue (h : x.sameValue y = true) : x.toInt? = y.toInt? := by
  simp only [sameValue, Bool.or_eq_true, beq_iff_eq, Bool.and_eq_true] at h
  rcases h with rfl | ⟨hx, hy⟩
  · rfl
  · rw [toInt?_of_isZero hx, toInt?_of_isZero hy]

end PreviewEnv.Binary64
