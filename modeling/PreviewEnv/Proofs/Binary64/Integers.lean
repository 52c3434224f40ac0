import PreviewEnv.Proofs.Binary64
import PreviewEnv.WordRange

/-!
An integer converts to the float that is nearest to it, the even one of two that
are equally near. Integers of at most 53 bits have each a float of their own.
-/

namespace PreviewEnv

-- Powers are those of the core library, whatever else is imported.
attribute [local instance (high)] instPowNat

section
variable {m q d : Nat}

theorem roundDiv_mul (hd : 0 < d) : roundDiv (q * d) d = q := by
  unfold roundDiv
  rw [Nat.mul_div_cancel q hd, Nat.mul_mod_left]
  simp [hd]

theorem roundDiv_one : roundDiv m 1 = m := by
  have h := roundDiv_mul (q := m) (d := 1) (by decide)
  rwa [Nat.mul_one] at h

theorem le_roundDiv (hd : 0 < d) (h : q * d ≤ m) : q ≤ roundDiv m d := by
  have hle : q ≤ m / d := (Nat.le_div_iff_mul_le hd).2 h
  unfold roundDiv
  dsimp only
  split
  · exact hle
  · split <;> omega

theorem roundDiv_le (hd : 0 < d) (h : m ≤ q * d) : roundDiv m d ≤ q := by
  rcases Nat.lt_or_eq_of_le h with hlt | rfl
  · have hdiv : m / d < q := (Nat.div_lt_iff_lt_mul hd).2 hlt
    have hmod := Nat.mod_lt m hd
    unfold roundDiv
    dsimp only
    split
    · omega
    · split <;> omega
  · rw [roundDiv_mul hd]

end

namespace Binary64

variable {x y : Binary64} {n : Int} {m q t : Nat} {s : Int} {negative : Bool}

/-- The float that an integer converts to, none beyond the largest one. -/
def ofInt? (n : Int) : Option Binary64 := ofRatio? (n < 0) n.natAbs 1

/-- The magnitude that a magnitude is rounded to: the leading 53 bits of it are kept. -/
def rounded (m : Nat) : Nat :=
  if m < 2 * fractions then m else roundDiv m (2 ^ (m.log2 - 52)) * 2 ^ (m.log2 - 52)

theorem nearestInt_eq (n : Int) :
    nearestInt n = if n < 0 then -(rounded n.natAbs : Int) else rounded n.natAbs := rfl

theorem rounded_of_lt (h : m < 2 * fractions) : rounded m = m := if_pos h

theorem fractions_eq : fractions = 2 ^ (52 : Nat) := by decide

/-- A magnitude with more than 52 bits lies between the significands that have 53 of them. -/
theorem bounds_of_log2 (h : 52 ≤ m.log2) :
    fractions * 2 ^ (m.log2 - 52) ≤ m ∧ m < 2 * fractions * 2 ^ (m.log2 - 52) := by
  have hne : m ≠ 0 := by
    rintro rfl
    simp at h
  have hlow : fractions * 2 ^ (m.log2 - 52) = 2 ^ m.log2 := by
    rw [fractions_eq, ← Nat.pow_add]
    congr 1
    omega
  have hhigh : 2 * fractions * 2 ^ (m.log2 - 52) = 2 ^ (m.log2 + 1) := by
    rw [Nat.mul_assoc, hlow, Nat.pow_succ, Nat.mul_comm]
  rw [hlow, hhigh]
  exact ⟨Nat.log2_self_le hne, Nat.lt_log2_self⟩

theorem lt_of_log2 (h : ¬ 52 ≤ m.log2) : m < 2 * fractions := by
  have hpow : m < 2 ^ (m.log2 + 1) := Nat.lt_log2_self
  have hle : 2 ^ (m.log2 + 1) ≤ 2 ^ 52 := Nat.pow_le_pow_right (by decide) (by omega)
  rw [fractions_eq]
  omega

theorem rounded_of_log2 (h : 52 ≤ m.log2) :
    rounded m = roundDiv m (2 ^ (m.log2 - 52)) * 2 ^ (m.log2 - 52) := by
  unfold rounded
  split
  · next hlt =>
    have hlog : m.log2 = 52 := by
      have hle : 2 ^ m.log2 ≤ m := Nat.log2_self_le (by rintro rfl; simp at h)
      have hpow : 2 ^ m.log2 < 2 ^ 53 := Nat.lt_of_le_of_lt hle (by simpa [fractions_eq] using hlt)
      have := (Nat.pow_lt_pow_iff_right (by decide : 1 < 2)).1 hpow
      omega
    rw [hlog, Nat.sub_self, Nat.pow_zero, roundDiv_one, Nat.mul_one]
  · rfl

/-- The exponent of the first power of two beyond the floats. -/
def top : Nat := 1024

/-- The first power of two beyond the floats. -/
def limit : Nat := 2 ^ top

/-- A float is whole exactly when its magnitude is, in units of the smallest scale. -/
theorem whole?_eq_some_iff : x.whole? = some m ↔ m * 2 ^ grid = x.significand * 2 ^ x.shift := by
  refine ⟨mul_of_whole?, fun h => ?_⟩
  have hscale := x.scale_eq
  unfold whole?
  by_cases hs : 0 ≤ x.scale
  · have he : x.shift = x.scale.toNat + grid := by omega
    rw [he, Nat.pow_add, ← Nat.mul_assoc] at h
    rw [if_pos hs, Nat.eq_of_mul_eq_mul_right (Nat.pow_pos (by decide)) h]
  · have he : grid = (-x.scale).toNat + x.shift := by omega
    rw [he, Nat.pow_add, ← Nat.mul_assoc] at h
    have hm := Nat.eq_of_mul_eq_mul_right (Nat.pow_pos (by decide)) h
    rw [if_neg hs, ← hm, Nat.mul_mod_left, if_pos rfl,
      Nat.mul_div_cancel m (Nat.pow_pos (by decide))]

/-- A multiple of the last bit that is kept is rounded to itself. -/
theorem rounded_of_dvd (h : 2 ^ (m.log2 - 52) ∣ m) : rounded m = m := by
  by_cases hlow : 52 ≤ m.log2
  · obtain ⟨q, hq⟩ := h
    rw [Nat.mul_comm] at hq
    rw [rounded_of_log2 hlow]
    generalize m.log2 - 52 = u at hq
    rw [hq, roundDiv_mul (Nat.pow_pos (by decide))]
  · exact rounded_of_lt (lt_of_log2 hlow)

/-- A significand times a power of two is rounded to itself. -/
theorem rounded_mul_pow (hq : q < 2 * fractions) (d : Nat) : rounded (q * 2 ^ d) = q * 2 ^ d := by
  apply rounded_of_dvd
  by_cases hq0 : q = 0
  · simp [hq0]
  · have hne : q * 2 ^ d ≠ 0 := Nat.mul_ne_zero hq0 (Nat.ne_of_gt (Nat.pow_pos (by decide)))
    have hlog : (q * 2 ^ d).log2 - 52 ≤ d := by
      have hpow : q * 2 ^ d < 2 ^ (53 + d) := by
        rw [Nat.pow_add]
        exact Nat.mul_lt_mul_of_pos_right (by rwa [fractions_eq] at hq) (Nat.pow_pos (by decide))
      have := (Nat.log2_lt hne).2 hpow
      omega
    exact Nat.dvd_trans (Nat.pow_dvd_pow 2 hlog) (Nat.dvd_mul_left _ q)

/-- What a float holds is rounded to itself. -/
theorem rounded_of_units (hq : q < 2 * fractions) (h : m * 2 ^ grid = q * 2 ^ t) :
    rounded m = m := by
  have hgrid : 0 < 2 ^ grid := Nat.pow_pos (by decide)
  rcases Nat.le_total t grid with hle | hle
  · -- The significand counts units of at most one, so the magnitude is no larger than it.
    have hpow : m * 2 ^ grid ≤ q * 2 ^ grid := by
      rw [h]
      exact Nat.mul_le_mul_left q (Nat.pow_le_pow_right (by decide) hle)
    exact rounded_of_lt (Nat.lt_of_le_of_lt (Nat.le_of_mul_le_mul_right hpow hgrid) hq)
  · obtain ⟨d, rfl⟩ := Nat.exists_eq_add_of_le hle
    rw [Nat.add_comm, Nat.pow_add, ← Nat.mul_assoc] at h
    rw [Nat.eq_of_mul_eq_mul_right hgrid h, rounded_mul_pow hq]

/-- The leading 53 bits of a magnitude, rounded; a smaller one is filled up with zeros. -/
def leading (m : Nat) : Nat :=
  if 52 ≤ m.log2 then roundDiv m (2 ^ (m.log2 - 52)) else m * 2 ^ (52 - m.log2)

theorem ofRatio?_one (hm : m ≠ 0) :
    ofRatio? negative m 1 =
      if leading m = 2 * fractions then ofParts? negative fractions (m.log2 - 52 + 1)
      else ofParts? negative (leading m) (m.log2 - 52) := by
  have hlead : (if (0 : Int) ≤ m.log2 - 52 then roundDiv m (2 ^ ((m.log2 : Int) - 52).toNat)
      else roundDiv (m * 2 ^ (-((m.log2 : Int) - 52)).toNat) 1) = leading m := by
    unfold leading
    rw [roundDiv_one]
    by_cases h : 52 ≤ m.log2
    · rw [if_pos (by omega), if_pos h]
      congr 2
      omega
    · rw [if_neg (by omega), if_neg h]
      congr 2
      omega
  have hle : ¬ m < 2 ^ m.log2 := Nat.not_lt.2 (Nat.log2_self_le hm)
  have hguess : (m.log2 : Int) - (Nat.log2 1 : Nat) = m.log2 := by
    rw [show Nat.log2 1 = 0 by decide]
    omega
  have hmax : max ((m.log2 : Int) - 52) (-1074) = (m.log2 : Int) - 52 := by omega
  unfold ofRatio?
  simp only [hm, Nat.one_ne_zero, or_self, ↓reduceIte, hguess, Int.natCast_nonneg,
    Int.toNat_natCast, Nat.one_mul, hle, hmax, hlead]

theorem bounds_leading (hm : m ≠ 0) : fractions ≤ leading m ∧ leading m ≤ 2 * fractions := by
  unfold leading
  split
  · next h =>
    have hpos : 0 < 2 ^ (m.log2 - 52) := Nat.pow_pos (by decide)
    obtain ⟨hlow, hhigh⟩ := bounds_of_log2 h
    exact ⟨le_roundDiv hpos hlow, roundDiv_le hpos (Nat.le_of_lt hhigh)⟩
  · next h =>
    have hpow : 2 ^ m.log2 * 2 ^ (52 - m.log2) = fractions := by
      rw [← Nat.pow_add, fractions_eq]
      congr 1
      omega
    constructor
    · rw [← hpow]
      exact Nat.mul_le_mul_right _ (Nat.log2_self_le hm)
    · rw [← hpow, ← Nat.mul_assoc]
      apply Nat.mul_le_mul_right
      have := Nat.lt_log2_self (n := m)
      rw [Nat.pow_succ] at this
      omega

/-- The leading bits stand for the rounded magnitude. -/
theorem rounded_mul (m : Nat) : rounded m * 2 ^ (52 : Nat) = leading m * 2 ^ m.log2 := by
  unfold leading
  split
  · next h =>
    rw [rounded_of_log2 h, Nat.mul_assoc, ← Nat.pow_add]
    congr 2
    omega
  · next h =>
    rw [rounded_of_lt (lt_of_log2 h), Nat.mul_assoc, ← Nat.pow_add]
    congr 2
    omega

/-- The conversion of a magnitude: a significand of 53 bits and a scale that stand for the rounded
magnitude. -/
theorem exists_parts (hm : m ≠ 0) (negative : Bool) :
    ∃ q t : Nat, fractions ≤ q ∧ q < 2 * fractions ∧ 0 < t ∧
      ofRatio? negative m 1 = ofParts? negative q ((t : Int) - grid) ∧
      rounded m * 2 ^ grid = q * 2 ^ t := by
  obtain ⟨hlow, hhigh⟩ := bounds_leading hm
  obtain ⟨g, hpos, hg⟩ : ∃ g, 0 < g ∧ grid = 52 + g := ⟨1022, by decide, rfl⟩
  have hunits : rounded m * 2 ^ grid = leading m * 2 ^ (m.log2 + g) := by
    rw [hg, Nat.pow_add, ← Nat.mul_assoc, rounded_mul, Nat.mul_assoc, ← Nat.pow_add]
  by_cases hfull : leading m = 2 * fractions
  · refine ⟨fractions, m.log2 + g + 1, Nat.le_refl _, by decide, by omega, ?_, ?_⟩
    · have hscale : (m.log2 : Int) - 52 + 1 = ((m.log2 + g + 1 : Nat) : Int) - grid := by omega
      rw [ofRatio?_one hm, if_pos hfull, hscale]
    · rw [hunits, hfull, Nat.pow_succ, Nat.mul_comm 2, Nat.mul_assoc, Nat.mul_comm 2]
  · have hscale : (m.log2 : Int) - 52 = ((m.log2 + g : Nat) : Int) - grid := by omega
    refine ⟨leading m, m.log2 + g, hlow, by omega, by omega, ?_, hunits⟩
    rw [ofRatio?_one hm, if_neg hfull, hscale]

/-- A significand of 53 bits makes a float, if its scale is not beyond the largest one. -/
theorem ofParts?_eq (hlow : fractions ≤ q) (hhigh : q < 2 * fractions) :
    ofParts? negative q ((t : Int) - grid) =
      if h : t + 1 < 2047 then some ⟨negative, t + 1, q - fractions, h, by omega⟩ else none := by
  have hfield : ((t : Int) - grid + 1075).toNat = t + 1 := by
    simp only [grid]
    omega
  have hfraction : q - fractions < fractions := by omega
  simp only [ofParts?, Nat.not_lt.2 hlow, ↓reduceIte, hfield, hfraction, and_true]

theorem fields_of_ofParts? (hlow : fractions ≤ q) (hhigh : q < 2 * fractions)
    (h : ofParts? negative q ((t : Int) - grid) = some x) :
    x.negative = negative ∧ x.significand = q ∧ x.shift = t := by
  rw [ofParts?_eq hlow hhigh] at h
  split at h
  · obtain rfl := Option.some.inj h
    refine ⟨rfl, ?_, ?_⟩
    · simp only [significand, Nat.add_one_ne_zero, ↓reduceIte]
      omega
    · simp only [shift]
      omega
  · cases h

theorem ofParts?_eq_none_iff (hlow : fractions ≤ q) (hhigh : q < 2 * fractions) :
    ofParts? negative q ((t : Int) - grid) = none ↔ top + 1022 ≤ t := by
  have htop : top + 1022 = 2046 := rfl
  rw [ofParts?_eq hlow hhigh, htop]
  split
  · simp only [reduceCtorEq, false_iff]
    omega
  · simp only [true_iff]
    omega

theorem toInt?_eq_some_of_units (h : m * 2 ^ grid = x.significand * 2 ^ x.shift) :
    x.toInt? = some (if x.negative then -(m : Int) else m) :=
  toInt?_eq_some_iff.2 ⟨m, whole?_eq_some_iff.2 h, rfl⟩

/-- The float that an integer converts to is the whole number nearest to the integer. -/
theorem toInt?_of_ofInt? (h : ofInt? n = some x) : x.toInt? = some (nearestInt n) := by
  by_cases hn : n = 0
  · subst hn
    cases h
    decide +kernel
  · obtain ⟨q, t, hlow, hhigh, -, hparts, hunits⟩ :=
      exists_parts (Int.natAbs_ne_zero.2 hn) (decide (n < 0))
    rw [ofInt?, hparts] at h
    obtain ⟨hneg, rfl, rfl⟩ := fields_of_ofParts? hlow hhigh h
    rw [toInt?_eq_some_of_units hunits, nearestInt_eq, hneg]
    simp

theorem limit_mul : limit * 2 ^ grid = fractions * 2 ^ (top + 1022) := by
  have hsum : top + grid = 52 + (top + 1022) := by decide
  rw [limit, fractions_eq, ← Nat.pow_add, ← Nat.pow_add, hsum]

/-- Significands of 53 bits leave it to the scales to compare with a power of two. -/
theorem le_iff_of_units {l k g : Nat} (hlow : fractions ≤ q) (hhigh : q < 2 * fractions)
    (hl : l * 2 ^ g = fractions * 2 ^ k) (h : m * 2 ^ g = q * 2 ^ t) : l ≤ m ↔ k ≤ t := by
  have hpos : 0 < 2 ^ g := Nat.pow_pos (by decide)
  rw [← Nat.mul_le_mul_right_iff hpos, h, hl]
  constructor
  · intro hle
    apply Nat.le_of_not_lt
    intro hlt
    have hpow : 2 * 2 ^ t ≤ 2 ^ k := by
      rw [Nat.mul_comm, ← Nat.pow_succ]
      exact Nat.pow_le_pow_right (by decide) hlt
    have hq : q * 2 ^ t < 2 * fractions * 2 ^ t :=
      Nat.mul_lt_mul_of_pos_right hhigh (Nat.pow_pos (by decide))
    have hf : fractions * (2 * 2 ^ t) ≤ fractions * 2 ^ k := Nat.mul_le_mul_left _ hpow
    rw [← Nat.mul_assoc, Nat.mul_comm fractions] at hf
    omega
  · intro hle
    exact Nat.mul_le_mul hlow (Nat.pow_le_pow_right (by decide) hle)

/-- Only integers that are rounded to a number beyond the floats have none. -/
theorem ofInt?_eq_none_iff : ofInt? n = none ↔ limit ≤ rounded n.natAbs := by
  by_cases hn : n = 0
  · subst hn
    have hzero : rounded 0 = 0 := rounded_of_lt (by decide)
    have hsome : ofInt? 0 ≠ none := by decide +kernel
    have hlimit : 0 < limit := Nat.two_pow_pos top
    simp only [hsome, Int.natAbs_zero, hzero, false_iff]
    omega
  · obtain ⟨q, t, hlow, hhigh, -, hparts, hunits⟩ :=
      exists_parts (Int.natAbs_ne_zero.2 hn) (decide (n < 0))
    rw [ofInt?, hparts, ofParts?_eq_none_iff hlow hhigh,
      le_iff_of_units hlow hhigh limit_mul hunits]

/-- What a float holds is not beyond the floats. -/
theorem lt_limit_of_whole? (h : x.whole? = some m) : m < limit := by
  have hshift : x.shift + 1 ≤ top + 1022 := by
    have htop : top + 1022 = 2046 := rfl
    have := x.exponent_lt
    simp only [shift, htop]
    omega
  apply Nat.lt_of_mul_lt_mul_right (a := 2 ^ grid)
  calc m * 2 ^ grid = x.significand * 2 ^ x.shift := whole?_eq_some_iff.1 h
    _ < 2 * fractions * 2 ^ x.shift :=
        Nat.mul_lt_mul_of_pos_right (significand_lt x) (Nat.pow_pos (by decide))
    _ = fractions * 2 ^ (x.shift + 1) := by
        rw [Nat.pow_succ, Nat.mul_comm 2, Nat.mul_assoc, Nat.mul_comm 2]
    _ ≤ fractions * 2 ^ (top + 1022) :=
        Nat.mul_le_mul_left _ (Nat.pow_le_pow_right (by decide) hshift)
    _ = limit * 2 ^ grid := limit_mul.symm

theorem rounded_of_whole? (h : x.whole? = some m) : rounded m = m :=
  rounded_of_units (significand_lt x) (whole?_eq_some_iff.1 h)

theorem rounded_rounded (m : Nat) : rounded (rounded m) = rounded m := by
  by_cases hm : m = 0
  · subst hm
    rw [rounded_of_lt (by decide), rounded_of_lt (by decide)]
  · obtain ⟨q, t, -, hhigh, -, -, hunits⟩ := exists_parts hm false
    exact rounded_of_units hhigh hunits

theorem natAbs_nearestInt (n : Int) : (nearestInt n).natAbs = rounded n.natAbs := by
  rw [nearestInt_eq]
  split <;> omega

theorem nearestInt_nearestInt (n : Int) : nearestInt (nearestInt n) = nearestInt n := by
  have hround := rounded_rounded n.natAbs
  rw [nearestInt_eq (nearestInt n), natAbs_nearestInt, hround, nearestInt_eq]
  split <;> split <;> omega

/-- An integer that is a float is nearest to itself. -/
theorem nearestInt_of_toInt? (h : x.toInt? = some n) : nearestInt n = n := by
  obtain ⟨m, hm, hn⟩ := toInt?_eq_some_iff.1 h
  have habs : n.natAbs = m := by
    split at hn <;> omega
  rw [nearestInt_eq, habs, rounded_of_whole? hm]
  split <;> omega

/-- An integer that is a float converts to a float that is the integer. -/
theorem exists_ofInt?_of_toInt? (h : x.toInt? = some n) :
    ∃ y, ofInt? n = some y ∧ y.toInt? = some n := by
  obtain ⟨m, hm, hn⟩ := toInt?_eq_some_iff.1 h
  have habs : n.natAbs = m := by
    split at hn <;> omega
  cases hy : ofInt? n with
  | none =>
    rw [ofInt?_eq_none_iff, habs, rounded_of_whole? hm] at hy
    exact absurd hy (Nat.not_le.2 (lt_limit_of_whole? hm))
  | some y => exact ⟨y, rfl, by rw [toInt?_of_ofInt? hy, nearestInt_of_toInt? h]⟩

theorem rounded_le (m : Nat) : rounded m ≤ 2 * m := by
  by_cases h : 52 ≤ m.log2
  · obtain ⟨hlow, hhigh⟩ := bounds_of_log2 h
    have hround := roundDiv_le (Nat.pow_pos (by decide)) (Nat.le_of_lt hhigh)
    calc rounded m = roundDiv m (2 ^ (m.log2 - 52)) * 2 ^ (m.log2 - 52) := rounded_of_log2 h
      _ ≤ 2 * fractions * 2 ^ (m.log2 - 52) := Nat.mul_le_mul_right _ hround
      _ ≤ 2 * m := by
          rw [Nat.mul_assoc]
          exact Nat.mul_le_mul_left 2 hlow
  · rw [rounded_of_lt (lt_of_log2 h)]
    omega

theorem le_rounded (h : 2 * fractions ≤ m) : 2 * fractions ≤ rounded m := by
  have hlog : 53 ≤ m.log2 := by
    have hne : m ≠ 0 := by
      rintro rfl
      exact absurd h (by decide)
    exact (Nat.le_log2 hne).2 h
  have hpow : 2 ^ 1 ≤ 2 ^ (m.log2 - 52) := Nat.pow_le_pow_right (by decide) (by omega)
  have hkept : 52 ≤ m.log2 := by omega
  have hlow := le_roundDiv (Nat.pow_pos (by decide)) (bounds_of_log2 hkept).1
  rw [rounded_of_log2 hkept, Nat.mul_comm 2]
  exact Nat.mul_le_mul hlow hpow

/-- Two integers of one float are the same where one of them has at most 53 bits. -/
theorem eq_of_nearestInt {m : Int} (h : nearestInt m = nearestInt n)
    (hm : m.natAbs < 2 * fractions) : m = n := by
  have habs : rounded n.natAbs = m.natAbs := by
    rw [← natAbs_nearestInt, ← h, natAbs_nearestInt, rounded_of_lt hm]
  have hn : n.natAbs < 2 * fractions := by
    by_contra hge
    have := le_rounded (Nat.not_lt.1 hge)
    omega
  rw [nearestInt_eq, nearestInt_eq, rounded_of_lt hm, rounded_of_lt hn] at h
  split at h <;> split at h <;> omega

/-- Every machine word has a float. -/
theorem exists_ofInt?_of_fits (h : fitsSigned 64 n = true ∨ fitsUnsigned 64 n = true) :
    ∃ x, ofInt? n = some x := by
  have hword : n.natAbs ≤ 2 ^ 64 := by
    simp only [fitsSigned, fitsUnsigned, decide_eq_true_iff] at h
    omega
  have hlimit : 2 ^ 66 ≤ limit := Nat.pow_le_pow_right (by decide) (by decide)
  have hround := rounded_le n.natAbs
  rw [← Option.ne_none_iff_exists', ne_eq, ofInt?_eq_none_iff]
  omega

/-- The float with the sign of zero taken off. -/
def unsigned (x : Binary64) : Binary64 := { x with negative := x.negative && !x.isZero }

@[simp] theorem isZero_unsigned (x : Binary64) : x.unsigned.isZero = x.isZero := rfl

theorem unsigned_of_not_isZero (h : x.isZero = false) : x.unsigned = x := by
  simp [unsigned, h]

/-- All zeros are one when the sign is off. -/
theorem unsigned_eq_of_isZero (hx : x.isZero = true) (hy : y.isZero = true) :
    x.unsigned = y.unsigned := by
  simp only [isZero, Bool.and_eq_true, beq_iff_eq] at hx hy
  simp [unsigned, isZero, hx, hy]

/-- Floats have one value exactly when they are the same but for the sign of zero. -/
theorem unsigned_eq_iff : x.unsigned = y.unsigned ↔ x.sameValue y = true := by
  have hsame : x.sameValue y = true ↔ x = y ∨ x.isZero = true ∧ y.isZero = true := by
    simp [sameValue]
  rw [hsame]
  constructor
  · intro h
    have hzero : x.isZero = y.isZero := by rw [← isZero_unsigned x, h, isZero_unsigned]
    cases hx : x.isZero with
    | true => exact .inr ⟨rfl, hzero ▸ hx⟩
    | false =>
      left
      rwa [unsigned_of_not_isZero hx, unsigned_of_not_isZero (hzero ▸ hx)] at h
  · rintro (rfl | ⟨hx, hy⟩)
    · rfl
    · exact unsigned_eq_of_isZero hx hy

theorem toInt?_unsigned (x : Binary64) : x.unsigned.toInt? = x.toInt? := by
  apply toInt?_eq_of_sameValue
  cases hx : x.isZero with
  | true => simp [sameValue, hx]
  | false => simp [sameValue, unsigned_of_not_isZero hx]

end Binary64

end PreviewEnv
