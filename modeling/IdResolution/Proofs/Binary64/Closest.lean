import IdResolution.Proofs.Binary64.Accuracy

/-!
# The closest number

Rounding is what it is meant to be: of the finite numbers it takes one that is closest to a
size, and where two of them are equally close the one with the even significand.  Nothing
else needs to be said of it, since this leaves one number of either sign.
-/

namespace IdResolution.Binary64

/-- A finite number that is as close to a size as any.  When another one is just as close, its
significand is even. -/
structure Closest (x : Binary64) (size : ℚ) : Prop where
  finite : x.isFinite = true
  least : ∀ y : Binary64, y.isFinite = true → |size - x.size| ≤ |size - y.size|
  even : ∀ y : Binary64, y.isFinite = true → y.size ≠ x.size →
    |size - y.size| = |size - x.size| → x.significand % 2 = 0

/-! ## Whole numbers -/

/-- A whole number is not closer to a size than the one that it is rounded to. -/
theorem abs_sub_halfEven_le_abs_sub {size : ℚ} (nonneg : 0 ≤ size) (whole : ℕ) :
    |size - halfEven size| ≤ |size - whole| := by
  rcases lt_or_ge |size - whole| (1 / 2) with close | far
  · rw [halfEven_eq_of_abs_lt nonneg close]
  · exact (abs_sub_halfEven_le nonneg).trans far

/-- When another whole number is just as close, the size is rounded to an even one. -/
theorem even_halfEven_of_tie {size : ℚ} (nonneg : 0 ≤ size) {whole : ℕ}
    (other : whole ≠ halfEven size) (tie : |size - whole| = |size - halfEven size|) :
    halfEven size % 2 = 0 := by
  have far : 1 / 2 ≤ |size - halfEven size| := by
    rw [← tie]
    exact not_lt.mp fun close => other (halfEven_eq_of_abs_lt nonneg close).symm
  have floor := Nat.floor_le nonneg
  have ceiling := Nat.lt_floor_add_one size
  unfold halfEven at far ⊢
  dsimp only at far ⊢
  split_ifs at far ⊢ with below above
  · rw [abs_of_nonneg (by linarith)] at far
    linarith
  · rw [Nat.cast_succ, abs_of_nonpos (by linarith)] at far
    linarith
  · omega

/-! ## Sizes at a place -/

/-- A size in terms of the place that is kept of it. -/
theorem exists_scaled {size : ℚ} (positive : 0 < size) :
    ∃ (exponent : ℤ) (scaled : ℚ), size = scaled * 2 ^ exponent ∧ 0 < scaled ∧
      -1074 ≤ exponent ∧ (exponent = -1074 ∨ 2 ^ 52 ≤ scaled) ∧ scaled < 2 ^ 53 := by
  have unit := two_zpow_pos (keptPlace size)
  have below : (2 : ℚ) ^ Int.log 2 size ≤ size := by
    exact_mod_cast Int.zpow_log_le_self one_lt_two positive
  have above : size < (2 : ℚ) ^ (Int.log 2 size + 1) := by
    exact_mod_cast Int.lt_zpow_succ_log_self one_lt_two size
  refine ⟨keptPlace size, size / 2 ^ keptPlace size, (div_mul_cancel₀ _ unit.ne').symm,
    div_pos positive unit, le_max_right _ _, ?_, ?_⟩
  · refine or_iff_not_imp_left.mpr fun normal => ?_
    have place : Int.log 2 size = (52 : ℕ) + keptPlace size := by
      unfold keptPlace at normal ⊢
      omega
    rw [place, zpow_add₀ two_ne_zero, zpow_natCast] at below
    exact (le_div_iff₀ unit).mpr below
  · have place : Int.log 2 size + 1 ≤ (53 : ℕ) + keptPlace size := by
      unfold keptPlace
      omega
    rw [div_lt_iff₀ unit, ← zpow_natCast, ← zpow_add₀ two_ne_zero]
    exact above.trans_le (zpow_le_zpow_right₀ one_le_two place)

/-- A finite number is a whole multiple of a place, or it is below all full significands at
this place. -/
theorem exists_multiple_or_lt {y : Binary64} (finite : y.isFinite = true) (exponent : ℤ) :
    (∃ whole : ℕ, y.size = whole * 2 ^ exponent) ∨
      -1074 < exponent ∧ y.size < 2 ^ 52 * 2 ^ exponent := by
  obtain ⟨least, -, double, -⟩ := canonical_of_finite finite
  rcases le_or_gt exponent y.exponent with coarser | finer
  · obtain ⟨shift, same⟩ := Int.eq_ofNat_of_zero_le (Int.sub_nonneg_of_le coarser)
    left
    refine ⟨y.significand * 2 ^ shift, ?_⟩
    have split : y.exponent = shift + exponent := by omega
    rw [size, split, zpow_add₀ two_ne_zero, zpow_natCast, Nat.cast_mul, Nat.cast_pow,
      Nat.cast_ofNat, mul_assoc]
  · have short : (y.significand : ℚ) < 2 * 2 ^ 52 := by
      rw [← cast_fractionCount]
      exact_mod_cast double
    right
    refine ⟨by omega, ?_⟩
    calc y.size < 2 * 2 ^ 52 * 2 ^ y.exponent :=
          mul_lt_mul_of_pos_right short (two_zpow_pos _)
      _ = 2 ^ 52 * 2 ^ (y.exponent + 1) := by
          rw [zpow_add_one₀ two_ne_zero]
          ring
      _ ≤ 2 ^ 52 * 2 ^ exponent := by
          gcongr
          · exact one_le_two
          · omega

/-- A significand may reach the least one of the next place. -/
theorem exists_canonical_of_le {exponent : ℤ} {significand : ℕ} (least : -1074 ≤ exponent)
    (full : exponent = -1074 ∨ fractionCount ≤ significand)
    (atMost : significand ≤ 2 * fractionCount)
    (finite : magnitudeOf exponent significand < infiniteMagnitude) :
    ∃ (place : ℤ) (count : ℕ), Canonical place count ∧
      magnitudeOf place count = magnitudeOf exponent significand ∧
      (count : ℚ) * 2 ^ place = significand * 2 ^ exponent := by
  simp only [magnitudeOf, infiniteMagnitude, fractionCount] at finite full atMost
  rcases atMost.lt_or_eq with less | rfl
  · exact ⟨exponent, significand, ⟨least, by omega, less, full⟩, rfl, rfl⟩
  · have carried := magnitudeOf_carry (by omega : -1074 < exponent + 1)
    rw [add_sub_cancel_right] at carried
    refine ⟨exponent + 1, fractionCount, ⟨by omega, by omega, by decide, .inr le_rfl⟩,
      carried.symm, ?_⟩
    rw [zpow_add_one₀ two_ne_zero, cast_fractionCount]
    norm_num
    ring

/-! ## Rounding takes a closest number -/

/-- The bits below the sign end with the last bit of the significand. -/
theorem significand_mod_two (x : Binary64) : x.significand % 2 = x.magnitude % 2 := by
  rw [magnitude_eq, magnitudeOf, fractionCount]
  omega

section Scaled

variable {exponent : ℤ} {scaled : ℚ} (positive : 0 < scaled)
  (lower : exponent = -1074 ∨ 2 ^ 52 ≤ scaled)

include positive lower

/-- A finite number is a whole multiple of the place that is kept, or farther away than the
whole multiple that is taken. -/
theorem exists_multiple_or_farther {y : Binary64} (finite : y.isFinite = true) :
    (∃ whole : ℕ, y.size = whole * 2 ^ exponent) ∨
      |scaled - halfEven scaled| * 2 ^ exponent < |scaled * 2 ^ exponent - y.size| := by
  refine (exists_multiple_or_lt finite exponent).imp_right fun ⟨normal, below⟩ => ?_
  -- The least full significand at this place lies between the number and the size.
  have full : 2 ^ 52 ≤ scaled := lower.resolve_left normal.ne'
  have unit := two_zpow_pos exponent
  have near := abs_sub_halfEven_le_abs_sub positive.le (2 ^ 52)
  rw [Nat.cast_pow, Nat.cast_ofNat, abs_of_nonneg (sub_nonneg.mpr full)] at near
  calc |scaled - halfEven scaled| * 2 ^ exponent
      ≤ (scaled - 2 ^ 52) * 2 ^ exponent := by gcongr
    _ = scaled * 2 ^ exponent - 2 ^ 52 * 2 ^ exponent := sub_mul _ _ _
    _ < scaled * 2 ^ exponent - y.size := sub_lt_sub_left below _
    _ ≤ |scaled * 2 ^ exponent - y.size| := le_abs_self _

/-- The number whose significand at the place that is kept is the rounded one is the closest
one. -/
theorem closest_of_scaled {x : Binary64} (finite : x.isFinite = true)
    (taken : x.size = halfEven scaled * 2 ^ exponent)
    (parity : x.significand % 2 = halfEven scaled % 2) : x.Closest (scaled * 2 ^ exponent) := by
  have unit := two_zpow_pos exponent
  have distance (whole : ℕ) :
      |scaled * 2 ^ exponent - whole * 2 ^ exponent| = |scaled - whole| * 2 ^ exponent := by
    rw [← sub_mul, abs_mul, abs_of_pos unit]
  refine ⟨finite, fun y finiteY => ?_, fun y finiteY other tie => ?_⟩
  · rw [taken, distance]
    rcases exists_multiple_or_farther positive lower finiteY with ⟨whole, multiple⟩ | farther
    · rw [multiple, distance]
      exact mul_le_mul_of_nonneg_right (abs_sub_halfEven_le_abs_sub positive.le whole) unit.le
    · exact farther.le
  · rw [taken, distance] at tie
    rcases exists_multiple_or_farther positive lower finiteY with ⟨whole, multiple⟩ | farther
    · rw [multiple, distance] at tie
      rw [parity]
      apply even_halfEven_of_tie positive.le _ (mul_right_cancel₀ unit.ne' tie)
      rintro rfl
      exact other (multiple.trans taken.symm)
    · exact absurd tie farther.ne'

end Scaled

theorem closest_zero (negative : Bool) : (zero negative).Closest 0 := by
  have finite : (zero negative).isFinite = true := by cases negative <;> rfl
  have vanishes : (zero negative).size = 0 := isZero_iff.mp (by cases negative <;> rfl)
  refine ⟨finite, fun y _ => ?_, fun y _ other tie => ?_⟩
  · rw [vanishes, sub_zero, abs_zero]
    exact abs_nonneg _
  · rw [vanishes, sub_zero, abs_zero, zero_sub, abs_neg, abs_eq_zero] at tie
    exact absurd (tie.trans vanishes.symm) other

/-- What a size is rounded to is the closest number to it, if it does not overflow. -/
theorem closest_nearest (negative : Bool) {size : ℚ} (nonneg : 0 ≤ size)
    (bounded : size < overflowSize) : (nearest negative size).Closest size := by
  rcases nonneg.eq_or_lt with rfl | positive
  · rw [nearest, if_pos rfl]
    exact closest_zero negative
  · have finite := (isFinite_nearest_iff negative nonneg).mpr bounded
    obtain ⟨exponent, scaled, rfl, scaledPositive, least, lower, upper⟩ := exists_scaled positive
    have built := nearest_scaled least scaledPositive lower upper negative
    have full : exponent = -1074 ∨ fractionCount ≤ halfEven scaled := by
      refine lower.imp_right fun large => le_halfEven ?_
      rwa [cast_fractionCount]
    have atMost : halfEven scaled ≤ 2 * fractionCount := by
      apply halfEven_le scaledPositive.le
      rw [Nat.cast_mul, cast_fractionCount, Nat.cast_ofNat]
      linarith
    rw [built, isFinite_ofMagnitude_iff] at finite
    obtain ⟨place, count, canonical, same, size⟩ := exists_canonical_of_le least full atMost finite
    obtain ⟨decodedFinite, -, decodedPlace, decodedCount⟩ := canonical.decoded negative
    rw [built, ← same]
    apply closest_of_scaled scaledPositive lower decodedFinite
    · rw [Binary64.size, decodedPlace, decodedCount, size]
    · rw [significand_mod_two, magnitude_ofMagnitude negative canonical.magnitude_lt.le, same,
        magnitudeOf, fractionCount]
      omega

/-! ## There is but one -/

/-- A greater significand at the same place, or any at a higher place, is greater. -/
theorem Canonical.size_lt {exponent other : ℤ} {significand count : ℕ}
    (canonical : Canonical exponent significand) (canonicalOther : Canonical other count)
    (less : magnitudeOf exponent significand < magnitudeOf other count) :
    (significand : ℚ) * 2 ^ exponent < count * 2 ^ other := by
  obtain ⟨least, -, double, full⟩ := canonical
  obtain ⟨leastOther, -, doubleOther, fullOther⟩ := canonicalOther
  have unit := two_zpow_pos exponent
  simp only [magnitudeOf, fractionCount] at less double doubleOther full fullOther
  have ordered : exponent ≤ other := by omega
  rcases ordered.lt_or_eq with below | rfl
  · have short : (significand : ℚ) < 2 * fractionCount := by exact_mod_cast double
    have long : (fractionCount : ℚ) ≤ count := by
      exact_mod_cast fullOther.resolve_left (by omega)
    calc (significand : ℚ) * 2 ^ exponent < 2 * fractionCount * 2 ^ exponent := by gcongr
      _ = fractionCount * 2 ^ (exponent + 1) := by
          rw [zpow_add_one₀ two_ne_zero]
          ring
      _ ≤ count * 2 ^ other := by
          gcongr
          · exact one_le_two
          · omega
  · have fewer : significand < count := by omega
    gcongr

/-- The size of a number is determined by the bits below its sign, and grows with them. -/
theorem size_lt_iff {x y : Binary64} (finiteX : x.isFinite = true) (finiteY : y.isFinite = true) :
    x.size < y.size ↔ x.magnitude < y.magnitude := by
  have grows {x y : Binary64} (finiteX : x.isFinite = true) (finiteY : y.isFinite = true)
      (less : x.magnitude < y.magnitude) : x.size < y.size := by
    rw [magnitude_eq, magnitude_eq] at less
    exact (canonical_of_finite finiteX).size_lt (canonical_of_finite finiteY) less
  refine ⟨fun less => ?_, grows finiteX finiteY⟩
  by_contra atLeast
  rcases (not_lt.mp atLeast).lt_or_eq with greater | same
  · exact lt_asymm less (grows finiteY finiteX greater)
  · have fractionX : x.fractionField < fractionCount := Nat.mod_lt _ (by decide)
    have fractionY : y.fractionField < fractionCount := Nat.mod_lt _ (by decide)
    simp only [magnitude, fractionCount] at same fractionX fractionY
    have exponents : x.exponentField = y.exponentField := by omega
    have fractions : x.fractionField = y.fractionField := by omega
    simp only [size, significand, exponent, exponents, fractions] at less
    exact lt_irrefl _ less

namespace Closest

variable {x y : Binary64} {size : ℚ}

/-- Two closest numbers would both be even, and another one would lie between them. -/
theorem not_size_lt (one : x.Closest size) (other : y.Closest size) : ¬x.size < y.size := by
  intro less
  have tie : |size - x.size| = |size - y.size| :=
    le_antisymm (one.least y other.finite) (other.least x one.finite)
  have middle : size - x.size = -(size - y.size) := by
    refine (abs_eq_abs.mp tie).resolve_left fun same => ?_
    linarith
  have evenX := one.even y other.finite less.ne' tie.symm
  have evenY := other.even x one.finite less.ne tie
  have more := (size_lt_iff one.finite other.finite).mp less
  rw [significand_mod_two] at evenX evenY
  have smallY := isFinite_iff.mp other.finite
  have small : x.magnitude + 1 < infiniteMagnitude := by omega
  obtain ⟨z, finite, between⟩ : ∃ z : Binary64, z.isFinite = true ∧
      z.magnitude = x.magnitude + 1 :=
    ⟨ofMagnitude false (x.magnitude + 1), (isFinite_ofMagnitude_iff _ _).mpr small,
      magnitude_ofMagnitude false small.le⟩
  have above : x.size < z.size := (size_lt_iff one.finite finite).mpr (by omega)
  have below : z.size < y.size := (size_lt_iff finite other.finite).mpr (by omega)
  have closer : |size - z.size| < size - x.size := abs_lt.mpr ⟨by linarith, by linarith⟩
  have least := one.least z finite
  linarith [le_abs_self (size - x.size)]

theorem size_eq (one : x.Closest size) (other : y.Closest size) : x.size = y.size :=
  le_antisymm (not_lt.mp (other.not_size_lt one)) (not_lt.mp (one.not_size_lt other))

/-- The closest number is determined but for its sign. -/
theorem eq (one : x.Closest size) (other : y.Closest size) (sign : x.negative = y.negative) :
    x = y := by
  calc x = nearest x.negative x.size := (nearest_size one.finite).symm
    _ = nearest y.negative y.size := by rw [sign, one.size_eq other]
    _ = y := nearest_size other.finite

end Closest

/-- Rounding takes the closest number with the given sign. -/
theorem nearest_eq_iff {negative : Bool} {size : ℚ} (nonneg : 0 ≤ size)
    (bounded : size < overflowSize) {x : Binary64} :
    nearest negative size = x ↔ x.negative = negative ∧ x.Closest size := by
  have closest := closest_nearest negative nonneg bounded
  constructor
  · rintro rfl
    exact ⟨negative_nearest negative size, closest⟩
  · rintro ⟨rfl, closestX⟩
    exact closest.eq closestX (negative_nearest x.negative size)

end IdResolution.Binary64
