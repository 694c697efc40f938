import IdResolution.Proofs.Binary64.Nearest

/-!
# Finite numbers

A finite number is determined by its sign, its significand and its exponent, and it is the
nearest number to its own size.  It is also the nearest one to every size that differs
from its own by less than a part in `2 ^ 54`.
-/

namespace IdResolution.Binary64

/-! ## Bits -/

section Bits

variable (negative : Bool) {magnitude : ℕ} (small : magnitude ≤ infiniteMagnitude)

include small

theorem toNat_bits_ofMagnitude :
    (ofMagnitude negative magnitude).bits.toNat =
      (if negative then signBit else 0) + magnitude := by
  rw [ofMagnitude, UInt64.toNat_ofNat', Nat.min_eq_left small]
  apply Nat.mod_eq_of_lt
  simp only [infiniteMagnitude, fractionCount, signBit] at small ⊢
  cases negative <;> simp <;> omega

@[simp] theorem negative_ofMagnitude : (ofMagnitude negative magnitude).negative = negative := by
  rw [Binary64.negative, toNat_bits_ofMagnitude negative small]
  simp only [infiniteMagnitude, fractionCount, signBit] at small ⊢
  cases negative
  · simp
    omega
  · simp

theorem exponentField_ofMagnitude :
    (ofMagnitude negative magnitude).exponentField = magnitude / fractionCount := by
  rw [exponentField, toNat_bits_ofMagnitude negative small]
  simp only [infiniteMagnitude, fractionCount, signBit] at small ⊢
  cases negative <;> simp <;> omega

theorem fractionField_ofMagnitude :
    (ofMagnitude negative magnitude).fractionField = magnitude % fractionCount := by
  rw [fractionField, toNat_bits_ofMagnitude negative small]
  simp only [fractionCount, signBit]
  cases negative
  · simp
  · simp
    omega

end Bits

/-- The bits of a number below its sign. -/
def magnitude (x : Binary64) : ℕ :=
  x.exponentField * fractionCount + x.fractionField

theorem isFinite_iff {x : Binary64} : x.isFinite = true ↔ x.magnitude < infiniteMagnitude := by
  have : x.fractionField < fractionCount := Nat.mod_lt _ (by decide)
  simp only [isFinite, magnitude, infiniteMagnitude, fractionCount, decide_eq_true_iff] at this ⊢
  omega

/-- A finite number consists of its sign and the bits below. -/
theorem ofMagnitude_magnitude {x : Binary64} (finite : x.isFinite = true) :
    ofMagnitude x.negative x.magnitude = x := by
  have small := isFinite_iff.mp finite
  have bits := toNat_bits_ofMagnitude x.negative small.le
  have size := x.bits.toNat_lt
  have same : (ofMagnitude x.negative x.magnitude).bits.toNat = x.bits.toNat := by
    rw [bits]
    by_cases sign : x.negative = true
    · rw [if_pos sign]
      have high := of_decide_eq_true sign
      simp only [magnitude, exponentField, fractionField, fractionCount, signBit] at high ⊢
      omega
    · rw [if_neg sign]
      have low := of_decide_eq_false (Bool.eq_false_of_not_eq_true sign)
      simp only [magnitude, exponentField, fractionField, fractionCount, signBit] at low ⊢
      omega
  exact congrArg Binary64.mk (UInt64.toNat_inj.mp same)

/-! ## Significands and exponents -/

/-- The exponent and the significand that a finite number may have: the significand is
full unless the exponent is the least one. -/
structure Canonical (exponent : ℤ) (significand : ℕ) : Prop where
  least_le : -1074 ≤ exponent
  le_greatest : exponent ≤ 971
  lt_double : significand < 2 * fractionCount
  full : exponent = -1074 ∨ fractionCount ≤ significand

theorem canonical_of_finite {x : Binary64} (finite : x.isFinite = true) :
    Canonical x.exponent x.significand := by
  have : x.fractionField < fractionCount := Nat.mod_lt _ (by decide)
  have : x.exponentField < 2047 := of_decide_eq_true finite
  unfold exponent significand
  constructor
  · omega
  · omega
  · split <;> omega
  · split <;> omega

/-- The magnitude of the numbers with the given exponent and significand. -/
def magnitudeOf (exponent : ℤ) (significand : ℕ) : ℕ :=
  (exponent + 1074).toNat * fractionCount + significand

theorem magnitude_eq {x : Binary64} : x.magnitude = magnitudeOf x.exponent x.significand := by
  unfold magnitude magnitudeOf exponent significand
  simp only [fractionCount]
  split <;> omega

namespace Canonical

variable {exponent : ℤ} {significand : ℕ} (canonical : Canonical exponent significand)

include canonical

theorem magnitude_lt : magnitudeOf exponent significand < infiniteMagnitude := by
  obtain ⟨least, greatest, double, -⟩ := canonical
  simp only [magnitudeOf, infiniteMagnitude, fractionCount] at double ⊢
  omega

/-- A sign, an exponent and a significand make a finite number with just these. -/
theorem decoded (negative : Bool) :
    let x := ofMagnitude negative (magnitudeOf exponent significand)
    x.isFinite = true ∧ x.negative = negative ∧ x.exponent = exponent ∧
      x.significand = significand := by
  have small := canonical.magnitude_lt.le
  have exponentField := exponentField_ofMagnitude negative small
  have fractionField := fractionField_ofMagnitude negative small
  obtain ⟨least, greatest, double, full⟩ := canonical
  simp only [magnitudeOf, fractionCount] at exponentField fractionField double full
  refine ⟨?_, negative_ofMagnitude negative small, ?_, ?_⟩
  · rw [isFinite, decide_eq_true_iff, magnitudeOf, fractionCount, exponentField]
    omega
  · rw [Binary64.exponent, magnitudeOf, fractionCount, exponentField]
    omega
  · rw [Binary64.significand, magnitudeOf, fractionCount, exponentField, fractionField]
    split <;> omega

end Canonical

/-! ## Sizes -/

/-- A finite number without its sign, as a rational number. -/
def size (x : Binary64) : ℚ :=
  x.significand * 2 ^ x.exponent

theorem size_nonneg (x : Binary64) : 0 ≤ x.size :=
  mul_nonneg (Nat.cast_nonneg _) (two_zpow_pos _).le

theorem isZero_iff {x : Binary64} : x.isZero = true ↔ x.size = 0 := by
  have vanishes : x.size = 0 ↔ x.significand = 0 := by
    rw [size, mul_eq_zero, Nat.cast_eq_zero, or_iff_left (two_zpow_pos _).ne']
  rw [vanishes, isZero, significand, fractionCount, decide_eq_true_iff]
  split <;> omega

theorem size_pos_of_nonzero {x : Binary64} (nonzero : x.isZero = false) : 0 < x.size := by
  apply lt_of_le_of_ne x.size_nonneg
  intro vanishes
  rw [isZero_iff.mpr vanishes.symm] at nonzero
  contradiction

theorem ratio_den_pos (x : Binary64) : 0 < x.ratio.2 :=
  scaleByTwo_den_pos _ Nat.one_pos _

theorem ratio_quotient (x : Binary64) : (x.ratio.1 : ℚ) / x.ratio.2 = x.size := by
  rw [ratio, scaleByTwo_quotient, Nat.cast_one, div_one, size]

/-- The place kept of a size is that of the numbers around it. -/
theorem keptPlace_eq {exponent : ℤ} (least : -1074 ≤ exponent) {scaled : ℚ}
    (positive : 0 < scaled) (lower : exponent = -1074 ∨ 2 ^ 52 ≤ scaled)
    (upper : scaled < 2 ^ 53) : keptPlace (scaled * 2 ^ exponent) = exponent := by
  have unit := two_zpow_pos exponent
  have sizePositive := mul_pos positive unit
  have below : Int.log 2 (scaled * 2 ^ exponent) < 53 + exponent := by
    rw [← Int.lt_zpow_iff_log_lt one_lt_two sizePositive, Nat.cast_ofNat, zpow_add₀ two_ne_zero]
    exact mul_lt_mul_of_pos_right upper unit
  rw [keptPlace]
  rcases lower with rfl | lower
  · omega
  · have above : 52 + exponent ≤ Int.log 2 (scaled * 2 ^ exponent) := by
      rw [← Int.zpow_le_iff_le_log one_lt_two sizePositive, Nat.cast_ofNat, zpow_add₀ two_ne_zero]
      exact mul_le_mul_of_nonneg_right lower unit.le
    omega

/-- A size is rounded by its significand at the place that is kept. -/
theorem nearest_scaled {exponent : ℤ} (least : -1074 ≤ exponent) {scaled : ℚ}
    (positive : 0 < scaled) (lower : exponent = -1074 ∨ 2 ^ 52 ≤ scaled)
    (upper : scaled < 2 ^ 53) (negative : Bool) :
    nearest negative (scaled * 2 ^ exponent) =
      ofMagnitude negative (magnitudeOf exponent (halfEven scaled)) := by
  have unit := two_zpow_pos exponent
  rw [nearest, if_neg (mul_pos positive unit).ne', keptPlace_eq least positive lower upper,
    mul_div_cancel_right₀ _ unit.ne', magnitudeOf]

theorem cast_fractionCount : (fractionCount : ℚ) = 2 ^ 52 := by
  norm_num [fractionCount]

/-- The least full significand is twice as large at the place below. -/
theorem magnitudeOf_carry {exponent : ℤ} (normal : -1074 < exponent) :
    magnitudeOf (exponent - 1) (2 * fractionCount) = magnitudeOf exponent fractionCount := by
  simp only [magnitudeOf, fractionCount]
  omega

/-- A size that differs from a significand by less than a part in `2 ^ 54` is rounded to
it. -/
theorem Canonical.nearest_of_close {exponent : ℤ} {significand : ℕ}
    (canonical : Canonical exponent significand) (negative : Bool) {scaled : ℚ}
    (close : |scaled - significand| < significand / 2 ^ 54) :
    nearest negative (scaled * 2 ^ exponent) =
      ofMagnitude negative (magnitudeOf exponent significand) := by
  obtain ⟨least, -, double, full⟩ := canonical
  have bound : (significand : ℚ) + 1 ≤ 2 ^ 53 := by exact_mod_cast double
  have significandPositive : (0 : ℚ) < significand := by
    have := (abs_nonneg _).trans_lt close
    linarith
  have half : |scaled - significand| < 1 / 2 := by linarith
  obtain ⟨lower, upper⟩ := abs_lt.mp close
  have positive : 0 < scaled := by linarith
  by_cases within : exponent = -1074 ∨ 2 ^ 52 ≤ scaled
  · rw [nearest_scaled least positive within (by linarith) negative,
      halfEven_eq_of_abs_lt positive.le half]
  · -- The size lies just below a power of two, where the place kept is the one below.
    obtain ⟨normal, below⟩ := not_or.mp within
    have below : scaled < 2 ^ 52 := not_le.mp below
    have leastFull : fractionCount ≤ significand := full.resolve_left normal
    have almost : (significand : ℚ) < fractionCount + 1 := by
      rw [cast_fractionCount]
      linarith
    have same : significand = fractionCount := by
      have : significand < fractionCount + 1 := by exact_mod_cast almost
      omega
    rw [same, cast_fractionCount] at lower upper
    have doubled : scaled * 2 ^ exponent = 2 * scaled * 2 ^ (exponent - 1) := by
      rw [zpow_sub_one₀ two_ne_zero]
      ring
    have rounded : halfEven (2 * scaled) = 2 * fractionCount := by
      apply halfEven_eq_of_abs_lt (by linarith)
      rw [Nat.cast_mul, cast_fractionCount, Nat.cast_ofNat, abs_lt]
      constructor <;> linarith
    rw [doubled, nearest_scaled (by omega) (by linarith) (.inr (by linarith)) (by linarith),
      rounded, magnitudeOf_carry (by omega), same]

/-- A finite number other than zero is the nearest one to every size that differs from its
own by less than a part in `2 ^ 54`. -/
theorem nearest_of_close {x : Binary64} (finite : x.isFinite = true) {size : ℚ}
    (close : |size - x.size| < x.size / 2 ^ 54) : nearest x.negative size = x := by
  have unit := two_zpow_pos x.exponent
  obtain ⟨scaled, rfl⟩ : ∃ scaled, size = scaled * 2 ^ x.exponent :=
    ⟨size / 2 ^ x.exponent, (div_mul_cancel₀ _ unit.ne').symm⟩
  rw [Binary64.size, ← sub_mul, abs_mul, abs_of_pos unit, mul_div_right_comm] at close
  have rounded := (canonical_of_finite finite).nearest_of_close x.negative
    (lt_of_mul_lt_mul_right close unit.le)
  rw [rounded, ← magnitude_eq, ofMagnitude_magnitude finite]

/-- The size that a sign, an exponent and a significand stand for is rounded to the number
that they make. -/
theorem Canonical.nearest_eq {exponent : ℤ} {significand : ℕ}
    (canonical : Canonical exponent significand) (negative : Bool) :
    nearest negative (significand * 2 ^ exponent) =
      ofMagnitude negative (magnitudeOf exponent significand) := by
  rcases Nat.eq_zero_or_pos significand with rfl | positive
  · have least : exponent = -1074 := canonical.full.resolve_right (by decide)
    rw [least, Nat.cast_zero, zero_mul, nearest, if_pos rfl]
    rfl
  · apply canonical.nearest_of_close negative
    rw [sub_self, abs_zero]
    positivity

/-- A finite number is the nearest one to its own size. -/
theorem nearest_size {x : Binary64} (finite : x.isFinite = true) :
    nearest x.negative x.size = x := by
  rw [Binary64.size, (canonical_of_finite finite).nearest_eq, ← magnitude_eq,
    ofMagnitude_magnitude finite]

/-- A whole number of at most fifty-three bits times a power of two takes a full
significand. -/
theorem exists_canonical {digits : ℕ} (short : digits < 2 ^ 53) {power : ℕ}
    (bounded : power ≤ 900) :
    ∃ exponent significand, Canonical exponent significand ∧
      (digits : ℚ) * 2 ^ power = significand * 2 ^ exponent := by
  rcases Nat.eq_zero_or_pos digits with rfl | positive
  · exact ⟨-1074, 0, ⟨by omega, by omega, by decide, .inl rfl⟩, by simp⟩
  · have few : digits.log2 < 53 := (Nat.log2_lt positive.ne').mpr short
    obtain ⟨shift, sum⟩ : ∃ shift, digits.log2 + shift = 52 := ⟨52 - digits.log2, by omega⟩
    have full : fractionCount ≤ digits * 2 ^ shift := by
      calc fractionCount = 2 ^ digits.log2 * 2 ^ shift := by rw [← pow_add, sum]; rfl
        _ ≤ digits * 2 ^ shift := Nat.mul_le_mul_right _ (Nat.log2_self_le positive.ne')
    have double : digits * 2 ^ shift < 2 * fractionCount := by
      calc digits * 2 ^ shift < 2 ^ (digits.log2 + 1) * 2 ^ shift :=
            Nat.mul_lt_mul_of_pos_right Nat.lt_log2_self (Nat.two_pow_pos _)
        _ = 2 * fractionCount := by rw [← pow_add, Nat.add_right_comm, sum]; rfl
    refine ⟨power - shift, digits * 2 ^ shift, ⟨by omega, by omega, double, .inr full⟩, ?_⟩
    rw [zpow_sub₀ two_ne_zero, zpow_natCast, zpow_natCast, Nat.cast_mul, Nat.cast_pow,
      Nat.cast_ofNat]
    field_simp

/-- A whole number of at most fifty-three bits times a power of two is the size of a finite
number. -/
theorem size_nearest (negative : Bool) {digits : ℕ} (short : digits < 2 ^ 53) {power : ℕ}
    (bounded : power ≤ 900) :
    let x := nearest negative (digits * 2 ^ power)
    x.isFinite = true ∧ x.negative = negative ∧ x.size = digits * 2 ^ power := by
  intro x
  obtain ⟨exponent, significand, canonical, scaled⟩ := exists_canonical short bounded
  have built : x = ofMagnitude negative (magnitudeOf exponent significand) := by
    rw [← canonical.nearest_eq, ← scaled]
  obtain ⟨finite, sign, place, count⟩ := canonical.decoded negative
  rw [built, size, place, count, scaled]
  exact ⟨finite, sign, rfl⟩

end IdResolution.Binary64
