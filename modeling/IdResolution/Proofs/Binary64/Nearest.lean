import IdResolution.Binary64.Rounding
import Mathlib.Algebra.Order.Field.Power
import Mathlib.Algebra.Order.Floor.Semifield
import Mathlib.Data.Int.Log
import Mathlib.Data.Rat.Floor
import Mathlib.Tactic.FieldSimp
import Mathlib.Tactic.Linarith
import Mathlib.Tactic.Positivity
import Mathlib.Tactic.Ring

/-!
# Rounding as a function of the quotient

The rounding of a quotient depends on its value alone, not on how it is written as a
numerator and a denominator.  `Binary64.nearest` is that function of rational numbers;
rounded quotients, products and decimals of any length are all values of it.
-/

namespace IdResolution.Binary64

/-! ## Whole numbers nearest to rational ones -/

/-- The whole number nearest to a size; a half goes to the even neighbour. -/
def halfEven (size : ℚ) : ℕ :=
  let below := ⌊size⌋₊
  if size - below < 1 / 2 then below
  else if 1 / 2 < size - below then below + 1
  else below + below % 2

theorem nearestQuotient_eq_halfEven (num : ℕ) {den : ℕ} (positive : 0 < den) :
    nearestQuotient num den = halfEven (num / den) := by
  have denPositive : (0 : ℚ) < den := by exact_mod_cast positive
  have rest : (num : ℚ) / den - (num / den : ℕ) = (num % den : ℕ) / den := by
    have split : (num : ℚ) = den * (num / den : ℕ) + (num % den : ℕ) := by
      exact_mod_cast (Nat.div_add_mod num den).symm
    field_simp
    linarith
  have below : (num : ℚ) / den - (num / den : ℕ) < 1 / 2 ↔ 2 * (num % den) < den := by
    rw [rest, div_lt_div_iff₀ denPositive two_pos, one_mul, mul_comm]
    exact_mod_cast Iff.rfl
  have above : 1 / 2 < (num : ℚ) / den - (num / den : ℕ) ↔ den < 2 * (num % den) := by
    rw [rest, div_lt_div_iff₀ two_pos denPositive, one_mul, mul_comm]
    exact_mod_cast Iff.rfl
  simp only [nearestQuotient, halfEven, Nat.floor_div_eq_div, below, above]

/-- Rounding stays between the whole numbers around a size. -/
theorem halfEven_cases (size : ℚ) :
    halfEven size = ⌊size⌋₊ ∧ size - ⌊size⌋₊ ≤ 1 / 2 ∨
      halfEven size = ⌊size⌋₊ + 1 ∧ 1 / 2 ≤ size - ⌊size⌋₊ := by
  unfold halfEven
  dsimp only
  split_ifs with below above
  · exact .inl ⟨rfl, below.le⟩
  · exact .inr ⟨rfl, above.le⟩
  · rcases Nat.mod_two_eq_zero_or_one ⌊size⌋₊ with even | odd
    · exact .inl ⟨by rw [even, Nat.add_zero], not_lt.mp above⟩
    · exact .inr ⟨by rw [odd], not_lt.mp below⟩

/-- A size is rounded to a whole number within a half of it. -/
theorem abs_sub_halfEven_le {size : ℚ} (nonneg : 0 ≤ size) : |size - halfEven size| ≤ 1 / 2 := by
  have floor := Nat.floor_le nonneg
  have ceiling := Nat.lt_floor_add_one size
  rcases halfEven_cases size with ⟨rounded, near⟩ | ⟨rounded, near⟩
  · rw [rounded, abs_le]
    constructor <;> linarith
  · rw [rounded, Nat.cast_succ, abs_le]
    constructor <;> linarith

/-- A size within less than a half of a whole number is rounded to it. -/
theorem halfEven_eq_of_abs_lt {size : ℚ} (nonneg : 0 ≤ size) {whole : ℕ}
    (close : |size - whole| < 1 / 2) : halfEven size = whole := by
  have near := abs_sub_halfEven_le nonneg
  have apart : |(halfEven size : ℤ) - (whole : ℤ)| < 1 := by
    have triangle : |(halfEven size : ℚ) - whole| < 1 := by
      rw [abs_lt] at close ⊢
      rw [abs_le] at near
      constructor <;> linarith [close.1, close.2, near.1, near.2]
    exact_mod_cast triangle
  have same := Int.abs_lt_one_iff.mp apart
  omega

/-- Rounding keeps above a whole number. -/
theorem le_halfEven {size : ℚ} {whole : ℕ} (above : (whole : ℚ) ≤ size) :
    whole ≤ halfEven size := by
  have floor : whole ≤ ⌊size⌋₊ := Nat.le_floor above
  rcases halfEven_cases size with rounded | rounded
  · rw [rounded.1]
    exact floor
  · rw [rounded.1]
    omega

/-- Rounding keeps below a whole number. -/
theorem halfEven_le {size : ℚ} (nonneg : 0 ≤ size) {whole : ℕ} (below : size ≤ whole) :
    halfEven size ≤ whole := by
  have floor : (⌊size⌋₊ : ℚ) ≤ size := Nat.floor_le nonneg
  rcases halfEven_cases size with ⟨rounded, -⟩ | ⟨rounded, near⟩
  · rw [rounded]
    exact_mod_cast floor.trans below
  · rw [rounded]
    have less : (⌊size⌋₊ : ℚ) < whole := by linarith
    exact_mod_cast less

/-- Below an even number, sizes are rounded that are less than it by more than a half. -/
theorem halfEven_lt_two_mul_iff {size : ℚ} {half : ℕ} (positive : 0 < half) :
    halfEven size < 2 * half ↔ size < 2 * half - 1 / 2 := by
  constructor
  · intro rounded
    by_contra reaches
    rw [not_lt] at reaches
    have floor : 2 * half - 1 ≤ ⌊size⌋₊ := by
      apply Nat.le_floor
      rw [Nat.cast_sub (by omega)]
      push_cast
      linarith
    have same : ⌊size⌋₊ = 2 * half - 1 := by
      rcases halfEven_cases size with ⟨equal, -⟩ | ⟨equal, -⟩ <;> omega
    have odd : ⌊size⌋₊ % 2 = 1 := by omega
    have cast : (⌊size⌋₊ : ℚ) = 2 * half - 1 := by
      rw [same, Nat.cast_sub (by omega)]
      push_cast
      rfl
    have above : ¬size - ⌊size⌋₊ < 1 / 2 := by
      rw [cast]
      linarith
    simp only [halfEven, above, if_false, odd] at rounded
    split_ifs at rounded <;> omega
  · intro below
    rcases halfEven_cases size with ⟨equal, -⟩ | ⟨equal, near⟩
    · rw [equal]
      have floor : ⌊size⌋₊ < 2 * half := by
        rw [Nat.floor_lt' (by omega)]
        push_cast
        linarith
      exact floor
    · rw [equal]
      have floor : (⌊size⌋₊ : ℚ) + 1 < 2 * half := by linarith
      exact_mod_cast floor

/-! ## Powers of two -/

theorem two_zpow_pos (power : ℤ) : (0 : ℚ) < 2 ^ power :=
  zpow_pos two_pos power

/-- A quotient scaled by a power of two. -/
theorem scaleByTwo_quotient (num den : ℕ) (power : ℤ) :
    ((scaleByTwo num den power).1 : ℚ) / (scaleByTwo num den power).2 =
      num / den * 2 ^ power := by
  simp only [scaleByTwo, Nat.shiftLeft_eq, Nat.cast_mul, Nat.cast_pow, Nat.cast_ofNat]
  rcases le_total 0 power with nonneg | nonpos
  · obtain ⟨count, rfl⟩ := Int.eq_ofNat_of_zero_le nonneg
    simp [mul_div_right_comm]
  · obtain ⟨count, same⟩ := Int.eq_ofNat_of_zero_le (Int.neg_nonneg_of_nonpos nonpos)
    obtain rfl : power = -count := by omega
    simp only [neg_neg, Int.toNat_natCast, Int.toNat_neg_natCast, pow_zero, mul_one, zpow_neg,
      zpow_natCast, div_mul_eq_div_div]
    rw [div_eq_mul_inv (_ / _)]

theorem scaleByTwo_den_pos (num : ℕ) {den : ℕ} (positive : 0 < den) (power : ℤ) :
    0 < (scaleByTwo num den power).2 := by
  simp only [scaleByTwo, Nat.shiftLeft_eq]
  exact Nat.mul_pos positive (Nat.two_pow_pos _)

/-- A logarithm is determined by the powers around a size. -/
theorem log_eq_of_bounds {base : ℕ} (above : 1 < base) {size : ℚ} {power : ℤ}
    (lower : (base : ℚ) ^ power ≤ size) (upper : size < (base : ℚ) ^ (power + 1)) :
    Int.log base size = power := by
  have positive : 0 < size :=
    lt_of_lt_of_le (zpow_pos (by exact_mod_cast Nat.zero_lt_of_lt above) _) lower
  have atLeast := (Int.zpow_le_iff_le_log above positive).mp lower
  have atMost := (Int.lt_zpow_iff_log_lt above positive).mp upper
  omega

/-- The binary logarithms of a numerator and a denominator give that of the quotient but
for one. -/
theorem quotient_bounds {num den : ℕ} (numPositive : 0 < num) (denPositive : 0 < den) :
    (2 : ℚ) ^ ((num.log2 : ℤ) - den.log2 - 1) ≤ (num : ℚ) / den ∧
      (num : ℚ) / den < 2 ^ ((num.log2 : ℤ) - den.log2 + 1) := by
  have numLower : (2 : ℚ) ^ num.log2 ≤ num := by exact_mod_cast Nat.log2_self_le numPositive.ne'
  have numUpper : (num : ℚ) < 2 ^ (num.log2 + 1) := by exact_mod_cast Nat.lt_log2_self
  have denLower : (2 : ℚ) ^ den.log2 ≤ den := by exact_mod_cast Nat.log2_self_le denPositive.ne'
  have denUpper : (den : ℚ) < 2 ^ (den.log2 + 1) := by exact_mod_cast Nat.lt_log2_self
  have positive : (0 : ℚ) < den := by exact_mod_cast denPositive
  constructor
  · calc (2 : ℚ) ^ ((num.log2 : ℤ) - den.log2 - 1)
        = 2 ^ num.log2 / 2 ^ (den.log2 + 1) := by
          rw [sub_sub, zpow_sub₀ two_ne_zero, zpow_natCast, ← Nat.cast_succ, zpow_natCast]
      _ ≤ num / den := by gcongr
  · calc (num : ℚ) / den < 2 ^ (num.log2 + 1) / 2 ^ den.log2 := by gcongr
      _ = 2 ^ ((num.log2 : ℤ) - den.log2 + 1) := by
          rw [sub_add_eq_add_sub, zpow_sub₀ two_ne_zero, zpow_natCast, ← Nat.cast_succ,
            zpow_natCast]

/-- The leading place of a quotient is the whole part of its binary logarithm. -/
theorem leadingPlace_eq_log {num den : ℕ} (numPositive : 0 < num) (denPositive : 0 < den) :
    leadingPlace num den = Int.log 2 ((num : ℚ) / den) := by
  obtain ⟨lower, upper⟩ := quotient_bounds numPositive denPositive
  have scaled := scaleByTwo_quotient num den (-((num.log2 : ℤ) - den.log2))
  have scaledPositive : (0 : ℚ) < (scaleByTwo num den (-((num.log2 : ℤ) - den.log2))).2 := by
    exact_mod_cast scaleByTwo_den_pos num denPositive _
  have less : (scaleByTwo num den (-((num.log2 : ℤ) - den.log2))).1 <
      (scaleByTwo num den (-((num.log2 : ℤ) - den.log2))).2 ↔
        (num : ℚ) / den < 2 ^ ((num.log2 : ℤ) - den.log2) := by
    rw [zpow_neg, ← div_eq_mul_inv] at scaled
    rw [← div_lt_one (two_zpow_pos _), ← scaled, div_lt_one scaledPositive]
    exact_mod_cast Iff.rfl
  -- The difference of the logarithms is the place itself or the one above it.
  simp only [leadingPlace, less]
  split_ifs with below
  · exact (log_eq_of_bounds one_lt_two lower (by simpa using below)).symm
  · exact (log_eq_of_bounds one_lt_two (not_lt.mp below) upper).symm

/-! ## The rounding -/

/-- The last binary place that is kept of a positive size. -/
def keptPlace (size : ℚ) : ℤ :=
  max (Int.log 2 size - 52) (-1074)

/-- The number nearest to a size that is not negative, with the given sign. -/
def nearest (negative : Bool) (size : ℚ) : Binary64 :=
  if size = 0 then zero negative
  else
    ofMagnitude negative ((keptPlace size + 1074).toNat * fractionCount +
      halfEven (size / 2 ^ keptPlace size))

/-- A quotient is rounded by its value. -/
theorem ofRatio_eq_nearest (negative : Bool) (num : ℕ) {den : ℕ} (denPositive : 0 < den) :
    ofRatio negative num den = nearest negative (num / den) := by
  rcases Nat.eq_zero_or_pos num with rfl | numPositive
  · simp [ofRatio, nearest]
  · have quotient : (num : ℚ) / den ≠ 0 := by positivity
    have place : lastPlace num den = keptPlace (num / den) := by
      rw [lastPlace, leadingPlace_eq_log numPositive denPositive, keptPlace]
    simp only [ofRatio, nearest, if_neg numPositive.ne', if_neg quotient, place]
    rw [nearestQuotient_eq_halfEven _ (scaleByTwo_den_pos num denPositive _), scaleByTwo_quotient,
      zpow_neg, ← div_eq_mul_inv]

end IdResolution.Binary64
