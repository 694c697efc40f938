import IdResolution.Proofs.Binary64.Finite

/-!
# Rounded decimals

A decimal of any length and any exponent is rounded by its value, and so are products and
quotients.  Sizes far outside the range of the format go to an infinity or to a zero.
-/

namespace IdResolution.Binary64

/-! ## Outside the range -/

theorem ofMagnitude_of_infinite (negative : Bool) {magnitude : ℕ}
    (infinite : infiniteMagnitude ≤ magnitude) :
    ofMagnitude negative magnitude = ofMagnitude negative infiniteMagnitude := by
  rw [ofMagnitude, ofMagnitude, Nat.min_eq_right infinite, Nat.min_self]

/-- A size past the greatest exponent is rounded to an infinity. -/
theorem nearest_of_huge (negative : Bool) {size : ℚ} (huge : 2 ^ (1024 : ℤ) ≤ size) :
    nearest negative size = ofMagnitude negative infiniteMagnitude := by
  have positive : 0 < size := (two_zpow_pos _).trans_le huge
  have log : 1024 ≤ Int.log 2 size :=
    (Int.zpow_le_iff_le_log one_lt_two positive).mp (by rwa [Nat.cast_ofNat])
  have place : keptPlace size = Int.log 2 size - 52 := by
    rw [keptPlace]
    omega
  have full : fractionCount ≤ halfEven (size / 2 ^ keptPlace size) := by
    apply le_halfEven
    rw [le_div_iff₀ (two_zpow_pos _), place, cast_fractionCount, ← zpow_natCast,
      ← zpow_add₀ two_ne_zero, Nat.cast_ofNat, add_sub_cancel]
    exact_mod_cast Int.zpow_log_le_self one_lt_two positive
  rw [nearest, if_neg positive.ne', ofMagnitude_of_infinite]
  simp only [infiniteMagnitude, fractionCount] at full ⊢
  omega

/-- A size below half the least number is rounded to a zero. -/
theorem nearest_of_tiny (negative : Bool) {size : ℚ} (nonneg : 0 ≤ size)
    (tiny : 2 * size < 2 ^ (-1074 : ℤ)) : nearest negative size = zero negative := by
  rcases nonneg.eq_or_lt with rfl | positive
  · rw [nearest, if_pos rfl]
  · have unit := two_zpow_pos (-1074)
    obtain ⟨scaled, rfl⟩ : ∃ scaled, size = scaled * 2 ^ (-1074 : ℤ) :=
      ⟨size / 2 ^ (-1074 : ℤ), (div_mul_cancel₀ _ unit.ne').symm⟩
    have scaledPositive : 0 < scaled := pos_of_mul_pos_left positive unit.le
    have less : 2 * scaled < 1 := by
      apply lt_of_mul_lt_mul_right _ unit.le
      rwa [one_mul, mul_assoc]
    have vanishes : halfEven scaled = 0 := by
      apply halfEven_eq_of_abs_lt scaledPositive.le
      rw [Nat.cast_zero, sub_zero, abs_of_pos scaledPositive]
      linarith
    rw [nearest_scaled le_rfl scaledPositive (.inl rfl) (by linarith), vanishes]
    rfl

/-! ## Decimals -/

theorem ten_zpow_pos (power : ℤ) : (0 : ℚ) < 10 ^ power :=
  zpow_pos (by norm_num) power

/-- Three binary places are less than one decimal place. -/
theorem two_zpow_le_ten_zpow {power : ℤ} (nonneg : 0 ≤ power) :
    (2 : ℚ) ^ (3 * power) ≤ 10 ^ power := by
  rw [zpow_mul]
  exact zpow_le_zpow_left₀ nonneg (by norm_num) (by norm_num)

theorem ten_zpow_le_two_zpow {power : ℤ} (nonpos : power ≤ 0) :
    (10 : ℚ) ^ power ≤ 2 ^ (3 * power) := by
  have inverse := two_zpow_le_ten_zpow (Int.neg_nonneg_of_nonpos nonpos)
  rwa [Int.mul_neg, zpow_neg, zpow_neg, inv_le_inv₀ (two_zpow_pos _) (ten_zpow_pos _)] at inverse

theorem ten_zpow_quotient (digits : ℕ) (exponent : ℤ) :
    ((digits * 10 ^ exponent.toNat : ℕ) : ℚ) / (10 ^ (-exponent).toNat : ℕ) =
      digits * 10 ^ exponent := by
  rcases le_total 0 exponent with nonneg | nonpos
  · obtain ⟨count, rfl⟩ := Int.eq_ofNat_of_zero_le nonneg
    simp
  · obtain ⟨count, same⟩ := Int.eq_ofNat_of_zero_le (Int.neg_nonneg_of_nonpos nonpos)
    obtain rfl : exponent = -count := by omega
    simp [div_eq_mul_inv]

/-- A decimal is rounded by its value. -/
theorem ofDecimal_eq_nearest (negative : Bool) (digits : ℕ) (exponent : ℤ) :
    ofDecimal negative digits exponent = nearest negative (digits * 10 ^ exponent) := by
  unfold ofDecimal
  split_ifs with vanishes huge tiny
  · rw [vanishes, Nat.cast_zero, zero_mul, nearest, if_pos rfl]
  · have one : (1 : ℚ) ≤ digits := by exact_mod_cast Nat.one_le_iff_ne_zero.mpr vanishes
    symm
    apply nearest_of_huge
    calc (2 : ℚ) ^ (1024 : ℤ) ≤ 2 ^ (3 * exponent) :=
          zpow_le_zpow_right₀ one_le_two (by omega)
      _ ≤ 10 ^ exponent := two_zpow_le_ten_zpow (by omega)
      _ ≤ digits * 10 ^ exponent := le_mul_of_one_le_left (ten_zpow_pos _).le one
  · have few : (digits : ℚ) < 2 ^ (digits.log2 + 1) := by exact_mod_cast Nat.lt_log2_self
    symm
    apply nearest_of_tiny
    · positivity
    · calc 2 * (digits * (10 : ℚ) ^ exponent)
          ≤ 2 * (digits * 2 ^ (3 * exponent)) := by
            gcongr
            exact ten_zpow_le_two_zpow (by omega)
        _ < 2 * (2 ^ (digits.log2 + 1) * 2 ^ (3 * exponent)) := by gcongr
        _ = 2 ^ (1 + ((digits.log2 + 1 : ℕ) + 3 * exponent)) := by
            rw [zpow_add₀ two_ne_zero, zpow_add₀ two_ne_zero, zpow_one, zpow_natCast]
        _ ≤ 2 ^ (-1074 : ℤ) := zpow_le_zpow_right₀ one_le_two (by omega)
  · have denPositive : 0 < Nat.pow 10 (-exponent).toNat := Nat.pow_pos (by decide)
    rw [ofRatio_eq_nearest _ _ denPositive, ← ten_zpow_quotient]
    rfl

/-! ## Products and quotients -/

theorem mul_eq_nearest (x y : Binary64) :
    x.mul y = nearest (x.negative != y.negative) (x.size * y.size) := by
  rw [mul, ofRatio_eq_nearest _ _ (Nat.mul_pos x.ratio_den_pos y.ratio_den_pos), Nat.cast_mul,
    Nat.cast_mul, mul_div_mul_comm, ratio_quotient, ratio_quotient]

theorem div_eq_nearest (x : Binary64) {y : Binary64} (positive : 0 < y.size) :
    x.div y = nearest (x.negative != y.negative) (x.size / y.size) := by
  have numPositive : 0 < y.ratio.1 := by
    rw [← ratio_quotient] at positive
    by_contra vanishes
    rw [Nat.eq_zero_of_not_pos vanishes] at positive
    simp at positive
  rw [div, ofRatio_eq_nearest _ _ (Nat.mul_pos x.ratio_den_pos numPositive), Nat.cast_mul,
    Nat.cast_mul, mul_div_mul_comm, ratio_quotient, ← inv_div, ratio_quotient, div_eq_mul_inv]

/-! ## Signs -/

theorem xor_two_pow {number count : ℕ} (small : number < 2 ^ count) :
    number ^^^ 2 ^ count = 2 ^ count + number := by
  rw [← Nat.div_add_mod (number ^^^ 2 ^ count) (2 ^ count), Nat.xor_div_two_pow,
    Nat.xor_mod_two_pow, Nat.div_eq_of_lt small, Nat.div_self (Nat.two_pow_pos _), Nat.mod_self,
    Nat.mod_eq_of_lt small, Nat.xor_zero, Nat.zero_xor, Nat.mul_one]

theorem neg_ofMagnitude (magnitude : ℕ) :
    (ofMagnitude false magnitude).neg = ofMagnitude true magnitude := by
  rcases le_total magnitude infiniteMagnitude with small | infinite
  · have low : magnitude < 2 ^ 63 := by
      simp only [infiniteMagnitude, fractionCount] at small
      omega
    have same : (ofMagnitude false magnitude).neg.bits.toNat =
        (ofMagnitude true magnitude).bits.toNat := by
      rw [neg, UInt64.toNat_xor, toNat_bits_ofMagnitude false small,
        toNat_bits_ofMagnitude true small, if_neg Bool.false_ne_true, if_pos rfl, Nat.zero_add]
      exact xor_two_pow low
    exact congrArg Binary64.mk (UInt64.toNat_inj.mp same)
  · rw [ofMagnitude_of_infinite false infinite, ofMagnitude_of_infinite true infinite]
    rfl

/-- Rounding does not look at the sign. -/
theorem neg_nearest (size : ℚ) : (nearest false size).neg = nearest true size := by
  unfold nearest zero
  split_ifs <;> exact neg_ofMagnitude _

/-! ## Finite results -/

theorem magnitude_ofMagnitude (negative : Bool) {magnitude : ℕ}
    (small : magnitude ≤ infiniteMagnitude) :
    (ofMagnitude negative magnitude).magnitude = magnitude := by
  rw [Binary64.magnitude, exponentField_ofMagnitude negative small,
    fractionField_ofMagnitude negative small, Nat.div_add_mod']

theorem isInfinite_of_finite {x : Binary64} (finite : x.isFinite = true) :
    x.isInfinite = false := by
  have : x.exponentField < 2047 := of_decide_eq_true finite
  rw [isInfinite, decide_eq_false_iff_not]
  omega

/-- A size below the last exponent is rounded to a finite number. -/
theorem isFinite_nearest (negative : Bool) {size : ℚ} (nonneg : 0 ≤ size)
    (bounded : size < 2 ^ (1023 : ℤ)) : (nearest negative size).isFinite = true := by
  rcases nonneg.eq_or_lt with rfl | positive
  · rw [nearest, if_pos rfl]
    cases negative <;> rfl
  · have log : Int.log 2 size < 1023 :=
      (Int.lt_zpow_iff_log_lt one_lt_two positive).mp (by rwa [Nat.cast_ofNat])
    have rounded : halfEven (size / 2 ^ keptPlace size) ≤ 2 * fractionCount := by
      apply halfEven_le (div_nonneg nonneg (two_zpow_pos _).le)
      have below : size < 2 ^ (Int.log 2 size + 1) := by
        exact_mod_cast Int.lt_zpow_succ_log_self one_lt_two size
      have place : Int.log 2 size + 1 ≤ keptPlace size + 53 := by
        rw [keptPlace]
        omega
      calc size / 2 ^ keptPlace size ≤ 2 ^ (keptPlace size + 53) / 2 ^ keptPlace size := by
            gcongr
            exact below.le.trans (zpow_le_zpow_right₀ one_le_two place)
        _ = (2 * fractionCount : ℕ) := by
            rw [← zpow_sub₀ two_ne_zero, add_sub_cancel_left, Nat.cast_mul, cast_fractionCount]
            norm_num
    have place : keptPlace size ≤ 970 := by
      rw [keptPlace]
      omega
    have small : (keptPlace size + 1074).toNat * fractionCount +
        halfEven (size / 2 ^ keptPlace size) < infiniteMagnitude := by
      simp only [infiniteMagnitude, fractionCount] at rounded ⊢
      omega
    rw [nearest, if_neg positive.ne', isFinite_iff, magnitude_ofMagnitude _ small.le]
    exact small

end IdResolution.Binary64
