import IdResolution.Proofs.Json.Overflow

/-!
# How near numbers are read

Each rounding on the way from a numeral to the number that is read costs a part in `2 ^ 53`,
and dividing by a rounded power of ten another one.  A number that is not too small is divided
at most twice, so that it is met but for a part in `2 ^ 49`.
-/

namespace IdResolution.Json

open Binary64

/-! ## Costs of rounding -/

/-- A size is met but for so many parts in `2 ^ 53`. -/
def Near (parts size exact : ℚ) : Prop :=
  |size - exact| ≤ parts * exact / 2 ^ 53

namespace Near

variable {parts size exact : ℚ}

/-- Rounding a size costs two parts. -/
theorem round (near : Near parts size exact) (few : parts ≤ 9) (large : 2 ^ (-1021 : ℤ) ≤ exact)
    (bounded : size < overflowSize) : Near (parts + 2) (rounded size) exact := by
  have positive : 0 < exact := (two_zpow_pos _).trans_le large
  have half : (2 : ℚ) ^ (-1021 : ℤ) = 2 * 2 ^ (-1022 : ℤ) := by
    rw [← zpow_one_add₀ two_ne_zero]
    rfl
  obtain ⟨below, above⟩ := abs_le.mp near
  have normal : 2 ^ (-1022 : ℤ) ≤ size := by nlinarith
  obtain ⟨roundedBelow, roundedAbove⟩ := abs_le.mp (abs_rounded_sub_le normal bounded)
  refine abs_le.mpr ⟨?_, ?_⟩
  · nlinarith
  · nlinarith

/-- Dividing by a rounded number costs two parts. -/
theorem div (near : Near parts size exact) (nonneg : 0 ≤ parts) (few : parts ≤ 9)
    (positive : 0 < exact) {divisor whole : ℚ} (wholePositive : 0 < whole)
    (nearDivisor : Near 1 divisor whole) : Near (parts + 2) (size / divisor) (exact / whole) := by
  obtain ⟨below, above⟩ := abs_le.mp near
  obtain ⟨divisorBelow, divisorAbove⟩ := abs_le.mp nearDivisor
  have divisorPositive : 0 < divisor := by linarith
  obtain ⟨quotient, rfl⟩ : ∃ quotient, exact = quotient * whole :=
    ⟨exact / whole, (div_mul_cancel₀ _ wholePositive.ne').symm⟩
  have quotientPositive : 0 < quotient := pos_of_mul_pos_left positive wholePositive.le
  rw [mul_div_cancel_right₀ _ wholePositive.ne']
  have upper : size / divisor ≤ quotient * (1 + (parts + 2) / 2 ^ 53) := by
    rw [div_le_iff₀ divisorPositive]
    calc size ≤ quotient * whole * (1 + parts / 2 ^ 53) := by linarith
      _ ≤ quotient * whole * ((1 + (parts + 2) / 2 ^ 53) * (1 - 1 / 2 ^ 53)) := by
          gcongr
          linarith
      _ = quotient * (1 + (parts + 2) / 2 ^ 53) * (whole * (1 - 1 / 2 ^ 53)) := by ring
      _ ≤ quotient * (1 + (parts + 2) / 2 ^ 53) * divisor := by
          gcongr
          linarith
  have lower : quotient * (1 - (parts + 2) / 2 ^ 53) ≤ size / divisor := by
    rw [le_div_iff₀ divisorPositive]
    calc quotient * (1 - (parts + 2) / 2 ^ 53) * divisor
        ≤ quotient * (1 - (parts + 2) / 2 ^ 53) * (whole * (1 + 1 / 2 ^ 53)) := by
          gcongr
          · exact mul_nonneg quotientPositive.le (by linarith)
          · linarith
      _ = quotient * whole * ((1 - (parts + 2) / 2 ^ 53) * (1 + 1 / 2 ^ 53)) := by ring
      _ ≤ quotient * whole * (1 - parts / 2 ^ 53) := by
          gcongr
          linarith
      _ ≤ size := by linarith
  refine abs_le.mpr ⟨?_, ?_⟩ <;> linarith

theorem mono (near : Near parts size exact) (nonneg : 0 ≤ exact) {more : ℚ}
    (atMost : parts ≤ more) : Near more size exact :=
  near.trans (by gcongr)

end Near

/-- A whole number and a power of ten are rounded to one part. -/
theorem near_rounded {exact : ℚ} (one : 1 ≤ exact) (bounded : exact < overflowSize) :
    Near 1 (rounded exact) exact := by
  rw [Near, one_mul]
  exact abs_rounded_sub_le (normal_of_one_le one) bounded

theorem near_rounded_ten {power : ℤ} (nonneg : 0 ≤ power) (few : power ≤ 308) :
    Near 1 (rounded (10 ^ power)) (10 ^ power) :=
  near_rounded (one_le_ten_zpow nonneg) (ten_zpow_lt_overflowSize few)

/-- A rounded quotient by a power of ten costs four parts. -/
theorem Near.step {parts size exact : ℚ} (near : Near parts size exact) (nonneg : 0 ≤ parts)
    (few : parts ≤ 5) {power : ℤ} (powerNonneg : 0 ≤ power) (powerFew : power ≤ 308)
    (large : 2 ^ (-1021 : ℤ) ≤ exact / 10 ^ power) (bounded : 2 * exact < overflowSize) :
    Near (parts + 4) (rounded (size / rounded (10 ^ power))) (exact / 10 ^ power) := by
  have ten := one_le_ten_zpow powerNonneg
  have tenPositive := ten_zpow_pos power
  have quotientPositive : 0 < exact / 10 ^ power := (two_zpow_pos _).trans_le large
  have positive : 0 < exact := by
    have := mul_pos quotientPositive tenPositive
    rwa [div_mul_cancel₀ _ tenPositive.ne'] at this
  have quotient := near.div nonneg (by linarith) positive tenPositive
    (near_rounded_ten powerNonneg powerFew)
  have less : exact / 10 ^ power ≤ exact := div_le_self positive.le ten
  have result := quotient.round (by linarith) large (by
    have := (abs_le.mp quotient).2
    nlinarith)
  rwa [add_assoc, show (2 : ℚ) + 2 = 4 by norm_num] at result

/-! ## Scaling -/

/-- The power of ten of leading digits that are not too small. -/
theorem LeadingDigits.power_gt {numeral : Numeral} {digits : ℕ} {power : ℤ}
    (leading : LeadingDigits numeral digits power)
    (large : 2 ^ (-1021 : ℤ) ≤ (digits : ℚ) * 10 ^ power) : -362 < power := by
  by_contra tiny
  have short : (digits : ℚ) < 2 ^ (64 : ℤ) := by exact_mod_cast leading.lt
  have ten := ten_zpow_pos power
  apply large.not_gt
  calc (digits : ℚ) * 10 ^ power < 2 ^ (64 : ℤ) * 10 ^ power := by gcongr
    _ ≤ 2 ^ (64 : ℤ) * 2 ^ (3 * power) := by
        gcongr
        exact ten_zpow_le_two_zpow (by omega)
    _ = 2 ^ (64 + 3 * power) := (zpow_add₀ two_ne_zero _ _).symm
    _ ≤ 2 ^ (-1021 : ℤ) := zpow_le_zpow_right₀ one_le_two (by omega)

/-- Scaling the leading digits meets the size but for nine parts, if it is not too small. -/
theorem Scales.near {numeral : Numeral} {digits : ℕ} {power : ℤ} {result : Binary64}
    (leading : LeadingDigits numeral digits power) (scales : Scales (rounded digits) power result)
    (large : 2 ^ (-1021 : ℤ) ≤ (digits : ℚ) * 10 ^ power) :
    Near 9 result.size (digits * 10 ^ power) := by
  have one : (1 : ℚ) ≤ digits := by
    have positive : (0 : ℚ) < digits :=
      pos_of_mul_pos_left ((two_zpow_pos _).trans_le large) (ten_zpow_pos power).le
    exact_mod_cast Nat.one_le_iff_ne_zero.mpr (Nat.cast_pos.mp positive).ne'
  have bounded := leading.cast_lt
  have nearDigits : Near 1 (rounded digits) digits := near_rounded one (by linarith)
  have power_gt := leading.power_gt large
  have exactNonneg : (0 : ℚ) ≤ digits * 10 ^ power := (two_zpow_pos _).le.trans large
  cases scales with
  | up nonneg few past =>
      have product : Near 3 (rounded digits * rounded (10 ^ power)) (digits * 10 ^ power) :=
        leading.abs_product_sub_le nonneg few
      exact (product.round (by norm_num) large past).mono exactNonneg (by norm_num)
  | down neg few =>
      have inverse : (digits : ℚ) / 10 ^ (-power) = digits * 10 ^ power := by
        rw [zpow_neg _ power, div_inv_eq_mul]
      rw [← inverse] at large exactNonneg ⊢
      have near := nearDigits.step (by norm_num) (by norm_num) (by omega : 0 ≤ -power) (by omega)
        large bounded
      exact near.mono exactNonneg (by norm_num)
  | zero vanishes =>
      have positive := rounded_natCast_pos_iff.mpr (Nat.cast_pos.mp (zero_lt_one.trans_le one))
      exact absurd vanishes positive.ne'
  | further positive many rest =>
      have split : (digits : ℚ) * 10 ^ power = digits / 10 ^ (308 : ℤ) / 10 ^ (-(power + 308)) := by
        rw [zpow_neg _ (power + 308), div_inv_eq_mul, zpow_add₀ (by norm_num)]
        field_simp
      rw [split] at large exactNonneg ⊢
      have atLeastOne : (1 : ℚ) ≤ 10 ^ (-(power + 308)) := one_le_ten_zpow (by omega)
      have quotientNonneg : (0 : ℚ) ≤ digits / 10 ^ (308 : ℤ) := by positivity
      have first := nearDigits.step (by norm_num) (by norm_num) (by norm_num : 0 ≤ (308 : ℤ))
        le_rfl (large.trans (div_le_self quotientNonneg atLeastOne)) bounded
      cases rest with
      | down neg few =>
          have less : (digits : ℚ) / 10 ^ (308 : ℤ) ≤ digits :=
            div_le_self (Nat.cast_nonneg _) (one_le_ten_zpow (by norm_num))
          have second := first.step (by norm_num) (by norm_num) (by omega : 0 ≤ -(power + 308))
            (by omega) large (by linarith)
          exact second.mono exactNonneg (by norm_num)
      | up | zero | further => omega

theorem Scales.exists_nearest {size : ℚ} {power : ℤ} {result : Binary64}
    (scales : Scales size power result) : ∃ exact, result = nearest false exact := by
  induction scales with
  | up | down => exact ⟨_, rfl⟩
  | zero => exact ⟨0, (if_pos rfl).symm⟩
  | further _ _ _ ih => exact ih

/-- A numeral that is read and not too small is met but for a part in `2 ^ 49`. -/
theorem ReadsAs.near {numeral : Numeral} {x : Binary64} (reads : ReadsAs numeral x)
    (large : 2 ^ (-1020 : ℤ) ≤ numeral.size) :
    x.negative = numeral.negative ∧ |x.size - numeral.size| ≤ numeral.size / 2 ^ 49 := by
  obtain ⟨leading, scales⟩ := reads
  rename_i digits power size
  have close := abs_le.mp leading.close
  have half : (2 : ℚ) ^ (-1020 : ℤ) = 2 * 2 ^ (-1021 : ℤ) := by
    rw [← zpow_one_add₀ two_ne_zero]
    rfl
  have unit := two_zpow_pos (-1021)
  have near := abs_le.mp (scales.near leading (by linarith))
  obtain ⟨exact, rfl⟩ := scales.exists_nearest
  have signed : (if numeral.negative = true then (nearest false exact).neg
      else nearest false exact) = nearest numeral.negative exact := by
    cases numeral.negative with
    | true => rw [if_pos rfl, neg_nearest]
    | false => rw [if_neg Bool.false_ne_true]
  rw [signed, size_nearest_eq_rounded, ← size_nearest_eq_rounded false]
  refine ⟨negative_nearest _ _, abs_le.mpr ⟨?_, ?_⟩⟩ <;> linarith

/-- What reading in limited precision comes to: a numeral is read unless its product
overflows, which decides for sizes near the bound only, and a number that is not too small is
met nearly. -/
structure LimitedPrecision (numeral : Numeral) : Prop where
  exists_iff : (∃ x, ReadsAs numeral x) ↔ ¬Overflows numeral
  exists_of_small : numeral.size < (1 - 1 / 2 ^ 51) * overflowSize → ∃ x, ReadsAs numeral x
  small_of_exists : (∃ x, ReadsAs numeral x) → numeral.size < (1 + 1 / 2 ^ 51) * overflowSize
  near {x : Binary64} : ReadsAs numeral x → 2 ^ (-1020 : ℤ) ≤ numeral.size →
    x.negative = numeral.negative ∧ |x.size - numeral.size| ≤ numeral.size / 2 ^ 49

theorem limitedPrecision (numeral : Numeral) : LimitedPrecision numeral where
  exists_iff := exists_readsAs_iff
  exists_of_small small := exists_readsAs_iff.mpr (not_overflows_of_size_lt small)
  small_of_exists read := size_lt_of_not_overflows (exists_readsAs_iff.mp read)
  near := ReadsAs.near

end IdResolution.Json
