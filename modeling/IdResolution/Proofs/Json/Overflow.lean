import IdResolution.Proofs.Json.Reading

/-!
# How far the reading of numbers shifts their bound

A number is refused when the product of its rounded leading digits and its rounded power of
ten overflows.  All that is rounded or left away on the way to this product changes the size of
the number by less than a part in `2 ^ 51`, so it decides only for numbers this near to the
bound.
-/

namespace IdResolution

/-- A numeral without its sign, as a rational number. -/
def Numeral.size (numeral : Numeral) : ℚ :=
  numeral.significand * 10 ^ numeral.scale

namespace Json

open Binary64

/-! ## Leading digits -/

theorem LeadingDigits.lt {numeral : Numeral} {digits : ℕ} {power : ℤ}
    (leading : LeadingDigits numeral digits power) : digits < 2 ^ 64 := by
  obtain ⟨-, -, -, leadingFraction⟩ := leading
  exact leadingFraction.fits

/-- The number that digits write behind a point. -/
def behindPoint (digits : List Digit) : ℚ :=
  Digit.value digits / 10 ^ digits.length

theorem behindPoint_nonneg (digits : List Digit) : 0 ≤ behindPoint digits := by
  rw [behindPoint]
  positivity

theorem behindPoint_lt_one (digits : List Digit) : behindPoint digits < 1 := by
  rw [behindPoint, div_lt_one (by positivity)]
  exact_mod_cast Digit.value_lt digits

theorem behindPoint_append (digits others : List Digit) :
    behindPoint (digits ++ others) =
      behindPoint digits + behindPoint others / 10 ^ digits.length := by
  rw [behindPoint, behindPoint, behindPoint, Digit.value_append, List.length_append]
  push_cast
  field_simp
  ring

theorem value_add_behindPoint (whole fraction : List Digit) :
    (Digit.value whole : ℚ) + behindPoint fraction =
      Digit.value (whole ++ fraction) / 10 ^ fraction.length := by
  rw [behindPoint, Digit.value_append]
  push_cast
  field_simp

section Leading

variable {before taken dropped : List Digit}

/-- What does not fit 64 bits any more is large. -/
theorem Leading.large (leading : Leading before taken dropped) (more : dropped ≠ []) :
    (2 : ℚ) ^ 60 ≤ Digit.value (before ++ taken) := by
  obtain ⟨next, rest, rfl⟩ := List.exists_cons_of_ne_nil more
  have full := leading.full next rfl
  have := next.isLt
  rw [Digit.value_concat, UInt64.size] at full
  exact_mod_cast (by omega : 2 ^ 60 ≤ Digit.value (before ++ taken))

/-- Digits of the fraction that are dropped are less than a part in `2 ^ 60`. -/
theorem Leading.close_fraction (leading : Leading before taken dropped) :
    |behindPoint (taken ++ dropped) - behindPoint taken| ≤
      (Digit.value before + behindPoint taken) / 2 ^ 60 := by
  have taken_nonneg := behindPoint_nonneg taken
  have dropped_nonneg := behindPoint_nonneg dropped
  rw [behindPoint_append, add_sub_cancel_left, abs_of_nonneg (by positivity)]
  rcases eq_or_ne dropped [] with rfl | more
  · have none : behindPoint [] = 0 := by norm_num [behindPoint, Digit.value]
    rw [none, zero_div]
    positivity
  · have large := leading.large more
    have share := behindPoint_lt_one dropped
    rw [value_add_behindPoint, div_right_comm (Digit.value (before ++ taken) : ℚ)]
    apply div_le_div_of_nonneg_right _ (by positivity)
    linarith

/-- So are digits of the whole part that are dropped, together with any that are put in their
place. -/
theorem Leading.close_whole (leading : Leading [] taken dropped) (more : dropped ≠ [])
    (following instead : List Digit) :
    |(Digit.value dropped : ℚ) + behindPoint following -
        10 ^ dropped.length * behindPoint instead| ≤
      10 ^ dropped.length * (Digit.value taken + behindPoint instead) / 2 ^ 60 := by
  have unit : (0 : ℚ) < 10 ^ dropped.length := by positivity
  have large : (2 : ℚ) ^ 60 ≤ Digit.value taken := leading.large more
  have rest : (Digit.value dropped : ℚ) + 1 ≤ 10 ^ dropped.length := by
    exact_mod_cast Digit.value_lt dropped
  have following_nonneg := behindPoint_nonneg following
  have following_lt_one := behindPoint_lt_one following
  have instead_nonneg := mul_nonneg unit.le (behindPoint_nonneg instead)
  have instead_le := mul_le_of_le_one_right unit.le (behindPoint_lt_one instead).le
  calc _ ≤ (10 : ℚ) ^ dropped.length := by
        rw [abs_le]
        constructor <;> linarith
    _ ≤ _ := by
        rw [le_div_iff₀ (by positivity)]
        gcongr
        linarith [behindPoint_nonneg instead]

end Leading

/-- The size of a numeral, digit by digit. -/
theorem size_eq_digits {numeral : Numeral} {whole rest : List Digit}
    (split : numeral.whole = whole ++ rest) :
    numeral.size = 10 ^ numeral.exponent * (10 ^ rest.length * Digit.value whole +
      (Digit.value rest + behindPoint numeral.fraction)) := by
  rw [Numeral.size, Numeral.significand, Numeral.scale, zpow_sub₀ (by norm_num), zpow_natCast,
    behindPoint, split, Digit.value_append, Digit.value_append]
  push_cast
  field_simp
  ring

/-- The leading digits give the size of a numeral but for a part in `2 ^ 60`. -/
theorem LeadingDigits.close {numeral : Numeral} {digits : ℕ} {power : ℤ}
    (leading : LeadingDigits numeral digits power) :
    |numeral.size - digits * 10 ^ power| ≤ digits * 10 ^ power / 2 ^ 60 := by
  obtain ⟨wholeSplit, leadingWhole, fractionSplit, leadingFraction⟩ := leading
  rename_i whole wholeRest fraction fractionRest
  have scaled : (Digit.value (whole ++ fraction) : ℚ) *
      10 ^ (numeral.exponent + wholeRest.length - fraction.length) =
        10 ^ numeral.exponent *
          (10 ^ wholeRest.length * (Digit.value whole + behindPoint fraction)) := by
    rw [value_add_behindPoint, zpow_sub₀ (by norm_num), zpow_add₀ (by norm_num), zpow_natCast,
      zpow_natCast]
    ring
  have near : |(Digit.value wholeRest : ℚ) + behindPoint numeral.fraction -
        10 ^ wholeRest.length * behindPoint fraction| ≤
      10 ^ wholeRest.length * (Digit.value whole + behindPoint fraction) / 2 ^ 60 := by
    rcases eq_or_ne wholeRest [] with rfl | more
    · have dropped := leadingFraction.close_fraction
      have none : (Digit.value [] : ℚ) = 0 := by norm_num [Digit.value]
      rw [none, List.length_nil, pow_zero, zero_add, one_mul, one_mul, fractionSplit]
      exact dropped
    · exact leadingWhole.close_whole more numeral.fraction fraction
  have ten := ten_zpow_pos numeral.exponent
  rw [size_eq_digits wholeSplit, scaled, ← mul_sub, abs_mul, abs_of_pos ten, mul_add,
    add_sub_add_left_eq_sub, ← mul_add, mul_div_assoc]
  exact mul_le_mul_of_nonneg_left near ten.le

/-! ## The product -/

/-- The powers of ten up to the greatest are finite. -/
theorem ten_zpow_lt_overflowSize {power : ℤ} (few : power ≤ 308) :
    (10 : ℚ) ^ power < overflowSize := by
  have cast (decimal low high : ℕ) (less : 10 ^ decimal + 2 ^ low < 2 ^ high) :
      (10 : ℚ) ^ (decimal : ℤ) < 2 ^ (high : ℤ) - 2 ^ (low : ℤ) := by
    simp only [zpow_natCast, lt_sub_iff_add_lt]
    exact_mod_cast less
  exact (zpow_le_zpow_right₀ (by norm_num) few).trans_lt (cast 308 970 1024 (by decide +kernel))

/-- The powers of ten behind the greatest are not. -/
theorem overflowSize_le_ten_zpow {power : ℤ} (many : 308 < power) :
    overflowSize ≤ (10 : ℚ) ^ power := by
  have top : (2 : ℚ) ^ (1024 : ℤ) ≤ 10 ^ ((309 : ℕ) : ℤ) := by
    rw [zpow_natCast]
    exact two_zpow_le_ten_pow (by decide +kernel)
  calc overflowSize ≤ 2 ^ (1024 : ℤ) := sub_le_self _ (two_zpow_pos 970).le
    _ ≤ 10 ^ ((309 : ℕ) : ℤ) := top
    _ ≤ 10 ^ power := zpow_le_zpow_right₀ (by norm_num) many

theorem LeadingDigits.cast_lt {numeral : Numeral} {digits : ℕ} {power : ℤ}
    (leading : LeadingDigits numeral digits power) : 2 * (digits : ℚ) < overflowSize := by
  apply lt_overflowSize
  have short : 2 * (digits : ℚ) < 2 ^ (65 : ℤ) := by exact_mod_cast (by have := leading.lt; omega)
  exact short.trans_le (zpow_le_zpow_right₀ one_le_two (by decide))

/-- The product of the rounded factors differs from the product by less than a part in
`2 ^ 51`. -/
theorem LeadingDigits.abs_product_sub_le {numeral : Numeral} {digits : ℕ} {power : ℤ}
    (leading : LeadingDigits numeral digits power) (nonneg : 0 ≤ power) (few : power ≤ 308) :
    |rounded digits * rounded (10 ^ power) - digits * 10 ^ power| ≤
      3 * (digits * 10 ^ power) / 2 ^ 53 := by
  rcases Nat.eq_zero_or_pos digits with rfl | positive
  · have vanishes : rounded ((0 : ℕ) : ℚ) = 0 :=
      le_antisymm (not_lt.mp (rounded_natCast_pos_iff.not.mpr (lt_irrefl 0))) (rounded_nonneg _)
    rw [vanishes, Nat.cast_zero]
    norm_num
  · have one : (1 : ℚ) ≤ digits := by exact_mod_cast positive
    have ten := one_le_ten_zpow nonneg
    have bounded : (digits : ℚ) < overflowSize := by linarith [leading.cast_lt]
    have digitsNear := abs_rounded_sub_le (normal_of_one_le one) bounded
    have tenNear := abs_rounded_sub_le (normal_of_one_le ten) (ten_zpow_lt_overflowSize few)
    generalize rounded digits = a at *
    generalize rounded (10 ^ power) = b at *
    generalize (digits : ℚ) = d at *
    generalize (10 : ℚ) ^ power = t at *
    rw [abs_le] at *
    constructor
    · nlinarith
    · nlinarith

/-! ## The bound -/

/-- A numeral whose size stays below the bound by a part in `2 ^ 51` is read. -/
theorem not_overflows_of_size_lt {numeral : Numeral}
    (below : numeral.size < (1 - 1 / 2 ^ 51) * overflowSize) : ¬Overflows numeral := by
  have bound := overflowSize_pos
  rintro (⟨leading, nonneg, few, past⟩ | ⟨leading, positive, many⟩)
  · have close := abs_le.mp leading.close
    have product := abs_le.mp (leading.abs_product_sub_le nonneg few)
    linarith
  · rename_i digits power
    have close := abs_le.mp leading.close
    have one : (1 : ℚ) ≤ digits := by exact_mod_cast positive
    have past : overflowSize ≤ digits * 10 ^ power :=
      (overflowSize_le_ten_zpow many).trans (le_mul_of_one_le_left (ten_zpow_pos power).le one)
    linarith

/-- A numeral that is read stays below the bound, or is above it by less than a part in
`2 ^ 51`. -/
theorem size_lt_of_not_overflows {numeral : Numeral} (read : ¬Overflows numeral) :
    numeral.size < (1 + 1 / 2 ^ 51) * overflowSize := by
  obtain ⟨digits, power, leading⟩ := exists_leadingDigits numeral
  have bound := overflowSize_pos
  have close := abs_le.mp leading.close
  rcases lt_or_ge power 0 with neg | nonneg
  · have short := leading.cast_lt
    have less : (digits : ℚ) * 10 ^ power ≤ digits :=
      mul_le_of_le_one_right (Nat.cast_nonneg _) (zpow_le_one_of_nonpos₀ (by norm_num) neg.le)
    linarith
  · rcases lt_or_ge 308 power with many | few
    · have none : digits = 0 := by
        by_contra nonzero
        exact read (.power leading (Nat.pos_of_ne_zero nonzero) many)
      rw [none, Nat.cast_zero, zero_mul] at close
      linarith
    · have product := abs_le.mp (leading.abs_product_sub_le nonneg few)
      have less : rounded digits * rounded (10 ^ power) < overflowSize := by
        by_contra past
        exact read (.product leading nonneg few (not_lt.mp past))
      linarith

end Json

end IdResolution
