import IdResolution.Binary64.Shortest
import IdResolution.Proofs.Binary64.Decimal
import IdResolution.Proofs.Numeral.Digits

/-!
# Shortest decimals read back

The shortest decimal of a finite number is rounded to that number again: the decimals of
seventeen digits stand so close that the one nearest to a number is within its reach.  It
has digits, and starts with a zero only when it is zero.
-/

namespace IdResolution

/-- A decimal has digits, and starts with a zero only when it is zero. -/
structure Decimal.Normal (decimal : Decimal) : Prop where
  digits_ne_nil : decimal.digits ≠ []
  zero_of_zero {rest : List Digit} :
    decimal.digits = .zero :: rest → rest = [] ∧ decimal.exponent = 0

namespace Binary64

/-! ## Leading decades -/

theorem decadesAbove_spec {fuel num den : ℕ} (lower : den ≤ num) (upper : num < den * 10 ^ fuel) :
    den * 10 ^ decadesAbove fuel num den ≤ num ∧
      num < den * 10 ^ (decadesAbove fuel num den + 1) := by
  induction fuel generalizing den with
  | zero =>
      rw [pow_zero, Nat.mul_one] at upper
      omega
  | succ fuel ih =>
      rw [decadesAbove]
      split_ifs with within
      · constructor
        · rwa [pow_zero, Nat.mul_one]
        · rwa [zero_add, pow_one, Nat.mul_comm]
      · have further := @ih (10 * den) (not_lt.mp within)
          (by rwa [Nat.mul_comm 10, Nat.mul_assoc, ← pow_succ'])
        rw [Nat.mul_comm 10, Nat.mul_assoc, Nat.mul_assoc, ← pow_succ', ← pow_succ'] at further
        rwa [Nat.mul_comm 10]

theorem decadesBelow_spec {fuel num den : ℕ} (lower : den ≤ num * 10 ^ fuel) :
    den ≤ num * 10 ^ decadesBelow fuel num den ∧
      (decadesBelow fuel num den = 0 ∨ num * 10 ^ decadesBelow fuel num den < 10 * den) := by
  induction fuel generalizing num with
  | zero => exact ⟨lower, .inl rfl⟩
  | succ fuel ih =>
      rw [decadesBelow]
      split_ifs with reached
      · exact ⟨by rwa [pow_zero, Nat.mul_one], .inl rfl⟩
      · have further := @ih (10 * num)
          (by rwa [Nat.mul_comm 10, Nat.mul_assoc, ← pow_succ'])
        rw [Nat.mul_comm 10, Nat.mul_assoc, ← pow_succ'] at further
        rw [Nat.mul_comm 10 num]
        refine ⟨further.1, .inr ?_⟩
        rcases further.2 with none | more
        · rw [none]
          omega
        · exact more

/-- The leading decade of a quotient within the range of the format is the whole part of
its decimal logarithm. -/
theorem leadingDecade_eq_log {num den : ℕ} (denPositive : 0 < den)
    (lower : den ≤ num * 10 ^ 330) (upper : num < den * 10 ^ 310) :
    leadingDecade num den = Int.log 10 ((num : ℚ) / den) := by
  have positive : (0 : ℚ) < den := by exact_mod_cast denPositive
  symm
  rw [leadingDecade]
  split_ifs with above
  · obtain ⟨atLeast, below⟩ := decadesAbove_spec above upper
    apply log_eq_of_bounds (by decide)
    · rw [le_div_iff₀ positive, zpow_natCast, mul_comm]
      exact_mod_cast atLeast
    · rw [div_lt_iff₀ positive, ← Nat.cast_succ, zpow_natCast, mul_comm]
      exact_mod_cast below
  · obtain ⟨reached, before⟩ := decadesBelow_spec lower
    generalize decadesBelow 330 num den = count at *
    have few : num * 10 ^ count < 10 * den := by
      refine before.resolve_left ?_
      rintro rfl
      rw [pow_zero, Nat.mul_one] at reached
      exact above reached
    have power := ten_zpow_pos count
    apply log_eq_of_bounds (by decide)
    · rw [zpow_neg, Nat.cast_ofNat, le_div_iff₀ positive, inv_mul_le_iff₀ power, zpow_natCast,
        mul_comm]
      exact_mod_cast reached
    · rw [zpow_add₀ (by norm_num), zpow_neg, Nat.cast_ofNat, zpow_one, div_lt_iff₀ positive,
        mul_assoc, lt_inv_mul_iff₀ power, zpow_natCast, mul_comm]
      exact_mod_cast few

/-- The sizes of finite numbers other than zero lie within the range of the format. -/
theorem size_bounds {x : Binary64} (finite : x.isFinite = true) (positive : 0 < x.size) :
    2 ^ (-1074 : ℤ) ≤ x.size ∧ x.size < 2 ^ (1024 : ℤ) := by
  obtain ⟨least, greatest, double, -⟩ := canonical_of_finite finite
  have one : (1 : ℚ) ≤ x.significand := by
    have : x.significand ≠ 0 := by
      intro vanishes
      rw [size, vanishes, Nat.cast_zero, zero_mul] at positive
      exact positive.false
    exact_mod_cast Nat.one_le_iff_ne_zero.mpr this
  have few : (x.significand : ℚ) < 2 ^ 53 := by exact_mod_cast double
  have unit := two_zpow_pos x.exponent
  constructor
  · calc (2 : ℚ) ^ (-1074 : ℤ) ≤ 2 ^ x.exponent := zpow_le_zpow_right₀ one_le_two least
      _ ≤ x.size := le_mul_of_one_le_left unit.le one
  · calc x.size < 2 ^ 53 * 2 ^ x.exponent := mul_lt_mul_of_pos_right few unit
      _ = 2 ^ (53 + x.exponent) := by rw [zpow_add₀ two_ne_zero]; rfl
      _ ≤ 2 ^ (1024 : ℤ) := zpow_le_zpow_right₀ one_le_two (by omega)

theorem two_zpow_le_ten_pow {binary decimal : ℕ} (less : 2 ^ binary ≤ 10 ^ decimal) :
    (2 : ℚ) ^ (binary : ℤ) ≤ 10 ^ decimal := by
  rw [zpow_natCast]
  exact_mod_cast less

/-- The leading decade of a finite number other than zero. -/
theorem leadingDecade_ratio {x : Binary64} (finite : x.isFinite = true) (positive : 0 < x.size) :
    leadingDecade x.ratio.1 x.ratio.2 = Int.log 10 x.size := by
  obtain ⟨least, greatest⟩ := size_bounds finite positive
  have denPositive : (0 : ℚ) < x.ratio.2 := by exact_mod_cast x.ratio_den_pos
  have leastDecimal : (2 : ℚ) ^ (1074 : ℤ) ≤ 10 ^ 330 := two_zpow_le_ten_pow (by decide +kernel)
  have greatestDecimal : (2 : ℚ) ^ (1024 : ℤ) ≤ 10 ^ 310 :=
    two_zpow_le_ten_pow (by decide +kernel)
  have quotient := (div_eq_iff denPositive.ne').mp x.ratio_quotient
  rw [leadingDecade_eq_log x.ratio_den_pos, ratio_quotient]
  · have lower : (x.ratio.2 : ℚ) ≤ x.ratio.1 * 10 ^ 330 := by
      have one : 1 ≤ x.size * 10 ^ 330 := by
        calc (1 : ℚ) = 2 ^ (-1074 : ℤ) * 2 ^ (1074 : ℤ) := by
              rw [zpow_neg, inv_mul_cancel₀ (two_zpow_pos _).ne']
          _ ≤ x.size * 10 ^ 330 :=
              mul_le_mul least leastDecimal (two_zpow_pos _).le positive.le
      rw [quotient, mul_right_comm]
      exact le_mul_of_one_le_left denPositive.le one
    exact_mod_cast lower
  · have upper : (x.ratio.1 : ℚ) < x.ratio.2 * 10 ^ 310 := by
      rw [quotient, mul_comm]
      exact mul_lt_mul_of_pos_left (greatest.trans_le greatestDecimal) denPositive
    exact_mod_cast upper

/-! ## Decimals that read back -/

/-- One of the neighbours of a quotient is within a half of it. -/
theorem exists_near_neighbour (tie : TieRule) (num den : ℕ) :
    ∃ near ∈ neighbours tie num den, |(num : ℚ) / den - near| ≤ 1 / 2 := by
  have within : halfEven (num / den) ∈ neighbours tie num den := by
    have floor : ⌊(num : ℚ) / den⌋₊ = num / den := Nat.floor_div_eq_div num den
    unfold neighbours
    rcases halfEven_cases (num / den) with ⟨same, -⟩ | ⟨same, -⟩ <;> rw [same, floor] <;>
      dsimp only <;> split_ifs <;> simp
  exact ⟨_, within, abs_sub_halfEven_le (by positivity)⟩

theorem scaleByTen_quotient (num den : ℕ) (power : ℤ) :
    ((scaleByTen num den power).1 : ℚ) / (scaleByTen num den power).2 =
      num / den * 10 ^ power := by
  rw [← mul_div_right_comm, ← ten_zpow_quotient num power, div_div, mul_comm (_ : ℚ) (den : ℚ),
    ← Nat.cast_mul]
  rfl

/-- A decimal within a half of the last of seventeen digits is rounded to the number. -/
theorem ofDecimal_of_near {x : Binary64} (finite : x.isFinite = true) (positive : 0 < x.size)
    {digits : ℕ} {place : ℤ} (last : place = Int.log 10 x.size - 16)
    (near : |x.size / 10 ^ place - digits| ≤ 1 / 2) :
    ofDecimal x.negative digits place = x := by
  have unit := ten_zpow_pos place
  have many : 10 ^ 16 * (10 : ℚ) ^ place ≤ x.size := by
    have leading := Int.zpow_log_le_self (show 1 < 10 by decide) positive
    rw [show Int.log 10 x.size = 16 + place by omega, zpow_add₀ (by norm_num)] at leading
    exact_mod_cast leading
  rw [ofDecimal_eq_nearest]
  apply nearest_of_close finite
  calc |digits * 10 ^ place - x.size| = |x.size / 10 ^ place - digits| * 10 ^ place := by
        rw [← abs_of_pos unit, ← abs_mul, sub_mul, abs_of_pos unit, div_mul_cancel₀ _ unit.ne',
          abs_sub_comm]
    _ ≤ 1 / 2 * 10 ^ place := mul_le_mul_of_nonneg_right near unit.le
    _ < x.size / 2 ^ 54 := by linarith

/-- Seventeen digits are enough for a finite number to read back. -/
theorem isSome_readsBackAt (tie : TieRule) {x : Binary64} (finite : x.isFinite = true)
    (positive : 0 < x.size) :
    (readsBackAt tie x (leadingDecade x.ratio.1 x.ratio.2 - (16 : ℕ))).isSome := by
  have decade := leadingDecade_ratio finite positive
  generalize place_eq : leadingDecade x.ratio.1 x.ratio.2 - (16 : ℕ) = place
  obtain ⟨digits, listed, near⟩ := exists_near_neighbour tie
    (scaleByTen x.ratio.1 x.ratio.2 (-place)).1 (scaleByTen x.ratio.1 x.ratio.2 (-place)).2
  rw [scaleByTen_quotient, ratio_quotient, zpow_neg, ← div_eq_mul_inv] at near
  rw [readsBackAt, Option.isSome_map, List.find?_isSome]
  exact ⟨digits, listed, by simpa using ofDecimal_of_near finite positive (by omega) near⟩

/-! ## The shortest decimal -/

/-- Dropping zeros at the end of a row of digits keeps its value. -/
theorem dropZeros_value (fuel digits : ℕ) (place : ℤ) :
    ((dropZeros fuel digits place).1 : ℚ) * 10 ^ (dropZeros fuel digits place).2 =
      digits * 10 ^ place := by
  induction fuel generalizing digits place with
  | zero => rfl
  | succ fuel ih =>
      rw [dropZeros]
      split_ifs with divisible
      · obtain ⟨tenth, rfl⟩ := Nat.dvd_of_mod_eq_zero divisible.1
        rw [ih, Nat.mul_div_cancel_left _ (by decide), zpow_add_one₀ (by norm_num)]
        push_cast
        ring
      · rfl

theorem dropZeros_ne_zero {digits : ℕ} (nonzero : digits ≠ 0) (fuel : ℕ) (place : ℤ) :
    (dropZeros fuel digits place).1 ≠ 0 := by
  induction fuel generalizing digits place with
  | zero => exact nonzero
  | succ fuel ih =>
      rw [dropZeros]
      split_ifs with divisible
      · exact ih (by omega) _
      · exact nonzero

/-- The shortest decimal of a number other than zero is rounded to it. -/
theorem exists_shortest (tie : TieRule) {x : Binary64} (finite : x.isFinite = true)
    (nonzero : x.isZero = false) :
    ∃ digits place, digits ≠ 0 ∧ ofDecimal x.negative digits place = x ∧
      shortest tie x = ⟨Digit.ofNat digits, place⟩ := by
  have positive := size_pos_of_nonzero nonzero
  have exists_found : ∃ found, ((List.range 17).findSome? fun more : ℕ =>
      readsBackAt tie x (leadingDecade x.ratio.1 x.ratio.2 - more)) = some found := by
    -- The search ends at seventeen digits, if not earlier.
    rw [← Option.isSome_iff_exists, List.findSome?_isSome_iff]
    exact ⟨16, by simp, isSome_readsBackAt tie finite positive⟩
  obtain ⟨found, first⟩ := exists_found
  obtain ⟨more, -, readsBack⟩ := List.exists_of_findSome?_eq_some first
  obtain ⟨digits, listed, rfl⟩ := Option.map_eq_some_iff.mp readsBack
  have same : ofDecimal x.negative digits (leadingDecade x.ratio.1 x.ratio.2 - more) = x := by
    simpa using List.find?_some listed
  have digitsNonzero : digits ≠ 0 := by
    rintro rfl
    rw [← same, ofDecimal, if_pos rfl] at nonzero
    cases sign : x.negative <;> rw [sign] at nonzero <;> contradiction
  let trimmed := dropZeros 17 digits (leadingDecade x.ratio.1 x.ratio.2 - more)
  refine ⟨trimmed.1, trimmed.2, dropZeros_ne_zero digitsNonzero 17 _, ?_, ?_⟩
  · rw [ofDecimal_eq_nearest, dropZeros_value, ← ofDecimal_eq_nearest, same]
  · rw [shortest, if_neg (by simp [nonzero])]
    simp only [first, Option.getD_some, trimmed]

/-- The shortest decimal of a finite number is zero or starts with a digit other than
zero. -/
theorem normal_shortest (tie : TieRule) {x : Binary64} (finite : x.isFinite = true) :
    (shortest tie x).Normal := by
  cases nonzero : x.isZero with
  | true =>
      rw [shortest, if_pos nonzero]
      exact ⟨List.cons_ne_nil _ _, fun starts => ⟨(List.cons.inj starts).2.symm, rfl⟩⟩
  | false =>
      obtain ⟨digits, place, digitsNonzero, -, same⟩ := exists_shortest tie finite nonzero
      rw [same]
      refine ⟨Digit.ofNat_ne_nil digitsNonzero, ?_⟩
      intro rest starts
      exact absurd rfl (Digit.head?_ofNat (congrArg List.head? starts))

/-- The shortest decimal of a finite number is rounded to that number. -/
theorem ofDecimal_shortest (tie : TieRule) {x : Binary64} (finite : x.isFinite = true) :
    ofDecimal x.negative (Digit.value (shortest tie x).digits) (shortest tie x).exponent = x := by
  cases nonzero : x.isZero with
  | true =>
      have vanishes : x.size = 0 := by
        have fields : x.exponentField = 0 ∧ x.fractionField = 0 := of_decide_eq_true nonzero
        rw [size, significand, if_pos fields.1, fields.2, Nat.cast_zero, zero_mul]
      have rounded := nearest_size finite
      rw [shortest, if_pos nonzero, Digit.value_singleton, ofDecimal_eq_nearest]
      simpa [vanishes] using rounded
  | false =>
      obtain ⟨digits, place, -, readsBack, same⟩ := exists_shortest tie finite nonzero
      rw [same, Digit.value_ofNat, readsBack]

end Binary64

end IdResolution
