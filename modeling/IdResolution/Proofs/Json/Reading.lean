import IdResolution.Proofs.Binary64.Accuracy
import IdResolution.Proofs.Json.Number

/-!
# What numbers are read as

The reading of numbers in terms of rational numbers.  The leading digits and the power of ten
are each rounded, and then their product or their quotient is; a number is refused when the
product overflows.
-/

namespace IdResolution.Json

open Binary64

/-! ## Scaling -/

/-- Scaling a size by a power of ten with rounded factors and rounded results. -/
inductive Scales : ℚ → ℤ → Binary64 → Prop where
  | up {size : ℚ} {power : ℤ} (nonneg : 0 ≤ power) (few : power ≤ 308)
      (bounded : size * rounded (10 ^ power) < overflowSize) :
      Scales size power (nearest false (size * rounded (10 ^ power)))
  | down {size : ℚ} {power : ℤ} (neg : power < 0) (few : -308 ≤ power) :
      Scales size power (nearest false (size / rounded (10 ^ (-power))))
  | zero {size : ℚ} {power : ℤ} (vanishes : size = 0) (many : 308 < power.natAbs) :
      Scales size power (.zero false)
  /-- A quotient by more than the greatest power of ten is taken in steps. -/
  | further {size : ℚ} {power : ℤ} {result : Binary64} (positive : 0 < size)
      (many : power < -308)
      (rest : Scales (rounded (size / rounded (10 ^ (308 : ℤ)))) (power + 308) result) :
      Scales size power result

theorem one_le_ten_zpow {power : ℤ} (nonneg : 0 ≤ power) : (1 : ℚ) ≤ 10 ^ power :=
  one_le_zpow₀ (by norm_num) nonneg

/-- Sizes from one onwards have full significands. -/
theorem normal_of_one_le {size : ℚ} (atLeast : 1 ≤ size) : 2 ^ (-1022 : ℤ) ≤ size :=
  (zpow_le_one_of_nonpos₀ one_le_two (by decide)).trans atLeast

theorem tenPower_eq_nearest (power : ℕ) : tenPower power = nearest false (10 ^ (power : ℤ)) := by
  rw [tenPower, ofRatio_eq_nearest _ _ Nat.one_pos, Nat.cast_one, div_one, zpow_natCast,
    Nat.pow_eq, Nat.cast_pow, Nat.cast_ofNat]

section Steps

variable {x : Binary64} (unsigned : x.negative = false)

include unsigned

theorem mul_tenPower {power : ℤ} (nonneg : 0 ≤ power) :
    x.mul (tenPower power.natAbs) = nearest false (x.size * rounded (10 ^ power)) := by
  rw [mul_eq_nearest, tenPower_eq_nearest, negative_nearest, unsigned, Int.natAbs_of_nonneg nonneg]
  rfl

theorem div_tenPower (power : ℕ) :
    x.div (tenPower power) = nearest false (x.size / rounded (10 ^ (power : ℤ))) := by
  have positive : 0 < rounded (10 ^ (power : ℤ)) :=
    rounded_pos (normal_of_one_le (one_le_ten_zpow (Int.natCast_nonneg _)))
  rw [rounded, ← tenPower_eq_nearest] at positive
  rw [div_eq_nearest _ positive, tenPower_eq_nearest, negative_nearest, unsigned]
  rfl

theorem eq_zero_of_isZero (zero : x.isZero = true) : x = .zero false := by
  have finite : x.isFinite = true := by
    simp only [isZero, decide_eq_true_iff] at zero
    simp [isFinite, zero.1]
  rw [← nearest_size finite, unsigned, isZero_iff.mp zero, nearest, if_pos rfl]

/-- A product is refused when it overflows. -/
theorem scaleRounded?_of_up {power : ℤ} (few : power.natAbs ≤ 308) (nonneg : 0 ≤ power) :
    scaleRounded? x power =
      if overflowSize ≤ x.size * rounded (10 ^ power) then none
      else some (nearest false (x.size * rounded (10 ^ power))) := by
  have nonnegProduct := mul_nonneg x.size_nonneg (rounded_nonneg (10 ^ power))
  rw [scaleRounded?, if_pos few, if_pos nonneg]
  simp only [mul_tenPower unsigned nonneg, isInfinite_nearest_iff false nonnegProduct]

end Steps

/-- Scaling a number without a sign is scaling its size. -/
theorem scaleRounded?_eq_some_iff {x : Binary64} (unsigned : x.negative = false) {power : ℤ}
    {result : Binary64} :
    scaleRounded? x power = some result ↔ Scales x.size power result := by
  induction x, power using scaleRounded?.induct with
  | case1 x power few nonneg | case2 x power few nonneg =>
      rw [scaleRounded?_of_up unsigned few nonneg]
      split_ifs with overflows
      · refine iff_of_false not_false fun scales => ?_
        cases scales with
        | up _ _ bounded => exact bounded.not_ge overflows
        | down | zero | further => omega
      · rw [Option.some_inj]
        constructor
        · rintro rfl
          exact .up nonneg (by omega) (not_le.mp overflows)
        · intro scales
          cases scales with
          | up => rfl
          | down | zero | further => omega
  | case3 x power few neg =>
      rw [scaleRounded?, if_pos few, if_neg neg, div_tenPower unsigned, Option.some_inj,
        Int.ofNat_natAbs_of_nonpos (not_le.mp neg).le]
      constructor
      · rintro rfl
        exact .down (not_le.mp neg) (by omega)
      · intro scales
        cases scales with
        | down => rfl
        | up | zero | further => omega
  | case4 x power many zero =>
      have vanishes := isZero_iff.mp zero
      rw [scaleRounded?, if_neg many, if_pos zero, Option.some_inj]
      constructor
      · rintro rfl
        have scales : Scales x.size power (.zero false) := .zero vanishes (by omega)
        rwa [← eq_zero_of_isZero unsigned zero] at scales
      · intro scales
        cases scales with
        | zero => exact eq_zero_of_isZero unsigned zero
        | further positive => exact absurd vanishes positive.ne'
        | up | down => omega
  | case5 x power many nonzero nonneg =>
      rw [scaleRounded?, if_neg many, if_neg nonzero, if_pos nonneg]
      refine iff_of_false (Option.some_ne_none _).symm fun scales => ?_
      cases scales with
      | zero vanishes => exact nonzero (isZero_iff.mpr vanishes)
      | up | down | further => omega
  | case6 x power many nonzero neg ih =>
      have positive : 0 < x.size := size_pos_of_nonzero (Bool.eq_false_of_not_eq_true nonzero)
      have step := div_tenPower unsigned 308
      have unsignedStep : (x.div (tenPower 308)).negative = false := by
        rw [step, negative_nearest]
      have sizeStep : (x.div (tenPower 308)).size =
          rounded (x.size / rounded (10 ^ (308 : ℤ))) := by
        rw [step]
        rfl
      rw [scaleRounded?, if_neg many, if_neg nonzero, if_neg neg, ih unsignedStep, sizeStep]
      constructor
      · exact .further positive (by omega)
      · intro scales
        cases scales with
        | further _ _ rest => exact rest
        | zero vanishes => exact absurd vanishes positive.ne'
        | up | down => omega

/-- Scaling is refused when the product overflows, or the power of ten by itself does. -/
theorem scaleRounded?_eq_none_iff {x : Binary64} (unsigned : x.negative = false) {power : ℤ} :
    scaleRounded? x power = none ↔ 0 ≤ power ∧
      (308 < power ∧ 0 < x.size ∨ power ≤ 308 ∧ overflowSize ≤ x.size * rounded (10 ^ power)) := by
  induction x, power using scaleRounded?.induct with
  | case1 x power few nonneg | case2 x power few nonneg =>
      rw [scaleRounded?_of_up unsigned few nonneg]
      split_ifs with overflows
      · exact iff_of_true rfl ⟨nonneg, .inr ⟨by omega, overflows⟩⟩
      · refine iff_of_false not_false ?_
        rintro ⟨-, ⟨many, -⟩ | ⟨-, refused⟩⟩
        · omega
        · exact overflows refused
  | case3 x power few neg =>
      rw [scaleRounded?, if_pos few, if_neg neg]
      exact iff_of_false (Option.some_ne_none _) fun refused => neg refused.1
  | case4 x power many zero =>
      rw [scaleRounded?, if_neg many, if_pos zero]
      refine iff_of_false (Option.some_ne_none _) ?_
      rintro ⟨nonneg, ⟨-, positive⟩ | ⟨few, -⟩⟩
      · exact positive.ne' (isZero_iff.mp zero)
      · omega
  | case5 x power many nonzero nonneg =>
      rw [scaleRounded?, if_neg many, if_neg nonzero, if_pos nonneg]
      have positive := size_pos_of_nonzero (Bool.eq_false_of_not_eq_true nonzero)
      exact iff_of_true rfl ⟨nonneg, .inl ⟨by omega, positive⟩⟩
  | case6 x power many nonzero neg ih =>
      have unsignedStep : (x.div (tenPower 308)).negative = false := by
        rw [div_tenPower unsigned 308, negative_nearest]
      rw [scaleRounded?, if_neg many, if_neg nonzero, if_neg neg, ih unsignedStep]
      refine iff_of_false (fun refused => ?_) fun refused => neg refused.1
      have := refused.1
      omega

/-! ## Reading -/

/-- What a numeral is read as: its leading digits are rounded and scaled, and the result
takes the sign. -/
inductive ReadsAs (numeral : Numeral) : Binary64 → Prop where
  | signed {digits : ℕ} {power : ℤ} {size : Binary64}
      (leading : LeadingDigits numeral digits power) (scales : Scales (rounded digits) power size) :
      ReadsAs numeral (if numeral.negative then size.neg else size)

/-- The product that a numeral is to be read as overflows, or its power of ten by itself
does. -/
inductive Overflows (numeral : Numeral) : Prop where
  | product {digits : ℕ} {power : ℤ} (leading : LeadingDigits numeral digits power)
      (nonneg : 0 ≤ power) (few : power ≤ 308)
      (past : overflowSize ≤ rounded digits * rounded (10 ^ power))
  | power {digits : ℕ} {power : ℤ} (leading : LeadingDigits numeral digits power)
      (positive : 0 < digits) (many : 308 < power)

theorem ofRatio_eq_nearest_natCast (digits : ℕ) :
    ofRatio false digits 1 = nearest false digits := by
  rw [ofRatio_eq_nearest _ _ Nat.one_pos, Nat.cast_one, div_one]

theorem rounded_natCast_pos_iff {digits : ℕ} : 0 < rounded digits ↔ 0 < digits := by
  constructor
  · intro positive
    by_contra vanishes
    have none : rounded ((0 : ℕ) : ℚ) = 0 := by
      rw [rounded, Nat.cast_zero, nearest, if_pos rfl]
      exact isZero_iff.mp (by decide)
    rw [Nat.eq_zero_of_not_pos vanishes, none] at positive
    exact lt_irrefl _ positive
  · intro positive
    exact rounded_pos (normal_of_one_le (by exact_mod_cast positive))

/-- Numbers are read in this way. -/
theorem readNumber?_eq_some_iff {numeral : Numeral} {x : Binary64} :
    readNumber? numeral = some x ↔ ReadsAs numeral x := by
  have unsigned (digits : ℕ) := negative_nearest false digits
  constructor
  · intro read
    obtain ⟨digits, power, leading⟩ := exists_leadingDigits numeral
    rw [readNumber?_of_leadingDigits leading, Option.map_eq_some_iff,
      ofRatio_eq_nearest_natCast] at read
    obtain ⟨size, scaled, rfl⟩ := read
    exact .signed leading ((scaleRounded?_eq_some_iff (unsigned digits)).mp scaled)
  · rintro ⟨leading, scales⟩
    rename_i digits power size
    have scaled := (scaleRounded?_eq_some_iff (unsigned digits)).mpr scales
    rw [readNumber?_of_leadingDigits leading, ofRatio_eq_nearest_natCast, scaled, Option.map_some]

theorem readNumber?_eq_none_iff {numeral : Numeral} :
    readNumber? numeral = none ↔ Overflows numeral := by
  have refused {digits : ℕ} {power : ℤ} (leading : LeadingDigits numeral digits power) :
      readNumber? numeral = none ↔ 0 ≤ power ∧ (308 < power ∧ 0 < digits ∨
        power ≤ 308 ∧ overflowSize ≤ rounded digits * rounded (10 ^ power)) := by
    rw [readNumber?_of_leadingDigits leading, Option.map_eq_none_iff, ofRatio_eq_nearest_natCast,
      scaleRounded?_eq_none_iff (negative_nearest false digits), ← rounded_natCast_pos_iff]
    rfl
  constructor
  · intro none
    obtain ⟨digits, power, leading⟩ := exists_leadingDigits numeral
    obtain ⟨nonneg, ⟨many, positive⟩ | ⟨few, past⟩⟩ := (refused leading).mp none
    · exact .power leading positive many
    · exact .product leading nonneg few past
  · rintro (⟨leading, nonneg, few, past⟩ | ⟨leading, positive, many⟩)
    · exact (refused leading).mpr ⟨nonneg, .inr ⟨few, past⟩⟩
    · exact (refused leading).mpr ⟨by omega, .inl ⟨many, positive⟩⟩

/-- A numeral is read as a number unless it overflows. -/
theorem exists_readsAs_iff {numeral : Numeral} : (∃ x, ReadsAs numeral x) ↔ ¬Overflows numeral := by
  rw [← readNumber?_eq_none_iff, ← ne_eq, ← Option.isSome_iff_ne_none, Option.isSome_iff_exists]
  simp only [readNumber?_eq_some_iff]

end IdResolution.Json
