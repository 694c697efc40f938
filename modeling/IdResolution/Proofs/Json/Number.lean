import IdResolution.Json.Number
import IdResolution.Proofs.Binary64.Layout

/-!
# Reading numbers in limited precision

A JSON number is read from its leading digits.  It is read exactly when all its digits fit a
significand and its power of ten is small: both are then finite numbers themselves, and a
single rounding is left.
-/

namespace IdResolution.Json

open Binary64

/-! ## Gathering digits -/

/-- Of the digits that follow others, those are taken that fit 64 bits with them: either all
are taken, or one more would not fit. -/
structure Leading (before taken dropped : List Digit) : Prop where
  fits : Digit.value (before ++ taken) < UInt64.size
  full : ∀ next ∈ dropped.head?, UInt64.size ≤ Digit.value (before ++ taken ++ [next])

namespace Leading

variable {before taken dropped : List Digit} {first : Digit}

theorem fits_first (leading : Leading before (first :: taken) dropped) :
    Digit.value before * 10 + first.val < UInt64.size := by
  have shorter := Digit.value_le_value_append (before ++ [first]) taken
  rw [← List.append_cons, Digit.value_concat] at shorter
  exact shorter.trans_lt leading.fits

theorem tail (leading : Leading before (first :: taken) dropped) :
    Leading (before ++ [first]) taken dropped := by
  obtain ⟨fits, full⟩ := leading
  rw [List.append_cons] at fits full
  exact ⟨fits, full⟩

theorem not_fits (leading : Leading before [] (first :: dropped)) :
    ¬Digit.value before * 10 + first.val < UInt64.size := by
  have full := leading.full first rfl
  rwa [List.append_nil, Digit.value_concat, ← not_lt] at full

/-- The leading digits of a row are determined, and every row has them. -/
theorem exists_split (digits : List Digit) (fits : Digit.value before < UInt64.size) :
    ∃ taken dropped, digits = taken ++ dropped ∧ Leading before taken dropped := by
  induction digits generalizing before with
  | nil => exact ⟨[], [], rfl, by rwa [List.append_nil], by simp⟩
  | cons first rest ih =>
      by_cases next : Digit.value (before ++ [first]) < UInt64.size
      · obtain ⟨taken, dropped, rfl, fits, full⟩ := ih next
        rw [← List.append_cons] at fits full
        exact ⟨first :: taken, dropped, rfl, fits, full⟩
      · refine ⟨[], first :: rest, rfl, by rwa [List.append_nil], ?_⟩
        rintro _ ⟨⟩
        rw [List.append_nil]
        exact not_lt.mp next

theorem gatherWhole (leading : Leading before taken dropped) :
    Json.gatherWhole (Digit.value before) (taken ++ dropped) =
      (Digit.value (before ++ taken), dropped.length) := by
  induction taken generalizing before with
  | nil =>
      rw [List.append_nil, List.nil_append]
      cases dropped with
      | nil => rfl
      | cons first rest => simp only [Json.gatherWhole, if_neg leading.not_fits, List.length_cons]
  | cons first rest ih =>
      rw [List.cons_append, Json.gatherWhole]
      simp only [if_pos leading.fits_first]
      rw [← Digit.value_concat, ih leading.tail, ← List.append_cons]

theorem gatherFraction (leading : Leading before taken dropped) :
    Json.gatherFraction (Digit.value before) (taken ++ dropped) =
      (Digit.value (before ++ taken), taken.length) := by
  induction taken generalizing before with
  | nil =>
      rw [List.append_nil, List.nil_append]
      cases dropped with
      | nil => rfl
      | cons first rest => simp only [Json.gatherFraction, if_neg leading.not_fits, List.length_nil]
  | cons first rest ih =>
      rw [List.cons_append, Json.gatherFraction]
      simp only [if_pos leading.fits_first]
      rw [← Digit.value_concat, ih leading.tail, ← List.append_cons, List.length_cons]

end Leading

/-- The leading digits of a numeral as one whole number, and the power of ten that belongs to
it.  Digits of the fraction may still fit after a digit of the whole part did not. -/
inductive LeadingDigits (numeral : Numeral) : ℕ → ℤ → Prop where
  | split {whole wholeRest fraction fractionRest : List Digit}
      (wholeSplit : numeral.whole = whole ++ wholeRest) (leadingWhole : Leading [] whole wholeRest)
      (fractionSplit : numeral.fraction = fraction ++ fractionRest)
      (leadingFraction : Leading whole fraction fractionRest) :
      LeadingDigits numeral (Digit.value (whole ++ fraction))
        (numeral.exponent + wholeRest.length - fraction.length)

theorem exists_leadingDigits (numeral : Numeral) :
    ∃ digits power, LeadingDigits numeral digits power := by
  obtain ⟨whole, wholeRest, wholeSplit, leadingWhole⟩ :=
    Leading.exists_split numeral.whole (by decide : Digit.value [] < UInt64.size)
  obtain ⟨fraction, fractionRest, fractionSplit, leadingFraction⟩ :=
    Leading.exists_split numeral.fraction leadingWhole.fits
  exact ⟨_, _, .split wholeSplit leadingWhole fractionSplit leadingFraction⟩

/-- A short numeral has no other digits than the leading ones. -/
theorem leadingDigits_of_fits {numeral : Numeral} (fits : numeral.significand < UInt64.size) :
    LeadingDigits numeral numeral.significand numeral.scale := by
  have whole : Leading [] numeral.whole [] :=
    ⟨(Digit.value_le_value_append _ _).trans_lt fits, by simp⟩
  have fraction : Leading numeral.whole numeral.fraction [] := ⟨fits, by simp⟩
  have split := LeadingDigits.split (List.append_nil _).symm whole (List.append_nil _).symm fraction
  rw [List.length_nil, Nat.cast_zero, add_zero] at split
  exact split

/-- A numeral is read by scaling its leading digits. -/
theorem readNumber?_of_leadingDigits {numeral : Numeral} {digits : ℕ} {power : ℤ}
    (leading : LeadingDigits numeral digits power) :
    readNumber? numeral = (scaleRounded? (ofRatio false digits 1) power).map fun size =>
      if numeral.negative then size.neg else size := by
  obtain ⟨wholeSplit, leadingWhole, fractionSplit, leadingFraction⟩ := leading
  rename_i whole wholeRest fraction fractionRest
  have gatheredWhole : gatherWhole 0 (whole ++ wholeRest) =
      (Digit.value whole, wholeRest.length) := leadingWhole.gatherWhole
  have gatheredFraction := leadingFraction.gatherFraction
  simp only [readNumber?, wholeSplit, fractionSplit, gatheredWhole, gatheredFraction]

/-! ## Small powers of ten -/

/-- A whole number of at most fifty-three bits is exact. -/
theorem size_ofRatio_one {digits : ℕ} (short : digits < 2 ^ 53) :
    (ofRatio false digits 1).negative = false ∧ (ofRatio false digits 1).size = digits := by
  have exact := size_nearest false short (Nat.zero_le 900)
  rw [pow_zero, mul_one] at exact
  rw [ofRatio_eq_nearest _ _ Nat.one_pos, Nat.cast_one, div_one]
  exact exact.2

/-- The powers of ten up to the twenty-second are exact. -/
theorem size_tenPower {power : ℕ} (small : power ≤ 22) :
    (tenPower power).negative = false ∧ (tenPower power).size = 10 ^ power := by
  have short : 5 ^ power < 2 ^ 53 :=
    lt_of_le_of_lt (Nat.pow_le_pow_right (by decide) small) (by decide)
  have exact := size_nearest false short (small.trans (by decide : 22 ≤ 900))
  have split : ((Nat.pow 10 power : ℕ) : ℚ) = (5 ^ power : ℕ) * 2 ^ power := by
    rw [Nat.cast_pow, ← mul_pow]
    norm_num [Nat.pow_eq]
  rw [tenPower, ofRatio_eq_nearest _ _ Nat.one_pos, Nat.cast_one, div_one, split]
  refine ⟨exact.2.1, exact.2.2.trans ?_⟩
  rw [← split]
  norm_num [Nat.pow_eq]

/-- A short whole number is multiplied by a small power of ten with a single rounding. -/
theorem scaleRounded?_of_short {digits : ℕ} (short : digits < 2 ^ 53) {power : ℤ}
    (small : power.natAbs ≤ 22) :
    scaleRounded? (ofRatio false digits 1) power = some (nearest false (digits * 10 ^ power)) := by
  obtain ⟨sign, size⟩ := size_ofRatio_one short
  obtain ⟨tenSign, tenSize⟩ := size_tenPower small
  rw [scaleRounded?, if_pos (by omega)]
  split_ifs with nonneg
  · obtain ⟨count, rfl⟩ := Int.eq_ofNat_of_zero_le nonneg
    have product : (ofRatio false digits 1).mul (tenPower (count : ℤ).natAbs) =
        nearest false (digits * 10 ^ (count : ℤ)) := by
      rw [mul_eq_nearest, sign, tenSign, size, tenSize, Int.natAbs_natCast, zpow_natCast]
      rfl
    have bounded : (digits : ℚ) * 10 ^ (count : ℤ) < 2 ^ (1023 : ℤ) := by
      have few : digits * 10 ^ count < 2 ^ 53 * 10 ^ 22 :=
        Nat.mul_lt_mul_of_lt_of_le short (Nat.pow_le_pow_right (by decide) small) (by decide)
      calc (digits : ℚ) * 10 ^ (count : ℤ) < 2 ^ 53 * 10 ^ 22 := by exact_mod_cast few
        _ ≤ 2 ^ (127 : ℤ) := by norm_num
        _ ≤ 2 ^ (1023 : ℤ) := zpow_le_zpow_right₀ one_le_two (by decide)
    have finite : (nearest false (digits * 10 ^ (count : ℤ))).isFinite = true :=
      isFinite_nearest false (mul_nonneg (Nat.cast_nonneg _) (ten_zpow_pos _).le) bounded
    simp only [product, isInfinite_of_finite finite, Bool.false_eq_true, if_false]
  · obtain ⟨count, same⟩ := Int.eq_ofNat_of_zero_le (by omega : 0 ≤ -power)
    obtain rfl : power = -count := by omega
    rw [div_eq_nearest _ (by rw [tenSize]; positivity), sign, tenSign, size, tenSize,
      Int.natAbs_neg, Int.natAbs_natCast, zpow_neg, zpow_natCast, ← div_eq_mul_inv]
    rfl

/-- A numeral of at most fifty-three bits with a small power of ten is read as the nearest
number. -/
theorem readNumber?_of_short {numeral : Numeral} (short : numeral.significand < 2 ^ 53)
    (small : numeral.scale.natAbs ≤ 22) : readNumber? numeral = some (ofNumeral numeral) := by
  have fits : numeral.significand < UInt64.size := short.trans (by decide)
  rw [readNumber?_of_leadingDigits (leadingDigits_of_fits fits), scaleRounded?_of_short short small,
    Option.map_some, ofNumeral, ofDecimal_eq_nearest]
  cases numeral.negative with
  | true => rw [if_pos rfl, neg_nearest]
  | false => rw [if_neg Bool.false_ne_true]

end IdResolution.Json
