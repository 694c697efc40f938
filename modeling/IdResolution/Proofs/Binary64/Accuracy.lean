import IdResolution.Proofs.Binary64.Decimal

/-!
# The accuracy of rounding

A size is rounded to a finite number up to a bound half a last place above the largest of
them, and past this bound to an infinity.  Below it, a size that is not too small is kept but
for a part in `2 ^ 53`.
-/

namespace IdResolution.Binary64

/-! ## Overflow -/

theorem isFinite_ofMagnitude_iff (negative : Bool) (magnitude : ℕ) :
    (ofMagnitude negative magnitude).isFinite = true ↔ magnitude < infiniteMagnitude := by
  rcases le_or_gt infiniteMagnitude magnitude with infinite | small
  · rw [ofMagnitude_of_infinite negative infinite, isFinite_iff,
      magnitude_ofMagnitude negative le_rfl]
    omega
  · rw [isFinite_iff, magnitude_ofMagnitude negative small.le]

/-- Half a last place above the largest finite number. -/
def overflowSize : ℚ :=
  2 ^ (1024 : ℤ) - 2 ^ (970 : ℤ)

theorem overflowSize_eq : overflowSize = (2 * fractionCount - 1 / 2) * 2 ^ (971 : ℤ) := by
  have top : (2 : ℚ) ^ (1024 : ℤ) = 2 ^ (53 : ℕ) * 2 ^ (971 : ℤ) := by
    rw [← zpow_natCast, ← zpow_add₀ two_ne_zero]
    rfl
  have half : (2 : ℚ) ^ (971 : ℤ) = 2 * 2 ^ (970 : ℤ) := by
    rw [← zpow_one_add₀ two_ne_zero]
    rfl
  rw [overflowSize, top, sub_mul, cast_fractionCount, half]
  ring

theorem overflowSize_pos : 0 < overflowSize :=
  sub_pos.mpr (zpow_lt_zpow_right₀ one_lt_two (by decide))

theorem lt_overflowSize {size : ℚ} (small : size < 2 ^ (1023 : ℤ)) : size < overflowSize := by
  have half : (2 : ℚ) ^ (1024 : ℤ) = 2 * 2 ^ (1023 : ℤ) := by
    rw [← zpow_one_add₀ two_ne_zero]
    rfl
  have place : (2 : ℚ) ^ (970 : ℤ) ≤ 2 ^ (1023 : ℤ) :=
    zpow_le_zpow_right₀ one_le_two (by decide)
  calc size < 2 ^ (1023 : ℤ) := small
    _ = 2 * 2 ^ (1023 : ℤ) - 2 ^ (1023 : ℤ) := by rw [two_mul, add_sub_cancel_right]
    _ ≤ 2 * 2 ^ (1023 : ℤ) - 2 ^ (970 : ℤ) := sub_le_sub_left place _
    _ = overflowSize := by rw [overflowSize, half]

/-- A size is rounded to a finite number when it is less than half a last place above the
largest of them. -/
theorem isFinite_nearest_iff (negative : Bool) {size : ℚ} (nonneg : 0 ≤ size) :
    (nearest negative size).isFinite = true ↔ size < overflowSize := by
  rcases lt_or_ge size (2 ^ (1023 : ℤ)) with small | large
  · exact iff_of_true (isFinite_nearest negative nonneg small) (lt_overflowSize small)
  · have positive : 0 < size := (two_zpow_pos 1023).trans_le large
    rcases lt_or_ge size (2 ^ (1024 : ℤ)) with below | huge
    · have log : Int.log 2 size = 1023 := by
        apply log_eq_of_bounds one_lt_two <;> rw [Nat.cast_ofNat]
        · exact large
        · exact below
      have place : keptPlace size = 971 := by
        rw [keptPlace, log]
        rfl
      rw [nearest, if_neg positive.ne', isFinite_ofMagnitude_iff, place, overflowSize_eq,
        ← div_lt_iff₀ (two_zpow_pos 971), ← halfEven_lt_two_mul_iff (by decide)]
      simp only [infiniteMagnitude, fractionCount]
      omega
    · rw [nearest_of_huge negative huge, isFinite_ofMagnitude_iff]
      have past : overflowSize ≤ size := (sub_le_self _ (two_zpow_pos 970).le).trans huge
      exact iff_of_false (lt_irrefl _) past.not_gt

/-- A size past the bound is rounded to an infinity. -/
theorem nearest_of_overflow (negative : Bool) {size : ℚ} (past : overflowSize ≤ size) :
    nearest negative size = ofMagnitude negative infiniteMagnitude := by
  have positive : 0 < size := overflowSize_pos.trans_le past
  have infinite := (isFinite_nearest_iff negative positive.le).not.mpr past.not_gt
  rw [nearest, if_neg positive.ne', isFinite_ofMagnitude_iff, not_lt] at infinite
  rw [nearest, if_neg positive.ne', ofMagnitude_of_infinite negative infinite]

theorem isInfinite_nearest_iff (negative : Bool) {size : ℚ} (nonneg : 0 ≤ size) :
    (nearest negative size).isInfinite = true ↔ overflowSize ≤ size := by
  rcases lt_or_ge size overflowSize with bounded | past
  · have finite := (isFinite_nearest_iff negative nonneg).mpr bounded
    rw [isInfinite_of_finite finite]
    exact iff_of_false Bool.false_ne_true bounded.not_ge
  · rw [nearest_of_overflow negative past]
    exact iff_of_true (by cases negative <;> rfl) past

theorem negative_nearest (negative : Bool) (size : ℚ) :
    (nearest negative size).negative = negative := by
  have kept (magnitude : ℕ) : (ofMagnitude negative magnitude).negative = negative := by
    rcases le_total magnitude infiniteMagnitude with small | infinite
    · exact negative_ofMagnitude negative small
    · rw [ofMagnitude_of_infinite negative infinite, negative_ofMagnitude negative le_rfl]
  unfold nearest zero
  split_ifs <;> exact kept _

/-! ## Relative error -/

/-- The size of the number that a size is rounded to. -/
def rounded (size : ℚ) : ℚ :=
  (nearest false size).size

theorem rounded_nonneg (size : ℚ) : 0 ≤ rounded size :=
  size_nonneg _

theorem size_nearest_eq_rounded (negative : Bool) (size : ℚ) :
    (nearest negative size).size = rounded size := by
  have kept (magnitude : ℕ) : (ofMagnitude negative magnitude).size =
      (ofMagnitude false magnitude).size := by
    have bounded {magnitude : ℕ} (small : magnitude ≤ infiniteMagnitude) :
        (ofMagnitude negative magnitude).size = (ofMagnitude false magnitude).size := by
      simp only [Binary64.size, significand, exponent, exponentField_ofMagnitude _ small,
        fractionField_ofMagnitude _ small]
    rcases le_total magnitude infiniteMagnitude with small | infinite
    · exact bounded small
    · rw [ofMagnitude_of_infinite negative infinite, ofMagnitude_of_infinite false infinite]
      exact bounded le_rfl
  unfold rounded nearest zero
  split_ifs <;> exact kept _

/-- A significand may also be rounded up to the least one at the next place. -/
theorem size_ofMagnitude {exponent : ℤ} {significand : ℕ} (least : -1074 ≤ exponent)
    (full : fractionCount ≤ significand) (atMost : significand ≤ 2 * fractionCount)
    (finite : magnitudeOf exponent significand < infiniteMagnitude) :
    (ofMagnitude false (magnitudeOf exponent significand)).size = significand * 2 ^ exponent := by
  rcases atMost.lt_or_eq with less | rfl
  · have canonical : Canonical exponent significand := by
      refine ⟨least, ?_, less, .inr full⟩
      simp only [magnitudeOf, infiniteMagnitude, fractionCount] at finite full
      omega
    obtain ⟨-, -, place, count⟩ := canonical.decoded false
    rw [size, place, count]
  · have canonical : Canonical (exponent + 1) fractionCount := by
      refine ⟨by omega, ?_, by decide, .inr le_rfl⟩
      simp only [magnitudeOf, infiniteMagnitude, fractionCount] at finite
      omega
    have carried := magnitudeOf_carry (by omega : -1074 < exponent + 1)
    obtain ⟨-, -, place, count⟩ := canonical.decoded false
    rw [add_sub_cancel_right] at carried
    rw [carried, size, place, count, zpow_add_one₀ two_ne_zero, Nat.cast_mul, Nat.cast_ofNat]
    ring

section Normal

variable {size : ℚ} (normal : 2 ^ (-1022 : ℤ) ≤ size)

include normal

/-- Of a size that is not too small, fifty-three binary places are kept. -/
theorem scaled_bounds :
    2 ^ 52 ≤ size / 2 ^ keptPlace size ∧ size / 2 ^ keptPlace size < 2 ^ 53 := by
  have positive : 0 < size := (two_zpow_pos _).trans_le normal
  have log : -1022 ≤ Int.log 2 size :=
    (Int.zpow_le_iff_le_log one_lt_two positive).mp (by rwa [Nat.cast_ofNat])
  have place : Int.log 2 size = keptPlace size + 52 := by
    rw [keptPlace]
    omega
  have below : (2 : ℚ) ^ Int.log 2 size ≤ size := by
    exact_mod_cast Int.zpow_log_le_self one_lt_two positive
  have above : size < (2 : ℚ) ^ (Int.log 2 size + 1) := by
    exact_mod_cast Int.lt_zpow_succ_log_self one_lt_two size
  rw [place, zpow_add₀ two_ne_zero, mul_comm] at below
  rw [place, add_assoc, zpow_add₀ two_ne_zero, mul_comm] at above
  rw [le_div_iff₀ (two_zpow_pos _), div_lt_iff₀ (two_zpow_pos _)]
  exact ⟨by exact_mod_cast below, by exact_mod_cast above⟩

theorem rounded_of_normal (bounded : size < overflowSize) :
    rounded size = halfEven (size / 2 ^ keptPlace size) * 2 ^ keptPlace size := by
  have positive : 0 < size := (two_zpow_pos _).trans_le normal
  obtain ⟨lower, upper⟩ := scaled_bounds normal
  have full : fractionCount ≤ halfEven (size / 2 ^ keptPlace size) :=
    le_halfEven (by rwa [cast_fractionCount])
  have atMost : halfEven (size / 2 ^ keptPlace size) ≤ 2 * fractionCount := by
    apply halfEven_le (by linarith)
    rw [Nat.cast_mul, cast_fractionCount]
    linarith
  have finite := (isFinite_nearest_iff false positive.le).mpr bounded
  rw [nearest, if_neg positive.ne', isFinite_ofMagnitude_iff] at finite
  rw [rounded, nearest, if_neg positive.ne']
  exact size_ofMagnitude (le_max_right _ _) full atMost finite

theorem rounded_pos : 0 < rounded size := by
  rcases lt_or_ge size overflowSize with bounded | past
  · have full : 0 < halfEven (size / 2 ^ keptPlace size) := by
      apply le_halfEven
      rw [Nat.cast_one]
      linarith [(scaled_bounds normal).1]
    rw [rounded_of_normal normal bounded]
    have := two_zpow_pos (keptPlace size)
    positivity
  · rw [rounded, nearest_of_overflow false past]
    exact size_pos_of_nonzero (by decide)

/-- A size that is not too small is kept but for a part in `2 ^ 53`. -/
theorem abs_rounded_sub_le (bounded : size < overflowSize) :
    |rounded size - size| ≤ size / 2 ^ 53 := by
  have unit := two_zpow_pos (keptPlace size)
  have same := rounded_of_normal normal bounded
  have full := (scaled_bounds normal).1
  obtain ⟨scaled, split⟩ : ∃ scaled, size / 2 ^ keptPlace size = scaled := ⟨_, rfl⟩
  have size_eq : size = scaled * 2 ^ keptPlace size := by
    rw [← split, div_mul_cancel₀ _ unit.ne']
  rw [split] at same full
  have near := abs_sub_halfEven_le (by linarith : 0 ≤ scaled)
  calc |rounded size - size| = |scaled - halfEven scaled| * 2 ^ keptPlace size := by
        rw [same, ← abs_of_pos unit, ← abs_mul, abs_of_pos unit, abs_sub_comm, sub_mul, ← size_eq]
    _ ≤ scaled / 2 ^ 53 * 2 ^ keptPlace size := by
        gcongr
        linarith
    _ = size / 2 ^ 53 := by rw [div_mul_eq_mul_div, ← size_eq]

end Normal

end IdResolution.Binary64
