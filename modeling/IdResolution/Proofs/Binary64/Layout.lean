import IdResolution.Binary64.Style
import IdResolution.Proofs.Binary64.Shortest

/-!
# The layout of numbers

Laying a decimal out keeps its value and pads nothing.  A finite number is therefore
written as a numeral that names it: the number nearest to the numeral is the number.
-/

namespace IdResolution

/-- A numeral has digits before its point, and a zero comes first only when it is the
only one of them. -/
structure Numeral.Strict (numeral : Numeral) : Prop where
  whole_ne_nil : numeral.whole ≠ []
  unpadded {rest : List Digit} : numeral.whole = .zero :: rest → rest = []

namespace Binary64

theorem value_replicate_zero (count : ℕ) : Digit.value (List.replicate count .zero) = 0 := by
  induction count with
  | zero => rfl
  | succ count ih =>
      rw [List.replicate_succ, Digit.value_cons, ih, Fin.val_zero, Nat.zero_mul]

namespace Style

variable (style : Style) (negative : Bool) {decimal : Decimal}

/-- A normal decimal is laid out as a strict numeral. -/
theorem strict_layout (normal : decimal.Normal) : (style.layout negative decimal).Strict := by
  obtain ⟨first, more, starts⟩ := List.exists_cons_of_ne_nil normal.digits_ne_nil
  have zero_of_first (zero : first = .zero) : more = [] ∧ decimal.exponent = 0 :=
    normal.zero_of_zero (starts.trans (by rw [zero]))
  simp only [layout, starts]
  split_ifs with positional whole pointed
  · refine ⟨by simp, ?_⟩
    intro rest same
    obtain ⟨zero, rfl⟩ := List.cons.inj same
    rw [(zero_of_first zero).1, (zero_of_first zero).2]
    rfl
  · have positive : ((first :: more).length + decimal.exponent).toNat ≠ 0 := by omega
    obtain ⟨count, sum⟩ := Nat.exists_eq_succ_of_ne_zero positive
    rw [sum, List.take_succ_cons]
    refine ⟨by simp, ?_⟩
    intro rest same
    have least := (zero_of_first (List.cons.inj same).1).2
    omega
  · exact ⟨List.cons_ne_nil _ _, fun same => (List.cons.inj same).2.symm⟩
  · refine ⟨by simp, ?_⟩
    intro rest same
    exact (List.cons.inj same).2.symm

/-- A decimal keeps its value when it is laid out. -/
theorem value_layout (zeros : Digit.value style.wholeFraction = 0)
    (nonempty : decimal.digits ≠ []) :
    ((style.layout negative decimal).significand : ℚ) *
        10 ^ (style.layout negative decimal).scale =
      Digit.value decimal.digits * 10 ^ decimal.exponent := by
  have length : 0 < decimal.digits.length := List.length_pos_iff.mpr nonempty
  unfold layout
  simp only
  split_ifs with positional whole pointed
  · obtain ⟨count, same⟩ := Int.eq_ofNat_of_zero_le whole
    simp only [Numeral.significand, Numeral.scale, Digit.value_append, value_replicate_zero, zeros,
      same, Int.toNat_natCast, List.length_replicate, Nat.add_zero, zero_sub]
    push_cast
    rw [zpow_neg, zpow_natCast, zpow_natCast]
    field_simp
  · simp only [Numeral.significand, Numeral.scale, List.take_append_drop, List.length_drop]
    congr 2
    omega
  · simp only [Numeral.significand, Numeral.scale, List.length_append, List.length_replicate,
      List.singleton_append, Digit.value_cons, Digit.value_append, value_replicate_zero,
      Fin.val_zero, Nat.zero_mul, Nat.zero_add]
    congr 2
    omega
  · simp only [Numeral.significand, Numeral.scale, List.take_append_drop, List.length_drop]
    congr 2
    omega

variable {style}

/-- A finite number is written as a strict numeral. -/
theorem strict_numeral {x : Binary64} (finite : x.isFinite = true) : (style.numeral x).Strict :=
  strict_layout style _ (normal_shortest _ finite)

/-- The number nearest to the numeral that is written for a finite number is the number. -/
theorem ofNumeral_numeral (zeros : Digit.value style.wholeFraction = 0) {x : Binary64}
    (finite : x.isFinite = true) : ofNumeral (style.numeral x) = x := by
  have sign : (style.numeral x).negative = x.negative := by
    simp only [numeral, layout]
    split_ifs <;> rfl
  have value := value_layout style x.negative zeros (normal_shortest style.tie finite).digits_ne_nil
  rw [ofNumeral, sign, ofDecimal_eq_nearest, numeral, value, ← ofDecimal_eq_nearest]
  exact ofDecimal_shortest style.tie finite

end Style

end Binary64

end IdResolution
