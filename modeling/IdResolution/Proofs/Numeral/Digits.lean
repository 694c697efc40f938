import IdResolution.Binary64.Style
import Mathlib.Data.List.Induction
import Mathlib.Tactic.Ring

/-!
# Rows of digits

The digits of a number write that number, and they start with a zero for no number.  A
row of digits that is written out is read back up to the first character that is no
digit.
-/

namespace IdResolution

namespace Digit

/-! ## Numbers and their digits -/

theorem value_singleton (digit : Digit) : value [digit] = digit.val := by
  simp [value]

theorem value_append (digits others : List Digit) :
    value (digits ++ others) = value digits * 10 ^ others.length + value others := by
  have general (start : Nat) : others.foldl (fun total digit => total * 10 + digit.val) start =
      start * 10 ^ others.length + value others := by
    induction others using List.reverseRecOn with
    | nil => simp [value]
    | append_singleton others last ih =>
        simp only [value, List.foldl_append, List.foldl_cons, List.foldl_nil,
          List.length_append, List.length_singleton, pow_succ] at ih ⊢
        rw [ih, Nat.add_mul, Nat.mul_assoc, Nat.add_assoc]
  rw [value, List.foldl_append, general]
  rfl

theorem value_cons (first : Digit) (rest : List Digit) :
    value (first :: rest) = first.val * 10 ^ rest.length + value rest := by
  rw [← List.singleton_append, value_append, value_singleton]

theorem value_concat (digits : List Digit) (last : Digit) :
    value (digits ++ [last]) = value digits * 10 + last.val := by
  rw [value_append, value_singleton, List.length_singleton, pow_one]

theorem value_le_value_append (digits others : List Digit) :
    value digits ≤ value (digits ++ others) := by
  rw [value_append]
  exact (Nat.le_mul_of_pos_right _ (Nat.pow_pos (by decide))).trans (Nat.le_add_right _ _)

theorem value_lt (digits : List Digit) : value digits < 10 ^ digits.length := by
  induction digits using List.reverseRecOn with
  | nil => decide
  | append_singleton digits last ih =>
      have := last.isLt
      rw [value_concat, List.length_append, List.length_singleton, pow_succ]
      omega

theorem value_lastDigits (count number : Nat) :
    value (lastDigits count number) = number % 10 ^ count := by
  induction count generalizing number with
  | zero => rw [pow_zero, Nat.mod_one]; rfl
  | succ count ih =>
      rw [lastDigits, value_concat, ih, pow_succ, Nat.mul_comm (10 ^ count), Nat.mod_mul,
        Nat.mul_comm, Nat.add_comm]

theorem value_dropWhile_zero (digits : List Digit) :
    value (digits.dropWhile (· = zero)) = value digits := by
  induction digits with
  | nil => rfl
  | cons first rest ih =>
      by_cases leading : first = zero
      · rw [List.dropWhile_cons_of_pos (by simpa using leading), ih, value_cons, leading,
          Fin.val_zero, Nat.zero_mul, Nat.zero_add]
      · rw [List.dropWhile_cons_of_neg (by simpa using leading)]

/-- The digits of a number write it. -/
@[simp] theorem value_ofNat (number : Nat) : value (ofNat number) = number := by
  rw [ofNat, value_dropWhile_zero, value_lastDigits]
  apply Nat.mod_eq_of_lt
  exact Nat.lt_of_lt_of_le Nat.lt_log2_self (Nat.pow_le_pow_left (by decide) _)

theorem ofNat_ne_nil {number : Nat} (positive : number ≠ 0) : ofNat number ≠ [] := by
  intro none
  have written := value_ofNat number
  rw [none] at written
  exact positive written.symm

/-- The digits of a number do not start with a zero. -/
theorem head?_ofNat {number : Nat} {first : Digit} (starts : (ofNat number).head? = some first) :
    first ≠ zero := by
  have nonzero := List.head?_dropWhile_not (· = zero) (lastDigits (number.log2 + 1) number)
  rw [ofNat] at starts
  rw [starts] at nonzero
  simpa using nonzero

/-! ## Digits in text -/

/-- A text does not go on with a digit. -/
def Ended (text : List Char) : Prop :=
  ∀ c ∈ text.head?, ofChar? c = none

theorem scan_of_ended {text : List Char} (ended : Ended text) : scan text = ([], text) := by
  cases text with
  | nil => rfl
  | cons c rest => simp [scan, ended c rfl]

/-- The character of a digit is the only one that writes it. -/
theorem toChar_of_ofChar? {c : Char} {digit : Digit} (read : ofChar? c = some digit) :
    digit.toChar = c := by
  unfold ofChar? at read
  split at read
  · rename_i inRange
    obtain rfl := Option.some.inj read
    rw [toChar, Nat.add_sub_cancel' inRange.1, Char.ofNat_toNat]
  · contradiction

/-- Digits that are written out are read back. -/
theorem scan_digitsText (digits : List Digit) {rest : List Char} (ended : Ended rest) :
    scan (Numeral.digitsText digits ++ rest) = (digits, rest) := by
  induction digits with
  | nil => exact scan_of_ended ended
  | cons first more ih =>
      rw [Numeral.digitsText, List.map_cons, List.cons_append, scan, ofChar?_toChar]
      simp only
      rw [← Numeral.digitsText, ih]

/-- What is scanned are the digits that a text starts with, and all of them. -/
theorem scan_eq_iff {text rest : List Char} {digits : List Digit} :
    scan text = (digits, rest) ↔ text = Numeral.digitsText digits ++ rest ∧ Ended rest := by
  constructor
  · intro scanned
    induction text generalizing digits with
    | nil =>
        obtain ⟨rfl, rfl⟩ := Prod.mk.inj scanned
        exact ⟨rfl, by simp [Ended]⟩
    | cons c more ih =>
        unfold scan at scanned
        split at scanned
        · rename_i digit read
          obtain ⟨rfl, rfl⟩ := Prod.mk.inj scanned
          obtain ⟨split, ended⟩ := ih rfl
          refine ⟨?_, ended⟩
          rw [Numeral.digitsText, List.map_cons, toChar_of_ofChar? read, List.cons_append,
            ← Numeral.digitsText, ← split]
        · rename_i other
          obtain ⟨rfl, rfl⟩ := Prod.mk.inj scanned
          refine ⟨rfl, ?_⟩
          intro first starts
          obtain rfl := Option.some.inj starts
          exact other
  · rintro ⟨rfl, ended⟩
    exact scan_digitsText digits ended

end Digit

end IdResolution
