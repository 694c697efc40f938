import IdResolution.Config.Override
import IdResolution.Proofs.Json.Word

/-!
# Numbers of 64 bits

A setting that holds a number writes it in digits, of which there is at least one, behind a
plus sign if there is one.  The reader accepts these texts, as long as the number has no more
than 64 bits, and no others.  A text that it refuses is too large if the digits it starts
with already are, whatever follows them, and otherwise has a character out of place.
-/

namespace IdResolution.Config

open Json (SignText)
open Numeral (digitsText)

/-- A text that writes a number. -/
inductive WritesNumber : List Char → Nat → Prop where
  | digits {sign : List Char} {digits : List Digit} (signed : SignText false sign)
      (nonempty : digits ≠ []) :
      WritesNumber (sign ++ digitsText digits) (Digit.value digits)

/-- A text in which the digits before the first other character, behind a plus sign if there
is one, write a number of more than 64 bits. -/
inductive StartsTooLarge : List Char → Prop where
  | digits {sign rest : List Char} {digits : List Digit} (signed : SignText false sign)
      (ended : Digit.Ended rest) (large : 2 ^ 64 ≤ Digit.value digits) :
      StartsTooLarge (sign ++ (digitsText digits ++ rest))

/-- Why a text is no number of 64 bits. -/
structure Faulty (text : List Char) (fault : NumberFault) : Prop where
  unwritten : ∀ number < 2 ^ 64, ¬WritesNumber text number
  tooLarge_iff : fault = .tooLarge ↔ StartsTooLarge text

/-! ## Digits behind a number -/

/-- The number read from digits behind a start is compared as a whole, since it only grows by
digits; what stops the reading short of that is an invalid digit. -/
theorem readDigits_append {start : Nat} (fits : start < 2 ^ 64) {rest : List Char}
    (ended : Digit.Ended rest) (digits : List Digit) :
    let number := start * 10 ^ digits.length + Digit.value digits
    readDigits start (digitsText digits ++ rest) =
      if number < 2 ^ 64 then
        if rest = [] then .ok number else .error .invalidDigit
      else .error .tooLarge := by
  induction digits generalizing start with
  | nil =>
      intro number
      have number_eq : number = start := by simp [number, Digit.value]
      rw [number_eq, if_pos fits]
      cases rest with
      | nil => rfl
      | cons c rest => simp [readDigits, digitsText, ended c rfl]
  | cons first more ih =>
      intro number
      let next := start * 10 + first.val
      have number_eq : number = next * 10 ^ more.length + Digit.value more := by
        simp only [number, next, Digit.value_cons, List.length_cons]
        ring
      have split : readDigits start (digitsText (first :: more) ++ rest) =
          if next < 2 ^ 64 then readDigits next (digitsText more ++ rest)
          else .error .tooLarge := by
        simp only [digitsText, List.map_cons, List.cons_append, readDigits,
          Digit.ofChar?_toChar, next]
        rfl
      rw [split]
      split
      next small => rw [ih small, number_eq]
      next large =>
        have grows : next ≤ number := by
          rw [number_eq]
          exact (Nat.le_mul_of_pos_right next (by positivity)).trans (Nat.le_add_right _ _)
        rw [if_neg (by omega)]

/-! ## Signs -/

theorem readNumber_of_unsigned {c : Char} (unsigned : c ≠ '+') (rest : List Char) :
    readNumber (c :: rest) = readDigits 0 (c :: rest) := by
  unfold readNumber
  split
  next empty => contradiction
  next plus => exact absurd (List.cons.inj plus).1 unsigned
  next plus => exact absurd (List.cons.inj plus).1 unsigned
  next => rfl

theorem readNumber_append {sign rest : List Char} {digits : List Digit}
    (signed : SignText false sign) (nonempty : digits ≠ []) (ended : Digit.Ended rest) :
    readNumber (sign ++ (digitsText digits ++ rest)) =
      if Digit.value digits < 2 ^ 64 then
        if rest = [] then .ok (Digit.value digits) else .error .invalidDigit
      else .error .tooLarge := by
  have read := readDigits_append (by decide : 0 < 2 ^ 64) ended digits
  rw [Nat.zero_mul, Nat.zero_add] at read
  rw [← read]
  obtain ⟨first, more, rfl⟩ := List.exists_cons_of_ne_nil nonempty
  cases signed with
  | absent =>
      have unsigned : ∀ digit : Digit, digit.toChar ≠ '+' := by decide
      exact readNumber_of_unsigned (unsigned first) _
  | plus => rfl

/-- A text that does not start with digits, behind a plus sign if there is one, has an invalid
digit. -/
theorem readNumber_cases (text : List Char) :
    (∃ sign digits rest, SignText false sign ∧ digits ≠ [] ∧ Digit.Ended rest ∧
      text = sign ++ (digitsText digits ++ rest)) ∨ readNumber text = .error .invalidDigit := by
  have cut (unsigned : List Char) : ∃ digits rest, Digit.Ended rest ∧
      unsigned = digitsText digits ++ rest := by
    obtain ⟨split, ended⟩ := Digit.scan_eq_iff.mp (Prod.eta (Digit.scan unsigned)).symm
    exact ⟨_, _, ended, split⟩
  have undigited {c : Char} {rest : List Char} (ended : Digit.Ended (c :: rest)) :
      readDigits 0 (c :: rest) = .error .invalidDigit :=
    readDigits_append (by decide : 0 < 2 ^ 64) ended []
  rcases text with _ | ⟨c, behind⟩
  · exact .inr rfl
  · by_cases plus : c = '+'
    · subst plus
      obtain ⟨digits, rest, ended, rfl⟩ := cut behind
      by_cases nonempty : digits = []
      · subst nonempty
        right
        cases rest with
        | nil => rfl
        | cons other rest => exact undigited ended
      · exact .inl ⟨_, digits, rest, .plus, nonempty, ended, rfl⟩
    · obtain ⟨digits, rest, ended, split⟩ := cut (c :: behind)
      by_cases nonempty : digits = []
      · subst nonempty
        right
        obtain rfl : c :: behind = rest := split
        rw [readNumber_of_unsigned plus]
        exact undigited ended
      · exact .inl ⟨_, digits, rest, .absent, nonempty, ended, split⟩

/-! ## The reader -/

theorem readNumber_eq_ok_iff {text : List Char} {number : Nat} :
    readNumber text = .ok number ↔ WritesNumber text number ∧ number < 2 ^ 64 := by
  constructor
  · intro read
    obtain ⟨sign, digits, rest, signed, nonempty, ended, rfl⟩ | refused := readNumber_cases text
    · rw [readNumber_append signed nonempty ended] at read
      split at read
      next small =>
        split at read
        next none =>
          obtain rfl := Except.ok.inj read
          rw [none, List.append_nil]
          exact ⟨.digits signed nonempty, small⟩
        next => contradiction
      next => contradiction
    · rw [refused] at read
      contradiction
  · rintro ⟨⟨signed, nonempty⟩, small⟩
    rename_i sign digits
    have ended : Digit.Ended [] := by simp [Digit.Ended]
    have read := readNumber_append signed nonempty ended
    rwa [List.append_nil, if_pos small, if_pos rfl] at read

theorem readNumber_eq_tooLarge_iff {text : List Char} :
    readNumber text = .error .tooLarge ↔ StartsTooLarge text := by
  constructor
  · intro read
    obtain ⟨sign, digits, rest, signed, nonempty, ended, rfl⟩ | refused := readNumber_cases text
    · refine .digits signed ended (Nat.le_of_not_lt fun small => ?_)
      rw [readNumber_append signed nonempty ended, if_pos small] at read
      split at read <;> contradiction
    · rw [refused] at read
      contradiction
  · rintro ⟨signed, ended, large⟩
    rename_i sign rest digits
    have nonempty : digits ≠ [] := by
      rintro rfl
      exact absurd large (by decide)
    rw [readNumber_append signed nonempty ended, if_neg (Nat.not_lt.mpr large)]

/-- The reader refuses what writes no number of 64 bits, and says why. -/
theorem readNumber_eq_error_iff {text : List Char} {fault : NumberFault} :
    readNumber text = .error fault ↔ Faulty text fault := by
  constructor
  · intro refused
    constructor
    · intro number small written
      rw [readNumber_eq_ok_iff.mpr ⟨written, small⟩] at refused
      contradiction
    · rw [← readNumber_eq_tooLarge_iff, refused, Except.error.injEq]
  · rintro ⟨unwritten, tooLarge_iff⟩
    cases read : readNumber text with
    | ok number =>
        obtain ⟨written, small⟩ := readNumber_eq_ok_iff.mp read
        exact absurd written (unwritten number small)
    | error found =>
        rw [← readNumber_eq_tooLarge_iff, read, Except.error.injEq] at tooLarge_iff
        cases fault <;> cases found <;> simp_all

end IdResolution.Config
