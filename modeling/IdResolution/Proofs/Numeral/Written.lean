import IdResolution.Proofs.Json.Word
import IdResolution.Text.Blank

/-!
# How the numerals of property values are written

The notation of property values, as a grammar: a sign if there is one, digits with at most
one point before, among or after them, and an exponent if there is one.  It is wider than
that of JSON, since a plus may stand in front, zeros may lead, and either side of the point
may be empty.  The reader of numerals accepts the texts of the grammar and no others.
-/

namespace IdResolution.Numeral

open Json (SignText ExponentText FractionEnded NumberEnded signText_scanSign exponentText_of_scan)

/-- The point with the digits behind it, if there is one. -/
inductive PointText : List Digit → List Char → Prop where
  | absent : PointText [] []
  | present (digits : List Digit) : PointText digits ('.' :: digitsText digits)

/-- How a numeral is written as the value of a property. -/
inductive Written : Numeral → List Char → Prop where
  | parts {numeral : Numeral} {sign point exponent : List Char}
      (signed : SignText numeral.negative sign) (pointed : PointText numeral.fraction point)
      (nonempty : numeral.whole ≠ [] ∨ numeral.fraction ≠ [])
      (exponential : ExponentText numeral.exponent exponent) :
      Written numeral (sign ++ (digitsText numeral.whole ++ (point ++ exponent)))

/-! ## What is read is written so -/

theorem pointText_of_scan {text after : List Char} {digits : List Digit}
    (ended : Digit.Ended text) (scanned : scanFraction text = (digits, after)) :
    ∃ word, text = word ++ after ∧ PointText digits word ∧ Digit.Ended after := by
  unfold scanFraction at scanned
  split at scanned
  · obtain ⟨split, afterEnded⟩ := Digit.scan_eq_iff.mp scanned
    exact ⟨_, congrArg (List.cons '.') split, .present digits, afterEnded⟩
  · obtain ⟨rfl, rfl⟩ := Prod.mk.inj scanned
    exact ⟨[], rfl, .absent, ended⟩

theorem written_of_ofText? {text : List Char} {numeral : Numeral}
    (read : ofText? text = some numeral) : Written numeral text := by
  obtain ⟨sign, signed, splitSign⟩ := signText_scanSign text
  obtain ⟨splitWhole, wholeEnded⟩ :=
    Digit.scan_eq_iff.mp (Prod.eta (Digit.scan (scanSign text).2)).symm
  obtain ⟨point, splitPoint, pointed, pointEnded⟩ := pointText_of_scan wholeEnded
    (Prod.eta (scanFraction (Digit.scan (scanSign text).2).2)).symm
  simp only [ofText?] at read
  split at read
  · contradiction
  · rename_i someDigit
    split at read
    · rename_i exponent found
      obtain ⟨word, splitExponent, exponential, -⟩ := exponentText_of_scan pointEnded found
      obtain rfl := Option.some.inj read
      have nonempty : (Digit.scan (scanSign text).2).1 ≠ [] ∨
          (scanFraction (Digit.scan (scanSign text).2).2).1 ≠ [] := by
        rw [← not_and_or]
        simpa using someDigit
      have whole : Written ⟨_, _, _, _⟩ _ := .parts signed pointed nonempty exponential
      rw [List.append_nil] at splitExponent
      rwa [← splitExponent, ← splitPoint, ← splitWhole, ← splitSign] at whole
    · contradiction

/-! ## What is written so is read -/

/-- A sign is scanned when no other one follows. -/
theorem scanSign_append {negative : Bool} {sign : List Char} (signed : SignText negative sign)
    {rest : List Char} (unsigned : ∀ c ∈ rest.head?, c ≠ '-' ∧ c ≠ '+') :
    scanSign (sign ++ rest) = (negative, rest) := by
  cases signed with
  | plus => rfl
  | minus => rfl
  | absent =>
      rw [List.nil_append]
      unfold scanSign
      split
      · exact absurd rfl (unsigned _ rfl).1
      · exact absurd rfl (unsigned _ rfl).2
      · rfl

theorem PointText.scanFraction {digits : List Digit} {point rest : List Char}
    (pointed : PointText digits point) (ended : FractionEnded rest) :
    Numeral.scanFraction (point ++ rest) = (digits, rest) := by
  cases pointed with
  | absent =>
      rw [List.nil_append]
      unfold Numeral.scanFraction
      split
      · exact absurd rfl (ended _ rfl).2
      · rfl
  | present => exact Digit.scan_digitsText digits ended.digits

/-- The digits before the point end where it follows. -/
theorem PointText.ended {digits : List Digit} {point rest : List Char}
    (pointed : PointText digits point) (ended : FractionEnded rest) :
    Digit.Ended (point ++ rest) := by
  cases pointed with
  | absent => exact ended.digits
  | present =>
      intro c starts
      obtain rfl := Option.some.inj starts
      decide

/-- Behind its sign a numeral starts with a digit or with a point. -/
theorem unsigned_of_nonempty {whole fraction : List Digit} {point : List Char}
    (pointed : PointText fraction point) (nonempty : whole ≠ [] ∨ fraction ≠ [])
    (rest : List Char) :
    ∀ c ∈ (digitsText whole ++ (point ++ rest)).head?, c ≠ '-' ∧ c ≠ '+' := by
  intro c starts
  cases whole with
  | cons first more =>
      obtain rfl := Option.some.inj starts
      have other : ∀ digit : Digit, digit.toChar ≠ '-' ∧ digit.toChar ≠ '+' := by decide
      exact other first
  | nil =>
      cases pointed with
      | absent => simp at nonempty
      | present =>
          obtain rfl := Option.some.inj starts
          decide

/-- The reader of numerals accepts just the texts of the grammar. -/
theorem ofText?_eq_some_iff {text : List Char} {numeral : Numeral} :
    ofText? text = some numeral ↔ Written numeral text := by
  refine ⟨written_of_ofText?, ?_⟩
  rintro ⟨signed, pointed, nonempty, exponential⟩
  rename_i sign point exponent
  have ended : NumberEnded [] := by simp [NumberEnded]
  have pointEnded : FractionEnded exponent := by
    simpa using exponential.fractionEnded ended
  have scanned := exponential.scanExponent? ended
  rw [List.append_nil] at scanned
  simp only [ofText?, scanSign_append signed (unsigned_of_nonempty pointed nonempty exponent),
    Digit.scan_digitsText numeral.whole (pointed.ended pointEnded), pointed.scanFraction pointEnded,
    scanned, List.isEmpty_iff, if_neg (not_and_or.mpr nonempty)]

/-! ## Blanks -/

section Visible

variable {c : Char}

theorem isBlank_of_mem_digitsText {digits : List Digit} (listed : c ∈ digitsText digits) :
    Text.isBlank c = false := by
  obtain ⟨digit, -, rfl⟩ := List.mem_map.mp listed
  have visible : ∀ digit : Digit, Text.isBlank digit.toChar = false := by decide
  exact visible digit

theorem isBlank_of_mem_sign {negative : Bool} {sign : List Char}
    (signed : SignText negative sign) (listed : c ∈ sign) : Text.isBlank c = false := by
  cases signed with
  | absent => contradiction
  | plus | minus =>
      obtain rfl := List.mem_singleton.mp listed
      decide

theorem isBlank_of_mem_point {digits : List Digit} {point : List Char}
    (pointed : PointText digits point) (listed : c ∈ point) : Text.isBlank c = false := by
  cases pointed with
  | absent => contradiction
  | present =>
      rcases List.mem_cons.mp listed with rfl | behind
      · decide
      · exact isBlank_of_mem_digitsText behind

theorem isBlank_of_mem_exponent {size : Int} {exponent : List Char}
    (exponential : ExponentText size exponent) (listed : c ∈ exponent) :
    Text.isBlank c = false := by
  cases exponential with
  | absent => contradiction
  | present marked signed _ =>
      rcases List.mem_cons.mp listed with rfl | behind
      · rcases marked with rfl | rfl <;> decide
      · rcases List.mem_append.mp behind with inSign | inDigits
        · exact isBlank_of_mem_sign signed inSign
        · exact isBlank_of_mem_digitsText inDigits

end Visible

variable {numeral : Numeral} {word : List Char}

/-- There are no blanks in a numeral. -/
theorem Written.visible (written : numeral.Written word) :
    ∀ c ∈ word, Text.isBlank c = false := by
  obtain ⟨signed, pointed, -, exponential⟩ := written
  intro c listed
  simp only [List.mem_append] at listed
  rcases listed with inSign | inWhole | inPoint | inExponent
  · exact isBlank_of_mem_sign signed inSign
  · exact isBlank_of_mem_digitsText inWhole
  · exact isBlank_of_mem_point pointed inPoint
  · exact isBlank_of_mem_exponent exponential inExponent

theorem Written.ne_nil (written : numeral.Written word) : word ≠ [] := by
  rintro rfl
  have read := ofText?_eq_some_iff.mpr written
  contradiction

end IdResolution.Numeral
