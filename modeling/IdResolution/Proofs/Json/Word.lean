import IdResolution.Json.Token
import IdResolution.Proofs.Binary64.Layout
import Mathlib.Data.Fintype.Basic
import Mathlib.Tactic.FinCases
import Mathlib.Tactic.SplitIfs

/-!
# Words of a JSON text

How strings and numbers are written, as a grammar, and what they stand for.  A string is
what lies between its quotes; a number has digits without a leading zero, and after a
point or an exponent letter at least one digit.  The scanners read the words of the
grammar and no others.  A number is read as far as it goes, so it is known only together
with what follows it.
-/

namespace IdResolution

open Numeral (digitsText)

namespace Json

/-! ## Strings -/

/-- What may stand between the quotes of a string, with what each character or escape of
it stands for. -/
inductive StringText : List Piece → List Char → Prop where
  | empty : StringText [] []
  | raw {c : Char} {pieces : List Piece} {text : List Char} (unquoted : c ≠ '"')
      (unescaped : c ≠ '\\') (visible : 0x20 ≤ c.toNat) (more : StringText pieces text) :
      StringText (.char c :: pieces) (c :: text)
  | letter {letter c : Char} {pieces : List Piece} {text : List Char}
      (escapes : letterEscape? letter = some c) (more : StringText pieces text) :
      StringText (.char c :: pieces) ('\\' :: letter :: text)
  | unit {first second third fourth : Char} {unit : Nat} {pieces : List Piece}
      {text : List Char} (digits : hexUnit? first second third fourth = some unit)
      (more : StringText pieces text) :
      StringText (.ofUnit unit :: pieces)
        ('\\' :: 'u' :: first :: second :: third :: fourth :: text)

/-- The text that a string stands for, if its surrogates pair up. -/
def content? (pieces : List Piece) : Option String :=
  (assemble? pieces).map String.ofList

/-- Characters stand for themselves, and a high surrogate directly before a low one for the
character that the two encode. -/
inductive Decodes : List Piece → List Char → Prop where
  | nil : Decodes [] []
  | char {c : Char} {pieces : List Piece} {text : List Char} (more : Decodes pieces text) :
      Decodes (.char c :: pieces) (c :: text)
  | pair {high low : Nat} {pieces : List Piece} {text : List Char} (isHigh : high < 0xdc00)
      (isLow : 0xdc00 ≤ low) (more : Decodes pieces text) :
      Decodes (.surrogate high :: .surrogate low :: pieces)
        (Char.ofNat (0x10000 + (high - 0xd800) * 0x400 + (low - 0xdc00)) :: text)

theorem assemble?_eq_some_iff {pieces : List Piece} {text : List Char} :
    assemble? pieces = some text ↔ Decodes pieces text := by
  constructor
  · intro assembled
    fun_induction assemble? pieces generalizing text with
    | case1 =>
        obtain rfl := Option.some.inj assembled
        exact .nil
    | case2 c rest ih =>
        obtain ⟨others, found, rfl⟩ := Option.map_eq_some_iff.mp assembled
        exact .char (ih found)
    | case3 high low rest c paired ih =>
        obtain ⟨others, found, rfl⟩ := Option.map_eq_some_iff.mp assembled
        unfold pairSurrogates? at paired
        split at paired
        · rename_i units
          obtain rfl := Option.some.inj paired
          exact .pair units.1 units.2 (ih found)
        · contradiction
    | case4 => contradiction
    | case5 => contradiction
  · intro decodes
    induction decodes with
    | nil => rfl
    | char _ ih => rw [assemble?, ih]; rfl
    | pair isHigh isLow _ ih =>
        simp only [assemble?, pairSurrogates?, if_pos (And.intro isHigh isLow), ih,
          Option.map_some]

/-- A string is read when it is one, up to its closing quote. -/
theorem scanString?_eq_some_iff {text after : List Char} {pieces : List Piece} :
    scanString? text = some (pieces, after) ↔
      ∃ body, text = body ++ '"' :: after ∧ StringText pieces body := by
  constructor
  · intro scanned
    fun_induction scanString? text generalizing pieces with
    | case1 => contradiction
    | case2 rest =>
        obtain ⟨rfl, rfl⟩ := Prod.mk.inj (Option.some.inj scanned)
        exact ⟨[], rfl, .empty⟩
    | case3 first second third fourth rest unit digits ih =>
        obtain ⟨read, found, same⟩ := Option.map_eq_some_iff.mp scanned
        obtain ⟨rfl, rfl⟩ := Prod.mk.inj same
        obtain ⟨body, rfl, more⟩ := ih found
        exact ⟨_, rfl, .unit digits more⟩
    | case4 => contradiction
    | case5 letter rest _ c escapes ih =>
        obtain ⟨read, found, same⟩ := Option.map_eq_some_iff.mp scanned
        obtain ⟨rfl, rfl⟩ := Prod.mk.inj same
        obtain ⟨body, rfl, more⟩ := ih found
        exact ⟨_, rfl, .letter escapes more⟩
    | case6 => contradiction
    | case7 => contradiction
    | case8 c rest unquoted _ _ plain ih =>
        obtain ⟨read, found, same⟩ := Option.map_eq_some_iff.mp scanned
        obtain ⟨rfl, rfl⟩ := Prod.mk.inj same
        obtain ⟨body, rfl, more⟩ := ih found
        rw [not_or, Nat.not_lt] at plain
        exact ⟨_, rfl, .raw unquoted plain.1 plain.2 more⟩
  · rintro ⟨body, rfl, string⟩
    induction string with
    | empty => rfl
    | @raw c pieces text unquoted unescaped visible _ ih =>
        rw [List.cons_append, scanString?.eq_def]
        split
        · contradiction
        · rename_i same
          exact absurd (List.cons.inj same).1 unquoted
        · rename_i same
          exact absurd (List.cons.inj same).1 unescaped
        · rename_i same
          exact absurd (List.cons.inj same).1 unescaped
        · rename_i same
          obtain ⟨rfl, rfl⟩ := List.cons.inj same
          rw [if_neg (by simp [unescaped, visible]), ih]
          rfl
    | @letter letter c pieces text escapes _ ih =>
        have notUnit : letter ≠ 'u' := by
          rintro rfl
          contradiction
        rw [List.cons_append, List.cons_append, scanString?.eq_def]
        split
        · contradiction
        · rename_i same
          exact absurd (List.cons.inj same).1 (by decide)
        · rename_i same
          exact absurd (List.cons.inj (List.cons.inj same).2).1 notUnit
        · rename_i same
          obtain ⟨-, same⟩ := List.cons.inj same
          obtain ⟨rfl, rfl⟩ := List.cons.inj same
          simp only [escapes, ih, Option.map_some]
        · rename_i noLetter same
          obtain ⟨rfl, rfl⟩ := List.cons.inj same
          exact (noLetter letter _ rfl rfl).elim
    | unit digits _ ih =>
        simp only [List.cons_append, scanString?, digits, ih, Option.map_some]

/-! ## Numbers -/

/-- The sign of an exponent; true stands for a minus. -/
inductive SignText : Bool → List Char → Prop where
  | absent : SignText false []
  | plus : SignText false ['+']
  | minus : SignText true ['-']

/-- The fraction of a number, if there is one. -/
inductive FractionText : List Digit → List Char → Prop where
  | absent : FractionText [] []
  | present {digits : List Digit} (nonempty : digits ≠ []) :
      FractionText digits ('.' :: digitsText digits)

/-- The exponent of a number, if there is one. -/
inductive ExponentText : Int → List Char → Prop where
  | absent : ExponentText 0 []
  | present {letter : Char} {negative : Bool} {sign : List Char} {digits : List Digit}
      (marked : letter = 'e' ∨ letter = 'E') (signed : SignText negative sign)
      (nonempty : digits ≠ []) :
      ExponentText (if negative then -(Digit.value digits : Int) else Digit.value digits)
        (letter :: (sign ++ digitsText digits))

/-- A number after its sign. -/
inductive SizeText : Numeral → List Char → Prop where
  | parts {numeral : Numeral} {fraction exponent : List Char} (strict : numeral.Strict)
      (fractional : FractionText numeral.fraction fraction)
      (exponential : ExponentText numeral.exponent exponent) :
      SizeText numeral (digitsText numeral.whole ++ (fraction ++ exponent))

/-- How a number is written.  Only a minus may stand before its digits. -/
inductive NumberText : Numeral → List Char → Prop where
  | signed {numeral : Numeral} {size : List Char} (unsigned : SizeText numeral size) :
      NumberText numeral ((if numeral.negative then ['-'] else []) ++ size)

/-- A text does not go on with anything that may belong to a number. -/
def NumberEnded (text : List Char) : Prop :=
  ∀ c ∈ text.head?, Digit.ofChar? c = none ∧ c ≠ '.' ∧ c ≠ 'e' ∧ c ≠ 'E'

theorem NumberEnded.digits {text : List Char} (ended : NumberEnded text) :
    Digit.Ended text :=
  fun c starts => (ended c starts).1

/-- A text does not go on with a digit or a point. -/
def FractionEnded (text : List Char) : Prop :=
  ∀ c ∈ text.head?, Digit.ofChar? c = none ∧ c ≠ '.'

theorem FractionEnded.digits {text : List Char} (ended : FractionEnded text) :
    Digit.Ended text :=
  fun c starts => (ended c starts).1

/-- A fraction ends where the exponent follows. -/
theorem ExponentText.fractionEnded {exponent : Int} {word rest : List Char}
    (exponential : ExponentText exponent word) (ended : NumberEnded rest) :
    FractionEnded (word ++ rest) := by
  intro c starts
  cases exponential with
  | absent => exact ⟨(ended c starts).1, (ended c starts).2.1⟩
  | present marked _ _ =>
      obtain rfl := Option.some.inj starts
      rcases marked with rfl | rfl <;> decide

/-- The digits before the point end where the fraction follows. -/
theorem FractionText.ended {digits : List Digit} {word rest : List Char}
    (fractional : FractionText digits word) (ended : FractionEnded rest) :
    Digit.Ended (word ++ rest) := by
  cases fractional with
  | absent => exact ended.digits
  | present _ =>
      intro c starts
      obtain rfl := Option.some.inj starts
      decide

/-! ## Scanning numbers -/

theorem signText_scanSign (text : List Char) :
    ∃ sign, SignText (Numeral.scanSign text).1 sign ∧
      text = sign ++ (Numeral.scanSign text).2 := by
  unfold Numeral.scanSign
  split
  · exact ⟨_, .minus, rfl⟩
  · exact ⟨_, .plus, rfl⟩
  · exact ⟨_, .absent, rfl⟩

/-- A digit is no sign. -/
theorem scanSign_digitsText {digits : List Digit} (nonempty : digits ≠ []) (rest : List Char) :
    Numeral.scanSign (digitsText digits ++ rest) = (false, digitsText digits ++ rest) := by
  cases digits with
  | nil => contradiction
  | cons first more =>
      have other : first.toChar ≠ '-' ∧ first.toChar ≠ '+' := by
        clear nonempty
        revert first
        decide
      rw [digitsText, List.map_cons, List.cons_append]
      unfold Numeral.scanSign
      split
      · rename_i same
        exact absurd (List.cons.inj same).1 other.1
      · rename_i same
        exact absurd (List.cons.inj same).1 other.2
      · rfl

theorem SignText.scanSign {negative : Bool} {sign : List Char} (signed : SignText negative sign)
    {digits : List Digit} (nonempty : digits ≠ []) (rest : List Char) :
    Numeral.scanSign (sign ++ (digitsText digits ++ rest)) =
      (negative, digitsText digits ++ rest) := by
  cases signed with
  | absent => exact scanSign_digitsText nonempty rest
  | plus => rfl
  | minus => rfl

theorem exponentText_of_scan {text after : List Char} {exponent : Int}
    (ended : Digit.Ended text)
    (scanned : Numeral.scanExponent? text = some (exponent, after)) :
    ∃ word, text = word ++ after ∧ ExponentText exponent word ∧ Digit.Ended after := by
  cases text with
  | nil =>
      obtain ⟨rfl, rfl⟩ := Prod.mk.inj (Option.some.inj scanned)
      exact ⟨[], rfl, .absent, ended⟩
  | cons letter rest =>
      rw [Numeral.scanExponent?] at scanned
      split at scanned
      · rename_i marked
        obtain ⟨sign, signed, splitSign⟩ := signText_scanSign rest
        obtain ⟨splitDigits, afterEnded⟩ :=
          Digit.scan_eq_iff.mp (Prod.eta (Digit.scan (Numeral.scanSign rest).2)).symm
        dsimp only at scanned
        split at scanned
        · contradiction
        · rename_i nonempty
          obtain ⟨rfl, rfl⟩ := Prod.mk.inj (Option.some.inj scanned)
          refine ⟨_, ?_, .present marked signed (by simpa using nonempty), afterEnded⟩
          rw [List.cons_append, List.append_assoc, ← splitDigits, ← splitSign]
      · obtain ⟨rfl, rfl⟩ := Prod.mk.inj (Option.some.inj scanned)
        exact ⟨[], rfl, .absent, ended⟩

theorem ExponentText.scanExponent? {exponent : Int} {word rest : List Char}
    (exponential : ExponentText exponent word) (ended : NumberEnded rest) :
    Numeral.scanExponent? (word ++ rest) = some (exponent, rest) := by
  cases exponential with
  | absent =>
      cases rest with
      | nil => rfl
      | cons c rest =>
          have other := (ended c rfl).2.2
          rw [List.nil_append, Numeral.scanExponent?, if_neg (by simp [other])]
  | present marked signed nonempty =>
      rw [List.cons_append, List.append_assoc, Numeral.scanExponent?, if_pos marked]
      simp only [signed.scanSign nonempty, Digit.scan_digitsText _ ended.digits,
        List.isEmpty_iff, if_neg nonempty]

theorem fractionText_of_scan {text after : List Char} {digits : List Digit}
    (ended : Digit.Ended text) (scanned : scanFraction? text = some (digits, after)) :
    ∃ word, text = word ++ after ∧ FractionText digits word ∧ Digit.Ended after := by
  unfold scanFraction? at scanned
  split at scanned
  · rename_i rest
    dsimp only at scanned
    split at scanned
    · contradiction
    · rename_i nonempty
      obtain ⟨split, afterEnded⟩ := Digit.scan_eq_iff.mp (Option.some.inj scanned)
      rw [Option.some.inj scanned] at nonempty
      exact ⟨_, congrArg (List.cons '.') split, .present (by simpa using nonempty), afterEnded⟩
  · obtain ⟨rfl, rfl⟩ := Prod.mk.inj (Option.some.inj scanned)
    exact ⟨[], rfl, .absent, ended⟩

theorem FractionText.scanFraction? {digits : List Digit} {word rest : List Char}
    (fractional : FractionText digits word) (ended : FractionEnded rest) :
    Json.scanFraction? (word ++ rest) = some (digits, rest) := by
  cases fractional with
  | absent =>
      rw [List.nil_append]
      unfold Json.scanFraction?
      split
      · exact absurd rfl (ended _ rfl).2
      · rfl
  | present nonempty =>
      simp only [List.cons_append, Json.scanFraction?, Digit.scan_digitsText _ ended.digits,
        List.isEmpty_iff, if_neg nonempty]

/-- What is scanned as a number is one, and no digit follows. -/
theorem sizeText_of_scan {negative : Bool} {text after : List Char} {token : Token}
    (scanned : scanNumber? negative text = some (token, after)) :
    ∃ numeral word, token = .number numeral ∧ numeral.negative = negative ∧
      SizeText numeral word ∧ text = word ++ after ∧ Digit.Ended after := by
  unfold scanNumber? at scanned
  split at scanned
  · contradiction
  · rename_i first more afterWhole whole
    obtain ⟨splitWhole, wholeEnded⟩ := Digit.scan_eq_iff.mp whole
    split at scanned
    · contradiction
    · rename_i unpadded
      split at scanned
      · contradiction
      · rename_i fraction afterFraction found
        obtain ⟨fractionWord, splitFraction, fractional, fractionEnded⟩ :=
          fractionText_of_scan wholeEnded found
        split at scanned
        · contradiction
        · rename_i exponent rest foundExponent
          obtain ⟨exponentWord, splitExponent, exponential, ended⟩ :=
            exponentText_of_scan fractionEnded foundExponent
          obtain ⟨rfl, rfl⟩ := Prod.mk.inj (Option.some.inj scanned)
          have strict : (⟨negative, first :: more, fraction, exponent⟩ : Numeral).Strict := by
            refine ⟨List.cons_ne_nil _ _, fun same => ?_⟩
            obtain ⟨rfl, rfl⟩ := List.cons.inj same
            exact of_not_not fun padded => unpadded ⟨rfl, padded⟩
          refine ⟨_, _, rfl, rfl, .parts strict fractional exponential, ?_, ended⟩
          rw [splitWhole, splitFraction, splitExponent, List.append_assoc, List.append_assoc]

/-- A number is scanned when nothing follows that might belong to it. -/
theorem SizeText.scanNumber? {numeral : Numeral} {word rest : List Char}
    (unsigned : SizeText numeral word) (ended : NumberEnded rest) :
    Json.scanNumber? numeral.negative (word ++ rest) = some (.number numeral, rest) := by
  cases unsigned with
  | parts strict fractional exponential =>
      have afterFraction := exponential.fractionEnded ended
      have whole := Digit.scan_digitsText numeral.whole (fractional.ended afterFraction)
      rw [List.append_assoc, List.append_assoc, Json.scanNumber?, whole]
      cases digits : numeral.whole with
      | nil => exact absurd digits strict.whole_ne_nil
      | cons first more =>
          have unpadded : ¬(first = .zero ∧ more ≠ []) := by
            intro padded
            exact padded.2 (strict.unpadded (digits.trans (by rw [padded.1])))
          simp only [if_neg unpadded, fractional.scanFraction? afterFraction,
            exponential.scanExponent? ended]
          rw [← digits]

end Json

end IdResolution
