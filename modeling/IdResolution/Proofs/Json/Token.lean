import IdResolution.Proofs.Json.Word

/-!
# Rows of tokens

A text spells a row of tokens when it consists of their words, with whitespace wherever it
may stand.  Only a number has to be kept apart from what follows it, lest it run on.  The
reader of tokens accepts the texts that spell a row, and finds this row.
-/

namespace IdResolution.Json

/-! ## Single tokens -/

/-- How a token is written. -/
inductive Word : Token → List Char → Prop where
  | symbol {token : Token} (notNumber : ∀ numeral, token ≠ .number numeral)
      (notText : ∀ content, token ≠ .text content) : Word token token.spelling
  | number {numeral : Numeral} {text : List Char} (written : NumberText numeral text) :
      Word (.number numeral) text
  | text {pieces : List Piece} {body : List Char} (string : StringText pieces body) :
      Word (.text (content? pieces)) ('"' :: (body ++ ['"']))

/-- What is scanned as a token is a word of it, and a number is followed by no digit. -/
theorem word_of_scan {first : Char} {rest after : List Char} {token : Token}
    (scanned : Token.scan? first rest = some (token, after)) :
    ∃ word, first :: rest = word ++ after ∧ Word token word ∧
      ((∃ numeral, token = .number numeral) → Digit.Ended after) := by
  unfold Token.scan? at scanned
  split at scanned
  case h_10 rest =>
    obtain ⟨⟨pieces, others⟩, found, same⟩ := Option.map_eq_some_iff.mp scanned
    obtain ⟨rfl, rfl⟩ := Prod.mk.inj same
    obtain ⟨body, rfl, string⟩ := scanString?_eq_some_iff.mp found
    exact ⟨_, by simp, .text string, by simp⟩
  case h_11 rest =>
    obtain ⟨numeral, size, rfl, negative, unsigned, rfl, ended⟩ := sizeText_of_scan scanned
    refine ⟨_, ?_, .number (.signed unsigned), fun _ => ended⟩
    rw [negative]
    rfl
  case h_12 =>
    obtain ⟨numeral, size, rfl, negative, unsigned, split, ended⟩ := sizeText_of_scan scanned
    refine ⟨_, ?_, .number (.signed unsigned), fun _ => ended⟩
    rw [split, negative]
    rfl
  all_goals
    obtain ⟨rfl, rfl⟩ := Prod.mk.inj (Option.some.inj scanned)
    exact ⟨_, rfl, .symbol (by simp) (by simp), by simp⟩

theorem scan?_digit (digit : Digit) (rest : List Char) :
    Token.scan? digit.toChar rest = scanNumber? false (digit.toChar :: rest) := by
  fin_cases digit <;> rfl

theorem isSpace_digit (digit : Digit) : isSpace digit.toChar = false := by
  revert digit
  decide

/-- A word is scanned as its token, unless it is a number that runs on. -/
theorem Word.scan {token : Token} {word after : List Char} (isWord : Word token word)
    (ended : (∃ numeral, token = .number numeral) → NumberEnded after) :
    ∃ first rest, word ++ after = first :: rest ∧ isSpace first = false ∧
      Token.scan? first rest = some (token, after) := by
  cases isWord with
  | symbol notNumber notText =>
      cases token with
      | number numeral => exact absurd rfl (notNumber numeral)
      | text content => exact absurd rfl (notText content)
      | bool value => cases value <;> exact ⟨_, _, rfl, rfl, rfl⟩
      | _ => exact ⟨_, _, rfl, rfl, rfl⟩
  | @number numeral _ written =>
      obtain ⟨unsigned⟩ := written
      have scanned := unsigned.scanNumber? (ended ⟨numeral, rfl⟩)
      cases sign : numeral.negative with
      | true =>
          rw [sign] at scanned
          exact ⟨_, _, rfl, rfl, scanned⟩
      | false =>
          rw [sign] at scanned
          obtain ⟨strict, fractional, exponential⟩ := unsigned
          cases digits : numeral.whole with
          | nil => exact absurd digits strict.whole_ne_nil
          | cons first more =>
              rw [digits] at scanned
              exact ⟨_, _, rfl, isSpace_digit first, (scan?_digit first _).trans scanned⟩
  | @text pieces body string =>
      have scanned : scanString? (body ++ '"' :: after) = some (pieces, after) :=
        scanString?_eq_some_iff.mpr ⟨body, rfl, string⟩
      refine ⟨'"', body ++ '"' :: after, by simp, rfl, ?_⟩
      simp only [Token.scan?, scanned, Option.map_some]
      rfl

/-! ## Texts -/

/-- A text consists of the words of a row of tokens, with whitespace anywhere between, before
and after them. -/
inductive Written : List Token → List Char → Prop where
  | ended : Written [] []
  | space {c : Char} {tokens : List Token} {text : List Char} (space : isSpace c = true)
      (more : Written tokens text) : Written tokens (c :: text)
  | word {token : Token} {word : List Char} {tokens : List Token} {text : List Char}
      (isWord : Word token word)
      (apart : (∃ numeral, token = .number numeral) → NumberEnded text)
      (more : Written tokens text) : Written (token :: tokens) (word ++ text)

theorem lex_space {c : Char} (space : isSpace c = true) (text : List Char) :
    lex (c :: text) = lex text := by
  rw [lex, if_pos space]

theorem lex_word {first : Char} {text after : List Char} {token : Token}
    (visible : isSpace first = false)
    (scanned : Token.scan? first text = some (token, after)) :
    lex (first :: text) = (lex after).map (token :: ·) := by
  rw [lex, if_neg (by simp [visible])]
  split
  · rename_i failed
    rw [scanned] at failed
    contradiction
  · rename_i other rest found
    rw [scanned] at found
    obtain ⟨rfl, rfl⟩ := Prod.mk.inj (Option.some.inj found)
    rfl

/-- No word starts with a point or with the letter of an exponent. -/
theorem lex_eq_none {first : Char} (within : first = '.' ∨ first = 'e' ∨ first = 'E')
    (text : List Char) : lex (first :: text) = none := by
  have visible : isSpace first = false := by rcases within with rfl | rfl | rfl <;> rfl
  have unscanned : Token.scan? first text = none := by rcases within with rfl | rfl | rfl <;> rfl
  rw [lex, if_neg (by simp [visible])]
  split
  · rfl
  · rename_i found
    rw [unscanned] at found
    contradiction

/-- Where tokens are read on, a number ends before what is no digit. -/
theorem numberEnded_of_lex {text : List Char} {tokens : List Token}
    (read : lex text = some tokens) (ended : Digit.Ended text) : NumberEnded text := by
  intro c starts
  refine ⟨ended c starts, ?_⟩
  cases text with
  | nil => contradiction
  | cons first rest =>
      obtain rfl := Option.some.inj starts
      have outside : ¬(first = '.' ∨ first = 'e' ∨ first = 'E') := by
        intro within
        rw [lex_eq_none within] at read
        contradiction
      simpa [not_or] using outside

/-- The reader of tokens finds the row that a text spells. -/
theorem lex_eq_some_iff {text : List Char} {tokens : List Token} :
    lex text = some tokens ↔ Written tokens text := by
  constructor
  · intro read
    fun_induction lex text generalizing tokens with
    | case1 =>
        obtain rfl := Option.some.inj read
        exact .ended
    | case2 c rest space ih => exact .space space (ih read)
    | case3 => contradiction
    | case4 c rest _ token after scanned ih =>
        obtain ⟨others, readOthers, rfl⟩ := Option.map_eq_some_iff.mp read
        obtain ⟨word, split, isWord, ended⟩ := word_of_scan scanned
        rw [split]
        exact .word isWord (fun number => numberEnded_of_lex readOthers (ended number))
          (ih readOthers)
  · intro written
    induction written with
    | ended => rw [lex]
    | space space _ ih => rw [lex_space space, ih]
    | word isWord apart _ ih =>
        obtain ⟨first, rest, split, visible, scanned⟩ := isWord.scan apart
        rw [split, lex_word visible scanned, ih]
        rfl

end IdResolution.Json
