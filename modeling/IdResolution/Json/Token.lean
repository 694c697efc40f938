import IdResolution.Binary64.Style
import IdResolution.Json.Text

/-!
# JSON tokens

The words of a JSON text: brackets, separators, literals, numbers and strings,
with JSON whitespace between them.  `Token.spelling` writes a token, `lex` reads a
whole text as tokens.
-/

namespace IdResolution.Json

/-- A word of a JSON text.  A string token holds its content, which is none when
an escaped surrogate in it has no partner. -/
inductive Token where
  | openObject
  | closeObject
  | openArray
  | closeArray
  | colon
  | comma
  | null
  | bool (value : Bool)
  | number (value : Numeral)
  | text (content : Option String)
  deriving DecidableEq, Repr

/-- The written form of a token. -/
def Token.spelling : Token → List Char
  | .openObject => ['{']
  | .closeObject => ['}']
  | .openArray => ['[']
  | .closeArray => [']']
  | .colon => [':']
  | .comma => [',']
  | .null => ['n', 'u', 'l', 'l']
  | .bool true => ['t', 'r', 'u', 'e']
  | .bool false => ['f', 'a', 'l', 's', 'e']
  | .number value => value.text
  | .text content => quote content

/-- The four characters that may stand between tokens. -/
def isSpace (c : Char) : Bool :=
  c = ' ' || c = '\t' || c = '\n' || c = '\r'

/-- Read the fraction of a JSON number: a point needs a digit after it. -/
def scanFraction? : List Char → Option (List Digit × List Char)
  | '.' :: rest =>
      let digits := Digit.scan rest
      if digits.1.isEmpty then none else some digits
  | text => some ([], text)

/-- Read the rest of a JSON number after its sign: digits without a leading zero,
then a fraction and an exponent if there are any. -/
def scanNumber? (negative : Bool) (text : List Char) : Option (Token × List Char) :=
  match Digit.scan text with
  | ([], _) => none
  | (first :: more, afterWhole) =>
      if first = .zero ∧ more ≠ [] then
        none
      else
        match scanFraction? afterWhole with
        | none => none
        | some (fraction, afterFraction) =>
            match Numeral.scanExponent? afterFraction with
            | none => none
            | some (exponent, after) =>
                some (.number ⟨negative, first :: more, fraction, exponent⟩, after)

/-- Read the token that starts with the given character. -/
def Token.scan? (first : Char) (rest : List Char) : Option (Token × List Char) :=
  match first, rest with
  | '{', rest => some (.openObject, rest)
  | '}', rest => some (.closeObject, rest)
  | '[', rest => some (.openArray, rest)
  | ']', rest => some (.closeArray, rest)
  | ':', rest => some (.colon, rest)
  | ',', rest => some (.comma, rest)
  | 'n', 'u' :: 'l' :: 'l' :: rest => some (.null, rest)
  | 't', 'r' :: 'u' :: 'e' :: rest => some (.bool true, rest)
  | 'f', 'a' :: 'l' :: 's' :: 'e' :: rest => some (.bool false, rest)
  | '"', rest =>
      (scanString? rest).map fun read =>
        (.text ((assemble? read.1).map String.ofList), read.2)
  | '-', rest => scanNumber? true rest
  | first, rest => scanNumber? false (first :: rest)

theorem length_scanExponent? {text after : List Char} {exponent : Int}
    (read : Numeral.scanExponent? text = some (exponent, after)) :
    after.length ≤ text.length := by
  have signLength : ∀ text, (Numeral.scanSign text).2.length ≤ text.length := by
    intro text
    unfold Numeral.scanSign
    split <;> simp
  unfold Numeral.scanExponent? at read
  split at read
  · simp_all
  · rename_i c rest
    split at read
    · dsimp only at read
      split at read
      · simp at read
      · simp only [Option.some.injEq, Prod.mk.injEq] at read
        have := Digit.length_scan_le (Numeral.scanSign rest).2
        have := signLength rest
        simp only [List.length_cons, ← read.2]
        omega
    · simp only [Option.some.injEq, Prod.mk.injEq] at read
      simp [← read.2]

theorem length_scanFraction? {text after : List Char} {digits : List Digit}
    (read : scanFraction? text = some (digits, after)) :
    after.length ≤ text.length := by
  unfold scanFraction? at read
  split at read
  · rename_i rest
    dsimp only at read
    split at read
    · simp at read
    · have shorter := Digit.length_scan_le rest
      simp only [Option.some.injEq] at read
      simp only [read] at shorter
      simp only [List.length_cons]
      omega
  · simp only [Option.some.injEq, Prod.mk.injEq] at read
    simp [← read.2]

theorem length_scanNumber? {negative : Bool} {text after : List Char} {token : Token}
    (read : scanNumber? negative text = some (token, after)) :
    after.length < text.length := by
  unfold scanNumber? at read
  split at read
  · simp at read
  · rename_i first more afterWhole whole
    have wholeLength : afterWhole.length < text.length := by
      cases text with
      | nil => simp [Digit.scan] at whole
      | cons c rest =>
          unfold Digit.scan at whole
          split at whole
          · simp only [Prod.mk.injEq] at whole
            have := Digit.length_scan_le rest
            simp only [List.length_cons, ← whole.2]
            omega
          · simp at whole
    split at read
    · simp at read
    · split at read
      · simp at read
      · rename_i fraction
        split at read
        · simp at read
        · rename_i exponent
          have := length_scanFraction? fraction
          have := length_scanExponent? exponent
          simp only [Option.some.injEq, Prod.mk.injEq] at read
          rw [← read.2]
          omega

/-- Reading a token takes its first character at least. -/
theorem Token.length_scan? {first : Char} {rest after : List Char} {token : Token}
    (read : Token.scan? first rest = some (token, after)) :
    after.length ≤ rest.length := by
  unfold Token.scan? at read
  split at read
  all_goals try
    simp only [Option.some.injEq, Prod.mk.injEq] at read
    simp only [← read.2, List.length_cons]
    omega
  · obtain ⟨found, string, equal⟩ := Option.map_eq_some_iff.1 read
    have := length_scanString? string
    simp only [Prod.mk.injEq] at equal
    rw [← equal.2]
    omega
  · exact Nat.le_of_lt (length_scanNumber? read)
  · have := length_scanNumber? read
    simp only [List.length_cons] at this
    omega

/-- Read a whole text as tokens, with whitespace allowed anywhere between them. -/
def lex : List Char → Option (List Token)
  | [] => some []
  | c :: rest =>
      if isSpace c then
        lex rest
      else
        match _read : Token.scan? c rest with
        | none => none
        | some (token, after) => (lex after).map (token :: ·)
termination_by text => text.length
decreasing_by
  · simp
  · have := Token.length_scan? _read
    simp only [List.length_cons]
    omega

end IdResolution.Json
