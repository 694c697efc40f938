import IdResolution.Text.Ascii

/-!
# JSON strings

The characters between the quotes of a JSON string: which may stand raw, how the
others are escaped, and how escapes of UTF-16 surrogates pair up.  A string that
leaves a surrogate unpaired is well-formed JSON, yet no text; its content is
`none`.
-/

namespace IdResolution.Json

/-- What one raw character or one escape inside a string stands for. -/
inductive Piece where
  | char (value : Char)
  /-- A UTF-16 surrogate, which stands for a character only beside its partner. -/
  | surrogate (unit : Nat)
  deriving DecidableEq, Repr

/-- The piece that an escaped UTF-16 unit stands for. -/
def Piece.ofUnit (unit : Nat) : Piece :=
  if 0xd800 ≤ unit ∧ unit ≤ 0xdfff then .surrogate unit else .char (Char.ofNat unit)

/-- The character of a high and a low surrogate in this order. -/
def pairSurrogates? (high low : Nat) : Option Char :=
  if high < 0xdc00 ∧ 0xdc00 ≤ low then
    some (Char.ofNat (0x10000 + (high - 0xd800) * 0x400 + (low - 0xdc00)))
  else
    none

/-- The characters that a row of pieces stands for; none if a surrogate has no
partner. -/
def assemble? : List Piece → Option (List Char)
  | [] => some []
  | .char c :: rest => (assemble? rest).map (c :: ·)
  | .surrogate high :: .surrogate low :: rest =>
      match pairSurrogates? high low with
      | some c => (assemble? rest).map (c :: ·)
      | none => none
  | .surrogate _ :: _ => none

/-- The characters that an escape of one letter stands for. -/
def letterEscape? : Char → Option Char
  | '"' => some '"'
  | '\\' => some '\\'
  | '/' => some '/'
  | 'b' => some '\x08'
  | 'f' => some '\x0c'
  | 'n' => some '\n'
  | 'r' => some '\r'
  | 't' => some '\t'
  | _ => none

/-- The unit that four hexadecimal digits write. -/
def hexUnit? (a b c d : Char) : Option Nat :=
  match Text.digitIn? 16 a, Text.digitIn? 16 b, Text.digitIn? 16 c, Text.digitIn? 16 d with
  | some a, some b, some c, some d => some (((a * 16 + b) * 16 + c) * 16 + d)
  | _, _, _, _ => none

/-- Read a string after its opening quote, up to and with its closing quote. -/
def scanString? : List Char → Option (List Piece × List Char)
  | [] => none
  | '"' :: rest => some ([], rest)
  | '\\' :: 'u' :: a :: b :: c :: d :: rest =>
      match hexUnit? a b c d with
      | some unit => (scanString? rest).map fun read => (.ofUnit unit :: read.1, read.2)
      | none => none
  | '\\' :: letter :: rest =>
      match letterEscape? letter with
      | some c => (scanString? rest).map fun read => (.char c :: read.1, read.2)
      | none => none
  | c :: rest =>
      if c = '\\' ∨ c.toNat < 0x20 then none
      else (scanString? rest).map fun read => (.char c :: read.1, read.2)

/-- A string is at least one character, its closing quote. -/
theorem length_scanString? {text after : List Char} {pieces : List Piece}
    (read : scanString? text = some (pieces, after)) : after.length < text.length := by
  fun_induction scanString? text generalizing pieces after with
  | case1 => simp at read
  | case2 rest =>
      simp only [Option.some.injEq, Prod.mk.injEq] at read
      simp [read.2]
  | case3 a b c d rest unit value ih =>
      obtain ⟨found, readRest, equal⟩ := Option.map_eq_some_iff.1 read
      have shorter := ih readRest
      simp only [Prod.mk.injEq] at equal
      simp only [List.length_cons, ← equal.2]
      omega
  | case4 => simp at read
  | case5 letter rest notUnit c value ih =>
      obtain ⟨found, readRest, equal⟩ := Option.map_eq_some_iff.1 read
      have shorter := ih readRest
      simp only [Prod.mk.injEq] at equal
      simp only [List.length_cons, ← equal.2]
      omega
  | case6 => simp at read
  | case7 => simp at read
  | case8 c rest _ _ _ raw ih =>
      obtain ⟨found, readRest, equal⟩ := Option.map_eq_some_iff.1 read
      have shorter := ih readRest
      simp only [Prod.mk.injEq] at equal
      simp only [List.length_cons, ← equal.2]
      omega

/-- The lower-case hexadecimal digit of a number below sixteen. -/
def hexDigit (value : Nat) : Char :=
  if value < 10 then Char.ofNat ('0'.toNat + value) else Char.ofNat ('a'.toNat + (value - 10))

/-- How a character is written inside a string: quote, backslash and the control
characters are escaped, by a letter where there is one, and all else is raw. -/
def escape (c : Char) : List Char :=
  if c = '"' then ['\\', '"']
  else if c = '\\' then ['\\', '\\']
  else if c = '\x08' then ['\\', 'b']
  else if c = '\x0c' then ['\\', 'f']
  else if c = '\n' then ['\\', 'n']
  else if c = '\r' then ['\\', 'r']
  else if c = '\t' then ['\\', 't']
  else if c.toNat < 0x20 then
    ['\\', 'u', '0', '0', hexDigit (c.toNat / 16), hexDigit (c.toNat % 16)]
  else [c]

/-- The written form of a string with the given content.  A content that is no
text is written as a lone surrogate. -/
def quote : Option String → List Char
  | some text => '"' :: text.toList.flatMap escape ++ ['"']
  | none => ['"', '\\', 'u', 'd', '8', '0', '0', '"']

end IdResolution.Json
