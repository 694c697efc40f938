import IdResolution.Proofs.Json.Grammar

/-!
# Written values

The compact text of a value is a text of the grammar, if all its numbers are written in a
way that JSON allows.  The value is therefore read back from it, however deep it nests.
-/

namespace IdResolution.Json

open Numeral (digitsText)

/-! ## Written strings -/

theorem digitIn?_hexDigit {value : Nat} (small : value < 16) :
    Text.digitIn? 16 (hexDigit value) = some value := by
  revert value
  decide

/-- A character is written inside a string as itself or by an escape of it. -/
theorem stringText_escape (c : Char) {pieces : List Piece} {text : List Char}
    (more : StringText pieces text) : StringText (.char c :: pieces) (escape c ++ text) := by
  unfold escape
  split_ifs with quotationMark backslash backspace formFeed lineFeed carriageReturn tab control
  · exact .letter (by rw [quotationMark]; rfl) more
  · exact .letter (by rw [backslash]; rfl) more
  · exact .letter (by rw [backspace]; rfl) more
  · exact .letter (by rw [formFeed]; rfl) more
  · exact .letter (by rw [lineFeed]; rfl) more
  · exact .letter (by rw [carriageReturn]; rfl) more
  · exact .letter (by rw [tab]; rfl) more
  · have unit : hexUnit? '0' '0' (hexDigit (c.toNat / 16)) (hexDigit (c.toNat % 16)) =
        some c.toNat := by
      have zero : Text.digitIn? 16 '0' = some 0 := by decide
      rw [hexUnit?, zero, digitIn?_hexDigit (by omega), digitIn?_hexDigit (by omega)]
      simp only [Option.some.injEq]
      omega
    have piece : Piece.ofUnit c.toNat = .char c := by
      rw [Piece.ofUnit, if_neg (by omega), Char.ofNat_toNat]
    rw [← piece]
    exact .unit unit more
  · exact .raw quotationMark backslash (by omega) more

theorem stringText_quoted (text : List Char) :
    StringText (text.map .char) (text.flatMap escape) := by
  induction text with
  | nil => exact .empty
  | cons c text ih => exact stringText_escape c ih

theorem decodes_map_char (text : List Char) : Decodes (text.map .char) text := by
  induction text with
  | nil => exact .nil
  | cons c text ih => exact .char ih

theorem valueText_quote (content : Option String) : ValueText (.text content) (quote content) := by
  cases content with
  | none =>
      have lone : StringText [.ofUnit 0xd800] ['\\', 'u', 'd', '8', '0', '0'] := .unit rfl .empty
      exact .text lone
  | some text =>
      have quoted := ValueText.text (stringText_quoted text.toList)
      rwa [content?, assemble?_eq_some_iff.mpr (decodes_map_char _), Option.map_some,
        String.ofList_toList] at quoted

/-! ## Written numbers -/

/-- A strict numeral is written as a number. -/
theorem numberText_text {numeral : Numeral} (strict : numeral.Strict) :
    NumberText numeral numeral.text := by
  have fractional : FractionText numeral.fraction
      (if numeral.fraction.isEmpty then [] else '.' :: digitsText numeral.fraction) := by
    split_ifs with none
    · rw [List.isEmpty_iff.mp none]
      exact .absent
    · exact .present (by simpa using none)
  have exponential : ExponentText numeral.exponent
      (if numeral.exponent = 0 then []
        else 'e' :: (if numeral.exponent < 0 then ['-'] else []) ++
          digitsText (Digit.ofNat numeral.exponent.natAbs)) := by
    split_ifs with zero negative
    · rw [zero]
      exact .absent
    · have written := ExponentText.present (.inl rfl) .minus
        (Digit.ofNat_ne_nil (Int.natAbs_ne_zero.mpr zero))
      rw [if_pos rfl, Digit.value_ofNat, Int.ofNat_natAbs_of_nonpos negative.le, neg_neg]
        at written
      exact written
    · have written := ExponentText.present (.inl rfl) .absent
        (Digit.ofNat_ne_nil (Int.natAbs_ne_zero.mpr zero))
      rw [if_neg Bool.false_ne_true, Digit.value_ofNat, Int.natAbs_of_nonneg (not_lt.mp negative)]
        at written
      exact written
  rw [Numeral.text, List.append_assoc, List.append_assoc]
  exact .signed (.parts strict fractional exponential)

/-! ## Written values -/

/-- Every number in a value is written in a way that JSON allows. -/
def Strict (value : Json) : Prop :=
  ∀ numeral, Token.number numeral ∈ value.tokens → numeral.Strict

/-- Every number among some tokens is written in this way. -/
def AllStrict (tokens : List Token) : Prop :=
  ∀ numeral, Token.number numeral ∈ tokens → numeral.Strict

namespace AllStrict

variable {token : Token} {tokens others : List Token}

theorem left (strict : AllStrict (tokens ++ others)) : AllStrict tokens :=
  fun numeral within => strict numeral (List.mem_append_left _ within)

theorem right (strict : AllStrict (tokens ++ others)) : AllStrict others :=
  fun numeral within => strict numeral (List.mem_append_right _ within)

theorem tail (strict : AllStrict (token :: tokens)) : AllStrict tokens :=
  fun numeral within => strict numeral (List.mem_cons_of_mem _ within)

end AllStrict

/-- The written form of a row of tokens. -/
def spelled (tokens : List Token) : List Char :=
  tokens.flatMap Token.spelling

theorem spelled_singleton (token : Token) : spelled [token] = token.spelling :=
  List.append_nil _

theorem spelled_cons (token : Token) (rest : List Token) :
    spelled (token :: rest) = token.spelling ++ spelled rest :=
  rfl

theorem spelled_append (tokens others : List Token) :
    spelled (tokens ++ others) = spelled tokens ++ spelled others :=
  List.flatMap_append

theorem ElementText.plain {value : Json} {text : List Char} (written : ValueText value text) :
    ElementText value text := by
  have padded := ElementText.padded blank_nil written blank_nil
  rwa [List.append_nil, List.nil_append] at padded

theorem keyText_quote (key : Option String) : KeyText key (quote key) := by
  have quoted := valueText_quote key
  generalize quote key = text at quoted
  cases quoted with
  | text string => exact .padded blank_nil string blank_nil

/-- A value with strict numbers is written by a text of the grammar. -/
theorem valueText_spelled (value : Json) (strict : value.Strict) :
    ValueText value (spelled value.tokens) := by
  revert strict
  apply inductionOnRows
    (fun value => AllStrict value.tokens → ValueText value (spelled value.tokens))
    (fun items => AllStrict (itemTokens items) → items ≠ [] →
      ItemsText items (spelled (itemTokens items)))
    (fun members => AllStrict (memberTokens members) → members ≠ [] →
      MembersText members (spelled (memberTokens members)))
  case null => exact fun _ => .null
  case bool =>
    intro flag _
    cases flag
    · exact .false
    · exact .true
  case number =>
    intro numeral strict
    rw [tokens, spelled_singleton]
    exact .number (numberText_text (strict numeral (.head _)))
  case text =>
    intro content _
    rw [tokens, spelled_singleton]
    exact valueText_quote content
  case array =>
    intro items written strict
    rw [tokens_array] at strict ⊢
    rw [spelled_cons, spelled_append, spelled_singleton]
    cases items with
    | nil => exact .emptyArray blank_nil
    | cons item rest => exact .array (written strict.tail.left (List.cons_ne_nil _ _))
  case object =>
    intro members written strict
    rw [tokens_object] at strict ⊢
    rw [spelled_cons, spelled_append, spelled_singleton]
    cases members with
    | nil => exact .emptyObject blank_nil
    | cons member rest => exact .object (written strict.tail.left (List.cons_ne_nil _ _))
  case noItems => exact fun _ nonempty => absurd rfl nonempty
  case lastItem => exact fun item written strict _ => .last (.plain (written strict))
  case nextItem =>
    intro item next rest written writtenOthers strict _
    rw [itemTokens_cons] at strict ⊢
    rw [spelled_append, spelled_cons]
    exact .next (.plain (written strict.left))
      (writtenOthers strict.right.tail (List.cons_ne_nil _ _))
  case noMembers => exact fun _ nonempty => absurd rfl nonempty
  case lastMember =>
    intro key value written strict _
    rw [memberTokens_singleton] at strict ⊢
    exact .last (keyText_quote key) (.plain (written strict.tail.tail))
  case nextMember =>
    intro key value next rest written writtenOthers strict _
    rw [memberTokens_cons] at strict ⊢
    rw [spelled_append, spelled_cons, spelled_cons, spelled_cons, List.append_assoc]
    exact .next (keyText_quote key) (.plain (written strict.left.tail.tail))
      (writtenOthers strict.right.tail (List.cons_ne_nil _ _))

/-- A value with strict numbers is read back from its text. -/
theorem parse?_write {value : Json} (strict : value.Strict) : parse? value.write = some value := by
  rw [parse?_eq_some_iff, write, String.toList_ofList, spelling, ← spelled]
  exact .plain (valueText_spelled value strict)

end IdResolution.Json
