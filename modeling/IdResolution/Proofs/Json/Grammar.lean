import IdResolution.Proofs.Json.Reader
import IdResolution.Proofs.Json.Token

/-!
# The grammar of JSON texts

A JSON text is an element: a value with whitespace on either side.  Values are literals,
numbers, strings, and the elements or members between brackets.  The parser accepts the
texts of this grammar, however deep they nest, and finds the tree that they spell.
-/

namespace IdResolution.Json

/-- Text that consists of whitespace. -/
def Blank (text : List Char) : Prop :=
  ∀ c ∈ text, isSpace c = true

theorem blank_nil : Blank [] := by
  simp [Blank]

/-- A key with whitespace on either side. -/
inductive KeyText : Option String → List Char → Prop where
  | padded {before body after : List Char} {pieces : List Piece} (leading : Blank before)
      (string : StringText pieces body) (trailing : Blank after) :
      KeyText (content? pieces) (before ++ '"' :: (body ++ '"' :: after))

mutual

/-- The text of a value from its first to its last character. -/
inductive ValueText : Json → List Char → Prop where
  | null : ValueText .null ['n', 'u', 'l', 'l']
  | true : ValueText (.bool true) ['t', 'r', 'u', 'e']
  | false : ValueText (.bool false) ['f', 'a', 'l', 's', 'e']
  | number {numeral : Numeral} {text : List Char} (written : NumberText numeral text) :
      ValueText (.number numeral) text
  | text {pieces : List Piece} {body : List Char} (string : StringText pieces body) :
      ValueText (.text (content? pieces)) ('"' :: (body ++ ['"']))
  | emptyArray {space : List Char} (blank : Blank space) :
      ValueText (.array []) ('[' :: (space ++ [']']))
  | array {items : List Json} {text : List Char} (within : ItemsText items text) :
      ValueText (.array items) ('[' :: (text ++ [']']))
  | emptyObject {space : List Char} (blank : Blank space) :
      ValueText (.object []) ('{' :: (space ++ ['}']))
  | object {members : List (Option String × Json)} {text : List Char}
      (within : MembersText members text) : ValueText (.object members) ('{' :: (text ++ ['}']))

/-- A value with whitespace on either side. -/
inductive ElementText : Json → List Char → Prop where
  | padded {value : Json} {before text after : List Char} (leading : Blank before)
      (spelled : ValueText value text) (trailing : Blank after) :
      ElementText value (before ++ (text ++ after))

/-- Elements with commas between them. -/
inductive ItemsText : List Json → List Char → Prop where
  | last {item : Json} {text : List Char} (element : ElementText item text) :
      ItemsText [item] text
  | next {item : Json} {text more : List Char} {rest : List Json}
      (element : ElementText item text) (others : ItemsText rest more) :
      ItemsText (item :: rest) (text ++ ',' :: more)

/-- Keys and elements with commas between them. -/
inductive MembersText : List (Option String × Json) → List Char → Prop where
  | last {key : Option String} {value : Json} {keyText text : List Char}
      (named : KeyText key keyText) (element : ElementText value text) :
      MembersText [(key, value)] (keyText ++ ':' :: text)
  | next {key : Option String} {value : Json} {keyText text more : List Char}
      {rest : List (Option String × Json)} (named : KeyText key keyText)
      (element : ElementText value text) (others : MembersText rest more) :
      MembersText ((key, value) :: rest) (keyText ++ ':' :: (text ++ ',' :: more))

end

/-! ## Whitespace and tokens -/

theorem Written.blank {tokens : List Token} {text space : List Char} (blank : Blank space)
    (written : Written tokens text) : Written tokens (space ++ text) := by
  induction space with
  | nil => exact written
  | cons c rest ih =>
      obtain ⟨first, others⟩ := List.forall_mem_cons.mp blank
      exact .space first (ih others)

/-- A text with a token left has whitespace, then a word of the token. -/
theorem Written.uncons {token : Token} {tokens : List Token} {text : List Char}
    (written : Written (token :: tokens) text) :
    ∃ space word after, text = space ++ (word ++ after) ∧ Blank space ∧ Word token word ∧
      Written tokens after := by
  generalize same : token :: tokens = row at written
  induction written with
  | ended => contradiction
  | space isSpace _ ih =>
      obtain ⟨space, word, after, rfl, blank, isWord, more⟩ := ih same
      exact ⟨_ :: space, word, after, rfl, List.forall_mem_cons.mpr ⟨isSpace, blank⟩, isWord, more⟩
  | word isWord _ more _ =>
      obtain ⟨rfl, rfl⟩ := List.cons.inj same
      exact ⟨[], _, _, rfl, blank_nil, isWord, more⟩

theorem written_nil_iff {text : List Char} : Written [] text ↔ Blank text := by
  constructor
  · intro written
    generalize same : ([] : List Token) = row at written
    induction written with
    | ended => exact blank_nil
    | space isSpace _ ih => exact List.forall_mem_cons.mpr ⟨isSpace, ih same⟩
    | word => contradiction
  · intro blank
    have written := Written.ended.blank blank
    rwa [List.append_nil] at written

/-- A number ends at whitespace and at whatever it ends at behind that. -/
theorem NumberEnded.blank {space text : List Char} (blank : Blank space)
    (ended : NumberEnded text) : NumberEnded (space ++ text) := by
  cases space with
  | nil => exact ended
  | cons first rest =>
      intro c starts
      obtain rfl := Option.some.inj starts
      have space := blank first (.head _)
      simp only [isSpace, Bool.or_eq_true, decide_eq_true_eq] at space
      rcases space with ((rfl | rfl) | rfl) | rfl <;> decide

/-- The tokens that stand between keys and values and after them, with the characters that
write them. -/
inductive Separates : Token → Char → Prop where
  | comma : Separates .comma ','
  | colon : Separates .colon ':'
  | closeArray : Separates .closeArray ']'
  | closeObject : Separates .closeObject '}'

namespace Separates

variable {token : Token} {c : Char}

theorem notNumber (separates : Separates token c) (numeral : Numeral) :
    token ≠ .number numeral := by
  cases separates <;> simp

theorem word (separates : Separates token c) : Word token [c] := by
  cases separates <;> exact .symbol (by simp) (by simp)

/-- A number ends before a separator. -/
theorem numberEnded (separates : Separates token c) (rest : List Char) :
    NumberEnded (c :: rest) := by
  intro first starts
  obtain rfl := Option.some.inj starts
  cases separates <;> decide

end Separates

/-! ## From the grammar to tokens -/

/-- A text spells some tokens, wherever nothing follows that a number could run into. -/
def Spells (tokens : List Token) (text : List Char) : Prop :=
  ∀ (others : List Token) (rest : List Char), NumberEnded rest → Written others rest →
    Written (tokens ++ others) (text ++ rest)

namespace Spells

variable {tokens others : List Token} {text more : List Char} {token : Token}

theorem nil : Spells [] [] :=
  fun _ _ _ written => written

theorem word {word : List Char} (isWord : Word token word) : Spells [token] word :=
  fun _ _ ended written => .word isWord (fun _ => ended) written

/-- A token that is no number is spelled before anything. -/
theorem cons {word : List Char} (isWord : Word token word)
    (notNumber : ∀ numeral, token ≠ .number numeral) (following : Spells tokens text) :
    Spells (token :: tokens) (word ++ text) := by
  intro others rest ended written
  rw [List.append_assoc]
  exact .word isWord (fun ⟨numeral, same⟩ => absurd same (notNumber numeral))
    (following others rest ended written)

theorem blank {space : List Char} (isBlank : Blank space) (following : Spells tokens text) :
    Spells tokens (space ++ text) := by
  intro others rest ended written
  rw [List.append_assoc]
  exact (following others rest ended written).blank isBlank

theorem trailing {space : List Char} (isBlank : Blank space) (before : Spells tokens text) :
    Spells tokens (text ++ space) := by
  intro others rest ended written
  rw [List.append_assoc]
  exact before others _ (ended.blank isBlank) (written.blank isBlank)

theorem separated {c : Char} (before : Spells tokens text) (separates : Separates token c)
    (following : Spells others more) : Spells (tokens ++ token :: others) (text ++ c :: more) := by
  intro last rest ended written
  have next := cons separates.word separates.notNumber following last rest ended written
  rw [List.append_assoc, List.append_assoc]
  exact before _ _ (separates.numberEnded _) next

end Spells

theorem KeyText.spells {key : Option String} {text : List Char} (named : KeyText key text) :
    Spells [.text key] text := by
  obtain ⟨leading, string, trailing⟩ := named
  have quoted := (Spells.word (.text string)).trailing trailing
  rw [List.cons_append, List.append_assoc] at quoted
  exact quoted.blank leading

/-- A text of the grammar spells the tokens of its value. -/
theorem ValueText.spells (value : Json) :
    ∀ text, ValueText value text → Spells value.tokens text := by
  have element {item : Json} (spells : ∀ text, ValueText item text → Spells item.tokens text)
      {text : List Char} (spelled : ElementText item text) : Spells item.tokens text := by
    obtain ⟨leading, spelled, trailing⟩ := spelled
    exact ((spells _ spelled).trailing trailing).blank leading
  have pair {key : Option String} {value : Json} {keyText text : List Char}
      (named : KeyText key keyText) (spells : Spells value.tokens text) :
      Spells (.text key :: .colon :: value.tokens) (keyText ++ ':' :: text) :=
    named.spells.separated .colon spells
  apply inductionOnRows (fun value => ∀ text, ValueText value text → Spells value.tokens text)
    (fun items => ∀ text, ItemsText items text → Spells (itemTokens items) text)
    (fun members => ∀ text, MembersText members text → Spells (memberTokens members) text)
  case null =>
    rintro text ⟨⟩
    exact .word (.symbol (by simp) (by simp))
  case bool =>
    rintro flag text ⟨⟩
    all_goals exact .word (.symbol (by simp) (by simp))
  case number =>
    rintro numeral text ⟨⟩
    rename_i written
    exact .word (.number written)
  case text =>
    rintro content text ⟨⟩
    rename_i string
    exact .word (.text string)
  case array =>
    rintro items spells text spelled
    have opens : Word .openArray ['['] := .symbol (by simp) (by simp)
    cases spelled with
    | emptyArray isBlank =>
        exact .cons opens (by simp) ((Spells.word Separates.closeArray.word).blank isBlank)
    | array within => exact .cons opens (by simp) ((spells _ within).separated .closeArray .nil)
  case object =>
    rintro members spells text spelled
    have opens : Word .openObject ['{'] := .symbol (by simp) (by simp)
    cases spelled with
    | emptyObject isBlank =>
        exact .cons opens (by simp) ((Spells.word Separates.closeObject.word).blank isBlank)
    | object within => exact .cons opens (by simp) ((spells _ within).separated .closeObject .nil)
  case noItems =>
    rintro text ⟨⟩
  case lastItem =>
    rintro item spells text spelled
    cases spelled with
    | last spelled => exact element spells spelled
    | next _ others => cases others
  case nextItem =>
    rintro item next rest spells spellsOthers text spelled
    cases spelled with
    | next spelled others =>
        exact (element spells spelled).separated .comma (spellsOthers _ others)
  case noMembers =>
    rintro text ⟨⟩
  case lastMember =>
    rintro key value spells text spelled
    cases spelled with
    | last named spelled => exact pair named (element spells spelled)
    | next _ _ others => cases others
  case nextMember =>
    rintro key value next rest spells spellsOthers text spelled
    cases spelled with
    | next named spelled others =>
        have spellsPair := pair named (element spells spelled)
        have both := spellsPair.separated .comma (spellsOthers _ others)
        rw [List.append_assoc] at both
        exact both

/-! ## From tokens to the grammar -/

theorem word_symbol {token : Token} {word : List Char} (isWord : Word token word)
    (notNumber : ∀ numeral, token ≠ .number numeral)
    (notText : ∀ content, token ≠ .text content) : word = token.spelling := by
  cases isWord with
  | symbol => rfl
  | number => exact absurd rfl (notNumber _)
  | text => exact absurd rfl (notText _)

/-- A text with a symbol left has whitespace, then the symbol. -/
theorem Written.symbol {token : Token} {tokens : List Token} {text : List Char}
    (written : Written (token :: tokens) text) (notNumber : ∀ numeral, token ≠ .number numeral)
    (notText : ∀ content, token ≠ .text content) :
    ∃ space after, text = space ++ (token.spelling ++ after) ∧ Blank space ∧
      Written tokens after := by
  obtain ⟨space, word, after, rfl, blank, isWord, more⟩ := written.uncons
  exact ⟨space, after, by rw [word_symbol isWord notNumber notText], blank, more⟩

theorem Written.separator {token : Token} {c : Char} (separates : Separates token c)
    {tokens : List Token} {text : List Char} (written : Written (token :: tokens) text) :
    ∃ space after, text = space ++ c :: after ∧ Blank space ∧ Written tokens after := by
  cases separates <;> exact written.symbol (by simp) (by simp)

/-- Where tokens are spelled, there is a text of a value after some whitespace. -/
def HasValue (value : Json) : Prop :=
  ∀ others text, Written (value.tokens ++ others) text →
    ∃ space word after, text = space ++ (word ++ after) ∧ Blank space ∧ ValueText value word ∧
      Written others after

/-- Where tokens are spelled with a separator behind them, a text with some property stands
before the separator. -/
def HasBefore (tokens : List Token) (token : Token) (c : Char)
    (property : List Char → Prop) : Prop :=
  ∀ others text, Written (tokens ++ token :: others) text →
    ∃ body after, text = body ++ c :: after ∧ property body ∧ Written others after

theorem hasValue_of_word {value : Json} {token : Token} (same : value.tokens = [token])
    (spelled : ∀ word, Word token word → ValueText value word) : HasValue value := by
  intro others text written
  rw [same] at written
  obtain ⟨space, word, after, split, blank, isWord, more⟩ := written.uncons
  exact ⟨space, word, after, split, blank, spelled word isWord, more⟩

theorem HasValue.element {value : Json} (hasValue : HasValue value) {token : Token} {c : Char}
    (separates : Separates token c) : HasBefore value.tokens token c (ElementText value) := by
  intro others text written
  obtain ⟨leading, word, after, rfl, isLeading, spelled, more⟩ := hasValue _ text written
  obtain ⟨trailing, last, rfl, isTrailing, rest⟩ := more.separator separates
  exact ⟨_, last, by simp, .padded isLeading spelled isTrailing, rest⟩

theorem hasKey (key : Option String) : HasBefore [.text key] .colon ':' (KeyText key) := by
  intro others text written
  obtain ⟨leading, word, after, rfl, isLeading, isWord, more⟩ := written.uncons
  obtain ⟨trailing, last, rfl, isTrailing, rest⟩ := more.separator .colon
  cases isWord with
  | symbol _ notText => exact absurd rfl (notText key)
  | text string => exact ⟨_, last, by simp, .padded isLeading string isTrailing, rest⟩

/-- A container has its items or members between its brackets. -/
theorem hasValue_container {value : Json} {opening closing : Token} {c : Char}
    {within : List Token} {property : List Char → Prop}
    (tokens : value.tokens = opening :: (within ++ [closing]))
    (notNumber : ∀ numeral, opening ≠ .number numeral)
    (notText : ∀ content, opening ≠ .text content)
    (has : HasBefore within closing c property)
    (spelled : ∀ body, property body → ValueText value (opening.spelling ++ (body ++ [c]))) :
    HasValue value := by
  intro others text written
  rw [tokens, List.cons_append, List.append_assoc, List.singleton_append] at written
  obtain ⟨space, inside, rfl, blank, more⟩ := written.symbol notNumber notText
  obtain ⟨body, after, rfl, holds, rest⟩ := has others inside more
  exact ⟨space, _, after, by simp, blank, spelled body holds, rest⟩

theorem hasBefore_nil {token : Token} {c : Char} (separates : Separates token c) :
    HasBefore [] token c Blank := by
  intro others text written
  obtain ⟨space, after, split, blank, rest⟩ := written.separator separates
  exact ⟨space, after, split, blank, rest⟩

/-- Where the tokens of a value are spelled, there is a text of the value. -/
theorem hasValue (value : Json) : HasValue value := by
  have pair (key : Option String) {value : Json} (has : HasValue value) {token : Token} {c : Char}
      (separates : Separates token c) :
      HasBefore (.text key :: .colon :: value.tokens) token c fun body =>
        ∃ keyText text, body = keyText ++ ':' :: text ∧ KeyText key keyText ∧
          ElementText value text := by
    intro others text written
    obtain ⟨keyText, rest, rfl, named, more⟩ := hasKey key _ text written
    obtain ⟨element, after, rfl, spelled, last⟩ := has.element separates others rest more
    exact ⟨_, after, by simp, ⟨keyText, element, rfl, named, spelled⟩, last⟩
  apply inductionOnRows HasValue
    (fun items => items ≠ [] → HasBefore (itemTokens items) .closeArray ']' (ItemsText items))
    (fun members => members ≠ [] →
      HasBefore (memberTokens members) .closeObject '}' (MembersText members))
  case null =>
    refine hasValue_of_word rfl fun word isWord => ?_
    rw [word_symbol isWord (by simp) (by simp)]
    exact .null
  case bool =>
    refine fun flag => hasValue_of_word rfl fun word isWord => ?_
    rw [word_symbol isWord (by simp) (by simp)]
    cases flag
    · exact .false
    · exact .true
  case number =>
    refine fun numeral => hasValue_of_word rfl fun word isWord => ?_
    cases isWord with
    | symbol notNumber => exact absurd rfl (notNumber numeral)
    | number written => exact .number written
  case text =>
    refine fun content => hasValue_of_word rfl fun word isWord => ?_
    cases isWord with
    | symbol _ notText => exact absurd rfl (notText content)
    | text string => exact .text string
  case array =>
    intro items within
    cases items with
    | nil =>
        exact hasValue_container rfl (by simp) (by simp) (hasBefore_nil .closeArray)
          fun _ => .emptyArray
    | cons item rest =>
        exact hasValue_container rfl (by simp) (by simp) (within (List.cons_ne_nil _ _))
          fun _ => .array
  case object =>
    intro members within
    cases members with
    | nil =>
        exact hasValue_container rfl (by simp) (by simp) (hasBefore_nil .closeObject)
          fun _ => .emptyObject
    | cons member rest =>
        exact hasValue_container rfl (by simp) (by simp) (within (List.cons_ne_nil _ _))
          fun _ => .object
  case noItems => exact fun nonempty => absurd rfl nonempty
  case lastItem =>
    intro item has _ others text written
    obtain ⟨body, after, split, spelled, rest⟩ := has.element .closeArray others text written
    exact ⟨body, after, split, .last spelled, rest⟩
  case nextItem =>
    intro item next rest has hasOthers _ others text written
    rw [itemTokens_cons, List.append_assoc] at written
    obtain ⟨body, more, rfl, spelled, following⟩ := has.element .comma _ text written
    obtain ⟨bodies, after, rfl, items, last⟩ :=
      hasOthers (List.cons_ne_nil _ _) others more following
    exact ⟨_, after, by simp, .next spelled items, last⟩
  case noMembers => exact fun nonempty => absurd rfl nonempty
  case lastMember =>
    intro key value has _ others text written
    obtain ⟨_, after, rfl, ⟨keyText, body, rfl, named, spelled⟩, rest⟩ :=
      pair key has .closeObject others text written
    exact ⟨_, after, rfl, .last named spelled, rest⟩
  case nextMember =>
    intro key value next rest has hasOthers _ others text written
    rw [memberTokens_cons, List.append_assoc] at written
    obtain ⟨_, more, rfl, ⟨keyText, body, rfl, named, spelled⟩, following⟩ :=
      pair key has .comma _ text written
    obtain ⟨bodies, after, rfl, members, last⟩ :=
      hasOthers (List.cons_ne_nil _ _) others more following
    exact ⟨_, after, by simp, .next named spelled members, last⟩

/-- The parser accepts the elements of the grammar, and finds the tree that they spell. -/
theorem parse?_eq_some_iff {text : String} {tree : Json} :
    parse? text = some tree ↔ ElementText tree text.toList := by
  have read : parse? text = some tree ↔ Written tree.tokens text.toList := by
    rw [← lex_eq_some_iff, parse?]
    cases lex text.toList with
    | none => simp
    | some tokens => simp [ofTokens?_eq_some_iff]
  rw [read]
  generalize text.toList = chars
  constructor
  · intro written
    rw [← List.append_nil tree.tokens] at written
    obtain ⟨space, word, after, split, blank, spelled, rest⟩ := hasValue tree [] chars written
    rw [split]
    exact .padded blank spelled (written_nil_iff.mp rest)
  · rintro ⟨leading, spelled, trailing⟩
    have ended : NumberEnded [] := by simp [NumberEnded]
    have written := ((ValueText.spells tree _ spelled).trailing trailing).blank leading
    have whole := written [] [] ended .ended
    rwa [List.append_nil, List.append_nil] at whole

end IdResolution.Json
