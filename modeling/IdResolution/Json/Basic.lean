import IdResolution.Json.Token

/-!
# JSON values

A JSON value as the tree that its tokens spell.  `Json.tokens` lists the tokens
of a tree and `Json.ofTokens?` reads them back; the reader keeps the containers
that are still open in a list, so that values may nest to any depth.
-/

namespace IdResolution

/-- A JSON value.  Members of an object keep their order and may share a key; a
string or key whose surrogates do not pair up has no content. -/
inductive Json where
  | null
  | bool (value : Bool)
  | number (value : Numeral)
  | text (content : Option String)
  | array (items : List Json)
  | object (members : List (Option String × Json))

namespace Json

mutual

/-- The tokens of a value, from left to right. -/
def tokens : Json → List Token
  | .null => [.null]
  | .bool value => [.bool value]
  | .number value => [.number value]
  | .text content => [.text content]
  | .array items => .openArray :: itemTokens items ++ [.closeArray]
  | .object members => .openObject :: memberTokens members ++ [.closeObject]

/-- The tokens between the brackets of an array. -/
def itemTokens : List Json → List Token
  | [] => []
  | [item] => item.tokens
  | item :: next :: rest => item.tokens ++ .comma :: itemTokens (next :: rest)

/-- The tokens between the braces of an object. -/
def memberTokens : List (Option String × Json) → List Token
  | [] => []
  | [(key, value)] => .text key :: .colon :: value.tokens
  | (key, value) :: next :: rest =>
      .text key :: .colon :: value.tokens ++ .comma :: memberTokens (next :: rest)

end

/-- The compact text of a value. -/
def spelling (value : Json) : List Char :=
  value.tokens.flatMap Token.spelling

/-- A container that has been opened and waits for the value being read.  What it
holds so far stands with the last first. -/
inductive Frame where
  | array (items : List Json)
  | member (members : List (Option String × Json)) (key : Option String)

/-- Where a reader of tokens stands, with the open containers around it from the
innermost outwards. -/
inductive Place where
  /-- A value has to follow. -/
  | atValue (outer : List Frame)
  /-- An array was just opened. -/
  | arrayStart (outer : List Frame)
  /-- An item of an array was just read. -/
  | afterItem (items : List Json) (outer : List Frame)
  /-- An object was just opened. -/
  | objectStart (outer : List Frame)
  /-- The key of a further member has to follow. -/
  | atKey (members : List (Option String × Json)) (outer : List Frame)
  /-- The colon after a key has to follow. -/
  | atColon (members : List (Option String × Json)) (key : Option String) (outer : List Frame)
  /-- A member of an object was just read. -/
  | afterMember (members : List (Option String × Json)) (outer : List Frame)
  /-- The whole value has been read. -/
  | done (value : Json)

/-- The place after a value has been completed inside the given containers. -/
def Place.complete (value : Json) : List Frame → Place
  | [] => .done value
  | .array items :: outer => .afterItem (value :: items) outer
  | .member members key :: outer => .afterMember ((key, value) :: members) outer

/-- Read the first token of a value. -/
def Place.begin? (outer : List Frame) : Token → Option Place
  | .null => some (.complete .null outer)
  | .bool value => some (.complete (.bool value) outer)
  | .number value => some (.complete (.number value) outer)
  | .text content => some (.complete (.text content) outer)
  | .openArray => some (.arrayStart outer)
  | .openObject => some (.objectStart outer)
  | _ => none

/-- Read one token. -/
def Place.step? : Place → Token → Option Place
  | .atValue outer, token => begin? outer token
  | .arrayStart outer, .closeArray => some (.complete (.array []) outer)
  | .arrayStart outer, token => begin? (.array [] :: outer) token
  | .afterItem items outer, .comma => some (.atValue (.array items :: outer))
  | .afterItem items outer, .closeArray => some (.complete (.array items.reverse) outer)
  | .objectStart outer, .closeObject => some (.complete (.object []) outer)
  | .objectStart outer, .text key => some (.atColon [] key outer)
  | .atKey members outer, .text key => some (.atColon members key outer)
  | .atColon members key outer, .colon => some (.atValue (.member members key :: outer))
  | .afterMember members outer, .comma => some (.atKey members outer)
  | .afterMember members outer, .closeObject =>
      some (.complete (.object members.reverse) outer)
  | _, _ => none

/-- The value that a row of tokens spells, if it spells exactly one. -/
def ofTokens? (tokens : List Token) : Option Json :=
  match tokens.foldlM Place.step? (.atValue []) with
  | some (.done value) => some value
  | _ => none

/-- The value that a text spells, with whitespace around and between its tokens. -/
def parse? (text : String) : Option Json :=
  match lex text.toList with
  | some tokens => ofTokens? tokens
  | none => none

/-- The compact text of a value. -/
def write (value : Json) : String :=
  String.ofList value.spelling

end Json

end IdResolution
