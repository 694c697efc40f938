import IdResolution.Text.Blank
import IdResolution.Json.Form

/-!
# Typed values

A property of a node has values in text form, each with a kind that says how its
text may be understood.  Only numbers and free text are literals; the text of any
other kind identifies nothing.
-/

namespace IdResolution

/-- How the text of a value is to be understood. -/
inductive Kind where
  | number
  | text
  /-- A reference to an entity that already has a canonical id. -/
  | resolved
  /-- A reference to a node of the same import. -/
  | unresolved
  | date
  | boolean
  | unknown
  deriving DecidableEq, Repr

namespace Kind

/-- Every kind, each once. -/
def all : List Kind :=
  [.number, .text, .resolved, .unresolved, .date, .boolean, .unknown]

/-- The name of a kind in JSON. -/
def name : Kind → String
  | .number => "number"
  | .text => "text"
  | .resolved => "resolved"
  | .unresolved => "unresolved"
  | .date => "date"
  | .boolean => "boolean"
  | .unknown => "unknown"

/-- The kind with a given name. -/
def ofName? (name : String) : Option Kind :=
  all.find? fun kind => kind.name == name

/-- The literal kinds, whose text may be a number or an id. -/
def isLiteral : Kind → Bool
  | .number | .text => true
  | _ => false

@[simp] theorem ofName?_name (kind : Kind) : ofName? kind.name = some kind := by
  cases kind <;> rfl

end Kind

/-- A kind is written as its name.  It may also be given as an object whose one
member has the name as its key and `null` as its value. -/
instance : JsonForm Kind where
  toJson kind := .text (some kind.name)
  ofJson?
    | .text (some name) => Kind.ofName? name
    | .object [(some name, .null)] => Kind.ofName? name
    | _ => none

/-- A value of a property. -/
structure Value where
  kind : Kind
  text : String
  deriving DecidableEq, Repr

namespace Value

/-- The trimmed text of a literal that is not blank. -/
def literal? (value : Value) : Option String :=
  if value.kind.isLiteral then
    let trimmed := Text.trim value.text
    if trimmed = "" then none else some trimmed
  else
    none

/-- The finite number that a literal writes, rounded to the nearest binary64
number. -/
def number? (value : Value) : Option Binary64 :=
  if value.kind.isLiteral then
    match Numeral.ofText? (Text.trimBlanks value.text.toList) with
    | some numeral =>
        let x := Binary64.ofNumeral numeral
        if x.isFinite then some x else none
    | none => none
  else
    none

end Value

instance : JsonForm Value where
  toJson value := .ofMembers
    [("type", JsonForm.toJson value.kind), ("value", JsonForm.toJson value.text)]
  ofJson? json := do
    let field ← json.record? ["type", "value"]
    return ⟨← Json.required? (field "type"), ← Json.required? (field "value")⟩

end IdResolution
