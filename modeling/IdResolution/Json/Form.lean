import IdResolution.Json.Number

/-!
# Types with a JSON form

A type with a JSON form has a value written for each of its elements and a reader
that accepts the shapes it may be given in.  A record may be given as an object,
with its fields in any order among unknown ones, or as an array of its fields in
order.
-/

namespace IdResolution

/-- How the elements of a type are written in JSON, and which values are read as
elements of it. -/
class JsonForm (α : Type) where
  toJson : α → Json
  ofJson? : Json → Option α

namespace JsonForm

variable {α : Type} [JsonForm α]

/-- The compact JSON text of an element. -/
def encode (a : α) : String :=
  (toJson a).write

/-- The element that a JSON text gives. -/
def decode? (text : String) : Option α :=
  match Json.parse? text with
  | some value => ofJson? value
  | none => none

end JsonForm

instance : JsonForm String where
  toJson text := .text (some text)
  ofJson?
    | .text content => content
    | _ => none

instance : JsonForm Binary64 where
  toJson := Json.ofBinary64
  ofJson?
    | .number numeral => Json.readNumber? numeral
    | _ => none

instance {α : Type} [JsonForm α] : JsonForm (List α) where
  toJson elements := .array (elements.map JsonForm.toJson)
  ofJson?
    | .array items => items.mapM JsonForm.ofJson?
    | _ => none

namespace Json

/-- An object with the given members. -/
def ofMembers (members : List (String × Json)) : Json :=
  .object (members.map fun member => (some member.1, member.2))

/-- Every key of an object is a text, and no field of a record occurs twice. -/
def namesFields (fields : List String) (members : List (Option String × Json)) : Bool :=
  members.all (·.1.isSome) &&
    fields.all fun field => members.countP (·.1 == some field) ≤ 1

/-- The fields that a value gives to a record with the given field names; a field
that is left out has no value. -/
def record? (fields : List String) : Json → Option (String → Option Json)
  | .object members =>
      if namesFields fields members then some fun field => members.lookup (some field)
      else none
  | .array items =>
      if items.length ≤ fields.length then some fun field => items[fields.idxOf field]?
      else none
  | _ => none

variable {α : Type} [JsonForm α]

/-- Read a field that has to be given. -/
def required? : Option Json → Option α
  | some value => JsonForm.ofJson? value
  | none => none

/-- Read a field that has a default. -/
def optional? (default : α) : Option Json → Option α
  | some value => JsonForm.ofJson? value
  | none => some default

end Json

end IdResolution
