import IdResolution.Node.Basic

/-!
# Identifiers

A property and the value of it that identifies an entity: an external id such as
an ISO code, or the canonical id that it stands for.
-/

namespace IdResolution

/-- A property with an identifying value. -/
structure Identifier where
  property : String
  value : String
  deriving DecidableEq, Hashable, Repr

/-- The name of an identifier towards the service: property and value with a colon
between them. -/
def Identifier.sourceId (identifier : Identifier) : String :=
  identifier.property ++ ":" ++ identifier.value

/-- The identifiers that a node carries, one for each of the given properties that
has a literal with some text, in the order of the properties. -/
def Node.identifiers (node : Node) (properties : List String) : List Identifier :=
  properties.filterMap fun property =>
    (node.literal? property).map fun value => ⟨property, value⟩

instance : JsonForm Identifier where
  toJson identifier := .ofMembers
    [("prop", JsonForm.toJson identifier.property),
     ("val", JsonForm.toJson identifier.value)]
  ofJson? json := do
    let field ← json.record? ["prop", "val"]
    return ⟨← Json.required? (field "prop"), ← Json.required? (field "val")⟩

end IdResolution
