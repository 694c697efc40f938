import IdResolution.Node.Basic

/-!
# Coordinates

A place on the map as the key of a node.  Two coordinates are the same key exactly
when both their numbers have the same bits.
-/

namespace IdResolution

/-- A latitude and a longitude in decimal degrees. -/
structure Coordinate where
  latitude : Binary64
  longitude : Binary64
  deriving DecidableEq, Hashable, Repr

/-- The coordinate that a node carries: of latitude and longitude the first value
each that is a finite number.  Any finite number will do, also one that is out of
range on the map. -/
def Node.coordinate? (node : Node) : Option Coordinate :=
  match node.number? Vocabulary.latitude, node.number? Vocabulary.longitude with
  | some latitude, some longitude => some ⟨latitude, longitude⟩
  | _, _ => none

/-- The plain text of a coordinate. -/
def Coordinate.label (coordinate : Coordinate) : String :=
  s!"({coordinate.latitude.plainText}, {coordinate.longitude.plainText})"

instance : JsonForm Coordinate where
  toJson coordinate := .ofMembers
    [("latitude", JsonForm.toJson coordinate.latitude),
     ("longitude", JsonForm.toJson coordinate.longitude)]
  ofJson? json := do
    let field ← json.record? ["latitude", "longitude"]
    return ⟨← Json.required? (field "latitude"), ← Json.required? (field "longitude")⟩

end IdResolution
