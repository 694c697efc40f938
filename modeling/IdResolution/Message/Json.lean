import IdResolution.Message.Basic

/-!
# Messages in JSON

The JSON form of every message and of its parts.  A list that is left out is
empty.
-/

namespace IdResolution

instance : JsonForm Place where
  toJson place := .ofMembers [("dcid", JsonForm.toJson place.dcid)]
  ofJson? json := do
    let field ← json.record? ["dcid"]
    return ⟨← Json.required? (field "dcid")⟩

instance : JsonForm PlaceEntry where
  toJson entry := .ofMembers
    [("latitude", JsonForm.toJson entry.coordinate.latitude),
     ("longitude", JsonForm.toJson entry.coordinate.longitude),
     ("places", JsonForm.toJson entry.places)]
  ofJson? json := do
    let field ← json.record? ["latitude", "longitude", "places"]
    return ⟨⟨← Json.required? (field "latitude"), ← Json.required? (field "longitude")⟩,
      ← Json.optional? [] (field "places")⟩

instance : JsonForm EntityQuery where
  toJson query := .ofMembers
    [("sourceId", JsonForm.toJson query.sourceId),
     ("properties", JsonForm.toJson query.properties)]
  ofJson? json := do
    let field ← json.record? ["sourceId", "properties"]
    return ⟨← Json.required? (field "sourceId"),
      ← Json.optional? [] (field "properties")⟩

instance : JsonForm IdentifierGroup where
  toJson group := .ofMembers [("ids", JsonForm.toJson group.identifiers)]
  ofJson? json := do
    let field ← json.record? ["ids"]
    return ⟨← Json.optional? [] (field "ids")⟩

instance : JsonForm EntityEntry where
  toJson entry := .ofMembers
    [("sourceId", JsonForm.toJson entry.sourceId),
     ("resolvedIds", JsonForm.toJson entry.groups)]
  ofJson? json := do
    let field ← json.record? ["sourceId", "resolvedIds"]
    return ⟨← Json.required? (field "sourceId"),
      ← Json.optional? [] (field "resolvedIds")⟩

instance : JsonForm CoordinatesRequest where
  toJson request := .ofMembers [("coordinates", JsonForm.toJson request.items)]
  ofJson? json := do
    let field ← json.record? ["coordinates"]
    return ⟨← Json.optional? [] (field "coordinates")⟩

instance : JsonForm CoordinatesResponse where
  toJson response := .ofMembers [("placeCoordinates", JsonForm.toJson response.items)]
  ofJson? json := do
    let field ← json.record? ["placeCoordinates"]
    return ⟨← Json.optional? [] (field "placeCoordinates")⟩

instance : JsonForm EntitiesRequest where
  toJson request := .ofMembers [("entities", JsonForm.toJson request.items)]
  ofJson? json := do
    let field ← json.record? ["entities"]
    return ⟨← Json.optional? [] (field "entities")⟩

instance : JsonForm EntitiesResponse where
  toJson response := .ofMembers [("resolvedEntities", JsonForm.toJson response.items)]
  ofJson? json := do
    let field ← json.record? ["resolvedEntities"]
    return ⟨← Json.optional? [] (field "resolvedEntities")⟩

end IdResolution
