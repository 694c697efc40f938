import IdResolution.Key.Coordinate
import IdResolution.Key.Identifier

/-!
# Messages

What is exchanged with the resolution service.  There are two operations, one for
coordinates and one for entities; the request and the response of each are flat
lists of items, so that they can be cut into chunks and joined again.
-/

namespace IdResolution

/-- A place that a coordinate may lie in, by its canonical id. -/
structure Place where
  dcid : String
  deriving DecidableEq, Repr

/-- The places that the service knows for one coordinate, the best first. -/
structure PlaceEntry where
  coordinate : Coordinate
  places : List Place := []
  deriving DecidableEq, Repr

/-- An entity to be resolved, by the properties that identify it.  The source id
names it in the response. -/
structure EntityQuery where
  sourceId : String
  properties : List Identifier := []
  deriving DecidableEq, Repr

/-- The identifiers of one entity that a query may mean. -/
structure IdentifierGroup where
  identifiers : List Identifier := []
  deriving DecidableEq, Repr

/-- The entities that the service knows for one source id, the best first. -/
structure EntityEntry where
  sourceId : String
  groups : List IdentifierGroup := []
  deriving DecidableEq, Repr

/-- The query for the entity with one external id. -/
def EntityQuery.ofIdentifier (identifier : Identifier) : EntityQuery :=
  ⟨identifier.sourceId, [identifier]⟩

/-- The canonical ids that an entry names, in order. -/
def PlaceEntry.candidates (entry : PlaceEntry) : List String :=
  entry.places.map Place.dcid

/-- The canonical ids that an entry names, in order; identifiers of any other
property are passed over. -/
def EntityEntry.candidates (entry : EntityEntry) : List String :=
  ((entry.groups.flatMap IdentifierGroup.identifiers).filter
    (·.property == Vocabulary.dcid)).map Identifier.value

/-- An operation of the service, by the items of its requests and responses. -/
inductive Operation : Type → Type → Type where
  | coordinates : Operation Coordinate PlaceEntry
  | entities : Operation EntityQuery EntityEntry

/-- The name of an operation in diagnostics. -/
def Operation.name {α β : Type} : Operation α β → String
  | .coordinates => "resolve_coordinates"
  | .entities => "resolve_entities"

/-- The path of an operation on the service. -/
def Operation.path {α β : Type} : Operation α β → String
  | .coordinates => "/v1/recon/resolve/coordinate"
  | .entities => "/v1/recon/entity/resolve"

/-- A request for the places of coordinates. -/
structure CoordinatesRequest where
  items : List Coordinate := []
  deriving DecidableEq, Repr

/-- The response to a request for the places of coordinates. -/
structure CoordinatesResponse where
  items : List PlaceEntry := []
  deriving DecidableEq, Repr

/-- A request for the canonical ids of entities. -/
structure EntitiesRequest where
  items : List EntityQuery := []
  deriving DecidableEq, Repr

/-- The response to a request for the canonical ids of entities. -/
structure EntitiesResponse where
  items : List EntityEntry := []
  deriving DecidableEq, Repr

/-- A message that is a flat list of items. -/
class Batch (μ : Type) (α : outParam Type) where
  items : μ → List α
  ofItems : List α → μ

instance : Batch CoordinatesRequest Coordinate := ⟨CoordinatesRequest.items, .mk⟩

instance : Batch CoordinatesResponse PlaceEntry := ⟨CoordinatesResponse.items, .mk⟩

instance : Batch EntitiesRequest EntityQuery := ⟨EntitiesRequest.items, .mk⟩

instance : Batch EntitiesResponse EntityEntry := ⟨EntitiesResponse.items, .mk⟩

/-- One message with the items of two, in order. -/
def Batch.join {μ α : Type} [Batch μ α] (first second : μ) : μ :=
  ofItems (items first ++ items second)

end IdResolution
