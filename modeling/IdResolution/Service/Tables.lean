import Std.Data.HashMap
import Std.Data.HashSet
import IdResolution.Service.Basic

/-!
# Services from tables

A service that answers from tables held in memory.  Every requested key gets an
entry, empty when nothing is known about it.  Some keys may be marked as failing,
which fails every call that asks for one of them, and some coordinates as slow,
which delays such calls.
-/

namespace IdResolution

/-- What a service in memory knows and where it fails. -/
structure Tables where
  places : Std.HashMap Coordinate (List String) := {}
  entities : Std.HashMap String (List String) := {}
  failingCoordinates : Std.HashSet Coordinate := {}
  failingSourceIds : Std.HashSet String := {}
  /-- Milliseconds by which calls for a coordinate are delayed. -/
  delays : Std.HashMap Coordinate Nat := {}

namespace Tables

/-- The failure of a call because of the given key. -/
def injectedFailure (key : String) : CallError :=
  .connectionFailed s!"injected failure for {key}"

/-- The entry for a coordinate. -/
def placeEntry (tables : Tables) (coordinate : Coordinate) : PlaceEntry :=
  ⟨coordinate, (tables.places.getD coordinate []).map Place.mk⟩

/-- The entry for an entity: each of its canonical ids is a group of its own. -/
def entityEntry (tables : Tables) (query : EntityQuery) : EntityEntry :=
  ⟨query.sourceId, (tables.entities.getD query.sourceId []).map fun dcid =>
    ⟨[⟨Vocabulary.dcid, dcid⟩]⟩⟩

/-- The longest of the delays that are registered for coordinates, if there is one. -/
def delay? (tables : Tables) (coordinates : List Coordinate) : Option Nat :=
  (coordinates.filterMap (tables.delays[·]?)).max?

/-- The end of a call.  A call that asks for a failing key fails because of the first
one, after its delay.  The clock is virtual: a sleep of no milliseconds is over in the
instant in which it starts, as if the call had not slept. -/
def answer {α β : Type} (tables : Tables) : Operation α β → List α → Completion β
  | .coordinates, coordinates =>
      { time := (tables.delay? coordinates).getD 0
        outcome :=
          match coordinates.find? (tables.failingCoordinates.contains ·) with
          | some failing => .failed (injectedFailure failing.label)
          | none => .answered (coordinates.map tables.placeEntry) }
  | .entities, queries =>
      { outcome :=
          match queries.find? (tables.failingSourceIds.contains ·.sourceId) with
          | some failing => .failed (injectedFailure failing.sourceId)
          | none => .answered (queries.map tables.entityEntry) }

end Tables

instance : Service Tables where
  call operation items tables := (tables.answer operation items, tables)

end IdResolution
