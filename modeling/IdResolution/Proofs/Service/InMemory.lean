import IdResolution.Proofs.Client.Partition
import IdResolution.Proofs.Client.Report
import IdResolution.Resolver.Basic
import IdResolution.Service.Logged
import IdResolution.Service.Tables

/-!
# Services in memory

A service in memory answers every call from its tables, and no call changes them.
The tables are read through addresses, so that one law covers both operations: a
call fails because of the first item that asks for a failing address, and otherwise
gives each item an entry of its own with the candidates registered for its address.
-/

namespace IdResolution

variable {σ α β : Type}

/-! ## Addresses in messages -/

namespace Operation

/-- The address that an item of a request asks for. -/
def asks : Operation α β → α → Address
  | .coordinates, coordinate => .coordinate coordinate
  | .entities, query => .sourceId query.sourceId

/-- The address that an entry of a response answers. -/
def answers : Operation α β → β → Address
  | .coordinates, entry => .coordinate entry.coordinate
  | .entities, entry => .sourceId entry.sourceId

/-- The candidates in an entry of a response. -/
def candidates : Operation α β → β → List String
  | .coordinates, entry => entry.candidates
  | .entities, entry => entry.candidates

end Operation

/-! ## Tables read by address -/

namespace Tables

/-- The candidates registered for an address, in order. -/
def registered (tables : Tables) : Address → List String
  | .coordinate coordinate => tables.places.getD coordinate []
  | .sourceId sourceId => tables.entities.getD sourceId []

/-- Whether calls that ask for an address fail. -/
def isFailing (tables : Tables) : Address → Bool
  | .coordinate coordinate => tables.failingCoordinates.contains coordinate
  | .sourceId sourceId => tables.failingSourceIds.contains sourceId

theorem isFailing_eq_false {tables : Tables} (places : tables.failingCoordinates = {})
    (ids : tables.failingSourceIds = {}) (address : Address) :
    tables.isFailing address = false := by
  cases address with
  | coordinate coordinate =>
      rw [isFailing, places]
      exact Std.HashSet.contains_empty
  | sourceId sourceId =>
      rw [isFailing, ids]
      exact Std.HashSet.contains_empty

/-- The failure that names an address. -/
def failureFor : Address → CallError
  | .coordinate coordinate => injectedFailure coordinate.label
  | .sourceId sourceId => injectedFailure sourceId

/-- Milliseconds by which calls for an address are delayed. -/
def delayOf (tables : Tables) : Address → Nat
  | .coordinate coordinate => tables.delays.getD coordinate 0
  | .sourceId _ => 0

/-- The entry that answers an item. -/
def entry (tables : Tables) : Operation α β → α → β
  | .coordinates, coordinate => tables.placeEntry coordinate
  | .entities, query => tables.entityEntry query

@[simp] theorem answers_entry (tables : Tables) (operation : Operation α β) (item : α) :
    operation.answers (tables.entry operation item) = operation.asks item := by
  cases operation <;> rfl

/-- An entry names the registered candidates, all of them and in order. -/
@[simp] theorem candidates_entry (tables : Tables) (operation : Operation α β) (item : α) :
    operation.candidates (tables.entry operation item) =
      tables.registered (operation.asks item) := by
  cases operation with
  | coordinates =>
      simp only [Operation.candidates, entry, placeEntry, PlaceEntry.candidates,
        List.map_map]
      exact List.map_id _
  | entities =>
      simp only [Operation.candidates, entry, entityEntry, EntityEntry.candidates,
        List.flatMap_map, ← List.map_eq_flatMap]
      rw [List.filter_eq_self.mpr (by simp), List.map_map]
      exact List.map_id _

/-- A call fails because of the first item that asks for a failing address, or else
answers every item. -/
theorem outcome_answer (tables : Tables) (operation : Operation α β) (items : List α) :
    (tables.answer operation items).outcome =
      match items.find? fun item => tables.isFailing (operation.asks item) with
      | some failing => .failed (failureFor (operation.asks failing))
      | none => .answered (items.map (tables.entry operation)) := by
  cases operation with
  | coordinates =>
      simp only [answer, isFailing, Operation.asks]
      cases items.find? fun coordinate => tables.failingCoordinates.contains coordinate <;>
        rfl
  | entities =>
      simp only [answer, isFailing, Operation.asks]
      cases items.find? fun query => tables.failingSourceIds.contains query.sourceId <;>
        rfl

/-- A call is answered exactly when it asks for no failing address, and then with one
entry for each item. -/
theorem outcome_answer_eq_answered_iff {tables : Tables} {operation : Operation α β}
    {items : List α} {entries : List β} :
    (tables.answer operation items).outcome = .answered entries ↔
      (∀ item ∈ items, tables.isFailing (operation.asks item) = false) ∧
        entries = items.map (tables.entry operation) := by
  rw [outcome_answer]
  cases found : items.find? fun item => tables.isFailing (operation.asks item) with
  | none =>
      have sound := List.find?_eq_none.mp found
      simp only [Bool.not_eq_true] at sound
      simp only [Outcome.answered.injEq]
      constructor
      · intro same
        exact ⟨sound, same.symm⟩
      · intro ⟨_, same⟩
        exact same.symm
  | some failing =>
      simp only [reduceCtorEq, false_iff]
      intro ⟨sound, _⟩
      have fails := List.find?_some found
      rw [sound failing (List.mem_of_find?_eq_some found)] at fails
      contradiction

/-- A call that fails names the first failing address that it asks for. -/
theorem outcome_answer_eq_failed_iff {tables : Tables} {operation : Operation α β}
    {items : List α} {cause : CallError} :
    (tables.answer operation items).outcome = .failed cause ↔
      ∃ item, items.find? (fun item => tables.isFailing (operation.asks item)) = some item ∧
        cause = failureFor (operation.asks item) := by
  rw [outcome_answer]
  cases items.find? fun item => tables.isFailing (operation.asks item) with
  | none => simp
  | some failing => simp [eq_comm]

/-- What a call contributes to the failures of its request. -/
theorem failure?_answer (tables : Tables) (operation : Operation α β) (size : Nat)
    (items : List α) :
    (Report.mk size (tables.answer operation items)).failure? =
      (items.find? fun item => tables.isFailing (operation.asks item)).map fun item =>
        .call (failureFor (operation.asks item)) := by
  rw [Report.failure?]
  simp only [outcome_answer]
  cases items.find? fun item => tables.isFailing (operation.asks item) <;> rfl

/-- The longest delay is one of those registered. -/
theorem exists_of_delay?_eq_some {tables : Tables} {coordinates : List Coordinate} {longest : Nat}
    (found : tables.delay? coordinates = some longest) :
    ∃ coordinate ∈ coordinates, tables.delays[coordinate]? = some longest :=
  List.mem_filterMap.mp (List.max?_mem found)

theorem delay?_getD_eq_zero {tables : Tables} {coordinates : List Coordinate}
    (undelayed : ∀ coordinate ∈ coordinates, tables.delays.getD coordinate 0 = 0) :
    (tables.delay? coordinates).getD 0 = 0 := by
  cases found : tables.delay? coordinates with
  | none => rfl
  | some longest =>
      obtain ⟨coordinate, listed, registered⟩ := exists_of_delay?_eq_some found
      have none := undelayed coordinate listed
      rw [Std.HashMap.getD_eq_getD_getElem?, registered] at none
      exact none

/-- A call that asks for no delayed address ends at once. -/
theorem time_answer_eq_zero {tables : Tables} {operation : Operation α β} {items : List α}
    (undelayed : ∀ item ∈ items, tables.delayOf (operation.asks item) = 0) :
    (tables.answer operation items).time = 0 := by
  cases operation with
  | coordinates => exact delay?_getD_eq_zero undelayed
  | entities => rfl

end Tables

/-! ## The law of a service in memory -/

/-- A service that answers from tables, which no call changes. -/
class InMemory (σ : Type) [Service σ] where
  /-- The tables of a service. -/
  tables : σ → Tables
  call_completion {α β : Type} (operation : Operation α β) (items : List α) (service : σ) :
    (Service.call operation items service).1 = (tables service).answer operation items
  tables_call {α β : Type} (operation : Operation α β) (items : List α) (service : σ) :
    tables (Service.call operation items service).2 = tables service

instance : InMemory Tables where
  tables := id
  call_completion _ _ _ := rfl
  tables_call _ _ _ := rfl

/-- To keep a log changes no answer. -/
instance [Service σ] [InMemory σ] : InMemory (Logged σ) where
  tables logged := InMemory.tables logged.service
  call_completion operation items logged :=
    InMemory.call_completion operation items logged.service
  tables_call operation items logged :=
    InMemory.tables_call operation items logged.service

namespace InMemory

variable [Service σ] [InMemory σ]

/-- Each of several calls is answered from the same tables. -/
theorem callEach_reports (operation : Operation α β) (chunks : List (List α))
    (service : σ) :
    (callEach operation chunks service).1 = chunks.map fun chunk =>
      ⟨chunk.length, (tables service).answer operation chunk⟩ := by
  induction chunks generalizing service with
  | nil => rfl
  | cons chunk rest ih =>
      simp only [callEach, List.map_cons, call_completion, ih, tables_call]

/-- Calls leave the tables as they are. -/
@[simp] theorem tables_callEach (operation : Operation α β) (chunks : List (List α))
    (service : σ) : tables (callEach operation chunks service).2 = tables service := by
  induction chunks generalizing service with
  | nil => rfl
  | cons chunk rest ih =>
      simp only [callEach]
      rw [ih, tables_call]

end InMemory

end IdResolution
