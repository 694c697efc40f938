import IdResolution.Proofs.Resolver.History
import IdResolution.Proofs.Resolver.Pass

/-!
# Responses of a service in memory

A service in memory that answers every call of a pass answers each queued key with the
candidates that are registered for its address.  From the tables and the queue follows
therefore the whole response, and from this what is cached once a resolver has taken it
in, be it the one that asked or the same resolver at a later time.
-/

namespace IdResolution

variable {σ : Type} {services counters : Nat}

/-! ## Responses taken in -/

/-- When the entries of a response that answer one address always name the same
candidates, only the addresses that are answered count. -/
theorem Strategy.Addressed.candidates?_absorb_of_uniform {κ γ α β : Type} [BEq κ]
    [Hashable κ] [BEq γ] [LawfulBEq γ] [Hashable γ] {strategy : Strategy κ γ α β}
    {place : γ → Address} (addressed : strategy.Addressed place) (memory : Memory κ γ)
    {entries : List β} {listed : Address → List String}
    (uniform : ∀ entry ∈ entries,
      strategy.operation.candidates entry = listed (strategy.operation.answers entry))
    (address : γ) :
    (strategy.absorb entries memory).cache.candidates? address =
      if (entries.map strategy.operation.answers).contains (place address) &&
          !(listed (place address)).isEmpty then
        some (firstOccurrences (listed (place address)))
      else memory.cache.candidates? address := by
  let read := entries.map strategy.entry
  let named : γ → List String := fun address => listed (place address)
  have uniformRead : ∀ entry ∈ read, entry.2 = named entry.1 := by
    rw [List.forall_mem_map]
    intro entry member
    rw [addressed.candidates_entry, uniform entry member, ← addressed.answers_entry]
  have answered : entries.map strategy.operation.answers =
      (read.map Prod.fst).map place := by
    rw [List.map_map, List.map_map]
    exact List.map_congr_left fun entry _ => (addressed.answers_entry entry).symm
  rw [answered, contains_map_of_injective addressed.injective]
  exact Cache.candidates?_fold memory.cache uniformRead address

namespace Resolver

/-- When the entries of a response that answer one address always name the same
candidates, these are cached, and all else in the cache stays as it was. -/
theorem candidates?_absorb {resolver : Resolver services counters} {response : Response}
    (kind : response.kind = resolver.kind) {listed : Address → List String}
    (uniform : ∀ entry ∈ response.entries, entry.2 = listed entry.1) (address : Address) :
    (resolver.absorb response).candidates? address =
      if (response.entries.map Prod.fst).contains address && !(listed address).isEmpty then
        some (firstOccurrences (listed address))
      else resolver.candidates? address := by
  cases resolver with
  | coordinates client memory =>
      cases response with
      | entities entries => contradiction
      | places entries =>
          rw [Response.entries, List.forall_mem_map] at uniform
          rw [Response.entries, List.map_map]
          cases address with
          | sourceId sourceId => simp [absorb, candidates?]
          | coordinate coordinate =>
              exact Strategy.addressed_coordinates.candidates?_absorb_of_uniform memory
                uniform coordinate
  | externalIds client properties memory =>
      cases response with
      | places entries => contradiction
      | entities entries =>
          rw [Response.entries, List.forall_mem_map] at uniform
          rw [Response.entries, List.map_map]
          cases address with
          | coordinate coordinate => simp [absorb, candidates?]
          | sourceId sourceId =>
              exact (Strategy.addressed_externalIds properties).candidates?_absorb_of_uniform
                memory uniform sourceId

/-! ## Responses from tables -/

/-- The response to the whole queue of a resolver when every key is answered from
tables. -/
def responseFrom (tables : Tables) : Resolver services counters → Response
  | .coordinates _ memory => .places (memory.queue.toList.map tables.placeEntry)
  | .externalIds _ _ memory =>
      .entities (memory.queue.toList.map fun id => tables.entityEntry (.ofIdentifier id))

@[simp] theorem kind_responseFrom (tables : Tables) (resolver : Resolver services counters) :
    (resolver.responseFrom tables).kind = resolver.kind := by
  cases resolver <;> rfl

/-- Each queued key has an entry of its own with the candidates that are registered for
its address. -/
theorem entries_responseFrom (tables : Tables) (resolver : Resolver services counters) :
    (resolver.responseFrom tables).entries =
      resolver.pending.map fun key => (key.address, tables.registered key.address) := by
  cases resolver with
  | coordinates client memory =>
      simp only [responseFrom, Response.entries, pending, List.map_map]
      apply List.map_congr_left
      intro coordinate _
      exact congrArg (Prod.mk _) (tables.candidates_entry .coordinates coordinate)
  | externalIds client properties memory =>
      simp only [responseFrom, Response.entries, pending, List.map_map]
      apply List.map_congr_left
      intro identifier _
      exact congrArg (Prod.mk _)
        (tables.candidates_entry .entities (.ofIdentifier identifier))

/-- A resolver that takes in the response to the queue of `asked` has the registered
candidates cached for every address that `asked` asked for, if there are any. -/
theorem candidates?_absorb_responseFrom {resolver asked : Resolver services counters}
    (kind : asked.kind = resolver.kind) (tables : Tables) (address : Address) :
    (resolver.absorb (asked.responseFrom tables)).candidates? address =
      if (asked.pending.map Key.address).contains address &&
          !(tables.registered address).isEmpty then
        some (firstOccurrences (tables.registered address))
      else resolver.candidates? address := by
  have sameKind : (asked.responseFrom tables).kind = resolver.kind := by
    rw [kind_responseFrom, kind]
  have uniform : ∀ entry ∈ (asked.responseFrom tables).entries,
      entry.2 = tables.registered entry.1 := by
    rw [entries_responseFrom, List.forall_mem_map]
    intro key _
    rfl
  have addresses : (asked.responseFrom tables).entries.map Prod.fst =
      asked.pending.map Key.address := by
    rw [entries_responseFrom, List.map_map]
    rfl
  rw [candidates?_absorb sameKind uniform, addresses]

end Resolver

variable [Service σ] [InMemory σ]

/-- The services of two networks answer from the same tables. -/
def Network.SameTables (first second : Network σ services counters) : Prop :=
  ∀ service, InMemory.tables (first.services.get service) =
    InMemory.tables (second.services.get service)

namespace Resolver

/-- The tables that answer the keys of a resolver on a network. -/
def tablesOn (resolver : Resolver services counters) (network : Network σ services counters) :
    Tables :=
  InMemory.tables (network.services.get resolver.client.service)

theorem tablesOn_congr {first second : Resolver services counters}
    (same : first.fresh = second.fresh) (network : Network σ services counters) :
    first.tablesOn network = second.tablesOn network := by
  rw [tablesOn, tablesOn, ← client_fresh first, same, client_fresh]

/-- The response to the whole queue of a resolver when every key is answered. -/
def answerOn (resolver : Resolver services counters) (network : Network σ services counters) :
    Response :=
  resolver.responseFrom (resolver.tablesOn network)

/-- On networks with the same tables the answer is the same. -/
theorem answerOn_congr {first second : Network σ services counters}
    (same : first.SameTables second) (resolver : Resolver services counters) :
    resolver.answerOn first = resolver.answerOn second := by
  rw [answerOn, answerOn, tablesOn, tablesOn, same]

/-- A pass leaves the tables of all services as they are. -/
theorem sameTables_launch (resolver : Resolver services counters)
    (network : Network σ services counters) :
    (resolver.launch network).2.SameTables network := by
  intro service
  by_cases own : service = resolver.client.service
  · rw [own]
    exact resolver.tables_launch network
  · rw [(resolver.callsCounted_launch network).otherServices service own]

/-- The calls of a pass are answered exactly when nothing that awaits resolution has a
failing address, and then from the tables. -/
theorem answered_calls_iff {resolver : Resolver services counters}
    {network : Network σ services counters} {response : Response} :
    (resolver.calls network).Answered response ↔
      (∀ key ∈ resolver.pending,
        (resolver.tablesOn network).isFailing key.address = false) ∧
        response = resolver.answerOn network := by
  rw [← Calls.result_eq_ok_iff]
  cases resolver with
  | coordinates client memory =>
      rw [pending, List.forall_mem_map]
      simp only [calls, Calls.result, Network.reports_request]
      rw [map_eq_ok_iff]
      simp only [Strategy.addressed_coordinates.result_eq_ok_iff]
      constructor
      · rintro ⟨entries, ⟨sound, rfl⟩, rfl⟩
        exact ⟨sound, rfl⟩
      · rintro ⟨sound, rfl⟩
        exact ⟨_, ⟨sound, rfl⟩, rfl⟩
  | externalIds client properties memory =>
      rw [pending, List.forall_mem_map]
      simp only [calls, Calls.result, Network.reports_request]
      rw [map_eq_ok_iff]
      simp only [(Strategy.addressed_externalIds properties).result_eq_ok_iff]
      constructor
      · rintro ⟨entries, ⟨sound, rfl⟩, rfl⟩
        exact ⟨sound, rfl⟩
      · rintro ⟨sound, rfl⟩
        exact ⟨_, ⟨sound, rfl⟩, rfl⟩

/-- On networks with the same tables the calls of a pass are answered alike. -/
theorem answered_calls_congr {first second : Network σ services counters}
    (same : first.SameTables second) {resolver : Resolver services counters}
    {response : Response} :
    (resolver.calls first).Answered response ↔ (resolver.calls second).Answered response := by
  rw [answered_calls_iff, answered_calls_iff, answerOn_congr same, tablesOn, tablesOn, same]

end Resolver

end IdResolution
