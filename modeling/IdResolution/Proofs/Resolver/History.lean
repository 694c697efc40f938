import IdResolution.Proofs.Client.Request
import IdResolution.Proofs.Resolver.Run

/-!
# What a history brings

Over a service in memory, what a resolver knows after a history is determined by the
history and the tables.  A pass succeeds when nothing that awaits resolution has a
failing address.  What is cached under an address are the registered candidates, once
a key with the address has been served.  The canonical id of a node follows from its
keys that have been served, queued through whatever node.
-/

namespace IdResolution

variable {σ : Type} [Service σ] [InMemory σ] {services counters : Nat}

/-! ## Passes over a service in memory -/

/-- A request leaves the tables of the service as they are. -/
theorem InMemory.tables_request {α β : Type} (network : Network σ services counters)
    (client : Client services counters) (operation : Operation α β) (items : List α) :
    tables ((network.request client operation items).2.services.get client.service) =
      tables (network.services.get client.service) := by
  rw [Network.get_request, callChunked, tables_callEach]

/-- To ask for an address is the same for the keys of a strategy as for keys at large. -/
theorem Strategy.Addressed.contains_address {κ γ α β : Type} [BEq γ] [LawfulBEq γ]
    {strategy : Strategy κ γ α β} {place : γ → Address}
    (addressed : strategy.Addressed place) {wrap : κ → Key}
    (same : ∀ key, (wrap key).address = place (strategy.address key)) {keys : List κ}
    {address : γ} :
    ((keys.map wrap).map Key.address).contains (place address) =
      (keys.map strategy.address).contains address := by
  have addresses :
      (keys.map wrap).map Key.address = (keys.map strategy.address).map place := by
    rw [List.map_map, List.map_map]
    exact List.map_congr_left fun key _ => same key
  rw [addresses, contains_map_of_injective addressed.injective]

namespace Resolver

section Strategies

variable {κ γ α β : Type} [BEq κ] [Hashable κ] [BEq γ] [Hashable γ]
  {strategy : Strategy κ γ α β} {place : γ → Address} {client : Client services counters}
  {memory : Memory κ γ} {rebuild : Memory κ γ → Resolver services counters}
  {network : Network σ services counters}

/-- A pass of a strategy over a service in memory lands when no queued key has a failing
address, and then each key is answered by its own entry. -/
theorem landing_request_eq_ok_iff (addressed : strategy.Addressed place) {stats : Stats}
    {landed : Resolver services counters} :
    let tables := InMemory.tables (network.services.get client.service)
    let queued := memory.queue.toList
    let entries := queued.map fun key => tables.entry strategy.operation (strategy.item key)
    (flightOf strategy client memory rebuild
      (network.request client strategy.operation (strategy.request queued)).1).landing =
        .ok (stats, landed) ↔
      (∀ key ∈ queued, tables.isFailing (place (strategy.address key)) = false) ∧
        stats = strategy.stats client.chunkSize memory.queue.size
          (storedCount (entries.map strategy.entry)) ∧
          landed = rebuild (strategy.absorb entries memory) := by
  intro tables queued entries
  have result (received : List β) : Report.result
      (network.request client strategy.operation (strategy.request queued)).1 = .ok received ↔
        (∀ key ∈ queued, tables.isFailing (place (strategy.address key)) = false) ∧
          received = entries := by
    rw [Network.reports_request]
    exact addressed.result_eq_ok_iff
  rw [landing_flightOf_eq_ok_iff]
  constructor
  · intro arrived
    rcases arrived with ⟨received, succeeded, statsSame, landedSame⟩
    rcases (result received).mp succeeded with ⟨sound, rfl⟩
    exact ⟨sound, statsSame, landedSame⟩
  · intro landing
    rcases landing with ⟨sound, statsSame, landedSame⟩
    exact ⟨entries, (result entries).mpr ⟨sound, rfl⟩, statsSame, landedSame⟩

theorem exists_landing_request_iff (addressed : strategy.Addressed place) :
    (∃ landed, (flightOf strategy client memory rebuild
      (network.request client strategy.operation
        (strategy.request memory.queue.toList)).1).landing = .ok landed) ↔
      ∀ key ∈ memory.queue.toList,
        (InMemory.tables (network.services.get client.service)).isFailing
          (place (strategy.address key)) = false := by
  constructor
  · intro landing
    rcases landing with ⟨⟨stats, landed⟩, landing⟩
    exact ((landing_request_eq_ok_iff addressed).mp landing).1
  · intro sound
    exact ⟨_, (landing_request_eq_ok_iff addressed).mpr ⟨sound, rfl, rfl⟩⟩

end Strategies

variable {resolver : Resolver services counters} {network : Network σ services counters}

theorem tables_launch (resolver : Resolver services counters)
    (network : Network σ services counters) :
    InMemory.tables ((resolver.launch network).2.services.get resolver.client.service) =
      InMemory.tables (network.services.get resolver.client.service) := by
  cases resolver <;> exact InMemory.tables_request network _ _ _

/-- A pass lands exactly when nothing that awaits resolution has a failing address. -/
theorem exists_landing_iff :
    (∃ landed, (resolver.launch network).1.landing = .ok landed) ↔
      ∀ key ∈ resolver.pending,
        (InMemory.tables (network.services.get resolver.client.service)).isFailing
          key.address = false := by
  cases resolver with
  | coordinates client memory =>
      rw [pending, List.forall_mem_map]
      exact exists_landing_request_iff Strategy.addressed_coordinates
  | externalIds client properties memory =>
      rw [pending, List.forall_mem_map]
      exact exists_landing_request_iff (Strategy.addressed_externalIds properties)

/-- A pass that lands caches the registered candidates of what was pending, and leaves
all else in the cache as it was. -/
theorem candidates?_of_landing {stats : Stats} {landed : Resolver services counters}
    (landing : (resolver.launch network).1.landing = .ok (stats, landed))
    (address : Address) :
    let registered :=
      (InMemory.tables (network.services.get resolver.client.service)).registered address
    landed.candidates? address =
      if (resolver.pending.map Key.address).contains address && !registered.isEmpty then
        some (firstOccurrences registered)
      else resolver.candidates? address := by
  intro registered
  cases resolver with
  | coordinates client memory =>
      have addressed := Strategy.addressed_coordinates
      rcases (landing_request_eq_ok_iff addressed).mp landing with ⟨-, -, rfl⟩
      cases address with
      | coordinate coordinate =>
          rw [pending, addressed.contains_address fun _ => rfl]
          exact addressed.candidates?_absorb _ memory.queue.toList memory coordinate
      | sourceId sourceId => simp [pending, candidates?, Key.address]
  | externalIds client properties memory =>
      have addressed := Strategy.addressed_externalIds properties
      rcases (landing_request_eq_ok_iff addressed).mp landing with ⟨-, -, rfl⟩
      cases address with
      | coordinate coordinate => simp [pending, candidates?, Key.address]
      | sourceId sourceId =>
          rw [pending, addressed.contains_address fun _ => rfl]
          exact addressed.candidates?_absorb _ memory.queue.toList memory sourceId

end Resolver

namespace Deployment

/-- The tables from which the keys of a resolver are answered. -/
def tables (deployment : Deployment σ services counters) : Tables :=
  InMemory.tables (deployment.network.services.get deployment.resolver.client.service)

/-- A key has been answered when a key with its address has been served and candidates
are registered for the address.  The answer is the first of them. -/
def Answered (start : Deployment σ services counters) (history : List Event) (key : Key)
    (dcid : String) : Prop :=
  start.ServedAt history key.address ∧
    (start.tables.registered key.address).head? = some dcid

theorem tables_after (deployment : Deployment σ services counters) (event : Event) :
    (deployment.after event).tables = deployment.tables := by
  rw [tables, client_after]
  cases event with
  | submit node => rfl
  | resolve =>
      have unchanged := Resolver.tables_launch deployment.resolver deployment.network
      rcases deployment.resolve_cases with ⟨_, _, _, same⟩ | ⟨_, _, same⟩
      · rw [after, same]
        exact unchanged
      · rw [after, same]
        exact unchanged

@[simp] theorem tables_run (start : Deployment σ services counters)
    (history : List Event) : (start.run history).tables = start.tables := by
  induction history using List.reverseRecOn with
  | nil => rfl
  | append_singleton history event ih => rw [run_append_singleton, tables_after, ih]

/-- A pass after a history succeeds exactly when nothing that awaits resolution has a
failing address. -/
theorem succeeds_run_iff {start : Deployment σ services counters} {history : List Event} :
    (start.run history).Succeeds ↔
      ∀ key ∈ (start.run history).resolver.pending,
        start.tables.isFailing key.address = false := by
  rw [succeeds_iff, Resolver.exists_landing_iff, ← tables_run start history]
  rfl

/-- A pass that succeeds after a history caches the registered candidates of all that
was submitted, and leaves all else in the cache as it was. -/
theorem candidates?_resolve_run {start : Deployment σ services counters}
    (unused : start.resolver.fresh = start.resolver) {history : List Event}
    (succeeded : (start.run history).Succeeds) (address : Address) :
    (start.run history).resolve.2.resolver.candidates? address =
      if ((start.resolver.submitted history).map Key.address).contains address &&
          !(start.tables.registered address).isEmpty then
        some (firstOccurrences (start.tables.registered address))
      else (start.run history).resolver.candidates? address := by
  rcases (start.run history).resolve_cases with
    ⟨stats, landed, landing, same⟩ | ⟨error, failed, -⟩
  · have pending : ((start.run history).resolver.pending.map Key.address).contains address =
        ((start.resolver.submitted history).map Key.address).contains address := by
      rw [Bool.eq_iff_iff, List.contains_iff_mem, List.contains_iff_mem, List.mem_map,
        List.mem_map]
      simp only [mem_pending_run unused]
    rw [same, ← tables_run start history, ← pending]
    exact Resolver.candidates?_of_landing landing address
  · rcases succeeds_iff.mp succeeded with ⟨landed, landing⟩
    rw [failed] at landing
    contradiction

/-- After a history, the registered candidates are cached under exactly the addresses
of the keys that have been served. -/
theorem candidates?_run_eq_some_iff {start : Deployment σ services counters}
    (unused : start.resolver.fresh = start.resolver) {history : List Event}
    {address : Address} {candidates : List String} :
    (start.run history).resolver.candidates? address = some candidates ↔
      start.ServedAt history address ∧ start.tables.registered address ≠ [] ∧
        candidates = firstOccurrences (start.tables.registered address) := by
  induction history using List.reverseRecOn with
  | nil =>
      have nothing : (start.run []).resolver.candidates? address = none := by
        rw [run, List.foldl_nil, ← unused, Resolver.candidates?_fresh]
      simp [nothing]
  | append_singleton history event ih =>
      rw [run_append_singleton]
      cases event with
      | submit node => rw [after, Resolver.candidates?_submit, servedAt_append_submit, ih]
      | resolve =>
          rw [after, servedAt_append_resolve]
          by_cases succeeded : (start.run history).Succeeds
          · rw [candidates?_resolve_run unused succeeded]
            by_cases answered :
                (∃ key ∈ start.resolver.submitted history, key.address = address) ∧
                  start.tables.registered address ≠ []
            · rw [if_pos (by simpa using answered)]
              rcases answered with ⟨asked, named⟩
              constructor
              · intro known
                exact ⟨Or.inr ⟨succeeded, asked⟩, named, (Option.some.inj known).symm⟩
              · intro known
                rw [known.2.2]
            · rw [if_neg (by simpa using answered), ih]
              constructor
              · intro known
                exact ⟨Or.inl known.1, known.2⟩
              · intro known
                rcases known with ⟨servedAt | ⟨-, asked⟩, named, listed⟩
                · exact ⟨servedAt, named, listed⟩
                · exact absurd ⟨asked, named⟩ answered
          · rw [resolver_resolve_of_failing succeeded, ih]
            simp [succeeded]

/-- After a history, the answers are the first candidates registered for the addresses
of the keys that have been served. -/
theorem answer?_run_eq_some_iff {start : Deployment σ services counters}
    (unused : start.resolver.fresh = start.resolver) {history : List Event} {key : Key}
    {dcid : String} :
    (start.run history).resolver.answer? key = some dcid ↔
      start.Answered history key dcid := by
  rw [Resolver.answer?, Option.bind_eq_some_iff]
  simp only [candidates?_run_eq_some_iff unused]
  constructor
  · intro cached
    rcases cached with ⟨candidates, ⟨served, -, rfl⟩, first⟩
    rw [head?_firstOccurrences] at first
    exact ⟨served, first⟩
  · intro answered
    rcases answered with ⟨served, first⟩
    refine ⟨_, ⟨served, ?_, rfl⟩, ?_⟩
    · exact List.ne_nil_of_mem (List.mem_of_head? first)
    · rw [head?_firstOccurrences]
      exact first

/-- After a history, a node has the canonical id on which its answered keys agree. -/
theorem dcid?_run_eq_some_iff {start : Deployment σ services counters}
    (unused : start.resolver.fresh = start.resolver) {history : List Event} {node : Node}
    {dcid : String} :
    (start.run history).resolver.dcid? node = some dcid ↔
      (∃ key ∈ start.resolver.keys node, start.Answered history key dcid) ∧
        ∀ key ∈ start.resolver.keys node, ∀ answer,
          start.Answered history key answer → answer = dcid := by
  rw [Resolver.dcid?_eq_some_iff]
  simp only [keys_run, answer?_run_eq_some_iff unused]

end Deployment

/-! ## Resolution by coordinates -/

/-- Whatever a resolver by coordinates over a service in memory has been through, a pass
succeeds exactly when no coordinate that awaits resolution is a failing one.  A node has
the first candidate that is registered for its coordinate once that very coordinate has
been served, and else none.  What is cached for a coordinate are its registered
candidates, each once. -/
theorem coordinate_resolution_follows_history (client : Client services counters)
    (network : Network σ services counters) (history : List Event) :
    let start : Deployment σ services counters := ⟨.ofCoordinates client, network⟩
    let reached := start.run history
    let tables := InMemory.tables (network.services.get client.service)
    (reached.Succeeds ↔ ∀ coordinate, .coordinate coordinate ∈ reached.resolver.pending →
      tables.failingCoordinates.contains coordinate = false) ∧
    (∀ node dcid, reached.resolver.dcid? node = some dcid ↔
      ∃ coordinate, node.coordinate? = some coordinate ∧
        start.Served history (.coordinate coordinate) ∧
          (tables.places.getD coordinate []).head? = some dcid) ∧
    ∀ coordinate candidates,
      reached.resolver.candidates? (.coordinate coordinate) = some candidates ↔
        start.Served history (.coordinate coordinate) ∧
          tables.places.getD coordinate [] ≠ [] ∧
            candidates = (tables.places.getD coordinate []).eraseDups := by
  intro start reached tables
  refine ⟨?_, ?_, ?_⟩
  · rw [Deployment.succeeds_run_iff]
    constructor
    · intro sound coordinate member
      exact sound _ member
    · intro sound key member
      rcases Deployment.exists_submit_of_pending rfl member with ⟨node, -, keyMember⟩
      rcases Resolver.mem_keys_ofCoordinates.mp keyMember with ⟨coordinate, -, rfl⟩
      exact sound coordinate member
  · intro node dcid
    rw [Deployment.dcid?_run_eq_some_iff rfl]
    constructor
    · intro resolved
      rcases resolved with ⟨⟨key, member, keyServed, first⟩, -⟩
      rcases Resolver.mem_keys_ofCoordinates.mp member with ⟨coordinate, yields, rfl⟩
      exact ⟨coordinate, yields, Deployment.servedAt_coordinate_iff.mp keyServed, first⟩
    · intro answered
      rcases answered with ⟨coordinate, yields, keyServed, first⟩
      constructor
      · have servedAt := Deployment.servedAt_coordinate_iff.mpr keyServed
        refine ⟨.coordinate coordinate, ?_, servedAt, first⟩
        exact Resolver.mem_keys_ofCoordinates.mpr ⟨coordinate, yields, rfl⟩
      · intro key member answer answered
        rcases Resolver.mem_keys_ofCoordinates.mp member with ⟨other, otherYields, rfl⟩
        obtain rfl := Option.some.inj (otherYields.symm.trans yields)
        exact Option.some.inj (answered.2.symm.trans first)
  · intro coordinate candidates
    rw [Deployment.candidates?_run_eq_some_iff rfl, Deployment.servedAt_coordinate_iff,
      firstOccurrences_eq_eraseDups]
    rfl

/-! ## Resolution by external ids -/

/-- Whatever a resolver by external ids over a service in memory has been through, a pass
succeeds exactly when no id that awaits resolution has a failing source id.  An id is
answered by the first candidate that is registered for its source id once any id with
this source id has been served.  A node has the canonical id by which all its answered
ids are answered, if there is one at least, and else none. -/
theorem identifier_resolution_follows_history (client : Client services counters)
    (properties : List String) (network : Network σ services counters)
    (history : List Event) :
    let start : Deployment σ services counters :=
      ⟨.ofExternalIds client properties, network⟩
    let reached := start.run history
    let tables := InMemory.tables (network.services.get client.service)
    let answered (identifier : Identifier) (dcid : String) : Prop :=
      (∃ queued : Identifier, queued.sourceId = identifier.sourceId ∧
        start.Served history (.identifier queued)) ∧
        (tables.entities.getD identifier.sourceId []).head? = some dcid
    (reached.Succeeds ↔ ∀ identifier, .identifier identifier ∈ reached.resolver.pending →
      tables.failingSourceIds.contains identifier.sourceId = false) ∧
    ∀ node dcid, reached.resolver.dcid? node = some dcid ↔
      (∃ identifier ∈ node.identifiers properties, answered identifier dcid) ∧
        ∀ identifier ∈ node.identifiers properties, ∀ answer,
          answered identifier answer → answer = dcid := by
  intro start reached tables answered
  have answers (identifier : Identifier) (dcid : String) :
      start.Answered history (.identifier identifier) dcid ↔ answered identifier dcid := by
    rw [Deployment.Answered, Key.address, Deployment.servedAt_sourceId_iff]
    rfl
  constructor
  · rw [Deployment.succeeds_run_iff]
    constructor
    · intro sound identifier member
      exact sound _ member
    · intro sound key member
      rcases Deployment.exists_submit_of_pending rfl member with ⟨node, -, keyMember⟩
      rcases Resolver.mem_keys_ofExternalIds.mp keyMember with ⟨identifier, -, rfl⟩
      exact sound identifier member
  · intro node dcid
    rw [Deployment.dcid?_run_eq_some_iff rfl]
    constructor
    · intro resolved
      rcases resolved with ⟨⟨key, member, keyAnswered⟩, agreeing⟩
      rcases Resolver.mem_keys_ofExternalIds.mp member with ⟨identifier, carried, rfl⟩
      refine ⟨⟨identifier, carried, (answers identifier dcid).mp keyAnswered⟩, ?_⟩
      intro other otherCarried answer otherAnswered
      apply agreeing (.identifier other)
      · exact Resolver.mem_keys_ofExternalIds.mpr ⟨other, otherCarried, rfl⟩
      · exact (answers other answer).mpr otherAnswered
    · intro agreed
      rcases agreed with ⟨⟨identifier, carried, identifierAnswered⟩, agreeing⟩
      constructor
      · refine ⟨.identifier identifier, ?_, (answers identifier dcid).mpr identifierAnswered⟩
        exact Resolver.mem_keys_ofExternalIds.mpr ⟨identifier, carried, rfl⟩
      · intro key member answer keyAnswered
        rcases Resolver.mem_keys_ofExternalIds.mp member with ⟨other, otherCarried, rfl⟩
        exact agreeing other otherCarried answer ((answers other answer).mp keyAnswered)

end IdResolution
