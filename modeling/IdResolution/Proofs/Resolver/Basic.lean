import IdResolution.Proofs.Resolver.Memory
import IdResolution.Resolver.Basic

/-!
# What happens to a resolver

A resolver is the same for good but for what it remembers.  Submissions fill its
queue and leave its cache alone; a pass that lands changes the cache and leaves the
queue alone.  A node is looked up by the first candidates that are cached for its
keys.
-/

namespace IdResolution

/-- The address under which the answer to a key is cached. -/
def Key.address : Key → Address
  | .coordinate place => .coordinate place
  | .identifier id => .sourceId id.sourceId

namespace Resolver

variable {σ : Type} {services counters : Nat}

/-- The client through which a resolver sends its keys. -/
def client : Resolver services counters → Client services counters
  | .coordinates client _ => client
  | .externalIds client _ _ => client

/-- A resolver as it was before it remembered anything. -/
def fresh : Resolver services counters → Resolver services counters
  | .coordinates client _ => .ofCoordinates client
  | .externalIds client properties _ => .ofExternalIds client properties

/-- The first candidate cached for a key. -/
def answer? (resolver : Resolver services counters) (key : Key) : Option String :=
  (resolver.candidates? key.address).bind List.head?

@[simp] theorem fresh_fresh (resolver : Resolver services counters) :
    resolver.fresh.fresh = resolver.fresh := by
  cases resolver <;> rfl

@[simp] theorem client_fresh (resolver : Resolver services counters) :
    resolver.fresh.client = resolver.client := by
  cases resolver <;> rfl

@[simp] theorem kind_fresh (resolver : Resolver services counters) :
    resolver.fresh.kind = resolver.kind := by
  cases resolver <;> rfl

@[simp] theorem keys_fresh (resolver : Resolver services counters) (node : Node) :
    resolver.fresh.keys node = resolver.keys node := by
  cases resolver <;> rfl

theorem mem_keys_ofCoordinates {client : Client services counters} {node : Node}
    {key : Key} :
    key ∈ (ofCoordinates client).keys node ↔
      ∃ coordinate, node.coordinate? = some coordinate ∧ key = .coordinate coordinate := by
  simp [ofCoordinates, keys, Strategy.coordinates, eq_comm]

theorem mem_keys_ofExternalIds {client : Client services counters}
    {properties : List String} {node : Node} {key : Key} :
    key ∈ (ofExternalIds client properties).keys node ↔
      ∃ identifier ∈ node.identifiers properties, key = .identifier identifier := by
  simp [ofExternalIds, keys, Strategy.externalIds, eq_comm]

/-- A fresh resolver has nothing cached. -/
@[simp] theorem candidates?_fresh (resolver : Resolver services counters)
    (address : Address) : resolver.fresh.candidates? address = none := by
  cases resolver <;> cases address <;>
    simp [fresh, ofCoordinates, ofExternalIds, candidates?, Cache.candidates?]

/-! ## Queues -/

/-- The queue of a resolver is what queueing the given keys in turn leads to. -/
def FilledWith (keys : List Key) : Resolver services counters → Prop
  | .coordinates _ memory =>
      ∃ coordinates : List Coordinate, keys = coordinates.map .coordinate ∧
        memory.queue = ({} : KeyQueue Coordinate).insertAll coordinates
  | .externalIds _ _ memory =>
      ∃ identifiers : List Identifier, keys = identifiers.map .identifier ∧
        memory.queue = ({} : KeyQueue Identifier).insertAll identifiers

theorem filledWith_fresh (resolver : Resolver services counters) :
    resolver.fresh.FilledWith [] := by
  cases resolver <;> exact ⟨[], rfl, rfl⟩

/-- The keys that await resolution are the submitted ones at their first occurrences. -/
theorem FilledWith.pending_eq {resolver : Resolver services counters} {keys : List Key}
    (filled : resolver.FilledWith keys) : resolver.pending = firstOccurrences keys := by
  cases resolver with
  | coordinates client memory =>
      rcases filled with ⟨coordinates, rfl, queued⟩
      rw [pending, queued, KeyQueue.toList_insertAll_empty]
      exact (firstOccurrences_map (fun _ _ => Key.coordinate.inj) coordinates).symm
  | externalIds client properties memory =>
      rcases filled with ⟨identifiers, rfl, queued⟩
      rw [pending, queued, KeyQueue.toList_insertAll_empty]
      exact (firstOccurrences_map (fun _ _ => Key.identifier.inj) identifiers).symm

/-! ## Submissions -/

/-- A node is accepted when it carries a key. -/
theorem accepts_eq (node : Node) (resolver : Resolver services counters) :
    resolver.accepts node = !(resolver.keys node).isEmpty := by
  cases resolver <;> simp [accepts, offer, Strategy.offer, keys]

@[simp] theorem fresh_submit (resolver : Resolver services counters) (node : Node) :
    (resolver.submit node).fresh = resolver.fresh := by
  cases resolver <;> rfl

@[simp] theorem candidates?_submit (resolver : Resolver services counters) (node : Node)
    (address : Address) :
    (resolver.submit node).candidates? address = resolver.candidates? address := by
  cases resolver <;> rfl

/-- A submission queues the keys of its node behind those queued before. -/
theorem FilledWith.submit {resolver : Resolver services counters} {keys : List Key}
    (filled : resolver.FilledWith keys) (node : Node) :
    (resolver.submit node).FilledWith (keys ++ resolver.keys node) := by
  cases resolver with
  | coordinates client memory =>
      rcases filled with ⟨coordinates, rfl, queued⟩
      refine ⟨coordinates ++ Strategy.coordinates.keys node, ?_, ?_⟩
      · exact List.map_append.symm
      · rw [KeyQueue.insertAll_append, ← queued]
        rfl
  | externalIds client properties memory =>
      rcases filled with ⟨identifiers, rfl, queued⟩
      refine ⟨identifiers ++ (Strategy.externalIds properties).keys node, ?_, ?_⟩
      · exact List.map_append.symm
      · rw [KeyQueue.insertAll_append, ← queued]
        rfl

/-! ## Passes -/

/-- A pass lands when its request succeeds, with the response taken in. -/
theorem landing_flightOf_eq_ok_iff {κ γ α β : Type} [BEq κ] [Hashable κ] [BEq γ]
    [Hashable γ] {strategy : Strategy κ γ α β} {client : Client services counters}
    {memory : Memory κ γ} {rebuild : Memory κ γ → Resolver services counters}
    {reports : List (Report β)} {stats : Stats} {landed : Resolver services counters} :
    (flightOf strategy client memory rebuild reports).landing = .ok (stats, landed) ↔
      ∃ entries, Report.result reports = .ok entries ∧
        stats = strategy.stats client.chunkSize memory.queue.size
          (storedCount (entries.map strategy.entry)) ∧
          landed = rebuild (strategy.absorb entries memory) := by
  simp only [flightOf, Strategy.conclude, Strategy.receive_eq]
  cases Report.result reports with
  | ok entries => simp [Except.map, eq_comm]
  | error error => simp [Except.map]

/-- A pass that lands changes nothing but what is cached. -/
theorem landing_launch [Service σ] {resolver : Resolver services counters}
    {network : Network σ services counters} {stats : Stats}
    {landed : Resolver services counters}
    (landing : (resolver.launch network).1.landing = .ok (stats, landed)) :
    landed.fresh = resolver.fresh ∧
      ∀ keys, landed.FilledWith keys ↔ resolver.FilledWith keys := by
  cases resolver with
  | coordinates client memory =>
      rcases landing_flightOf_eq_ok_iff.mp landing with ⟨entries, -, -, rfl⟩
      exact ⟨rfl, fun _ => Iff.rfl⟩
  | externalIds client properties memory =>
      rcases landing_flightOf_eq_ok_iff.mp landing with ⟨entries, -, -, rfl⟩
      exact ⟨rfl, fun _ => Iff.rfl⟩

/-! ## Lookup -/

/-- A node has a canonical id when one of its keys at least has been answered and the
answers to all its keys agree. -/
theorem dcid?_eq_some_iff {resolver : Resolver services counters} {node : Node}
    {dcid : String} :
    resolver.dcid? node = some dcid ↔
      (∃ key ∈ resolver.keys node, resolver.answer? key = some dcid) ∧
        ∀ key ∈ resolver.keys node, ∀ answer, resolver.answer? key = some answer →
          answer = dcid := by
  cases resolver with
  | coordinates client memory =>
      simp only [dcid?, find, Strategy.dcid?_find_eq_some_iff, keys, List.mem_map,
        forall_exists_index, and_imp, forall_apply_eq_imp_iff₂, exists_exists_and_eq_and]
      rfl
  | externalIds client properties memory =>
      simp only [dcid?, find, Strategy.dcid?_find_eq_some_iff, keys, List.mem_map,
        forall_exists_index, and_imp, forall_apply_eq_imp_iff₂, exists_exists_and_eq_and]
      rfl

end Resolver

end IdResolution
