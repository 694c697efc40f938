import IdResolution.Proofs.Resolver.Insertion
import IdResolution.Proofs.Session.Run

/-!
# What resolvers remember in a session

In whatever way a session goes on, and whatever its services answer, a resolver that
started fresh has queued the keys of the nodes submitted to it, each at its first
occurrence.  What it has cached for an address is never empty and has no candidate
twice.  Both only grow: the queue at its end, the cache by further addresses.
-/

namespace IdResolution

/-! ## Cached candidates -/

namespace Cache

variable {γ : Type} [BEq γ] [LawfulBEq γ] [Hashable γ]

/-- What is cached has a candidate, and no candidate twice. -/
def Tidy (cache : Cache γ) : Prop :=
  ∀ address candidates, cache.candidates? address = some candidates →
    candidates ≠ [] ∧ candidates.Nodup

theorem tidy_empty : ({} : Cache γ).Tidy := by
  intro address candidates known
  simp [candidates?] at known

theorem Tidy.store {cache : Cache γ} (tidy : cache.Tidy) (key : γ)
    (candidates : List String) : (cache.store key candidates).Tidy := by
  intro address kept known
  rw [candidates?_store] at known
  split at known
  · rename_i stored
    obtain rfl := Option.some.inj known
    refine ⟨?_, nodup_firstOccurrences candidates⟩
    rw [Ne, firstOccurrences_eq_nil_iff]
    intro none
    subst none
    simp at stored
  · exact tidy address kept known

theorem isSome_candidates?_store {cache : Cache γ} {address : γ}
    (known : (cache.candidates? address).isSome) (key : γ) (candidates : List String) :
    ((cache.store key candidates).candidates? address).isSome := by
  rw [candidates?_store]
  split
  · rfl
  · exact known

theorem Tidy.fold {cache : Cache γ} (tidy : cache.Tidy)
    (entries : List (γ × List String)) : (cache.fold entries).Tidy := by
  induction entries generalizing cache with
  | nil => exact tidy
  | cons entry rest ih =>
      rw [fold_cons]
      exact ih (tidy.store entry.1 entry.2)

/-- What is cached for an address may be replaced, but never lost. -/
theorem isSome_candidates?_fold {cache : Cache γ} {address : γ}
    (known : (cache.candidates? address).isSome) (entries : List (γ × List String)) :
    ((cache.fold entries).candidates? address).isSome := by
  induction entries generalizing cache with
  | nil => exact known
  | cons entry rest ih =>
      rw [fold_cons]
      exact ih (isSome_candidates?_store known entry.1 entry.2)

end Cache

/-! ## Keys of nodes -/

theorem Value.isFinite_of_number? {value : Value} {x : Binary64}
    (number : value.number? = some x) : x.isFinite = true := by
  unfold number? at number
  split at number
  · split at number
    · dsimp only at number
      split at number
      · rename_i finite
        obtain rfl := Option.some.inj number
        exact finite
      · contradiction
    · contradiction
  · contradiction

theorem Node.isFinite_of_number? {node : Node} {property : String} {x : Binary64}
    (number : node.number? property = some x) : x.isFinite = true := by
  obtain ⟨value, -, found⟩ := List.exists_of_findSome?_eq_some number
  exact value.isFinite_of_number? found

/-- A node has a coordinate when it has both its numbers. -/
theorem Node.coordinate?_eq_some_iff {node : Node} {coordinate : Coordinate} :
    node.coordinate? = some coordinate ↔
      node.number? Vocabulary.latitude = some coordinate.latitude ∧
        node.number? Vocabulary.longitude = some coordinate.longitude := by
  cases coordinate with
  | mk first second =>
      unfold coordinate?
      cases node.number? Vocabulary.latitude with
      | none => simp
      | some latitude =>
          cases node.number? Vocabulary.longitude with
          | none => simp
          | some longitude => simp

namespace Resolver

variable {services counters : Nat}

/-- A node has what a resolver makes its keys of: both numbers of a coordinate, or text
under one of the properties. -/
def Carries (node : Node) : Resolver services counters → Prop
  | .coordinates _ _ =>
      (∃ latitude, node.number? Vocabulary.latitude = some latitude) ∧
        ∃ longitude, node.number? Vocabulary.longitude = some longitude
  | .externalIds _ properties _ =>
      ∃ property ∈ properties, ∃ text, node.literal? property = some text

/-- A node is accepted when it carries a key, be this queued already or not. -/
theorem accepts_iff {node : Node} {resolver : Resolver services counters} :
    resolver.accepts node = true ↔ resolver.Carries node := by
  have nonempty : resolver.accepts node = true ↔ ∃ key, key ∈ resolver.keys node := by
    rw [accepts_eq, Bool.not_eq_true', List.isEmpty_eq_false_iff_exists_mem]
  rw [nonempty]
  cases resolver with
  | coordinates client memory =>
      simp only [keys, Strategy.coordinates, List.mem_map, Option.mem_toList,
        Node.coordinate?_eq_some_iff, Carries]
      constructor
      · intro queued
        obtain ⟨_, coordinate, ⟨latitude, longitude⟩, _⟩ := queued
        exact ⟨⟨_, latitude⟩, _, longitude⟩
      · intro carries
        obtain ⟨⟨latitude, first⟩, longitude, second⟩ := carries
        exact ⟨_, ⟨latitude, longitude⟩, ⟨first, second⟩, rfl⟩
  | externalIds client properties memory =>
      simp only [keys, Strategy.externalIds, Node.identifiers, List.mem_map,
        List.mem_filterMap, Option.map_eq_some_iff, Carries]
      constructor
      · intro queued
        obtain ⟨_, _, ⟨property, listed, text, found, _⟩, _⟩ := queued
        exact ⟨property, listed, text, found⟩
      · intro carries
        obtain ⟨property, listed, text, found⟩ := carries
        exact ⟨_, _, ⟨property, listed, text, found, rfl⟩, rfl⟩

/-- The coordinates that nodes carry are finite. -/
theorem isFinite_of_mem_keys {resolver : Resolver services counters} {node : Node}
    {coordinate : Coordinate} (member : .coordinate coordinate ∈ resolver.keys node) :
    coordinate.latitude.isFinite = true ∧ coordinate.longitude.isFinite = true := by
  cases resolver with
  | coordinates client memory =>
      obtain ⟨found, carried, same⟩ := List.mem_map.mp member
      obtain rfl := Key.coordinate.inj same
      obtain ⟨latitude, longitude⟩ :=
        Node.coordinate?_eq_some_iff.mp (Option.mem_toList.mp carried)
      exact ⟨Node.isFinite_of_number? latitude, Node.isFinite_of_number? longitude⟩
  | externalIds client properties memory =>
      obtain ⟨_, _, same⟩ := List.mem_map.mp member
      contradiction

/-! ## One resolver -/

/-- Whether the set beside the queue has a key. -/
def isQueued (key : Key) : Resolver services counters → Bool
  | .coordinates _ memory =>
      match key with
      | .coordinate coordinate => memory.queue.members.contains coordinate
      | .identifier _ => false
  | .externalIds _ _ memory =>
      match key with
      | .identifier identifier => memory.queue.members.contains identifier
      | .coordinate _ => false

/-- The set beside a filled queue has the keys of the queue. -/
theorem FilledWith.isQueued_iff {resolver : Resolver services counters} {keys : List Key}
    (filled : resolver.FilledWith keys) {key : Key} :
    resolver.isQueued key = true ↔ key ∈ resolver.pending := by
  cases resolver with
  | coordinates client memory =>
      obtain ⟨coordinates, -, queued⟩ := filled
      have formed := KeyQueue.wellFormed_empty.insertAll coordinates
      rw [← queued] at formed
      cases key with
      | identifier identifier => simp [isQueued, pending]
      | coordinate coordinate =>
          rw [pending, List.mem_map_of_injective fun _ _ => Key.coordinate.inj]
          exact formed.contains_iff
  | externalIds client properties memory =>
      obtain ⟨identifiers, -, queued⟩ := filled
      have formed := KeyQueue.wellFormed_empty.insertAll identifiers
      rw [← queued] at formed
      cases key with
      | coordinate coordinate => simp [isQueued, pending]
      | identifier identifier =>
          rw [pending, List.mem_map_of_injective fun _ _ => Key.identifier.inj]
          exact formed.contains_iff

/-- What is cached has a candidate, and no candidate twice. -/
def Tidy : Resolver services counters → Prop
  | .coordinates _ memory => memory.cache.Tidy
  | .externalIds _ _ memory => memory.cache.Tidy

theorem tidy_fresh (resolver : Resolver services counters) : resolver.fresh.Tidy := by
  cases resolver <;> exact Cache.tidy_empty

theorem Tidy.candidates? {resolver : Resolver services counters} (tidy : resolver.Tidy)
    {address : Address} {candidates : List String}
    (known : resolver.candidates? address = some candidates) :
    candidates ≠ [] ∧ candidates.Nodup := by
  cases resolver <;> cases address <;> first | contradiction | exact tidy _ _ known

theorem Tidy.submit {resolver : Resolver services counters} (tidy : resolver.Tidy)
    (node : Node) : (resolver.submit node).Tidy := by
  cases resolver <;> exact tidy

theorem Tidy.absorb {resolver : Resolver services counters} (tidy : resolver.Tidy)
    (response : Response) : (resolver.absorb response).Tidy := by
  cases resolver <;> cases response <;> first | exact tidy | exact Cache.Tidy.fold tidy _

/-- A resolver that started as `origin` without memory has queued the keys of the given
nodes one after the other, and only tidy answers have been cached. -/
structure Descends (origin : Resolver services counters) (submitted : List Node)
    (resolver : Resolver services counters) : Prop where
  fresh : resolver.fresh = origin.fresh
  filled : resolver.FilledWith (submitted.flatMap (origin.keys ·))
  tidy : resolver.Tidy

theorem descends_fresh (origin : Resolver services counters) :
    origin.Descends [] origin.fresh where
  fresh := origin.fresh_fresh
  filled := origin.filledWith_fresh
  tidy := origin.tidy_fresh

/-- What a resolver remembered earlier, it remembers later. -/
structure Persists (earlier later : Resolver services counters) : Prop where
  pending : earlier.pending <+: later.pending
  cached {address : Address} :
    (earlier.candidates? address).isSome → (later.candidates? address).isSome

theorem Persists.refl (resolver : Resolver services counters) : resolver.Persists resolver where
  pending := List.prefix_rfl
  cached := id

theorem Persists.trans {first second third : Resolver services counters}
    (before : first.Persists second) (after : second.Persists third) :
    first.Persists third where
  pending := before.pending.trans after.pending
  cached known := after.cached (before.cached known)

theorem keys_congr {first second : Resolver services counters}
    (same : first.fresh = second.fresh) (node : Node) : first.keys node = second.keys node := by
  rw [← keys_fresh, same, keys_fresh]

namespace Descends

variable {origin resolver : Resolver services counters} {submitted : List Node}

theorem submit (descends : origin.Descends submitted resolver) (node : Node) :
    origin.Descends (submitted ++ [node]) (resolver.submit node) where
  fresh := by rw [fresh_submit, descends.fresh]
  filled := by
    rw [List.flatMap_append, List.flatMap_singleton, ← keys_congr descends.fresh]
    exact descends.filled.submit node
  tidy := descends.tidy.submit node

theorem absorb (descends : origin.Descends submitted resolver) (response : Response) :
    origin.Descends submitted (resolver.absorb response) where
  fresh := by rw [fresh_absorb, descends.fresh]
  filled := descends.filled.absorb response
  tidy := descends.tidy.absorb response

theorem submitAll (descends : origin.Descends submitted resolver) (nodes : List Node) :
    origin.Descends (submitted ++ nodes) (resolver.submitAll nodes) := by
  induction nodes generalizing submitted resolver with
  | nil =>
      rw [List.append_nil]
      exact descends
  | cons node rest ih =>
      rw [List.append_cons]
      exact ih (descends.submit node)

/-- Whatever an action makes of a resolver, it still descends from its origin. -/
theorem advance (descends : origin.Descends submitted resolver) {nodes : List Node}
    {next : Resolver services counters} (advances : resolver.Advances nodes next) :
    origin.Descends (submitted ++ nodes) next := by
  cases advances with
  | submit => exact descends.submitAll nodes
  | absorb response =>
      rw [List.append_nil]
      exact descends.absorb response

end Descends

theorem persists_submit (resolver : Resolver services counters) (node : Node) :
    resolver.Persists (resolver.submit node) where
  pending := by
    rw [submit_eq_insertAll]
    exact pending_prefix_insertAll (resolver.keys node) resolver
  cached known := by
    rw [candidates?_submit]
    exact known

theorem persists_submitAll (resolver : Resolver services counters) (nodes : List Node) :
    resolver.Persists (resolver.submitAll nodes) := by
  induction nodes generalizing resolver with
  | nil => exact .refl resolver
  | cons node rest ih => exact (resolver.persists_submit node).trans (ih _)

theorem persists_absorb (resolver : Resolver services counters) (response : Response) :
    resolver.Persists (resolver.absorb response) where
  pending := by simp only [pending_absorb, List.prefix_rfl]
  cached {address} known := by
    cases resolver <;> cases response <;> cases address <;>
      first | exact known | exact Cache.isSome_candidates?_fold known _

/-- Whatever an action makes of a resolver, nothing is forgotten. -/
theorem Advances.persists {resolver next : Resolver services counters} {nodes : List Node}
    (advances : resolver.Advances nodes next) : resolver.Persists next := by
  cases advances with
  | submit => exact resolver.persists_submitAll nodes
  | absorb response => exact resolver.persists_absorb response

/-- What a resolver remembers once the given nodes have been submitted to it. -/
structure Remembers (origin : Resolver services counters) (submitted : List Node)
    (resolver : Resolver services counters) : Prop where
  fresh : resolver.fresh = origin.fresh
  pending : resolver.pending = (submitted.flatMap (origin.keys ·)).eraseDups
  nodup : resolver.pending.Nodup
  queued {key : Key} : resolver.isQueued key = true ↔ key ∈ resolver.pending
  finite {coordinate : Coordinate} : .coordinate coordinate ∈ resolver.pending →
    coordinate.latitude.isFinite = true ∧ coordinate.longitude.isFinite = true
  cached {address : Address} {candidates : List String} :
    resolver.candidates? address = some candidates → candidates ≠ [] ∧ candidates.Nodup

theorem Descends.remembers {origin resolver : Resolver services counters}
    {submitted : List Node} (descends : origin.Descends submitted resolver) :
    origin.Remembers submitted resolver where
  fresh := descends.fresh
  pending := by rw [descends.filled.pending_eq, firstOccurrences_eq_eraseDups]
  nodup := descends.filled.nodup_pending
  queued := descends.filled.isQueued_iff
  finite member := by
    rw [descends.filled.pending_eq, mem_firstOccurrences, List.mem_flatMap] at member
    obtain ⟨node, -, carried⟩ := member
    exact isFinite_of_mem_keys carried
  cached := descends.tidy.candidates?

end Resolver

/-! ## Sessions -/

namespace Session

variable {σ : Type} [Service σ] [Recording σ] {services counters : Nat}

/-- A submission is answered by whether a resolver that it is meant for gets a key of the
node, be this queued already or not. -/
theorem answer_submit (session : Session services counters σ) (target : Target)
    (node : Node) :
    ∃ accepted, (session.perform (.submit target node)).1 = .flag accepted ∧
      (accepted = true ↔ ∃ (place : Nat) (resolver : Resolver services counters),
        target.names place = true ∧ session.resolvers[place]? = some resolver ∧
          resolver.Carries node) := by
  refine ⟨_, rfl, ?_⟩
  rw [offer_eq, ResolverSet.accepts_eq_any, List.any_eq_true]
  cases target with
  | all =>
      simp only [targeted, List.mem_iff_getElem?, Resolver.accepts_iff, Target.names]
      constructor
      · intro accepted
        obtain ⟨resolver, ⟨place, found⟩, carries⟩ := accepted
        exact ⟨place, resolver, trivial, found, carries⟩
      · intro accepting
        obtain ⟨place, resolver, _, found, carries⟩ := accepting
        exact ⟨resolver, ⟨place, found⟩, carries⟩
  | one named =>
      simp only [targeted, Option.mem_toList, Resolver.accepts_iff, Target.names, beq_iff_eq]
      constructor
      · intro accepted
        obtain ⟨resolver, found, carries⟩ := accepted
        exact ⟨named, resolver, rfl, found, carries⟩
      · intro accepting
        obtain ⟨place, resolver, same, found, carries⟩ := accepting
        exact ⟨resolver, same ▸ found, carries⟩

/-- Where a session starts with a resolver without memory, each run leads to a resolver that
descends from it. -/
theorem exists_descendant (start : Session services counters σ) {index : Nat}
    {origin : Resolver services counters}
    (unused : start.resolvers[index]? = some origin.fresh)
    (actions : List (Action services counters)) :
    ∃ resolver, (start.run actions).resolvers[index]? = some resolver ∧
      origin.Descends (actions.flatMap (Action.submits index)) resolver :=
  exists_run unused (motive := fun submitted resolver => origin.Descends submitted resolver)
    origin.descends_fresh (fun _ _ _ _ descends advances => descends.advance advances) actions

/-- In every session that a fresh resolver takes part in, whatever is done and whatever
the services answer, the resolver has queued the keys of the nodes submitted to it, each
at its first occurrence; the set beside the queue has the same keys, and the coordinates
among them are finite.  What is cached for an address is never empty and has no candidate
twice.  What goes on later only adds to the end of the queue and to the addresses in the
cache.  A submission is answered by whether it brings a key to a resolver. -/
theorem resolver_remembers_submissions (start : Session services counters σ) {index : Nat}
    {origin : Resolver services counters}
    (unused : start.resolvers[index]? = some origin.fresh)
    (actions later : List (Action services counters)) :
    let reached := start.run actions
    let ended := reached.run later
    (∃ resolver final : Resolver services counters,
      reached.resolvers[index]? = some resolver ∧ ended.resolvers[index]? = some final ∧
        origin.Remembers (actions.flatMap (Action.submits index)) resolver ∧
          resolver.Persists final) ∧
    ∀ target node, ∃ accepted, (reached.perform (.submit target node)).1 = .flag accepted ∧
      (accepted = true ↔ ∃ (place : Nat) (resolver : Resolver services counters),
        target.names place = true ∧ reached.resolvers[place]? = some resolver ∧
          resolver.Carries node) := by
  intro reached ended
  refine ⟨?_, fun target node => reached.answer_submit target node⟩
  obtain ⟨resolver, found, descends⟩ := start.exists_descendant unused actions
  obtain ⟨final, foundLater, persists⟩ := exists_run found
    (motive := fun _ final => resolver.Persists final) (.refl resolver)
    (fun _ _ _ _ persists advances => persists.trans advances.persists) later
  exact ⟨resolver, final, found, foundLater, descends.remembers, persists⟩

/-- An id that two nodes share is queued once, although a pass between the submissions
fails. -/
theorem resolver_remembers_shared_id :
    let client : Client 1 1 := { service := 0, counter := 0 }
    let failing : ScriptService := { script := [{ mishap := some .breakDown }] }
    let start : Session 1 1 :=
      { network := ⟨#v[.script failing], #v[0], 0⟩
        clients := [client]
        resolvers := [.ofCoordinates client, .ofExternalIds client ["isoCode"]] }
    let node : Node := Node.push {} "isoCode" ⟨.text, " AT "⟩
    let actions := [.submit .all node, .resolve .all, .submit (.one 1) node]
    start.resolvers[1]? = some (Resolver.ofExternalIds client ["isoCode"]).fresh ∧
      ∃ resolver, (start.run actions).resolvers[1]? = some resolver ∧
        resolver.pending = [.identifier ⟨"isoCode", "AT"⟩] := by
  intro client failing start node actions
  have unused :
      start.resolvers[1]? = some (Resolver.ofExternalIds client ["isoCode"]).fresh := rfl
  obtain ⟨⟨resolver, _, found, _, remembers, _⟩, _⟩ :=
    resolver_remembers_submissions start unused actions []
  refine ⟨unused, resolver, found, remembers.pending.trans ?_⟩
  decide +kernel

end Session

end IdResolution
