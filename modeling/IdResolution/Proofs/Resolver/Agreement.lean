import IdResolution.Proofs.Resolver.Response
import IdResolution.Proofs.Resolver.Set

/-!
# Resolvers that agree but for the order of their queues

Over a service in memory, the order in which keys were queued has no bearing on what a
pass brings.  Sets whose resolvers agree in all but this order resolve with the same
summaries, and afterwards look every node up alike.
-/

namespace IdResolution

variable {σ : Type} {services counters : Nat}

/-! ## Lookup by what is cached -/

/-- The answers to a node depend on what is cached, not on how. -/
theorem Strategy.answers_congr {κ γ α β : Type} [BEq κ] [Hashable κ] [BEq γ] [Hashable γ]
    (strategy : Strategy κ γ α β) (node : Node) {memory other : Memory κ γ}
    (same : ∀ address, memory.cache.candidates? address = other.cache.candidates? address) :
    strategy.answers node memory = strategy.answers node other := by
  have first (address : γ) : memory.cache.first? address = other.cache.first? address := by
    rw [Cache.first?, Cache.first?, same]
  rw [answers, answers]
  simp only [first]

namespace Resolver

/-- Two resolvers are the same but for the order in which their keys are queued. -/
structure Agrees (first second : Resolver services counters) : Prop where
  fresh : first.fresh = second.fresh
  candidates? : ∀ address, first.candidates? address = second.candidates? address
  pending : first.pending.Perm second.pending

/-- Resolvers that are the same and have the same cached look every node up alike. -/
theorem find_congr {first second : Resolver services counters}
    (fresh : first.fresh = second.fresh)
    (candidates? : ∀ address, first.candidates? address = second.candidates? address)
    (node : Node) : first.find node = second.find node := by
  cases first with
  | coordinates client memory =>
      cases second with
      | externalIds => contradiction
      | coordinates otherClient other =>
          have answers := Strategy.coordinates.answers_congr node
            fun coordinate => candidates? (.coordinate coordinate)
          rw [find, find, Strategy.find_eq_ofAnswers, Strategy.find_eq_ofAnswers, answers]
  | externalIds client properties memory =>
      cases second with
      | coordinates => contradiction
      | externalIds otherClient otherProperties other =>
          cases fresh
          have answers := (Strategy.externalIds properties).answers_congr node
            fun sourceId => candidates? (.sourceId sourceId)
          simp only [find, Strategy.find_eq_ofAnswers, answers]

namespace Agrees

variable {first second : Resolver services counters}

theorem kind (agrees : first.Agrees second) : first.kind = second.kind := by
  rw [← kind_fresh, agrees.fresh, kind_fresh]

theorem client (agrees : first.Agrees second) : first.client = second.client := by
  rw [← client_fresh, agrees.fresh, client_fresh]

variable [Service σ] [InMemory σ]

/-- The summaries of the answers to agreeing resolvers are the same. -/
theorem statsOf_answerOn (agrees : first.Agrees second)
    (network : Network σ services counters) :
    first.statsOf (first.answerOn network) = second.statsOf (second.answerOn network) := by
  have resolved : storedCount (first.answerOn network).entries =
      storedCount (second.answerOn network).entries := by
    rw [answerOn, answerOn, entries_responseFrom, entries_responseFrom, tablesOn_congr agrees.fresh]
    exact (agrees.pending.map _).countP_eq _
  rw [statsOf, statsOf, resolved, agrees.kind, agrees.client, agrees.pending.length_eq]

/-- Agreeing resolvers that have taken in their answers look every node up alike. -/
theorem find_absorb_answerOn (agrees : first.Agrees second)
    (network : Network σ services counters) (node : Node) :
    (first.absorb (first.answerOn network)).find node =
      (second.absorb (second.answerOn network)).find node := by
  apply find_congr
  · rw [fresh_absorb, fresh_absorb, agrees.fresh]
  · intro address
    have asked : (first.pending.map Key.address).contains address =
        (second.pending.map Key.address).contains address := by
      rw [Bool.eq_iff_iff, List.contains_iff_mem, List.contains_iff_mem]
      exact (agrees.pending.map Key.address).mem_iff
    rw [answerOn, answerOn, candidates?_absorb_responseFrom rfl,
      candidates?_absorb_responseFrom rfl, asked, tablesOn_congr agrees.fresh, agrees.candidates?]

end Agrees

end Resolver

/-! ## Sets of agreeing resolvers -/

namespace ResolverSet

/-- The resolvers of two sets agree position by position. -/
def Agree (first second : ResolverSet services counters) : Prop :=
  ∀ index : Nat, Option.Rel Resolver.Agrees first[index]? second[index]?

/-- What agreeing resolvers have in common is the same throughout sets that agree. -/
theorem Agree.map_eq {δ : Type} {first second : ResolverSet services counters}
    (agree : first.Agree second) {read : Resolver services counters → δ}
    (same : ∀ resolver other, resolver.Agrees other → read resolver = read other) :
    first.map read = second.map read := by
  apply List.ext_getElem?
  intro index
  have related := agree index
  rw [List.getElem?_map, List.getElem?_map]
  generalize first[index]? = found, second[index]? = otherFound at related
  cases related with
  | none => rfl
  | some agrees => exact congrArg some (same _ _ agrees)

theorem find_congr {first second : ResolverSet services counters} {node : Node}
    (same : first.map (Resolver.find node) = second.map (Resolver.find node)) :
    first.find node = second.find node := by
  induction first generalizing second with
  | nil =>
      rw [List.map_nil, eq_comm, List.map_eq_nil_iff] at same
      rw [same]
  | cons resolver rest ih =>
      cases second with
      | nil => contradiction
      | cons other others =>
          rw [List.map_cons, List.map_cons, List.cons.injEq] at same
          simp only [find, same.1, ih same.2]

variable [Service σ] [InMemory σ]

/-- However many resolvers make their passes, the tables of all services stay as they
are. -/
theorem sameTables_launch (resolvers : ResolverSet services counters)
    (network : Network σ services counters) :
    (launch resolvers network).2.SameTables network := by
  intro service
  induction resolvers generalizing network with
  | nil => rfl
  | cons resolver rest ih =>
      exact (ih (resolver.launch network).2).trans (resolver.sameTables_launch network service)

/-- The passes of other resolvers have no bearing on what a pass is answered. -/
theorem answered_networkAt_iff {resolvers : ResolverSet services counters}
    {network : Network σ services counters} {index : Nat}
    {resolver : Resolver services counters} {response : Response} :
    (resolver.calls (resolvers.networkAt network index)).Answered response ↔
      (resolver.calls network).Answered response :=
  Resolver.answered_calls_congr (sameTables_launch (resolvers.take index) network)

/-- When every pass is answered, every resolver takes in the answers to its keys, and the
summaries say so. -/
theorem resolve_of_answered {resolvers : ResolverSet services counters}
    {network : Network σ services counters}
    (answered : ∀ resolver ∈ resolvers,
      (resolver.calls network).Answered (resolver.answerOn network)) :
    (resolve resolvers network).result =
        .ok (resolvers.map fun resolver => resolver.statsOf (resolver.answerOn network)) ∧
      (resolve resolvers network).resolvers =
        resolvers.map fun resolver => resolver.absorb (resolver.answerOn network) := by
  have received {index : Nat} {resolver : Resolver services counters}
      (found : resolvers[index]? = some resolver) :
      (resolver.calls (resolvers.networkAt network index)).Answered
        (resolver.answerOn network) :=
    answered_networkAt_iff.mpr (answered resolver (List.mem_of_getElem? found))
  have unbroken : break? (launch resolvers network).1 = none :=
    break?_eq_none_iff.mpr fun index resolver found => ⟨_, received found⟩
  constructor
  · rcases flightResult_of_sound unbroken with ⟨stats, succeeded, length, at?⟩
    rw [succeeded]
    apply congrArg Except.ok
    apply List.ext_getElem?
    intro index
    rw [List.getElem?_map]
    cases found : resolvers[index]? with
    | none =>
        rw [List.getElem?_eq_none_iff, ← length] at found
        exact List.getElem?_eq_none found
    | some resolver => exact at? index resolver _ found (received found)
  · apply List.ext_getElem?
    intro index
    rw [List.getElem?_map]
    cases found : resolvers[index]? with
    | none => rw [getElem?_resolve, found, Option.map_none, Option.map_none]
    | some resolver => exact getElem?_resolve_of_sound unbroken found (received found)

/-- A resolve succeeds exactly when every pass is answered. -/
theorem exists_ok_iff_answered {resolvers : ResolverSet services counters}
    {network : Network σ services counters} :
    (∃ stats, (resolve resolvers network).result = .ok stats) ↔
      ∀ resolver ∈ resolvers, (resolver.calls network).Answered (resolver.answerOn network) := by
  constructor
  · intro ⟨stats, succeeded⟩ resolver listed
    obtain ⟨index, found⟩ := List.mem_iff_getElem?.mp listed
    obtain ⟨response, answered⟩ := break?_eq_none_iff.mp (unbroken_of_ok succeeded) _ _ found
    rw [answered_networkAt_iff] at answered
    rwa [← (Resolver.answered_calls_iff.mp answered).2]
  · intro answered
    exact ⟨_, (resolve_of_answered answered).1⟩

/-- On a network of services in memory no call fails, whatever it asks for. -/
def Sound (network : Network σ services counters) : Prop :=
  ∀ service address,
    (InMemory.tables (network.services.get service)).isFailing address = false

/-- On a sound network every resolver takes in the answers to its keys, and the
summaries say so. -/
theorem resolve_of_sound {network : Network σ services counters} (sound : Sound network)
    (resolvers : ResolverSet services counters) :
    (resolve resolvers network).result =
        .ok (resolvers.map fun resolver => resolver.statsOf (resolver.answerOn network)) ∧
      (resolve resolvers network).resolvers =
        resolvers.map fun resolver => resolver.absorb (resolver.answerOn network) := by
  apply resolve_of_answered
  intro resolver _
  rw [Resolver.answered_calls_iff]
  exact ⟨fun key _ => sound resolver.client.service key.address, rfl⟩

/-- On a sound network, sets that agree but for the order of their queues resolve with
the same summaries, and then each of their resolvers looks every node up alike. -/
theorem resolve_of_agree {first second : ResolverSet services counters}
    (agree : first.Agree second) {network : Network σ services counters}
    (sound : Sound network) :
    (∃ stats, (first.resolve network).result = .ok stats ∧
      (second.resolve network).result = .ok stats) ∧
    ∀ node, (first.resolve network).resolvers.map (Resolver.find node) =
      (second.resolve network).resolvers.map (Resolver.find node) := by
  rcases resolve_of_sound sound first with ⟨firstResult, firstResolvers⟩
  rcases resolve_of_sound sound second with ⟨secondResult, secondResolvers⟩
  constructor
  · refine ⟨_, firstResult, ?_⟩
    have summaries := agree.map_eq fun resolver other agrees => agrees.statsOf_answerOn network
    rw [secondResult, summaries]
  · intro node
    rw [firstResolvers, secondResolvers, List.map_map, List.map_map]
    exact agree.map_eq fun resolver other agrees => agrees.find_absorb_answerOn network node

end ResolverSet

end IdResolution
