import IdResolution.Config.Basic
import IdResolution.Proofs.Key.SourceId
import IdResolution.Proofs.Resolver.Response
import IdResolution.Proofs.Resolver.Retry

/-!
# Answers to identifiers

External ids are queued as identifiers, but asked for and cached by their source ids.
A service may answer each query by the identifier in it; whether the answer is cached for
the identifier that asked, or for another one as well, depends on the properties alone.
It does for the former alone exactly when the properties are separable, as those are that
a resolver inspects by default.
-/

namespace IdResolution

/-! ## Services that answer identifiers -/

/-- Whenever a service answers, it gives one entry for each query, which echoes the source
id and names what is given for the identifiers in the query. -/
def Service.AnswersEach (σ : Type) [Service σ] (given : Identifier → List String) : Prop :=
  ∀ (queries : List EntityQuery) (state : σ) (entries : List EntityEntry),
    (Service.call .entities queries state).1.outcome = .answered entries →
      (entries.map fun entry => (entry.sourceId, entry.candidates)).Perm
        (queries.map fun query => (query.sourceId, query.properties.flatMap given))

/-- What is true of single answers is true of the answers to all chunks of a request. -/
theorem Service.AnswersEach.perm_of_callEach {σ : Type} [Service σ]
    {given : Identifier → List String} (answersEach : Service.AnswersEach σ given)
    {chunks : List (List EntityQuery)} {service : σ} {answers : List (List EntityEntry)}
    (outcomes : (callEach .entities chunks service).1.map
      (fun report => report.completion.outcome) = answers.map .answered) :
    (answers.flatten.map fun entry => (entry.sourceId, entry.candidates)).Perm
      (chunks.flatten.map fun query => (query.sourceId, query.properties.flatMap given)) := by
  induction chunks generalizing service answers with
  | nil =>
      obtain rfl := List.map_eq_nil_iff.mp outcomes.symm
      exact .nil
  | cons chunk rest ih =>
      obtain ⟨first, others, rfl, answered, later⟩ := List.map_eq_cons_iff.mp outcomes.symm
      rw [List.flatten_cons, List.flatten_cons, List.map_append, List.map_append]
      exact (answersEach chunk service first answered.symm).append (ih later.symm)

/-- A service that knows what is given for each identifier, and nothing else. -/
structure Directory (given : Identifier → List String) where

namespace Directory

variable {given : Identifier → List String}

/-- The entries for the items of a call. -/
def entries {α β : Type} (given : Identifier → List String) : Operation α β → List α → List β
  | .coordinates, _ => []
  | .entities, queries => queries.map fun query =>
      ⟨query.sourceId, [⟨(query.properties.flatMap given).map (⟨Vocabulary.dcid, ·⟩)⟩]⟩

instance : Service (Directory given) where
  call operation items directory :=
    ({ outcome := .answered (entries given operation items) }, directory)

theorem answersEach : Service.AnswersEach (Directory given) given := by
  intro queries state answered same
  obtain rfl := Outcome.answered.inj same
  rw [entries, List.map_map]
  apply List.Perm.of_eq
  apply List.map_congr_left
  intro query _
  simp [EntityEntry.candidates, List.filter_map, Function.comp_def]

/-- Every call of a request is answered. -/
theorem outcomes_callEach {α β : Type} (operation : Operation α β) (chunks : List (List α))
    (directory : Directory given) :
    (callEach operation chunks directory).1.map (fun report => report.completion.outcome) =
      (chunks.map (entries given operation)).map .answered := by
  induction chunks generalizing directory with
  | nil => rfl
  | cons chunk rest ih => exact congrArg _ (ih directory)

theorem outcomes_request {α β : Type} {services counters : Nat}
    (network : Network (Directory given) services counters) (client : Client services counters)
    (operation : Operation α β) (items : List α) :
    (network.request client operation items).1.map (fun report => report.completion.outcome) =
      ((partition client.chunkSize items).map (entries given operation)).map .answered := by
  rw [Network.reports_request]
  exact outcomes_callEach operation (partition client.chunkSize items) _

end Directory

/-! ## Passes -/

namespace Resolver

variable {services counters : Nat}

/-- The entries for the queue of a resolver by external ids bring each queued identifier
what is given for it, if no two identifiers in the queue share a source id. -/
theorem candidates?_absorb_given {client : Client services counters}
    {properties : List String} {memory : Memory Identifier String}
    (apart : ∀ first ∈ memory.queue.toList, ∀ second ∈ memory.queue.toList,
      first.sourceId = second.sourceId → first = second)
    {given : Identifier → List String} {entries : List EntityEntry}
    (answers : (entries.map fun entry => (entry.sourceId, entry.candidates)).Perm
      (memory.queue.toList.map fun id => (id.sourceId, given id)))
    {id : Identifier} (queued : id ∈ memory.queue.toList) :
    ((externalIds client properties memory).absorb (.entities entries)).candidates?
        (.sourceId id.sourceId) =
      if given id = [] then memory.cache.candidates? id.sourceId
      else some (given id).eraseDups := by
  let listed (sourceId : String) : List String :=
    ((memory.queue.toList.find? (·.sourceId == sourceId)).map given).getD []
  have listedOwn : ∀ own ∈ memory.queue.toList, listed own.sourceId = given own := by
    intro own member
    cases found : memory.queue.toList.find? (·.sourceId == own.sourceId) with
    | none => simpa using List.find?_eq_none.mp found own member
    | some other =>
        have same := apart other (List.mem_of_find?_eq_some found) own member
          (by simpa using List.find?_some found)
        simp only [listed, found, same, Option.map_some, Option.getD_some]
  have uniform : ∀ entry ∈ entries.map fun entry => (entry.sourceId, entry.candidates),
      entry.2 = listed entry.1 := by
    intro entry member
    obtain ⟨own, ownMember, rfl⟩ := List.mem_map.mp (answers.mem_iff.mp member)
    exact (listedOwn own ownMember).symm
  have asked : id.sourceId ∈ (entries.map fun entry =>
      (entry.sourceId, entry.candidates)).map Prod.fst := by
    apply List.mem_map.mpr
    exact ⟨(id.sourceId, given id), answers.mem_iff.mpr (List.mem_map.mpr ⟨id, queued, rfl⟩), rfl⟩
  have folded := Cache.candidates?_fold memory.cache uniform id.sourceId
  rw [List.contains_iff_mem.mpr asked, Bool.true_and, listedOwn id queued,
    firstOccurrences_eq_eraseDups] at folded
  refine folded.trans ?_
  cases given id <;> rfl

/-- A pass over a directory takes in one entry for each queued identifier, in order. -/
theorem candidates?_conclude_directory {given : Identifier → List String}
    {client : Client services counters} {properties : List String}
    {memory : Memory Identifier String} {network : Network (Directory given) services counters}
    {sourceId : String} :
    ((externalIds client properties memory).conclude
        ((externalIds client properties memory).calls network)).candidates?
          (.sourceId sourceId) =
      (memory.cache.fold (memory.queue.toList.map fun id => (id.sourceId, given id))).candidates?
        sourceId := by
  let strategy := Strategy.externalIds properties
  let chunks := partition client.chunkSize (strategy.request memory.queue.toList)
  have answered : ((externalIds client properties memory).calls network).Answered
      (.entities (chunks.map (Directory.entries given .entities)).flatten) :=
    .entities (Directory.outcomes_request network client _ _)
  have joined : (chunks.map (Directory.entries given .entities)).flatten =
      Directory.entries given .entities (strategy.request memory.queue.toList) := by
    rw [← flatten_partition client.chunkSize (strategy.request memory.queue.toList)]
    exact List.map_flatten.symm
  rw [conclude_of_answered answered, joined]
  simp only [absorb, candidates?, Strategy.cache_absorb, Directory.entries, Strategy.request,
    List.map_map, strategy]
  congr 2
  apply List.map_congr_left
  intro id _
  simp [Strategy.externalIds, EntityQuery.ofIdentifier, EntityEntry.candidates,
    List.filter_map, Function.comp_def]

end Resolver

namespace Deployment

variable {σ : Type} [Service σ] {services counters : Nat}

/-- Submissions cache nothing. -/
theorem candidates?_run_submit (start : Deployment σ services counters) (nodes : List Node)
    (address : Address) :
    (start.run (nodes.map .submit)).resolver.candidates? address =
      start.resolver.candidates? address := by
  induction nodes using List.reverseRecOn with
  | nil => rfl
  | append_singleton nodes last ih =>
      rw [List.map_append, List.map_singleton, run_append_singleton, after,
        Resolver.candidates?_submit, ih]

/-- What a resolver by external ids has queued is carried by nodes. -/
theorem carried_of_pending {client : Client services counters} {properties : List String}
    {network : Network σ services counters} {history : List Event} {id : Identifier}
    (pending : .identifier id ∈
      (run ⟨.ofExternalIds client properties, network⟩ history).resolver.pending) :
    Carried properties id := by
  obtain ⟨node, -, member⟩ := exists_submit_of_pending rfl pending
  obtain ⟨carried, listed, same⟩ := Resolver.mem_keys_ofExternalIds.mp member
  obtain rfl := Key.identifier.inj same
  exact ⟨node, listed⟩

/-- A pass that succeeds over a service which answers identifiers brings each of them what
is given for it, if no two that nodes carry share a source id. -/
theorem candidates?_resolve_of_apart {given : Identifier → List String}
    (answersEach : Service.AnswersEach σ given) {properties : List String}
    (apart : ∀ first second : Identifier, Carried properties first →
      Carried properties second → first.sourceId = second.sourceId → first = second)
    {client : Client services counters} {network : Network σ services counters}
    {nodes : List Node} {stats : Stats} :
    let asked := run ⟨.ofExternalIds client properties, network⟩ (nodes.map .submit)
    asked.resolve.1 = .ok stats → ∀ id, .identifier id ∈ asked.resolver.pending →
      asked.resolve.2.resolver.candidates? (.sourceId id.sourceId) =
        if given id = [] then none else some (given id).eraseDups := by
  intro asked succeeded id pending
  obtain ⟨response, answered, -⟩ := resolve_eq_ok_iff.mp succeeded
  have fresh : asked.resolver.fresh = .ofExternalIds client properties := fresh_run _ _
  have nothing : asked.resolver.candidates? (.sourceId id.sourceId) = none := by
    rw [candidates?_run_submit, ← fresh, Resolver.candidates?_fresh]
  have carried : ∀ queued, .identifier queued ∈ asked.resolver.pending →
      Carried properties queued := fun _ member => carried_of_pending member
  rw [resolver_resolve, Resolver.conclude_of_answered answered]
  cases state : asked.resolver with
  | coordinates other memory =>
      rw [state] at fresh
      contradiction
  | externalIds other listed memory =>
      rw [state] at pending nothing carried answered
      have carriedQueued : ∀ queued ∈ memory.queue.toList, Carried properties queued :=
        fun queued member => carried queued (List.mem_map.mpr ⟨queued, member, rfl⟩)
      obtain ⟨own, ownQueued, same⟩ := List.mem_map.mp pending
      obtain rfl := Key.identifier.inj same
      cases answered with
      | entities outcomes =>
          rw [Network.reports_request] at outcomes
          have answers := answersEach.perm_of_callEach outcomes
          have asks : (memory.queue.toList.map EntityQuery.ofIdentifier).map
              (fun query => (query.sourceId, query.properties.flatMap given)) =
                memory.queue.toList.map fun id => (id.sourceId, given id) := by
            rw [List.map_map]
            exact List.map_congr_left fun id _ => by simp [EntityQuery.ofIdentifier]
          rw [flatten_partition, Strategy.request, Strategy.externalIds, asks] at answers
          rw [Resolver.candidates?] at nothing
          rw [Resolver.candidates?_absorb_given _ answers ownQueued, nothing]
          intro first firstQueued second secondQueued
          exact apart first second (carriedQueued first firstQueued)
            (carriedQueued second secondQueued)

/-- A pass over a directory succeeds. -/
theorem succeeds_of_directory {given : Identifier → List String}
    (deployment : Deployment (Directory given) services counters) : deployment.Succeeds := by
  suffices ∃ response, (deployment.resolver.calls deployment.network).Answered response by
    obtain ⟨response, answered⟩ := this
    exact ⟨_, resolve_eq_ok_iff.mpr ⟨response, answered, rfl⟩⟩
  cases deployment.resolver with
  | coordinates client memory => exact ⟨_, .places (Directory.outcomes_request _ _ _ _)⟩
  | externalIds client properties memory =>
      exact ⟨_, .entities (Directory.outcomes_request _ _ _ _)⟩

/-- An identifier that a node carries is queued once the node has been submitted. -/
theorem pending_of_submit {client : Client services counters} {properties : List String}
    {network : Network σ services counters} {nodes : List Node} {node : Node}
    (submitted : node ∈ nodes) {id : Identifier} (carried : id ∈ node.identifiers properties) :
    .identifier id ∈
      (run ⟨.ofExternalIds client properties, network⟩
        (nodes.map .submit)).resolver.pending := by
  rw [mem_pending_run rfl, Resolver.mem_submitted_iff]
  exact ⟨node, List.mem_map_of_mem submitted,
    Resolver.mem_keys_ofExternalIds.mpr ⟨id, carried, rfl⟩⟩

/-- Over every service that answers each query with an entry of its own, chosen by the
identifier in the query, a pass that succeeds brings each queued identifier the candidates
that are given for it, exactly when the properties are separable.  When they are not, there
are nodes and a service for which an identifier has the candidates of another one. -/
theorem separable_iff_answers_reach_own_identifier (properties : List String) :
    Separable properties ↔
      ∀ (σ : Type) [Service σ] (given : Identifier → List String),
        Service.AnswersEach σ given → ∀ (services counters : Nat)
          (client : Client services counters) (network : Network σ services counters)
          (nodes : List Node) (stats : Stats),
          let asked := run ⟨.ofExternalIds client properties, network⟩ (nodes.map .submit)
          asked.resolve.1 = .ok stats → ∀ id, .identifier id ∈ asked.resolver.pending →
            asked.resolve.2.resolver.candidates? (.sourceId id.sourceId) =
              if given id = [] then none else some (given id).eraseDups := by
  rw [separable_iff_sourceId_injective]
  constructor
  · intro apart σ _ given answersEach services counters client network nodes stats
    exact candidates?_resolve_of_apart answersEach apart
  · intro reaches first second carried carriedSecond same
    by_contra distinct
    obtain ⟨node, member⟩ := carried
    obtain ⟨other, memberSecond⟩ := carriedSecond
    -- A directory that gives one candidate for the first identifier and another one for the
    -- second cannot have both cached under the source id that they share.
    let given (id : Identifier) : List String := if id = first then ["first"] else ["second"]
    let network : Network (Directory given) 1 1 := ⟨#v[{}], #v[0], 0⟩
    let client : Client 1 1 := { service := 0, counter := 0 }
    let asked := run ⟨.ofExternalIds client properties, network⟩ ([node, other].map .submit)
    obtain ⟨stats, succeeded⟩ := succeeds_of_directory asked
    have reached := reaches _ given Directory.answersEach 1 1 client network [node, other]
      stats succeeded
    have cached := reached first (pending_of_submit List.mem_cons_self member)
    have cachedSecond := reached second
      (pending_of_submit (List.mem_cons_of_mem _ List.mem_cons_self) memberSecond)
    have givenFirst : given first = ["first"] := if_pos rfl
    have givenSecond : given second = ["second"] := if_neg (Ne.symm distinct)
    rw [← same, cached, givenFirst, givenSecond] at cachedSecond
    exact absurd cachedSecond (by decide)

/-- Of two queued identifiers with one source id, the later one determines what is cached
for both. -/
theorem candidates?_resolve_of_shared {given : Identifier → List String}
    {client : Client services counters} {properties : List String}
    {network : Network (Directory given) services counters} {history : List Event}
    {first second : Identifier} (shared : second.sourceId = first.sourceId)
    (named : given second ≠ []) :
    let asked := run ⟨.ofExternalIds client properties, network⟩ history
    asked.resolver.pending = [.identifier first, .identifier second] →
      asked.resolve.2.resolver.candidates? (.sourceId first.sourceId) =
        some (given second).eraseDups := by
  intro asked pending
  have fresh : asked.resolver.fresh = .ofExternalIds client properties := fresh_run _ _
  rw [resolver_resolve]
  cases state : asked.resolver with
  | coordinates other memory =>
      rw [state] at fresh
      contradiction
  | externalIds other listed memory =>
      rw [state] at pending
      have queued : memory.queue.toList = [first, second] :=
        List.map_injective_iff.mpr (fun _ _ => Key.identifier.inj) pending
      rw [Resolver.candidates?_conclude_directory, queued]
      have last : (second.sourceId == first.sourceId && !(given second).isEmpty) = true := by
        simp [shared, named]
      have stored := Cache.candidates?_store (memory.cache.store first.sourceId (given first))
        second.sourceId first.sourceId (given second)
      rw [last, if_pos rfl, firstOccurrences_eq_eraseDups] at stored
      rw [List.map_cons, List.map_cons, Cache.fold_cons, Cache.fold_cons]
      exact stored

/-- With `ref` and `ref:INSEE` as properties, two nodes queue different identifiers with one
source id.  A service that knows the first one for the city and the second one for the
commune answers the query for each by its own candidate.  The candidate of the commune is
then cached for the city as well. -/
theorem city_has_candidates_of_commune :
    let config : Config := { idProperties := ["ref", "ref:INSEE"] }
    let city : Identifier := ⟨"ref", "INSEE:75056"⟩
    let commune : Identifier := ⟨"ref:INSEE", "75056"⟩
    let given (id : Identifier) : List String :=
      if id = city then ["wikidataId/Q90"] else ["geoId/75056"]
    let client : Client 1 1 := { service := 0, counter := 0 }
    let network : Network (Directory given) 1 1 := ⟨#v[{}], #v[0], 0⟩
    let nodes := [Node.ofText "ref" "INSEE:75056", Node.ofText "ref:INSEE" "75056"]
    let asked := run ⟨.ofExternalIds client config.idProperties, network⟩ (nodes.map .submit)
    config.validate = .ok config ∧ asked.Succeeds ∧
      asked.resolver.pending = [.identifier city, .identifier commune] ∧
      asked.resolve.2.resolver.candidates? (.sourceId city.sourceId) = some ["geoId/75056"] := by
  intro config city commune given client network nodes asked
  have filled : asked.resolver.FilledWith _ := filledWith_run rfl (nodes.map .submit)
  have pending : asked.resolver.pending = [.identifier city, .identifier commune] := by
    rw [filled.pending_eq]
    decide +kernel
  have faultless : config.fault? = none := by decide +kernel
  have valid : config.validate = .ok config := by rw [Config.validate, faultless]
  have named : given commune ≠ [] := by decide
  have shared : commune.sourceId = city.sourceId := by decide +kernel
  have cached := candidates?_resolve_of_shared shared named pending
  exact ⟨valid, succeeds_of_directory asked, pending, cached⟩

/-- The properties that are inspected by default have no colons. -/
example : Separable Vocabulary.externalIds := separable_of_colonless (by decide)

end Deployment

end IdResolution
