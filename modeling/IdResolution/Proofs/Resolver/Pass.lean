import IdResolution.Proofs.Client.Partition
import IdResolution.Proofs.Client.Request
import IdResolution.Proofs.Resolver.Run

/-!
# The calls of a pass and its response

A pass makes its calls when it is launched, and all that it brings follows from how
they end.  When every call is answered, the answers joined in the order of the chunks
are the response, which is taken in as a whole; when some call is not answered, the
resolver stays as it is.  On the network, a pass changes the counts and the state of
the service that it calls, and nothing else.
-/

namespace IdResolution

/-- The calls of one pass with their ends, in the order of the chunks. -/
inductive Calls where
  | places (reports : List (Report PlaceEntry))
  | entities (reports : List (Report EntityEntry))
  deriving DecidableEq, Repr

namespace Response

/-- The address that each entry answers, with the candidates that it names. -/
def entries : Response → List (Address × List String)
  | .places entries => entries.map fun entry => (.coordinate entry.coordinate, entry.candidates)
  | .entities entries => entries.map fun entry => (.sourceId entry.sourceId, entry.candidates)

/-- The kind of keys that a response answers. -/
def kind : Response → KeyKind
  | .places _ => .coordinates
  | .entities _ => .externalIds

end Response

/-! ## Results of calls -/

theorem map_eq_ok_iff {ε α β : Type} {image : α → β} {result : Except ε α} {value : β} :
    result.map image = .ok value ↔ ∃ received, result = .ok received ∧ image received = value := by
  cases result <;> simp [Except.map]

theorem map_eq_error_iff {ε α β : Type} {image : α → β} {result : Except ε α} {error : ε} :
    result.map image = .error error ↔ result = .error error := by
  cases result <;> simp [Except.map]

namespace Calls

/-- Every call was answered, and the response joins the answers in the order of the
chunks. -/
inductive Answered : Calls → Response → Prop where
  | places {reports : List (Report PlaceEntry)} {answers : List (List PlaceEntry)}
      (outcomes : reports.map (fun report => report.completion.outcome) =
        answers.map .answered) :
      Answered (.places reports) (.places answers.flatten)
  | entities {reports : List (Report EntityEntry)} {answers : List (List EntityEntry)}
      (outcomes : reports.map (fun report => report.completion.outcome) =
        answers.map .answered) :
      Answered (.entities reports) (.entities answers.flatten)

/-- The calls of two passes end in the same ways, be it at other times. -/
inductive Alike : Calls → Calls → Prop where
  | places {first second : List (Report PlaceEntry)}
      (outcomes : first.map (fun report => report.completion.outcome) =
        second.map fun report => report.completion.outcome) :
      Alike (.places first) (.places second)
  | entities {first second : List (Report EntityEntry)}
      (outcomes : first.map (fun report => report.completion.outcome) =
        second.map fun report => report.completion.outcome) :
      Alike (.entities first) (.entities second)

/-- No call takes any time. -/
def Undelayed : Calls → Prop
  | .places reports => ∀ report ∈ reports, report.completion.time = 0
  | .entities reports => ∀ report ∈ reports, report.completion.time = 0

/-- The result of the request that the calls make up. -/
def result : Calls → Except Error Response
  | .places reports => (Report.result reports).map .places
  | .entities reports => (Report.result reports).map .entities

/-- The error of the request, if not all of its calls are answered. -/
def failure? (calls : Calls) : Option Error :=
  match calls.result with
  | .ok _ => none
  | .error error => some error

/-- When the result is known. -/
def finishedAt : Calls → Nat
  | .places reports => Report.finishedAt reports
  | .entities reports => Report.finishedAt reports

/-- The warnings for the calls that failed with a cause. -/
def warnings : Calls → List TimedWarning
  | .places reports => Report.warnings .coordinates reports
  | .entities reports => Report.warnings .entities reports

/-- A request succeeds when all its calls are answered, with the whole response. -/
theorem result_eq_ok_iff {calls : Calls} {response : Response} :
    calls.result = .ok response ↔ calls.Answered response := by
  constructor
  · intro succeeded
    cases calls with
    | places reports =>
        rcases map_eq_ok_iff.mp succeeded with ⟨entries, received, rfl⟩
        rcases Report.result_eq_ok_iff.mp received with ⟨answers, outcomes, rfl⟩
        exact .places outcomes
    | entities reports =>
        rcases map_eq_ok_iff.mp succeeded with ⟨entries, received, rfl⟩
        rcases Report.result_eq_ok_iff.mp received with ⟨answers, outcomes, rfl⟩
        exact .entities outcomes
  · intro answered
    cases answered with
    | places outcomes =>
        exact map_eq_ok_iff.mpr ⟨_, Report.result_eq_ok_iff.mpr ⟨_, outcomes, rfl⟩, rfl⟩
    | entities outcomes =>
        exact map_eq_ok_iff.mpr ⟨_, Report.result_eq_ok_iff.mpr ⟨_, outcomes, rfl⟩, rfl⟩

/-- Calls make up one response at most. -/
theorem Answered.unique {calls : Calls} {response other : Response}
    (answered : calls.Answered response) (again : calls.Answered other) : response = other := by
  rw [← result_eq_ok_iff] at answered again
  exact Except.ok.inj (answered.symm.trans again)

theorem Answered.result_ne_error {calls : Calls} {response : Response}
    (answered : calls.Answered response) (error : Error) : calls.result ≠ .error error := by
  rw [result_eq_ok_iff.mpr answered]
  exact nofun

theorem failure?_eq_some_iff {calls : Calls} {error : Error} :
    calls.failure? = some error ↔ calls.result = .error error := by
  unfold failure?
  cases calls.result <;> simp

/-- A request fails unless all its calls are answered. -/
theorem failure?_eq_none_iff {calls : Calls} :
    calls.failure? = none ↔ ∃ response, calls.Answered response := by
  simp only [← result_eq_ok_iff]
  unfold failure?
  cases calls.result <;> simp

theorem finishedAt_eq_zero {calls : Calls} (undelayed : calls.Undelayed) :
    calls.finishedAt = 0 := by
  cases calls with
  | places reports =>
      apply Ending.knownAt_of_immediate
      rw [Report.endings, List.forall_mem_map]
      exact undelayed
  | entities reports =>
      apply Ending.knownAt_of_immediate
      rw [Report.endings, List.forall_mem_map]
      exact undelayed

/-- Calls that end in the same ways are answered by the same responses. -/
theorem Alike.answered_iff {first second : Calls} (alike : first.Alike second)
    {response : Response} : first.Answered response ↔ second.Answered response := by
  cases alike with
  | places same =>
      constructor
      · intro answered
        cases answered with
        | places outcomes => exact .places (same.symm.trans outcomes)
      · intro answered
        cases answered with
        | places outcomes => exact .places (same.trans outcomes)
  | entities same =>
      constructor
      · intro answered
        cases answered with
        | entities outcomes => exact .entities (same.symm.trans outcomes)
      · intro answered
        cases answered with
        | entities outcomes => exact .entities (same.trans outcomes)

end Calls

/-! ## What a pass comes to -/

namespace Resolver

variable {σ : Type} {services counters : Nat}

/-- The calls of a pass that is launched on a network. -/
def calls [Service σ] (resolver : Resolver services counters)
    (network : Network σ services counters) : Calls :=
  match resolver with
  | .coordinates client memory =>
      let strategy := Strategy.coordinates
      .places (network.request client strategy.operation
        (strategy.request memory.queue.toList)).1
  | .externalIds client properties memory =>
      let strategy := Strategy.externalIds properties
      .entities (network.request client strategy.operation
        (strategy.request memory.queue.toList)).1

/-- The resolver once a pass with the given calls has ended: with the response taken
in, or as it is if some call was not answered. -/
def conclude (calls : Calls) (resolver : Resolver services counters) :
    Resolver services counters :=
  match calls.result with
  | .ok response => resolver.absorb response
  | .error _ => resolver

/-- The summary of a pass that sent the whole queue and received a response. -/
def statsOf (response : Response) (resolver : Resolver services counters) : Stats where
  kind := resolver.kind
  keysSent := resolver.pending.length
  keysResolved := storedCount response.entries
  apiCalls := chunkCount resolver.client.chunkSize resolver.pending.length

/-- A pass of a strategy lands with the whole response taken in, or not at all. -/
theorem landing_flightOf {κ γ α β : Type} [BEq κ] [Hashable κ] [BEq γ] [Hashable γ]
    (strategy : Strategy κ γ α β) (client : Client services counters)
    (memory : Memory κ γ) (rebuild : Memory κ γ → Resolver services counters)
    (reports : List (Report β)) :
    (flightOf strategy client memory rebuild reports).landing =
      (Report.result reports).map fun entries =>
        (strategy.stats client.chunkSize memory.queue.size
            (storedCount (entries.map strategy.entry)),
          rebuild (strategy.absorb entries memory)) := by
  simp only [flightOf, Strategy.conclude, Strategy.receive_eq]
  cases Report.result reports <;> rfl

theorem statsOf_places (client : Client services counters)
    (memory : Memory Coordinate Coordinate) (entries : List PlaceEntry) :
    (coordinates client memory).statsOf (.places entries) =
      Strategy.coordinates.stats client.chunkSize memory.queue.size
        (storedCount (entries.map Strategy.coordinates.entry)) := by
  simp [statsOf, Strategy.stats, Response.entries, pending, storedCount, kind,
    Resolver.client, Strategy.coordinates, List.countP_map, Function.comp_def]

theorem statsOf_entities (client : Client services counters) (properties : List String)
    (memory : Memory Identifier String) (entries : List EntityEntry) :
    (externalIds client properties memory).statsOf (.entities entries) =
      (Strategy.externalIds properties).stats client.chunkSize memory.queue.size
        (storedCount (entries.map (Strategy.externalIds properties).entry)) := by
  simp [statsOf, Strategy.stats, Response.entries, pending, storedCount, kind,
    Resolver.client, Strategy.externalIds, List.countP_map, Function.comp_def]

/-- A pass lands with the whole response to its calls taken in, or not at all. -/
theorem landing_launch_eq [Service σ] (resolver : Resolver services counters)
    (network : Network σ services counters) :
    (resolver.launch network).1.landing =
      (resolver.calls network).result.map fun response =>
        (resolver.statsOf response, resolver.absorb response) := by
  cases resolver with
  | coordinates client memory =>
      simp only [launch, landing_flightOf, calls, Calls.result]
      cases Report.result _ with
      | ok entries => simp only [Except.map, statsOf_places, absorb]
      | error error => rfl
  | externalIds client properties memory =>
      simp only [launch, landing_flightOf, calls, Calls.result]
      cases Report.result _ with
      | ok entries => simp only [Except.map, statsOf_entities, absorb]
      | error error => rfl

theorem warnings_launch [Service σ] (resolver : Resolver services counters)
    (network : Network σ services counters) :
    (resolver.launch network).1.warnings = (resolver.calls network).warnings := by
  cases resolver <;> rfl

theorem finishedAt_launch [Service σ] (resolver : Resolver services counters)
    (network : Network σ services counters) :
    (resolver.launch network).1.finishedAt = (resolver.calls network).finishedAt := by
  cases resolver <;> rfl

theorem keysSent_launch [Service σ] (resolver : Resolver services counters)
    (network : Network σ services counters) :
    (resolver.launch network).1.keysSent = resolver.pending.length := by
  cases resolver <;> simp [launch, flightOf, pending]

theorem failure?_launch [Service σ] (resolver : Resolver services counters)
    (network : Network σ services counters) :
    (resolver.launch network).1.failure? = (resolver.calls network).failure? := by
  rw [Flight.failure?, landing_launch_eq, Calls.failure?]
  cases (resolver.calls network).result <;> rfl

/-- To take in a response changes nothing but the cache. -/
@[simp] theorem fresh_absorb (response : Response) (resolver : Resolver services counters) :
    (resolver.absorb response).fresh = resolver.fresh := by
  cases resolver <;> cases response <;> rfl

@[simp] theorem pending_absorb (response : Response) (resolver : Resolver services counters) :
    (resolver.absorb response).pending = resolver.pending := by
  cases resolver <;> cases response <;> rfl

@[simp] theorem pending_conclude (calls : Calls) (resolver : Resolver services counters) :
    (resolver.conclude calls).pending = resolver.pending := by
  unfold conclude
  split
  · exact pending_absorb _ resolver
  · rfl

@[simp] theorem fresh_conclude (calls : Calls) (resolver : Resolver services counters) :
    (resolver.conclude calls).fresh = resolver.fresh := by
  unfold conclude
  split
  · exact fresh_absorb _ resolver
  · rfl

theorem FilledWith.absorb {resolver : Resolver services counters} {keys : List Key}
    (filled : resolver.FilledWith keys) (response : Response) :
    (resolver.absorb response).FilledWith keys := by
  cases resolver <;> cases response <;> exact filled

theorem filledWith_conclude {calls : Calls} {resolver : Resolver services counters}
    {keys : List Key} (filled : resolver.FilledWith keys) :
    (resolver.conclude calls).FilledWith keys := by
  unfold conclude
  split
  · exact filled.absorb _
  · exact filled

/-- A pass whose calls are all answered takes in the whole response. -/
theorem conclude_of_answered {calls : Calls} {response : Response}
    (answered : calls.Answered response) (resolver : Resolver services counters) :
    resolver.conclude calls = resolver.absorb response := by
  rw [conclude, Calls.result_eq_ok_iff.mpr answered]

/-- A pass that fails brings nothing. -/
theorem conclude_of_failed {calls : Calls} (failed : ∀ response, ¬calls.Answered response)
    (resolver : Resolver services counters) : resolver.conclude calls = resolver := by
  cases received : calls.result with
  | ok response => exact absurd (Calls.result_eq_ok_iff.mp received) (failed response)
  | error error => rw [conclude, received]

/-- Passes whose calls end in the same ways come to the same. -/
theorem conclude_congr {first second : Calls} (alike : first.Alike second)
    (resolver : Resolver services counters) :
    resolver.conclude first = resolver.conclude second := by
  by_cases succeeded : ∃ response, first.Answered response
  · rcases succeeded with ⟨response, answered⟩
    rw [conclude_of_answered answered, conclude_of_answered (alike.answered_iff.mp answered)]
  · rw [conclude_of_failed fun response answered => succeeded ⟨response, answered⟩,
      conclude_of_failed fun response answered =>
        succeeded ⟨response, alike.answered_iff.mpr answered⟩]

end Resolver

/-! ## What a pass does to the network -/

namespace Network

variable {σ : Type} {services counters : Nat}

/-- A number of calls through a client were counted, and they reached no service but
that of the client. -/
structure CallsCounted (client : Client services counters) (calls : Nat)
    (before after : Network σ services counters) : Prop where
  counter : after.counters.get client.counter = before.counters.get client.counter + calls
  otherCounters : ∀ other ≠ client.counter,
    after.counters.get other = before.counters.get other
  total : after.total = before.total + calls
  otherServices : ∀ other ≠ client.service,
    after.services.get other = before.services.get other

/-- A request counts one call for each of its chunks. -/
theorem callsCounted_request [Service σ] {α β : Type} (network : Network σ services counters)
    (client : Client services counters) (operation : Operation α β) (items : List α) :
    CallsCounted client (chunkCount client.chunkSize items.length) network
      (network.request client operation items).2 := by
  have calls : (network.request client operation items).1.length =
      chunkCount client.chunkSize items.length := by
    rw [← length_partition client.chunkSize_pos, reports_request]
    exact (callEach_calledInOrder operation _ _).length
  rw [reports_request] at calls
  constructor
  · rw [request_eq, ← calls]
    exact Vector.getElem_set_self client.counter.isLt
  · intro other apart
    have positions : client.counter.val ≠ other.val := by
      intro equal
      exact apart (Fin.ext equal.symm)
    exact Vector.getElem_set_ne client.counter.isLt other.isLt positions
  · rw [request_eq, ← calls]
    rfl
  · intro other apart
    exact get_request_of_ne network client operation items apart

end Network

theorem Resolver.callsCounted_launch {σ : Type} [Service σ] {services counters : Nat}
    (resolver : Resolver services counters) (network : Network σ services counters) :
    Network.CallsCounted resolver.client
      (chunkCount resolver.client.chunkSize resolver.pending.length) network
      (resolver.launch network).2 := by
  cases resolver with
  | coordinates client memory =>
      have counted := network.callsCounted_request client Strategy.coordinates.operation
        (Strategy.coordinates.request memory.queue.toList)
      rw [Strategy.request, List.length_map] at counted
      rw [pending, List.length_map]
      exact counted
  | externalIds client properties memory =>
      let strategy := Strategy.externalIds properties
      have counted := network.callsCounted_request client strategy.operation
        (strategy.request memory.queue.toList)
      rw [Strategy.request, List.length_map] at counted
      rw [pending, List.length_map]
      exact counted

end IdResolution
