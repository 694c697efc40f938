import IdResolution.Proofs.Gathering
import IdResolution.Proofs.Resolver.Basic
import IdResolution.Resolver.Set

/-!
# Runs of a resolver

A resolver on a network goes through a history of submissions and passes.  Its queue
is determined by the submissions of the history alone.  A key has been served when a
pass succeeded after the submission of the key.
-/

namespace IdResolution

/-- What happens to a resolver on a network. -/
inductive Event where
  /-- A node is submitted. -/
  | submit (node : Node)
  /-- The whole queue is sent. -/
  | resolve

namespace Resolver

variable {services counters : Nat}

/-- The keys submitted in the course of a history, one after the other. -/
def submitted (resolver : Resolver services counters) (history : List Event) : List Key :=
  history.flatMap fun event =>
    match event with
    | .submit node => resolver.keys node
    | .resolve => []

theorem mem_submitted_iff {resolver : Resolver services counters} {history : List Event}
    {key : Key} :
    key ∈ resolver.submitted history ↔
      ∃ node, .submit node ∈ history ∧ key ∈ resolver.keys node := by
  rw [submitted, List.mem_flatMap]
  constructor
  · intro ⟨event, eventMember, member⟩
    cases event with
    | submit node => exact ⟨node, eventMember, member⟩
    | resolve => contradiction
  · intro ⟨node, nodeMember, member⟩
    exact ⟨.submit node, nodeMember, member⟩

theorem submitted_append_submit (resolver : Resolver services counters)
    (history : List Event) (node : Node) :
    resolver.submitted (history ++ [.submit node]) =
      resolver.submitted history ++ resolver.keys node := by
  simp [submitted]

theorem submitted_append_resolve (resolver : Resolver services counters)
    (history : List Event) :
    resolver.submitted (history ++ [.resolve]) = resolver.submitted history := by
  simp [submitted]

end Resolver

/-- A resolver and the network over which it resolves. -/
structure Deployment (σ : Type) (services counters : Nat) where
  resolver : Resolver services counters
  network : Network σ services counters

namespace Deployment

variable {σ : Type} {services counters : Nat} [Service σ]

/-- Resolve everything queued: the result of the pass, and what it leaves behind. -/
def resolve (deployment : Deployment σ services counters) :
    Except Error Stats × Deployment σ services counters :=
  let launched := deployment.resolver.launch deployment.network
  match launched.1.landing with
  | .ok landed => (.ok landed.1, ⟨landed.2, launched.2⟩)
  | .error error => (.error error, ⟨deployment.resolver, launched.2⟩)

/-- A pass at this moment succeeds. -/
def Succeeds (deployment : Deployment σ services counters) : Prop :=
  ∃ stats, deployment.resolve.1 = .ok stats

/-- What one event leaves behind. -/
def after (deployment : Deployment σ services counters) :
    Event → Deployment σ services counters
  | .submit node => { deployment with resolver := deployment.resolver.submit node }
  | .resolve => deployment.resolve.2

/-- What a history leaves behind. -/
def run (start : Deployment σ services counters) (history : List Event) :
    Deployment σ services counters :=
  history.foldl after start

/-- In the course of a history a pass succeeded after a key had been submitted. -/
def Served (start : Deployment σ services counters) (history : List Event) (key : Key) :
    Prop :=
  ∃ before rest, history = before ++ .resolve :: rest ∧ (start.run before).Succeeds ∧
    key ∈ start.resolver.submitted before

/-- In the course of a history some key with a given address was served. -/
def ServedAt (start : Deployment σ services counters) (history : List Event)
    (address : Address) : Prop :=
  ∃ key, key.address = address ∧ start.Served history key

/-- To resolve alone is to resolve in a set with no other resolver. -/
theorem resolve_alone (deployment : Deployment σ services counters) :
    let together := ResolverSet.resolve [deployment.resolver] deployment.network
    together.result = deployment.resolve.1.map ([·]) ∧
      together.resolvers = [deployment.resolve.2.resolver] ∧
        together.network = deployment.resolve.2.network := by
  simp only [ResolverSet.resolve, ResolverSet.launch, ResolverSet.break?,
    ResolverSet.endings, List.map_cons, List.map_nil, Ending.break?_singleton, resolve]
  cases landing : (deployment.resolver.launch deployment.network).1.landing with
  | ok landed =>
      simp [Flight.failure?, landing, ResolverSet.flightResult, ResolverSet.land,
        ResolverSet.isNoticed, Except.map]
  | error error =>
      simp [Flight.failure?, landing, ResolverSet.flightResult, ResolverSet.land,
        Except.map]

/-! ## One event -/

/-- A pass takes in its response or, if it fails, leaves the resolver as it was. -/
theorem resolve_cases (deployment : Deployment σ services counters) :
    let launched := deployment.resolver.launch deployment.network
    (∃ stats landed, launched.1.landing = .ok (stats, landed) ∧
      deployment.resolve = (.ok stats, ⟨landed, launched.2⟩)) ∨
    ∃ error, launched.1.landing = .error error ∧
      deployment.resolve = (.error error, ⟨deployment.resolver, launched.2⟩) := by
  intro launched
  rw [resolve]
  cases landing : launched.1.landing with
  | ok landed =>
      left
      exact ⟨landed.1, landed.2, rfl, rfl⟩
  | error error =>
      right
      exact ⟨error, rfl, rfl⟩

/-- A pass succeeds when its flight lands. -/
theorem succeeds_iff {deployment : Deployment σ services counters} :
    deployment.Succeeds ↔
      ∃ landed, (deployment.resolver.launch deployment.network).1.landing = .ok landed := by
  constructor
  · intro ⟨stats, succeeded⟩
    rcases deployment.resolve_cases with ⟨_, landed, landing, _⟩ | ⟨error, _, same⟩
    · exact ⟨_, landing⟩
    · rw [same] at succeeded
      contradiction
  · intro ⟨landed, landing⟩
    rcases deployment.resolve_cases with ⟨stats, _, _, same⟩ | ⟨error, failed, _⟩
    · exact ⟨stats, by rw [same]⟩
    · rw [failed] at landing
      contradiction

/-- A pass that fails leaves the resolver as it was. -/
theorem resolver_resolve_of_failing {deployment : Deployment σ services counters}
    (failing : ¬deployment.Succeeds) :
    deployment.resolve.2.resolver = deployment.resolver := by
  rcases deployment.resolve_cases with ⟨stats, landed, landing, _⟩ | ⟨_, _, same⟩
  · exact absurd (succeeds_iff.mpr ⟨_, landing⟩) failing
  · rw [same]

theorem fresh_after (deployment : Deployment σ services counters) (event : Event) :
    (deployment.after event).resolver.fresh = deployment.resolver.fresh := by
  cases event with
  | submit node => exact Resolver.fresh_submit deployment.resolver node
  | resolve =>
      rcases deployment.resolve_cases with ⟨_, landed, landing, same⟩ | ⟨error, _, same⟩
      · rw [after, same]
        exact (Resolver.landing_launch landing).1
      · rw [after, same]

theorem client_after (deployment : Deployment σ services counters) (event : Event) :
    (deployment.after event).resolver.client = deployment.resolver.client := by
  rw [← Resolver.client_fresh, fresh_after, Resolver.client_fresh]

/-- A pass leaves the queue alone. -/
theorem filledWith_resolve (deployment : Deployment σ services counters) (keys : List Key) :
    deployment.resolve.2.resolver.FilledWith keys ↔ deployment.resolver.FilledWith keys := by
  rcases deployment.resolve_cases with ⟨_, landed, landing, same⟩ | ⟨error, _, same⟩
  · rw [same]
    exact (Resolver.landing_launch landing).2 keys
  · rw [same]

/-! ## Histories -/

theorem run_append_singleton (start : Deployment σ services counters)
    (history : List Event) (event : Event) :
    start.run (history ++ [event]) = (start.run history).after event := by
  simp only [run, List.foldl_append, List.foldl_cons, List.foldl_nil]

/-- In the course of a history, a resolver changes only in what it remembers. -/
@[simp] theorem fresh_run (start : Deployment σ services counters) (history : List Event) :
    (start.run history).resolver.fresh = start.resolver.fresh := by
  induction history using List.reverseRecOn with
  | nil => rfl
  | append_singleton history event ih => rw [run_append_singleton, fresh_after, ih]

@[simp] theorem keys_run (start : Deployment σ services counters) (history : List Event)
    (node : Node) : (start.run history).resolver.keys node = start.resolver.keys node := by
  rw [← Resolver.keys_fresh, fresh_run, Resolver.keys_fresh]

/-- The queue after a history is filled with the keys submitted in its course. -/
theorem filledWith_run {start : Deployment σ services counters}
    (unused : start.resolver.fresh = start.resolver) (history : List Event) :
    (start.run history).resolver.FilledWith (start.resolver.submitted history) := by
  induction history using List.reverseRecOn with
  | nil =>
      have empty := start.resolver.filledWith_fresh
      rw [unused] at empty
      exact empty
  | append_singleton history event ih =>
      rw [run_append_singleton]
      cases event with
      | submit node =>
          rw [Resolver.submitted_append_submit, ← keys_run start history]
          exact ih.submit node
      | resolve =>
          rw [Resolver.submitted_append_resolve]
          exact (filledWith_resolve (start.run history) _).mpr ih

/-- What awaits resolution after a history is what was submitted in its course. -/
theorem mem_pending_run {start : Deployment σ services counters}
    (unused : start.resolver.fresh = start.resolver) {history : List Event} {key : Key} :
    key ∈ (start.run history).resolver.pending ↔ key ∈ start.resolver.submitted history := by
  rw [(filledWith_run unused history).pending_eq, mem_firstOccurrences]

/-- What awaits resolution is a key of some node that was submitted. -/
theorem exists_submit_of_pending {start : Deployment σ services counters}
    (unused : start.resolver.fresh = start.resolver) {history : List Event} {key : Key}
    (member : key ∈ (start.run history).resolver.pending) :
    ∃ node, .submit node ∈ history ∧ key ∈ start.resolver.keys node :=
  Resolver.mem_submitted_iff.mp ((mem_pending_run unused).mp member)

/-- One more event serves a key when it is a pass that succeeds, and the key had been
submitted. -/
theorem served_append_singleton {start : Deployment σ services counters}
    {history : List Event} {event : Event} {key : Key} :
    start.Served (history ++ [event]) key ↔
      start.Served history key ∨
        event = .resolve ∧ (start.run history).Succeeds ∧
          key ∈ start.resolver.submitted history := by
  constructor
  · intro served
    rcases served with ⟨before, rest, split, succeeded, member⟩
    cases rest using List.reverseRecOn with
    | nil =>
        obtain ⟨rfl, same⟩ := List.append_inj' split rfl
        right
        exact ⟨List.singleton_inj.mp same, succeeded, member⟩
    | append_singleton rest last =>
        rw [← List.cons_append, ← List.append_assoc] at split
        obtain ⟨rfl, -⟩ := List.append_inj' split rfl
        left
        exact ⟨before, rest, rfl, succeeded, member⟩
  · intro served
    rcases served with ⟨before, rest, rfl, succeeded, member⟩ | ⟨rfl, succeeded, member⟩
    · exact ⟨before, rest ++ [event], by simp, succeeded, member⟩
    · exact ⟨history, [], rfl, succeeded, member⟩

/-! ## Addresses served -/

@[simp] theorem not_servedAt_nil {start : Deployment σ services counters}
    {address : Address} : ¬start.ServedAt [] address := by
  intro servedAt
  rcases servedAt with ⟨key, -, before, rest, split, -⟩
  simp at split

@[simp] theorem servedAt_append_submit {start : Deployment σ services counters}
    {history : List Event} {node : Node} {address : Address} :
    start.ServedAt (history ++ [.submit node]) address ↔ start.ServedAt history address := by
  simp only [ServedAt, served_append_singleton, reduceCtorEq, false_and, or_false]

/-- A pass that succeeds serves the addresses of all keys submitted before it. -/
theorem servedAt_append_resolve {start : Deployment σ services counters}
    {history : List Event} {address : Address} :
    start.ServedAt (history ++ [.resolve]) address ↔
      start.ServedAt history address ∨
        (start.run history).Succeeds ∧
          ∃ key ∈ start.resolver.submitted history, key.address = address := by
  simp only [ServedAt, served_append_singleton, true_and]
  constructor
  · intro servedAt
    rcases servedAt with ⟨key, same, served | ⟨succeeded, member⟩⟩
    · exact Or.inl ⟨key, same, served⟩
    · exact Or.inr ⟨succeeded, key, member, same⟩
  · intro servedAt
    rcases servedAt with ⟨key, same, served⟩ | ⟨succeeded, key, member, same⟩
    · exact ⟨key, same, Or.inl served⟩
    · exact ⟨key, same, Or.inr ⟨succeeded, member⟩⟩

/-- Only the coordinate itself has its address. -/
theorem servedAt_coordinate_iff {start : Deployment σ services counters}
    {history : List Event} {coordinate : Coordinate} :
    start.ServedAt history (.coordinate coordinate) ↔
      start.Served history (.coordinate coordinate) := by
  constructor
  · intro servedAt
    rcases servedAt with ⟨key, same, served⟩
    cases key with
    | coordinate other =>
        rw [Address.coordinate.inj same] at served
        exact served
    | identifier identifier => contradiction
  · intro served
    exact ⟨.coordinate coordinate, rfl, served⟩

/-- All ids with one source id have the same address. -/
theorem servedAt_sourceId_iff {start : Deployment σ services counters}
    {history : List Event} {sourceId : String} :
    start.ServedAt history (.sourceId sourceId) ↔
      ∃ queued : Identifier, queued.sourceId = sourceId ∧
        start.Served history (.identifier queued) := by
  constructor
  · intro servedAt
    rcases servedAt with ⟨key, same, served⟩
    cases key with
    | coordinate coordinate => contradiction
    | identifier queued => exact ⟨queued, Address.sourceId.inj same, served⟩
  · intro identifierServed
    rcases identifierServed with ⟨queued, same, served⟩
    exact ⟨.identifier queued, congrArg Address.sourceId same, served⟩

end Deployment

end IdResolution
