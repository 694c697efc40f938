import IdResolution.Proofs.Resolver.Agreement
import IdResolution.Proofs.Session.Run

/-!
# Resolvers do not interfere

The resolvers of a session share clients, counters and services.  Over services in
memory, they have no bearing on each other all the same: as long as the session resolves
successfully, each of its resolvers is at every moment what it would be if it alone had
gone through the same submissions and passes.  What the session answers is put together
from what its resolvers would answer alone, and a resolver more at the end of the list
changes nothing for those before it.
-/

namespace IdResolution

variable {σ : Type} {services counters : Nat}

/-- What happens to every resolver, as an action meant for all of them. -/
def Event.action : Event → Action services counters
  | .submit node => .submit .all node
  | .resolve => .resolve .all

/-- What holds before each resolve of a history, of the history up to it. -/
def BeforeResolves (holds : List Event → Prop) (history : List Event) : Prop :=
  ∀ before rest, history = before ++ .resolve :: rest → holds before

theorem beforeResolves_append_singleton {holds : List Event → Prop} {history : List Event}
    {event : Event} :
    BeforeResolves holds (history ++ [event]) ↔
      BeforeResolves holds history ∧ (event = .resolve → holds history) := by
  constructor
  · intro each
    refine ⟨fun before rest split => each before (rest ++ [event]) ?_, ?_⟩
    · rw [split, List.append_assoc, List.cons_append]
    · rintro rfl
      exact each history [] rfl
  · intro ⟨earlier, last⟩ before rest split
    cases rest using List.reverseRecOn with
    | nil =>
        obtain ⟨rfl, same⟩ := List.append_inj' split rfl
        exact last (List.singleton_inj.mp same)
    | append_singleton rest other =>
        rw [← List.cons_append, ← List.append_assoc] at split
        obtain ⟨rfl, -⟩ := List.append_inj' split rfl
        exact earlier before rest rfl

namespace ResolverSet

/-- The canonical id that a set finds is that of the first resolver that has one. -/
theorem find_fst (node : Node) (resolvers : ResolverSet services counters) :
    (resolvers.find node).1 = resolvers.dcid? node := by
  induction resolvers with
  | nil => rfl
  | cons resolver rest ih =>
      rw [dcid?, List.findSome?_cons, ← dcid?, ← ih, find, Resolver.dcid?]
      cases (resolver.find node).1 <;> rfl

end ResolverSet

/-! ## One resolver alone -/

namespace Deployment

variable [Service σ] [InMemory σ]

/-- However often a resolver alone resolves, the tables of all services stay as they
are. -/
theorem sameTables_run (start : Deployment σ services counters) (history : List Event) :
    (start.run history).network.SameTables start.network := by
  induction history using List.reverseRecOn with
  | nil => exact fun _ => rfl
  | append_singleton history event ih =>
      rw [run_append_singleton]
      cases event with
      | submit node => exact ih
      | resolve =>
          intro service
          rw [after, resolve_eq]
          exact (Resolver.sameTables_launch _ _ service).trans (ih service)

/-- What a pass brings is determined by the tables; on which of the networks that have
them it is made does not matter. -/
theorem resolve_of_answered_on {deployment : Deployment σ services counters}
    {network : Network σ services counters} (same : deployment.network.SameTables network)
    (answered : (deployment.resolver.calls network).Answered
      (deployment.resolver.answerOn network)) :
    deployment.resolve.1 =
        .ok (deployment.resolver.statsOf (deployment.resolver.answerOn network)) ∧
      deployment.resolve.2.resolver =
        deployment.resolver.absorb (deployment.resolver.answerOn network) := by
  have received := (Resolver.answered_calls_congr same).mpr answered
  constructor
  · exact resolve_eq_ok_iff.mpr ⟨_, received, rfl⟩
  · rw [resolver_resolve, Resolver.conclude_of_answered received]

end Deployment

/-! ## All resolvers together -/

namespace Session

variable [Service σ]

/-- What becomes of a resolver that alone goes through a history on the network of a
session. -/
def alone (start : Session services counters σ) (history : List Event)
    (origin : Resolver services counters) : Deployment σ services counters :=
  Deployment.run ⟨origin, start.network⟩ history

variable [Recording σ]

/-- The session in which all resolvers have gone through a history. -/
def follow (start : Session services counters σ) (history : List Event) :
    Session services counters σ :=
  start.run (history.map Event.action)

/-- All resolvers together resolve successfully. -/
def Succeeds (session : Session services counters σ) : Prop :=
  ∃ summaries, (session.perform (.resolve .all)).1 = .resolved (.ok summaries)

/-- Every resolve in the course of a history succeeds. -/
def Unfailing (start : Session services counters σ) : List Event → Prop :=
  BeforeResolves fun before => (start.follow before).Succeeds

theorem follow_append_singleton (start : Session services counters σ) (history : List Event)
    (event : Event) :
    start.follow (history ++ [event]) = (start.follow history).after event.action := by
  rw [follow, List.map_append, List.map_singleton, run_append_singleton, follow]

theorem perform_resolve_all {session : Session services counters σ} {summaries : List Stats} :
    (session.perform (.resolve .all)).1 = .resolved (.ok summaries) ↔
      (session.resolvers.resolve session.network).result = .ok summaries := by
  simp only [perform, targeted, Answer.resolved.injEq]

variable [InMemory σ]

theorem sameTables_follow (start : Session services counters σ) (history : List Event) :
    (start.follow history).network.SameTables start.network := by
  induction history using List.reverseRecOn with
  | nil => exact fun _ => rfl
  | append_singleton history event ih =>
      rw [follow_append_singleton]
      cases event with
      | submit node => exact ih
      | resolve =>
          intro service
          exact (ResolverSet.sameTables_launch _ _ service).trans (ih service)

/-- A resolver alone has the same tables before it as the session. -/
theorem sameTables_alone (start : Session services counters σ) (history : List Event)
    (origin : Resolver services counters) :
    (start.alone history origin).network.SameTables (start.follow history).network :=
  fun service => (Deployment.sameTables_run _ history service).trans
    (start.sameTables_follow history service).symm

/-- When the resolvers are what they would be alone and resolve successfully, each of them
makes the pass that it would make alone. -/
theorem resolve_alone_of_ok {start : Session services counters σ} {history : List Event}
    (sideBySide : (start.follow history).resolvers =
      start.resolvers.map fun origin => (start.alone history origin).resolver)
    {summaries : List Stats}
    (succeeded : ((start.follow history).perform (.resolve .all)).1 =
      .resolved (.ok summaries)) :
    summaries.map .ok =
        start.resolvers.map (fun origin => (start.alone history origin).resolve.1) ∧
      ((start.follow history).after (.resolve .all)).resolvers =
        start.resolvers.map fun origin => (start.alone history origin).resolve.2.resolver := by
  rw [perform_resolve_all] at succeeded
  have answered := ResolverSet.exists_ok_iff_answered.mp ⟨summaries, succeeded⟩
  have together := ResolverSet.resolve_of_answered answered
  rw [succeeded, Except.ok.injEq, sideBySide] at together
  rw [sideBySide, List.forall_mem_map] at answered
  have passes (origin : Resolver services counters) (listed : origin ∈ start.resolvers) :=
    Deployment.resolve_of_answered_on (start.sameTables_alone history origin)
      (answered origin listed)
  constructor
  · rw [together.1, List.map_map, List.map_map]
    exact List.map_congr_left fun origin listed => (passes origin listed).1.symm
  · change ((start.follow history).resolvers.resolve _).resolvers = _
    rw [sideBySide, together.2, List.map_map]
    exact List.map_congr_left fun origin listed => (passes origin listed).2.symm

/-- As long as all resolves succeed, each resolver is what it would be alone. -/
theorem resolvers_follow {start : Session services counters σ} {history : List Event}
    (unfailing : start.Unfailing history) :
    (start.follow history).resolvers =
      start.resolvers.map fun origin => (start.alone history origin).resolver := by
  induction history using List.reverseRecOn with
  | nil => exact (List.map_id _).symm
  | append_singleton history event ih =>
      obtain ⟨earlier, last⟩ := beforeResolves_append_singleton.mp unfailing
      have sideBySide := ih earlier
      have oneMore (origin : Resolver services counters) :
          start.alone (history ++ [event]) origin = (start.alone history origin).after event :=
        Deployment.run_append_singleton _ history event
      simp only [follow_append_singleton, oneMore]
      cases event with
      | submit node =>
          have submitted : ((start.follow history).after (.submit .all node)).resolvers =
              (start.follow history).resolvers.map (Resolver.submit node) := by
            rw [after, perform, offer_eq]
            rfl
          rw [sideBySide, List.map_map] at submitted
          exact submitted
      | resolve =>
          obtain ⟨summaries, succeeded⟩ := last rfl
          exact (resolve_alone_of_ok sideBySide succeeded).2

/-- When the resolvers are what they would be alone, they resolve successfully together
exactly when each of them does alone. -/
theorem succeeds_iff_alone {start : Session services counters σ} {history : List Event}
    (sideBySide : (start.follow history).resolvers =
      start.resolvers.map fun origin => (start.alone history origin).resolver) :
    (start.follow history).Succeeds ↔
      ∀ origin ∈ start.resolvers, (start.alone history origin).Succeeds := by
  simp only [Succeeds, perform_resolve_all]
  rw [ResolverSet.exists_ok_iff_answered, sideBySide, List.forall_mem_map]
  refine forall₂_congr fun origin _ => ?_
  have same := start.sameTables_alone history origin
  constructor
  · intro answered
    exact ⟨_, (Deployment.resolve_of_answered_on same answered).1⟩
  · intro ⟨stats, succeeded⟩
    obtain ⟨response, answered, -⟩ := Deployment.resolve_eq_ok_iff.mp succeeded
    rw [Resolver.answered_calls_congr same] at answered
    rwa [← (Resolver.answered_calls_iff.mp answered).2]

/-- On a network without failing addresses every resolve succeeds. -/
theorem unfailing_of_sound {start : Session services counters σ}
    (sound : ResolverSet.Sound start.network) (history : List Event) :
    start.Unfailing history := by
  intro before rest _
  have soundBefore : ResolverSet.Sound (start.follow before).network := by
    intro service address
    rw [start.sameTables_follow before service]
    exact sound service address
  exact ⟨_, perform_resolve_all.mpr (ResolverSet.resolve_of_sound soundBefore _).1⟩

/-- A node is found by the first resolver that would find it alone. -/
theorem answer_find_follow {start : Session services counters σ} {history : List Event}
    (unfailing : start.Unfailing history) (node : Node) :
    ((start.follow history).perform (.find .all node)).1 =
      .dcid (start.resolvers.findSome? fun origin =>
        (start.alone history origin).resolver.dcid? node) := by
  change Answer.dcid ((start.follow history).resolvers.find node).1 = _
  rw [ResolverSet.find_fst, ResolverSet.dcid?, resolvers_follow unfailing, List.findSome?_map]
  rfl

/-- Over services in memory, and as long as all resolves succeed, every resolver of a
session is after each history what it would be had it gone through the history alone, and
so are the summaries of its passes.  A submission brings a key exactly when it would bring
one to some resolver alone, and a node is found by the first resolver that would find it
alone.  With a further resolver at the end of the list, those before it and the summaries
of their passes are the same, and nodes that were found have the same canonical id. -/
theorem resolvers_do_not_interfere (start : Session services counters σ)
    (history : List Event) (unfailing : start.Unfailing history) :
    let now := start.follow history
    let origins := start.resolvers
    now.resolvers = origins.map (fun origin => (start.alone history origin).resolver) ∧
    (∀ summaries, (now.perform (.resolve .all)).1 = .resolved (.ok summaries) →
      summaries.map .ok = origins.map fun origin => (start.alone history origin).resolve.1) ∧
    (∀ node, (now.perform (.submit .all node)).1 =
      .flag (origins.any fun origin => (start.alone history origin).resolver.accepts node)) ∧
    (∀ node, (now.perform (.find .all node)).1 =
      .dcid (origins.findSome? fun origin => (start.alone history origin).resolver.dcid? node)) ∧
    ∀ further,
      let extended := (start.after (.add further)).follow history
      (start.after (.add further)).Unfailing history →
        extended.resolvers.take origins.length = now.resolvers ∧
        (∀ summaries, (extended.perform (.resolve .all)).1 = .resolved (.ok summaries) →
          (now.perform (.resolve .all)).1 =
            .resolved (.ok (summaries.take origins.length))) ∧
        ∀ node dcid, (now.perform (.find .all node)).1 = .dcid (some dcid) →
          (extended.perform (.find .all node)).1 = .dcid (some dcid) := by
  intro now origins
  have sideBySide := resolvers_follow unfailing
  refine ⟨sideBySide, ?_, ?_, answer_find_follow unfailing, ?_⟩
  · intro summaries succeeded
    exact (resolve_alone_of_ok sideBySide succeeded).1
  · intro node
    rw [perform, offer_eq, ResolverSet.accepts_eq_any, targeted, sideBySide, List.any_map]
    rfl
  · intro further extended unfailingExtended
    -- A resolver alone is the same whether or not there is a further one.
    have besides : extended.resolvers =
        (origins ++ [further]).map fun origin => (start.alone history origin).resolver :=
      resolvers_follow unfailingExtended
    refine ⟨?_, ?_, ?_⟩
    · rw [besides, sideBySide, List.map_append, List.take_left' (List.length_map _)]
    · intro summaries succeeded
      have passes : summaries.map .ok =
          (origins ++ [further]).map fun origin => (start.alone history origin).resolve.1 :=
        (resolve_alone_of_ok besides succeeded).1
      have alone := (succeeds_iff_alone besides).mp ⟨summaries, succeeded⟩
      obtain ⟨own, ownSucceeded⟩ := (succeeds_iff_alone sideBySide).mpr fun origin listed =>
        alone origin (List.mem_append_left _ listed)
      have ownPasses := (resolve_alone_of_ok sideBySide ownSucceeded).1
      have same : own = summaries.take origins.length := by
        apply List.map_injective_iff.mpr fun _ _ => Except.ok.inj
        rw [List.map_take, passes, List.map_append, List.take_left' (List.length_map _)]
        exact ownPasses
      rw [← same]
      exact ownSucceeded
    · intro node dcid found
      have foundExtended : (extended.perform (.find .all node)).1 =
          .dcid ((origins ++ [further]).findSome? fun origin =>
            (start.alone history origin).resolver.dcid? node) :=
        answer_find_follow unfailingExtended node
      rw [answer_find_follow unfailing, Answer.dcid.injEq] at found
      rw [foundExtended, List.findSome?_append, found, Option.some_or]

/-- Two resolvers of different kinds that share a client and a service, and a third one
that is added to them, go through a submission and a pass side by side. -/
theorem resolvers_do_not_interfere_on_shared_client :
    let client : Client 1 1 := { service := 0, counter := 0, chunkSize := 1 }
    let tables : Tables := { entities := .ofList [("isoCode:AT", ["country/AUT"])] }
    let start : Session 1 1 (Logged Tables) :=
      { network := ⟨#v[⟨tables, []⟩], #v[0], 0⟩
        clients := [client]
        resolvers := [.ofCoordinates client, .ofExternalIds client ["isoCode"]] }
    let further : Resolver 1 1 := .ofExternalIds client ["ISO3166-1"]
    let node : Node := Node.push {} "isoCode" ⟨.text, " AT "⟩
    let history : List Event := [.submit node, .resolve]
    start.Unfailing history ∧ (start.after (.add further)).Unfailing history ∧
      ((start.follow history).perform (.submit .all node)).1 = .flag true ∧
      ((start.after (.add further)).follow history).resolvers.take 2 =
        (start.follow history).resolvers := by
  intro client tables start further node history
  have sound : ResolverSet.Sound start.network := by
    intro service
    obtain rfl := Subsingleton.elim service 0
    exact Tables.isFailing_eq_false rfl rfl
  have soundExtended : ResolverSet.Sound (start.after (.add further)).network := sound
  have unfailing := unfailing_of_sound sound history
  have extended := unfailing_of_sound soundExtended history
  obtain ⟨-, -, submitted, -, besides⟩ := resolvers_do_not_interfere start history unfailing
  refine ⟨unfailing, extended, ?_, (besides further extended).1⟩
  rw [submitted]
  simp only [Resolver.accepts_eq, alone, Deployment.keys_run]
  exact congrArg Answer.flag (by decide +kernel)

end Session

end IdResolution
