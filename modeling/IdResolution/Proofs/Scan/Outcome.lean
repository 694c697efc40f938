import IdResolution.Proofs.Resolver.Agreement
import IdResolution.Proofs.Scan.Ledger

/-!
# What a scan comes to

When all workers have left, every node that was sent has been submitted once, and the
resolvers are what the same nodes submitted one after the other make of them, but for the
order of their queues.  This order makes no difference to a resolve over services in
memory.  With one worker there is no difference at all.
-/

namespace IdResolution

namespace Pool

variable {services counters : Nat}

/-! ## Submitted nodes -/

/-- What workers have still to insert are keys of the nodes that they hold. -/
theorem outstanding_sublist {resolvers : ResolverSet services counters}
    {workers : List Worker}
    (tails : ∀ worker ∈ workers, ∀ node insertions,
      worker = .submitting node insertions → insertions <:+ resolvers.insertions node) :
    (workers.flatMap (Worker.outstanding resolvers)).Sublist
      ((workers.flatMap Worker.held).flatMap resolvers.insertions) := by
  induction workers with
  | nil => exact List.Sublist.refl []
  | cons worker rest ih =>
      rw [List.forall_mem_cons] at tails
      simp only [List.flatMap_cons, List.flatMap_append]
      apply List.Sublist.append _ (ih tails.2)
      cases worker with
      | idle | gone => exact List.Sublist.refl []
      | holding node => simp [Worker.outstanding, Worker.held]
      | submitting node insertions =>
          rw [Worker.outstanding, Worker.held, List.flatMap_singleton]
          exact (tails.1 node insertions rfl).sublist

namespace Balanced

variable {resolvers : ResolverSet services counters} {ledger : Ledger}
  {pool : Pool services counters}

/-- All keys of a submitted node have been inserted. -/
theorem inserted_of_submitted (balanced : Balanced resolvers ledger pool) {node : Node}
    (submitted : node ∈ ledger.submitted) {insertion : Insertion}
    (member : insertion ∈ resolvers.insertions node) : insertion ∈ ledger.inserted := by
  have count := balanced.keys.count_eq insertion
  have outstanding := (outstanding_sublist balanced.tails).count_le insertion
  have listed : 0 < (ledger.submitted.flatMap resolvers.insertions).count insertion :=
    List.count_pos_iff.mpr (List.mem_flatMap.mpr ⟨node, submitted, member⟩)
  rw [List.flatMap_append, List.count_append, List.count_append, held] at count
  apply List.count_pos_iff.mp
  omega

/-- All keys of a submitted node are queued. -/
theorem pending_of_submitted (balanced : Balanced resolvers ledger pool)
    (filled : ∀ resolver ∈ resolvers, ∃ keys, resolver.FilledWith keys) {node : Node}
    (submitted : node ∈ ledger.submitted) {index : Nat}
    {resolver : Resolver services counters} (found : pool.resolvers[index]? = some resolver)
    {key : Key} (member : key ∈ resolver.keys node) : key ∈ resolver.pending := by
  rw [balanced.made, ResolverSet.getElem?_insertAll] at found
  rcases Option.map_eq_some_iff.mp found with ⟨original, original?, rfl⟩
  have carried : key ∈ original.keys node := by
    rw [← Resolver.keys_fresh, Resolver.fresh_insertAll, Resolver.keys_fresh] at member
    exact member
  rcases filled original (List.mem_of_getElem? original?) with ⟨keys, originalFilled⟩
  apply originalFilled.mem_pending_insertAll (Resolver.kind_of_mem_keys carried)
  rw [ResolverSet.mem_keysFor]
  exact balanced.inserted_of_submitted submitted
    (ResolverSet.mem_insertions_of_mem_keys original? carried)

/-- When all workers have left, every node that was sent has been submitted, with each of
its keys inserted once, and it has been counted. -/
theorem settled (balanced : Balanced resolvers ledger pool) (staffed : pool.workers ≠ [])
    (finished : pool.isFinished = true) :
    ledger.submitted.Perm ledger.sent ∧
      ledger.inserted.Perm (ledger.sent.flatMap resolvers.insertions) ∧
      pool.summary = ⟨ledger.sent.length, ledger.sent.countP resolvers.accepts⟩ := by
  rw [isFinished_iff] at finished
  have nothing {α : Type} {read : Worker → List α} (none : read .gone = []) :
      pool.workers.flatMap read = [] := by
    rw [List.flatMap_eq_nil_iff]
    intro worker member
    rw [finished worker member, none]
  have left : .gone ∈ pool.workers := by
    rcases List.exists_mem_of_ne_nil _ staffed with ⟨worker, member⟩
    rw [← finished worker member]
    exact member
  have nodes := balanced.nodes
  rw [held, nothing rfl, (balanced.drained left).2, List.append_nil, List.append_nil] at nodes
  have keys := balanced.keys
  rw [held, nothing rfl, nothing rfl, List.append_nil, List.append_nil] at keys
  have counted := balanced.counted
  rw [nothing rfl, List.length_nil, Nat.add_zero, ← nodes.length_eq] at counted
  have accepted := balanced.accepted
  rw [← nodes.countP_eq] at accepted
  refine ⟨nodes.symm, ?_, ?_⟩
  · exact keys.symm.trans (nodes.symm.flatMap_right resolvers.insertions)
  · calc
      pool.summary = ⟨pool.summary.nodes, pool.summary.accepted⟩ := rfl
      _ = ⟨ledger.sent.length, ledger.sent.countP resolvers.accepts⟩ := by
          rw [counted, accepted]

end Balanced

/-! ## One worker -/

/-- The books of a pool with one worker, which works through the nodes in the order in
which they were sent. -/
structure InOrder (resolvers : ResolverSet services counters) (ledger : Ledger)
    (pool : Pool services counters) (worker : Worker) : Prop where
  alone : pool.workers = [worker]
  nodes : ledger.sent = ledger.submitted ++ (worker.held ++ pool.queue)
  keys : (ledger.submitted ++ worker.held).flatMap resolvers.insertions =
    ledger.inserted ++ worker.outstanding resolvers

namespace InOrder

variable {resolvers : ResolverSet services counters} {ledger : Ledger}
  {pool moved : Pool services counters} {worker next : Worker}

/-- The order is kept by the step of the worker. -/
theorem work (ordered : InOrder resolvers ledger pool worker)
    (balanced : Balanced resolvers ledger pool) (works : pool.Works worker next moved) :
    InOrder resolvers (ledger.record worker) { moved with workers := [next] } next := by
  have nodes := ordered.nodes
  have keys := ordered.keys
  cases works with
  | leave => exact ⟨rfl, nodes, keys⟩
  | take waiting =>
      rw [waiting] at nodes
      rw [Worker.held, Worker.outstanding, List.append_nil, List.append_nil] at keys
      refine ⟨rfl, nodes, ?_⟩
      rw [Worker.held, List.flatMap_append, List.flatMap_singleton]
      exact congrArg (· ++ _) keys
  | count =>
      rw [balanced.insertions_eq]
      exact ⟨rfl, nodes, keys⟩
  | insert =>
      rw [Worker.outstanding, List.append_cons] at keys
      exact ⟨rfl, nodes, keys⟩
  | accept =>
      rw [Worker.held, ← List.append_assoc] at nodes
      refine ⟨rfl, nodes, ?_⟩
      rw [Worker.held, List.append_nil]
      exact keys

theorem after (ordered : InOrder resolvers ledger pool worker)
    (balanced : Balanced resolvers ledger pool) (step : PoolStep) :
    ∃ next, InOrder resolvers (pool.enter step ledger) (pool.after step) next := by
  cases taken : pool.step? step with
  | none =>
      rw [enter_of_blocked taken, after_of_blocked taken]
      exact ⟨worker, ordered⟩
  | some moved =>
      have moves := step?_eq_some_iff.mp taken
      rw [after_of_moves moves]
      cases moves with
      | send opened room =>
          rw [enter_send opened room]
          refine ⟨worker, ordered.alone, ?_, ordered.keys⟩
          rw [ordered.nodes]
          simp only [List.append_assoc]
      | close opened => exact ⟨worker, ordered.alone, ordered.nodes, ordered.keys⟩
      | @advance before behind acting next moved workers works =>
          rw [enter_advance workers]
          rw [ordered.alone] at workers
          cases before with
          | cons first rest => simp at workers
          | nil =>
              cases workers
              exact ⟨next, ordered.work balanced works⟩

end InOrder

theorem inOrder_run {config : PoolConfig} (single : config.workers ≤ 1)
    (resolvers : ResolverSet services counters) (steps : List PoolStep) :
    ∃ worker, InOrder resolvers ((start config resolvers).ledger steps)
      ((start config resolvers).run steps) worker := by
  induction steps using List.reverseRecOn with
  | nil =>
      refine ⟨.idle, ?_, rfl, rfl⟩
      rw [run, List.foldl_nil, start, Nat.max_eq_right single]
      rfl
  | append_singleton steps step ih =>
      rcases ih with ⟨worker, ordered⟩
      rw [ledger_append_singleton, run_append_singleton]
      exact ordered.after (balanced_run config resolvers steps) step

/-- When its only worker has left, a pool has submitted the nodes one after the other. -/
theorem resolvers_of_inOrder {resolvers : ResolverSet services counters} {ledger : Ledger}
    {pool : Pool services counters} {worker : Worker}
    (ordered : InOrder resolvers ledger pool worker)
    (balanced : Balanced resolvers ledger pool) (finished : pool.isFinished = true) :
    pool.resolvers = resolvers.submitAll ledger.sent := by
  have member : worker ∈ pool.workers := by
    rw [ordered.alone]
    exact List.mem_singleton_self worker
  have left : worker = .gone := isFinished_iff.mp finished worker member
  subst left
  have nodes := ordered.nodes
  rw [(balanced.drained member).2, Worker.held, List.append_nil, List.append_nil] at nodes
  have keys := ordered.keys
  rw [Worker.held, Worker.outstanding, List.append_nil, List.append_nil, ← nodes] at keys
  rw [balanced.made, ResolverSet.submitAll_eq_insertAll, keys]

end Pool

/-! ## The outcome against that of one thread -/

/-- The order in which insertions are made shows in the order of the queues alone. -/
theorem ResolverSet.agree_insertAll {services counters : Nat}
    {resolvers : ResolverSet services counters}
    (filled : ∀ resolver ∈ resolvers, ∃ keys, resolver.FilledWith keys)
    {insertions others : List Insertion} (perm : insertions.Perm others) :
    (resolvers.insertAll insertions).Agree (resolvers.insertAll others) := by
  intro index
  rw [getElem?_insertAll, getElem?_insertAll]
  cases found : resolvers[index]? with
  | none => exact .none
  | some resolver =>
      rcases filled resolver (List.mem_of_getElem? found) with ⟨keys, resolverFilled⟩
      apply Option.Rel.some
      constructor
      · rw [Resolver.fresh_insertAll, Resolver.fresh_insertAll]
      · intro address
        rw [Resolver.candidates?_insertAll, Resolver.candidates?_insertAll]
      · exact resolverFilled.pending_insertAll_perm (perm.filterMap _)

namespace Pool

variable {services counters : Nat}

namespace Balanced

variable {resolvers : ResolverSet services counters} {ledger : Ledger}
  {pool : Pool services counters}

/-- When the insertions are those of the nodes that were sent, in whatever order, the
resolvers agree with those to which the nodes are submitted one after the other. -/
theorem agree_submitAll (balanced : Balanced resolvers ledger pool)
    (filled : ∀ resolver ∈ resolvers, ∃ keys, resolver.FilledWith keys)
    (inserted : ledger.inserted.Perm (ledger.sent.flatMap resolvers.insertions)) :
    pool.resolvers.Agree (resolvers.submitAll ledger.sent) := by
  rw [balanced.made, ResolverSet.submitAll_eq_insertAll]
  exact ResolverSet.agree_insertAll filled inserted

theorem length_resolvers (balanced : Balanced resolvers ledger pool) :
    pool.resolvers.length = resolvers.length := by
  have kept := congrArg List.length (ResolverSet.map_fresh_insertAll ledger.inserted resolvers)
  rw [List.length_map, List.length_map, ← balanced.made] at kept
  exact kept

theorem nodup_pending (balanced : Balanced resolvers ledger pool)
    (filled : ∀ resolver ∈ resolvers, ∃ keys, resolver.FilledWith keys) {index : Nat}
    {resolver : Resolver services counters} (found : pool.resolvers[index]? = some resolver) :
    resolver.pending.Nodup := by
  rw [balanced.made, ResolverSet.getElem?_insertAll] at found
  rcases Option.map_eq_some_iff.mp found with ⟨original, original?, rfl⟩
  rcases filled original (List.mem_of_getElem? original?) with ⟨keys, originalFilled⟩
  exact (originalFilled.insertAll _).nodup_pending

end Balanced

/-- However the steps of producer and workers are interleaved, the queue of a pool never
exceeds its capacity, every node that was sent is queued, held by a worker or submitted,
and a submitted node has all its keys queued; no pool is ever stuck for good.  When all
workers have left, every node that was sent has been submitted once and is counted, and
each resolver has the same keys queued as if the nodes had been submitted one after the
other, each of them once, and in the same order if there is one worker.  A resolve over
services in memory without failures then gives the same summaries, and afterwards each
resolver, and the set of them, has the same answer for every node as if the nodes had been
submitted one after the other. -/
theorem run_submits_every_node_once (config : PoolConfig)
    (resolvers : ResolverSet services counters)
    (filled : ∀ resolver ∈ resolvers, ∃ keys, resolver.FilledWith keys)
    (steps : List PoolStep) :
    let pool := (start config resolvers).run steps
    let ledger := (start config resolvers).ledger steps
    pool.queue.length ≤ max config.queueCapacity 1 ∧
    ledger.sent.Perm (ledger.submitted ++ (pool.held ++ pool.queue)) ∧
    (∀ node ∈ ledger.submitted, ∀ (index : Nat) (resolver : Resolver services counters),
      pool.resolvers[index]? = some resolver →
        ∀ key ∈ resolver.keys node, key ∈ resolver.pending) ∧
    (∃ further, (pool.run further).isFinished = true) ∧
    (pool.isFinished = true →
      let sequential := resolvers.submitAll ledger.sent
      ledger.submitted.Perm ledger.sent ∧
      ledger.inserted.Perm (ledger.sent.flatMap resolvers.insertions) ∧
      pool.summary = ⟨ledger.sent.length, ledger.sent.countP resolvers.accepts⟩ ∧
      pool.resolvers.length = resolvers.length ∧
      (∀ (index : Nat) (resolver other : Resolver services counters),
        pool.resolvers[index]? = some resolver → sequential[index]? = some other →
          resolver.pending.Nodup ∧ resolver.pending.Perm other.pending) ∧
      (config.workers ≤ 1 → pool.resolvers = sequential) ∧
      ∀ {σ : Type} [Service σ] [InMemory σ] (network : Network σ services counters),
        (∀ service address,
          (InMemory.tables (network.services.get service)).isFailing address = false) →
        (∃ stats, (pool.resolvers.resolve network).result = .ok stats ∧
          (sequential.resolve network).result = .ok stats) ∧
        ∀ node,
          (pool.resolvers.resolve network).resolvers.map (Resolver.find node) =
            (sequential.resolve network).resolvers.map (Resolver.find node) ∧
          (pool.resolvers.resolve network).resolvers.find node =
            (sequential.resolve network).resolvers.find node) := by
  intro pool ledger
  have sized : pool.SizedBy config := sizedBy_run config resolvers steps
  have balanced : Balanced resolvers ledger pool := balanced_run config resolvers steps
  refine ⟨sized.queue, balanced.nodes, ?_, pool.exists_finish, ?_⟩
  · intro node submitted index resolver found key member
    exact balanced.pending_of_submitted filled submitted found member
  · intro finished sequential
    have staffed : pool.workers ≠ [] := by
      rw [← List.length_pos_iff, sized.workers]
      omega
    rcases balanced.settled staffed finished with ⟨submitted, inserted, summary⟩
    have agree : pool.resolvers.Agree sequential := balanced.agree_submitAll filled inserted
    refine ⟨submitted, inserted, summary, balanced.length_resolvers, ?_, ?_, ?_⟩
    · intro index resolver other found otherFound
      have agrees := agree index
      rw [found, otherFound, Option.rel_some_some] at agrees
      exact ⟨balanced.nodup_pending filled found, agrees.pending⟩
    · intro single
      rcases inOrder_run single resolvers steps with ⟨worker, ordered⟩
      exact resolvers_of_inOrder ordered balanced finished
    · intro σ _ _ network sound
      rcases ResolverSet.resolve_of_agree agree sound with ⟨summaries, lookups⟩
      exact ⟨summaries, fun node => ⟨lookups node, ResolverSet.find_congr (lookups node)⟩⟩

/-- Two workers insert keys by turns, for nodes that share identifiers.  The identifier that both
have is queued once, by the worker that comes to it first, and a node that is sent again or
carries no key queues nothing. -/
theorem run_submits_every_node_once_by_two_workers :
    let client : Client 1 1 := { service := 0, counter := 0, chunkSize := 2 }
    let resolvers : ResolverSet 1 1 :=
      [.ofCoordinates client, .ofExternalIds client ["isoCode", "wikidataId"]]
    let austria : Node :=
      (Node.push {} "isoCode" ⟨.text, "AT"⟩).push "wikidataId" ⟨.text, "Q40"⟩
    let vienna : Node :=
      (((Node.push {} "latitude" ⟨.number, "0.5"⟩).push "longitude" ⟨.number, "0.25"⟩).push
        "isoCode" ⟨.text, "AT-9"⟩).push "wikidataId" ⟨.text, "Q40"⟩
    let place : Coordinate := ⟨.ofDecimal false 5 (-1), .ofDecimal false 25 (-2)⟩
    let begun : List PoolStep :=
      [.send austria, .send vienna, .advance 0, .advance 1, .send austria, .send {}, .advance 1,
        .advance 0, .advance 1, .advance 1, .advance 0]
    let steps := begun ++ ([1, 0, 0, 0, 1, 1, 0, 1, 0, 1, 0, 0].map .advance ++
      .close :: [1, 0].map .advance)
    let network : Network Tables 1 1 :=
      ⟨#v[{ entities := .ofList [("wikidataId:Q40", ["country/AUT"])] }], #v[0], 0⟩
    let started := start ⟨2, 2⟩ resolvers
    let pool := started.run steps
    let sequential := resolvers.submitAll [austria, vienna, austria, {}]
    (started.run begun).workers =
        [.submitting austria [(1, .identifier ⟨"wikidataId", "Q40"⟩)],
          .submitting vienna [(1, .identifier ⟨"wikidataId", "Q40"⟩)]] ∧
      pool.isFinished = true ∧ pool.summary = ⟨4, 3⟩ ∧
      pool.resolvers[0]?.map Resolver.pending = some [.coordinate place] ∧
      pool.resolvers[1]?.map Resolver.pending = some [.identifier ⟨"isoCode", "AT-9"⟩,
        .identifier ⟨"isoCode", "AT"⟩, .identifier ⟨"wikidataId", "Q40"⟩] ∧
      sequential[1]?.map Resolver.pending = some [.identifier ⟨"isoCode", "AT"⟩,
        .identifier ⟨"wikidataId", "Q40"⟩, .identifier ⟨"isoCode", "AT-9"⟩] ∧
      (∃ stats, (pool.resolvers.resolve network).result = .ok stats ∧
        (sequential.resolve network).result = .ok stats) ∧
      (pool.resolvers.resolve network).resolvers.find austria =
        (sequential.resolve network).resolvers.find austria := by
  intro client resolvers austria vienna place begun steps network started pool sequential
  have filled : ∀ resolver ∈ resolvers, ∃ keys, resolver.FilledWith keys := by
    simp only [resolvers, List.forall_mem_cons, List.not_mem_nil, false_implies, implies_true,
      and_true]
    exact ⟨⟨[], Resolver.filledWith_fresh (.ofCoordinates _)⟩,
      [], Resolver.filledWith_fresh (.ofExternalIds _ _)⟩
  have sent : (started.ledger steps).sent = [austria, vienna, austria, {}] := by decide +kernel
  have finished : pool.isFinished = true := by decide +kernel
  have sound : ResolverSet.Sound network := by
    intro service
    obtain rfl := Subsingleton.elim service 0
    exact Tables.isFailing_eq_false rfl rfl
  obtain ⟨-, -, summary, -, -, -, resolved⟩ :=
    (run_submits_every_node_once ⟨2, 2⟩ resolvers filled steps).2.2.2.2 finished
  rw [sent] at summary resolved
  obtain ⟨summaries, lookups⟩ := resolved network sound
  have made : pool.resolvers = resolvers.insertAll (started.ledger steps).inserted :=
    (balanced_run ⟨2, 2⟩ resolvers steps).made
  have oneByOne : sequential =
      resolvers.insertAll ([austria, vienna, austria, {}].flatMap resolvers.insertions) :=
    ResolverSet.submitAll_eq_insertAll _ _
  have places : resolvers[0]? = some (Resolver.ofCoordinates client).fresh := rfl
  have ids : resolvers[1]? =
      some (Resolver.ofExternalIds client ["isoCode", "wikidataId"]).fresh := rfl
  refine ⟨by decide +kernel, finished, ?_, ?_, ?_, ?_, summaries, (lookups austria).2⟩
  · exact summary.trans (by decide +kernel)
  · rw [made, ResolverSet.pending_insertAll_of_fresh places]
    decide +kernel
  · rw [made, ResolverSet.pending_insertAll_of_fresh ids]
    decide +kernel
  · rw [oneByOne, ResolverSet.pending_insertAll_of_fresh ids]
    decide +kernel

end Pool

end IdResolution
