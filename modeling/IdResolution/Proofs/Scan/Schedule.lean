import IdResolution.Proofs.Scan.Step

/-!
# The schedule of a scan

By the schedule of `scan`, the first worker takes and submits each node before the next
one is sent.  So a scan submits its nodes one after the other, whatever the size of its
pool, and all workers have left at its end.
-/

namespace IdResolution

namespace Pool

variable {services counters : Nat} {pool : Pool services counters} {rest : List Worker}

/-- The first worker makes its next step. -/
theorem after_advance_first {worker next : Worker} {moved : Pool services counters}
    (works : pool.Works worker next moved) (first : pool.workers = worker :: rest) :
    pool.after (.advance 0) = { moved with workers := next :: rest } := by
  have moves : pool.Moves (.advance ([] : List Worker).length)
      { moved with workers := [] ++ next :: rest } := .advance first works
  exact after_of_moves moves

/-- The first worker makes all its insertions. -/
theorem run_insertions {node : Node} {insertions : List Insertion}
    (first : pool.workers = .submitting node insertions :: rest) :
    pool.run (List.replicate insertions.length (.advance 0)) =
      { pool with
        workers := .submitting node [] :: rest
        resolvers := pool.resolvers.insertAll insertions } := by
  induction insertions generalizing pool with
  | nil =>
      rw [← first]
      rfl
  | cons insertion insertions ih =>
      have step : pool.run (List.replicate (insertion :: insertions).length (.advance 0)) =
          (pool.after (.advance 0)).run (List.replicate insertions.length (.advance 0)) := rfl
      rw [step, after_advance_first .insert first, ih rfl]
      rfl

/-- A node is sent, and the first worker takes and counts it. -/
theorem run_receive {node : Node} (first : pool.workers = .idle :: rest)
    (opened : pool.closed = false) (empty : pool.queue = []) (room : 0 < pool.capacity) :
    pool.run [.send node, .advance 0, .advance 0] =
      { pool with
        workers := .submitting node (pool.resolvers.insertions node) :: rest
        summary.nodes := pool.summary.nodes + 1 } := by
  have sent : pool.after (.send node) = { pool with queue := [node] } := by
    have fits : pool.queue.length < pool.capacity := by
      rw [empty]
      exact room
    rw [after_of_moves (.send opened fits), empty]
    rfl
  have taken : ({ pool with queue := [node] } : Pool services counters).after (.advance 0) =
      { pool with workers := .holding node :: rest } := by
    have takes : ({ pool with queue := [node] } : Pool services counters).Works
        .idle (.holding node) { pool with queue := [] } := .take rfl
    rw [after_advance_first takes first, empty]
  have counted : ({ pool with workers := .holding node :: rest } :
      Pool services counters).after (.advance 0) =
      { pool with
        workers := .submitting node (pool.resolvers.insertions node) :: rest
        summary.nodes := pool.summary.nodes + 1 } :=
    after_advance_first .count rfl
  calc
    pool.run [.send node, .advance 0, .advance 0]
    _ = ((pool.after (.send node)).after (.advance 0)).after (.advance 0) := rfl
    _ = _ := by rw [sent, taken, counted]

/-- A pool that is open and has nothing to do, with given counts and resolvers; its first
worker is idle. -/
structure Resting (pool : Pool services counters) (rest : List Worker)
    (summary : ScanSummary) (resolvers : ResolverSet services counters) : Prop where
  first : pool.workers = .idle :: rest
  opened : pool.closed = false
  empty : pool.queue = []
  room : 0 < pool.capacity
  summary_eq : pool.summary = summary
  resolvers_eq : pool.resolvers = resolvers

/-- The first worker takes and submits a node. -/
theorem Resting.run_soloSteps {summary : ScanSummary}
    {resolvers start : ResolverSet services counters}
    (resting : pool.Resting rest summary resolvers) {node : Node}
    (same : start.insertions node = resolvers.insertions node) :
    (pool.run (soloSteps start node)).Resting rest
      ⟨summary.nodes + 1, summary.accepted + if resolvers.accepts node then 1 else 0⟩
      (resolvers.submit node) := by
  rcases resting with ⟨first, opened, empty, room, rfl, rfl⟩
  have steps : soloSteps start node =
      [.send node, .advance 0, .advance 0] ++
        (List.replicate (pool.resolvers.insertions node).length (.advance 0) ++
          [.advance 0]) := by
    rw [soloSteps, same, ← List.replicate_succ']
    rfl
  rw [steps, run_append, run_receive first opened empty room, run_append_singleton,
    run_insertions rfl, after_advance_first .accept rfl, ResolverSet.submit_eq_insertAll]
  refine ⟨rfl, opened, empty, room, ?_, rfl⟩
  simp only [ResolverSet.accepts_insertAll]

/-- The first worker takes and submits each of several nodes before the next is sent. -/
theorem Resting.run_solo {summary : ScanSummary}
    {resolvers start : ResolverSet services counters}
    (resting : pool.Resting rest summary resolvers)
    (same : resolvers.map Resolver.fresh = start.map Resolver.fresh) (nodes : List Node) :
    (pool.run (nodes.flatMap (soloSteps start))).Resting rest
      ⟨summary.nodes + nodes.length, summary.accepted + nodes.countP start.accepts⟩
      (resolvers.submitAll nodes) := by
  induction nodes generalizing pool summary resolvers with
  | nil => exact resting
  | cons node nodes ih =>
      have submitted : (resolvers.submit node).map Resolver.fresh = start.map Resolver.fresh := by
        rw [ResolverSet.submit_eq_insertAll, ResolverSet.map_fresh_insertAll, same]
      have nodesSum : summary.nodes + (node :: nodes).length =
          summary.nodes + 1 + nodes.length := by
        rw [List.length_cons, Nat.add_assoc, Nat.add_comm 1]
      have acceptedSum : summary.accepted + (node :: nodes).countP start.accepts =
          summary.accepted + (if resolvers.accepts node then 1 else 0) +
            nodes.countP start.accepts := by
        rw [List.countP_cons, ResolverSet.accepts_congr same, Nat.add_assoc,
          Nat.add_comm (nodes.countP _)]
      rw [List.flatMap_cons, run_append, nodesSum, acceptedSum]
      exact ih (resting.run_soloSteps (ResolverSet.insertions_congr same node).symm) submitted

/-- The workers of a closed pool that is empty leave in turn, and nothing else changes. -/
theorem run_leaving (closed : pool.closed = true) (empty : pool.queue = []) {left idle : Nat}
    (workers : pool.workers = List.replicate left .gone ++ List.replicate idle .idle) :
    pool.run ((List.range' left idle).map .advance) =
      { pool with workers := List.replicate (left + idle) .gone } := by
  induction idle generalizing pool left with
  | zero =>
      rw [List.replicate_zero, List.append_nil] at workers
      rw [Nat.add_zero, ← workers]
      rfl
  | succ idle ih =>
      let next : Pool services counters :=
        { pool with
          workers := List.replicate left .gone ++ .gone :: List.replicate idle .idle }
      have moves : pool.Moves (.advance (List.replicate left Worker.gone).length) next :=
        .advance workers (.leave empty closed)
      rw [List.length_replicate] at moves
      have step : pool.run ((List.range' left (idle + 1)).map .advance) =
          (pool.after (.advance left)).run ((List.range' (left + 1) idle).map .advance) := rfl
      have remaining : next.workers =
          List.replicate (left + 1) .gone ++ List.replicate idle .idle := by
        rw [List.replicate_succ', List.append_assoc]
        rfl
      have nextClosed : next.closed = true := closed
      have later : next.run ((List.range' (left + 1) idle).map .advance) =
          { next with workers := List.replicate (left + 1 + idle) .gone } :=
        ih nextClosed empty remaining
      rw [step, after_of_moves moves, later, Nat.add_assoc, Nat.add_comm 1]

end Pool

/-- A scan submits its nodes one after the other and counts them, whatever the size of
its pool, and at its end all workers have left. -/
theorem scan_eq_submitAll {services counters : Nat} (config : PoolConfig) (nodes : List Node)
    (resolvers : ResolverSet services counters) :
    let pool := Pool.start config resolvers
    (pool.run (pool.scanSteps nodes)).isFinished = true ∧
      scan config nodes resolvers =
        (⟨nodes.length, nodes.countP resolvers.accepts⟩, resolvers.submitAll nodes) := by
  intro pool
  obtain ⟨others, staff⟩ : ∃ others, max config.workers 1 = others + 1 :=
    ⟨max config.workers 1 - 1, by omega⟩
  have resting : pool.Resting (List.replicate others .idle) {} resolvers := by
    refine ⟨?_, rfl, rfl, ?_, rfl, rfl⟩
    · simp only [pool, Pool.start, staff]
      rfl
    · simp only [pool, Pool.start]
      omega
  have submitted := resting.run_solo rfl nodes
  let worked := pool.run (nodes.flatMap (Pool.soloSteps resolvers))
  let closed : Pool services counters := { worked with closed := true }
  have closing : worked.after .close = closed := Pool.after_of_moves (.close submitted.opened)
  have workers : closed.workers = List.replicate 0 .gone ++ List.replicate (others + 1) .idle :=
    submitted.first
  have isClosed : closed.closed = true := rfl
  have left := Pool.run_leaving isClosed submitted.empty workers
  have ended : pool.run (pool.scanSteps nodes) =
      { closed with workers := List.replicate (0 + (others + 1)) .gone } := by
    have size : pool.workers.length = others + 1 := by
      rw [resting.first, List.length_cons, List.length_replicate]
    rw [← left, Pool.scanSteps, size, List.range_eq_range', Pool.run_append]
    exact congrArg (fun pool => Pool.run pool _) closing
  constructor
  · rw [ended, Pool.isFinished_iff]
    intro worker member
    exact List.eq_of_mem_replicate member
  · have outcome : scan config nodes resolvers =
        ((pool.run (pool.scanSteps nodes)).summary,
          (pool.run (pool.scanSteps nodes)).resolvers) := rfl
    rw [outcome, ended]
    simp only [closed]
    rw [submitted.summary_eq, submitted.resolvers_eq]
    simp only [Nat.zero_add]

end IdResolution
