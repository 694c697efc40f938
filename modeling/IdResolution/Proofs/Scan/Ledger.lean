import IdResolution.Proofs.Scan.Step

/-!
# The books of a pool

A ledger follows a run: it lists the nodes that were sent, those that have been submitted
and the insertions that were made.  However the steps of the workers are interleaved,
the books balance.  Every node that was sent is queued, held by a worker, or submitted;
every key of a node that left the queue has been queued in its resolver, or is still to
be queued by the worker that holds the node.  A pool with one worker works through the
nodes in the order in which they were sent.
-/

namespace IdResolution

/-- What has come of the nodes in the course of a run. -/
structure Ledger where
  /-- The nodes that the queue took in. -/
  sent : List Node := []
  /-- The nodes whose keys have all been queued. -/
  submitted : List Node := []
  /-- The insertions that workers made. -/
  inserted : List Insertion := []

/-- Enter the step of a worker that is at a given point. -/
def Ledger.record (ledger : Ledger) : Worker → Ledger
  | .submitting node [] => { ledger with submitted := ledger.submitted ++ [node] }
  | .submitting _ (insertion :: _) => { ledger with inserted := ledger.inserted ++ [insertion] }
  | .idle | .holding _ | .gone => ledger

namespace Worker

variable {services counters : Nat}

/-- The node that a worker has taken and not yet submitted. -/
def held : Worker → List Node
  | .holding node | .submitting node _ => [node]
  | .idle | .gone => []

/-- The insertions that a worker has still to make for the node that it holds. -/
def outstanding (resolvers : ResolverSet services counters) : Worker → List Insertion
  | .holding node => resolvers.insertions node
  | .submitting _ insertions => insertions
  | .idle | .gone => []

/-- The node that a worker has counted and not yet submitted. -/
def counted : Worker → List Node
  | .submitting node _ => [node]
  | .idle | .holding _ | .gone => []

end Worker

namespace Pool

variable {services counters : Nat}

/-- Enter a step of a pool; one that is blocked leaves no entry. -/
def enter (pool : Pool services counters) (step : PoolStep) (ledger : Ledger) : Ledger :=
  match step with
  | .send node =>
      if (pool.step? (.send node)).isSome then { ledger with sent := ledger.sent ++ [node] }
      else ledger
  | .close => ledger
  | .advance position =>
      match pool.workers[position]? with
      | some worker => ledger.record worker
      | none => ledger

/-- The ledger of a run. -/
def ledger (pool : Pool services counters) (steps : List PoolStep) : Ledger :=
  (steps.foldl (fun entered step => (entered.1.after step, entered.1.enter step entered.2))
    (pool, {})).2

/-- The nodes that workers hold. -/
def held (pool : Pool services counters) : List Node :=
  pool.workers.flatMap Worker.held

theorem ledger_append_singleton (pool : Pool services counters) (steps : List PoolStep)
    (step : PoolStep) :
    pool.ledger (steps ++ [step]) = (pool.run steps).enter step (pool.ledger steps) := by
  have follows : (steps.foldl
      (fun entered step => (entered.1.after step, entered.1.enter step entered.2))
      (pool, ({} : Ledger))).1 = pool.run steps := by
    induction steps using List.reverseRecOn with
    | nil => rfl
    | append_singleton steps last ih =>
        rw [List.foldl_append, List.foldl_cons, List.foldl_nil, ih, run_append_singleton]
  rw [ledger, List.foldl_append, List.foldl_cons, List.foldl_nil, follows]
  rfl

/-! ## Entries -/

theorem enter_send {pool : Pool services counters} {node : Node}
    (opened : pool.closed = false) (room : pool.queue.length < pool.capacity)
    (ledger : Ledger) :
    pool.enter (.send node) ledger = { ledger with sent := ledger.sent ++ [node] } := by
  rw [enter, step?_eq_some_iff.mpr (.send opened room)]
  rfl

theorem enter_advance {pool : Pool services counters} {before after : List Worker}
    {worker : Worker} (workers : pool.workers = before ++ worker :: after)
    (ledger : Ledger) : pool.enter (.advance before.length) ledger = ledger.record worker := by
  simp [enter, workers]

theorem enter_of_blocked {pool : Pool services counters} {step : PoolStep}
    (blocked : pool.step? step = none) (ledger : Ledger) : pool.enter step ledger = ledger := by
  cases step with
  | send node => rw [enter, blocked]; rfl
  | close => rfl
  | advance position =>
      cases found : pool.workers[position]? with
      | none => rw [enter, found]
      | some worker =>
          rw [enter, found]
          cases worked : pool.work? worker with
          | some done => simp [step?, found, worked] at blocked
          | none =>
              cases worker with
              | idle | holding node | gone => rfl
              | submitting node insertions =>
                  cases insertions with
                  | nil => rw [work?_submitting_nil] at worked; contradiction
                  | cons insertion rest => contradiction

/-! ## Balance -/

/-- The books of a pool at work on what were the given resolvers. -/
structure Balanced (resolvers : ResolverSet services counters) (ledger : Ledger)
    (pool : Pool services counters) : Prop where
  /-- Every node that was sent is submitted, held or queued. -/
  nodes : ledger.sent.Perm (ledger.submitted ++ (pool.held ++ pool.queue))
  /-- Every key of a node that left the queue has been queued or is outstanding. -/
  keys : ((ledger.submitted ++ pool.held).flatMap resolvers.insertions).Perm
    (ledger.inserted ++ pool.workers.flatMap (Worker.outstanding resolvers))
  /-- The resolvers are as the insertions made them. -/
  made : pool.resolvers = resolvers.insertAll ledger.inserted
  /-- The nodes are counted that workers hold counted, or have submitted. -/
  counted : pool.summary.nodes =
    ledger.submitted.length + (pool.workers.flatMap Worker.counted).length
  accepted : pool.summary.accepted = ledger.submitted.countP resolvers.accepts
  /-- Workers leave no node behind. -/
  drained : .gone ∈ pool.workers → pool.closed = true ∧ pool.queue = []
  /-- A worker makes the insertions of its node in order. -/
  tails : ∀ worker ∈ pool.workers, ∀ node insertions,
    worker = .submitting node insertions → insertions <:+ resolvers.insertions node

namespace Balanced

variable {resolvers : ResolverSet services counters} {ledger : Ledger}
  {pool moved : Pool services counters}

theorem insertions_eq (balanced : Balanced resolvers ledger pool) (node : Node) :
    pool.resolvers.insertions node = resolvers.insertions node := by
  rw [balanced.made, ResolverSet.insertions_insertAll]

theorem send (balanced : Balanced resolvers ledger pool) (opened : pool.closed = false)
    (node : Node) :
    Balanced resolvers { ledger with sent := ledger.sent ++ [node] }
      { pool with queue := pool.queue ++ [node] } where
  nodes := by
    have sent := balanced.nodes.append_right [node]
    simp only [List.append_assoc] at sent
    exact sent
  keys := balanced.keys
  made := balanced.made
  counted := balanced.counted
  accepted := balanced.accepted
  drained left := by
    rw [(balanced.drained left).1] at opened
    contradiction
  tails := balanced.tails

theorem close (balanced : Balanced resolvers ledger pool) :
    Balanced resolvers ledger { pool with closed := true } where
  nodes := balanced.nodes
  keys := balanced.keys
  made := balanced.made
  counted := balanced.counted
  accepted := balanced.accepted
  drained left := ⟨rfl, (balanced.drained left).2⟩
  tails := balanced.tails

/-! The step of a worker, law by law. -/

section Work

variable {before after : List Worker} {worker next : Worker}

theorem nodes_of_works (balanced : Balanced resolvers ledger pool)
    (workers : pool.workers = before ++ worker :: after)
    (works : pool.Works worker next moved) :
    (ledger.record worker).sent.Perm ((ledger.record worker).submitted ++
      ((before ++ next :: after).flatMap Worker.held ++ moved.queue)) := by
  have nodes := balanced.nodes
  rw [held, workers] at nodes
  rw [List.perm_iff_count] at nodes ⊢
  intro node
  have count := nodes node
  cases works with
  | leave | count | insert =>
      simp only [Ledger.record, List.flatMap_append, List.flatMap_cons, Worker.held,
        List.count_append] at count ⊢
      exact count
  | take waiting =>
      simp only [Ledger.record, List.flatMap_append, List.flatMap_cons, Worker.held, waiting,
        List.count_append, List.count_cons, List.count_nil] at count ⊢
      omega
  | accept =>
      simp only [Ledger.record, List.flatMap_append, List.flatMap_cons, Worker.held,
        List.count_append, List.count_nil] at count ⊢
      omega

theorem keys_of_works (balanced : Balanced resolvers ledger pool)
    (workers : pool.workers = before ++ worker :: after)
    (works : pool.Works worker next moved) :
    (((ledger.record worker).submitted ++
      (before ++ next :: after).flatMap Worker.held).flatMap resolvers.insertions).Perm
      ((ledger.record worker).inserted ++
        (before ++ next :: after).flatMap (Worker.outstanding resolvers)) := by
  have keys := balanced.keys
  rw [held, workers] at keys
  rw [List.perm_iff_count] at keys ⊢
  intro insertion
  have count := keys insertion
  cases works with
  | leave =>
      simp only [Ledger.record, List.flatMap_append, List.flatMap_cons, Worker.held,
        Worker.outstanding] at count ⊢
      exact count
  | take waiting =>
      simp only [Ledger.record, List.flatMap_append, List.flatMap_cons, Worker.held,
        Worker.outstanding, List.flatMap_nil, List.count_append, List.count_nil] at count ⊢
      omega
  | count =>
      simp only [Ledger.record, List.flatMap_append, List.flatMap_cons, Worker.held,
        Worker.outstanding, balanced.insertions_eq] at count ⊢
      exact count
  | insert =>
      simp only [Ledger.record, List.flatMap_append, List.flatMap_cons, Worker.held,
        Worker.outstanding, List.count_append, List.count_cons, List.count_nil] at count ⊢
      omega
  | accept =>
      simp only [Ledger.record, List.flatMap_append, List.flatMap_cons, Worker.held,
        Worker.outstanding, List.flatMap_nil, List.count_append, List.count_nil] at count ⊢
      omega

theorem made_of_works (balanced : Balanced resolvers ledger pool)
    (works : pool.Works worker next moved) :
    moved.resolvers = resolvers.insertAll (ledger.record worker).inserted := by
  cases works with
  | leave | take | count | accept => exact balanced.made
  | insert =>
      rw [Ledger.record, ResolverSet.insertAll_append, ← balanced.made]
      rfl

theorem counted_of_works (balanced : Balanced resolvers ledger pool)
    (workers : pool.workers = before ++ worker :: after)
    (works : pool.Works worker next moved) :
    moved.summary.nodes = (ledger.record worker).submitted.length +
      ((before ++ next :: after).flatMap Worker.counted).length := by
  have counted := balanced.counted
  rw [workers] at counted
  cases works with
  | leave | take | insert =>
      simp only [Ledger.record, List.flatMap_append, List.flatMap_cons, Worker.counted]
        at counted ⊢
      exact counted
  | count | accept =>
      simp only [Ledger.record, List.flatMap_append, List.flatMap_cons, Worker.counted,
        List.length_append, List.length_cons, List.length_nil] at counted ⊢
      omega

theorem accepted_of_works (balanced : Balanced resolvers ledger pool)
    (works : pool.Works worker next moved) :
    moved.summary.accepted = (ledger.record worker).submitted.countP resolvers.accepts := by
  cases works with
  | leave | take | count | insert => exact balanced.accepted
  | accept =>
      simp only [Ledger.record, List.countP_append, List.countP_singleton, balanced.accepted,
        balanced.made, ResolverSet.accepts_insertAll]

theorem drained_of_works (balanced : Balanced resolvers ledger pool)
    (workers : pool.workers = before ++ worker :: after)
    (works : pool.Works worker next moved) (left : .gone ∈ before ++ next :: after) :
    moved.closed = true ∧ moved.queue = [] := by
  have drained (others : .gone ∈ before ∨ .gone ∈ after) :
      pool.closed = true ∧ pool.queue = [] := by
    apply balanced.drained
    rw [workers, List.mem_append, List.mem_cons]
    rcases others with earlier | later
    · exact Or.inl earlier
    · exact Or.inr (Or.inr later)
  rw [List.mem_append, List.mem_cons] at left
  cases works with
  | leave empty closed => exact ⟨closed, empty⟩
  | take waiting =>
      have others : Worker.gone ∈ before ∨ Worker.gone ∈ after := by simpa using left
      rw [waiting] at drained
      exact absurd (drained others).2 (List.cons_ne_nil _ _)
  | count | insert | accept =>
      have others : Worker.gone ∈ before ∨ Worker.gone ∈ after := by simpa using left
      exact drained others

theorem tails_of_works (balanced : Balanced resolvers ledger pool)
    (workers : pool.workers = before ++ worker :: after)
    (works : pool.Works worker next moved) :
    ∀ worker ∈ before ++ next :: after, ∀ node insertions,
      worker = .submitting node insertions → insertions <:+ resolvers.insertions node := by
  have tails := balanced.tails
  rw [workers, List.forall_mem_append, List.forall_mem_cons] at tails
  rw [List.forall_mem_append, List.forall_mem_cons]
  refine ⟨tails.1, ?_, tails.2.2⟩
  intro node insertions submitting
  cases works with
  | leave | take | accept => contradiction
  | count =>
      cases submitting
      have same := balanced.insertions_eq node
      exact same ▸ List.suffix_rfl
  | insert =>
      cases submitting
      exact (List.suffix_cons _ _).trans (tails.2.1 node _ rfl)

/-- The books balance after the step of a worker. -/
theorem work (balanced : Balanced resolvers ledger pool)
    (workers : pool.workers = before ++ worker :: after)
    (works : pool.Works worker next moved) :
    Balanced resolvers (ledger.record worker)
      { moved with workers := before ++ next :: after } := by
  have nodes := balanced.nodes_of_works workers works
  have keys := balanced.keys_of_works workers works
  have made := balanced.made_of_works works
  have counted := balanced.counted_of_works workers works
  have accepted := balanced.accepted_of_works works
  have drained := balanced.drained_of_works workers works
  have tails := balanced.tails_of_works workers works
  exact ⟨nodes, keys, made, counted, accepted, drained, tails⟩

end Work

end Balanced

/-- Every step keeps the books balanced. -/
theorem Balanced.after {resolvers : ResolverSet services counters} {ledger : Ledger}
    {pool : Pool services counters} (balanced : Balanced resolvers ledger pool)
    (step : PoolStep) :
    Balanced resolvers (pool.enter step ledger) (pool.after step) := by
  cases taken : pool.step? step with
  | none =>
      rw [enter_of_blocked taken, after_of_blocked taken]
      exact balanced
  | some moved =>
      have moves := step?_eq_some_iff.mp taken
      rw [after_of_moves moves]
      cases moves with
      | send opened room =>
          rw [enter_send opened room]
          exact balanced.send opened _
      | close opened => exact balanced.close
      | advance workers works =>
          rw [enter_advance workers]
          exact balanced.work workers works

theorem flatMap_replicate_idle {α : Type} {read : Worker → List α} (nothing : read .idle = [])
    (count : Nat) : (List.replicate count Worker.idle).flatMap read = [] := by
  rw [List.flatMap_replicate, nothing]
  simp

theorem balanced_start (config : PoolConfig) (resolvers : ResolverSet services counters) :
    Balanced resolvers {} (start config resolvers) where
  nodes := by
    rw [held, start, flatMap_replicate_idle rfl]
    exact List.Perm.nil
  keys := by
    rw [held, start, flatMap_replicate_idle rfl, flatMap_replicate_idle rfl]
    exact List.Perm.nil
  made := rfl
  counted := by
    rw [start, flatMap_replicate_idle rfl]
    rfl
  accepted := rfl
  drained left := by simp [start, List.mem_replicate] at left
  tails worker member := by
    rw [start, List.mem_replicate] at member
    simp [member.2]

/-- However its steps are interleaved, the books of a pool balance. -/
theorem balanced_run (config : PoolConfig) (resolvers : ResolverSet services counters)
    (steps : List PoolStep) :
    Balanced resolvers ((start config resolvers).ledger steps)
      ((start config resolvers).run steps) := by
  induction steps using List.reverseRecOn with
  | nil => exact balanced_start config resolvers
  | append_singleton steps step ih =>
      rw [ledger_append_singleton, run_append_singleton]
      exact ih.after step

end Pool

end IdResolution
