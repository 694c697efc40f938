import IdResolution.Resolver.Set

/-!
# Scanning with a pool of workers

Nodes are handed to a bounded queue, and workers take them from it and submit each
to every resolver of a set.  Workers run side by side: a pool moves by single
steps, in any order, and a step that is blocked cannot be taken.  A worker inserts
the keys of its node one by one.  Once the queue is closed, workers empty it and
leave; the scan is finished when all have left.  `scan` runs a pool by the schedule
that lets one worker finish each node before the next is sent.
-/

namespace IdResolution

/-- The size of a pool. -/
structure PoolConfig where
  workers : Nat := 4
  queueCapacity : Nat := 1024
  deriving DecidableEq, Repr

/-- The counts gathered by a scan. -/
structure ScanSummary where
  /-- Nodes taken by workers. -/
  nodes : Nat := 0
  /-- Nodes that some resolver accepts. -/
  accepted : Nat := 0
  deriving DecidableEq, Repr

/-- A key to be queued in the resolver at a position. -/
abbrev Insertion := Nat × Key

/-- What a worker is at. -/
inductive Worker where
  | idle
  /-- A node was taken from the queue. -/
  | holding (node : Node)
  /-- The node was counted, and some of its keys are still to be queued. -/
  | submitting (node : Node) (insertions : List Insertion)
  /-- The queue was closed and empty, and the worker has left. -/
  | gone
  deriving DecidableEq

/-- A pool at work on a set of resolvers. -/
structure Pool (services counters : Nat) where
  capacity : Nat
  queue : List Node := []
  closed : Bool := false
  workers : List Worker
  summary : ScanSummary := {}
  resolvers : ResolverSet services counters

/-- A step of a pool. -/
inductive PoolStep where
  /-- A node is handed to the queue. -/
  | send (node : Node)
  /-- The queue is closed. -/
  | close
  /-- The worker at a position does what comes next for it. -/
  | advance (worker : Nat)
  deriving DecidableEq

namespace ResolverSet

variable {services counters : Nat}

/-- The keys to be queued for a node, resolver by resolver. -/
def insertions (node : Node) (resolvers : ResolverSet services counters) :
    List Insertion :=
  resolvers.zipIdx.flatMap fun indexed =>
    (indexed.1.keys node).map fun key => (indexed.2, key)

/-- Queue one key in its resolver. -/
def insert (insertion : Insertion) (resolvers : ResolverSet services counters) :
    ResolverSet services counters :=
  resolvers.modify insertion.1 (Resolver.insert insertion.2)

end ResolverSet

namespace Pool

variable {services counters : Nat}

/-- A pool of idle workers; there is at least one, and room for at least one node. -/
def start (config : PoolConfig) (resolvers : ResolverSet services counters) :
    Pool services counters where
  capacity := max config.queueCapacity 1
  workers := List.replicate (max config.workers 1) .idle
  resolvers

/-- Every worker has left. -/
def isFinished (pool : Pool services counters) : Bool :=
  pool.workers.all (· = .gone)

/-- The step of a worker that is at a given point, with what it is at afterwards.
An idle worker waits while the queue is empty, and leaves if it is closed. -/
def work? (pool : Pool services counters) : Worker → Option (Worker × Pool services counters)
  | .idle =>
      match pool.queue with
      | [] => if pool.closed then some (.gone, pool) else none
      | node :: rest => some (.holding node, { pool with queue := rest })
  | .holding node =>
      some (.submitting node (pool.resolvers.insertions node),
        { pool with summary.nodes := pool.summary.nodes + 1 })
  | .submitting node (insertion :: rest) =>
      some (.submitting node rest,
        { pool with resolvers := pool.resolvers.insert insertion })
  | .submitting node [] =>
      some (.idle,
        if pool.resolvers.accepts node then
          { pool with summary.accepted := pool.summary.accepted + 1 }
        else
          pool)
  | .gone => none

/-- Take a step, unless it is blocked: nothing can be sent while the queue is full or
once it is closed, and a worker that does not exist does nothing. -/
def step? (pool : Pool services counters) : PoolStep → Option (Pool services counters)
  | .send node =>
      if !pool.closed && pool.queue.length < pool.capacity then
        some { pool with queue := pool.queue ++ [node] }
      else
        none
  | .close => if pool.closed then none else some { pool with closed := true }
  | .advance position =>
      match pool.workers[position]? with
      | none => none
      | some worker =>
          match pool.work? worker with
          | none => none
          | some (next, moved) =>
              some { moved with workers := pool.workers.set position next }

/-- Take steps in turn; a step that is blocked is passed over. -/
def run (pool : Pool services counters) (steps : List PoolStep) : Pool services counters :=
  steps.foldl (fun pool step => (pool.step? step).getD pool) pool

/-- The steps by which the first worker takes and submits one node that is sent. -/
def soloSteps (resolvers : ResolverSet services counters) (node : Node) : List PoolStep :=
  .send node :: List.replicate ((resolvers.insertions node).length + 3) (.advance 0)

/-- The steps of a scan: each node is sent and submitted in turn, then the queue is
closed and every worker leaves. -/
def scanSteps (pool : Pool services counters) (nodes : List Node) : List PoolStep :=
  nodes.flatMap (soloSteps pool.resolvers) ++
    .close :: (List.range pool.workers.length).map .advance

end Pool

/-- Submit nodes through a pool, and give its counts once it is finished. -/
def scan {services counters : Nat} (config : PoolConfig) (nodes : List Node)
    (resolvers : ResolverSet services counters) :
    ScanSummary × ResolverSet services counters :=
  let pool := Pool.start config resolvers
  let finished := pool.run (pool.scanSteps nodes)
  (finished.summary, finished.resolvers)

end IdResolution
