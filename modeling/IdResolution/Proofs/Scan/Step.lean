import IdResolution.Proofs.Resolver.Insertion
import Mathlib.Algebra.Order.Floor.Div

/-!
# Steps of a pool

What a worker can do next depends on what it is at: an idle worker takes a node or
leaves, one that holds a node counts it, queues its keys one by one, and is idle again.
A pool moves by handing a node to the queue, by closing it, or by a step of one of its
workers.  While some worker has not left a closed pool, one of them can move, and every
move of a worker leaves less to be done: a pool that is closed comes to its end.
-/

namespace IdResolution

/-- The element at a position with what stands before it and behind it. -/
theorem exists_split_of_getElem? {α : Type} {elements : List α} {position : Nat}
    {element : α} (found : elements[position]? = some element) :
    ∃ before after, elements = before ++ element :: after ∧ before.length = position := by
  induction elements generalizing position with
  | nil => contradiction
  | cons first rest ih =>
      cases position with
      | zero =>
          cases found
          exact ⟨[], rest, rfl, rfl⟩
      | succ position =>
          rcases ih found with ⟨before, after, rfl, length⟩
          exact ⟨first :: before, after, rfl, congrArg Nat.succ length⟩

namespace Pool

variable {services counters : Nat}

/-! ## Steps inverted -/

/-- What a worker does next, with what it is at afterwards and what becomes of the
pool. -/
inductive Works (pool : Pool services counters) :
    Worker → Worker → Pool services counters → Prop where
  | leave (empty : pool.queue = []) (closed : pool.closed = true) :
      Works pool .idle .gone pool
  | take {node : Node} {rest : List Node} (waiting : pool.queue = node :: rest) :
      Works pool .idle (.holding node) { pool with queue := rest }
  | count {node : Node} :
      Works pool (.holding node) (.submitting node (pool.resolvers.insertions node))
        { pool with summary.nodes := pool.summary.nodes + 1 }
  | insert {node : Node} {insertion : Insertion} {rest : List Insertion} :
      Works pool (.submitting node (insertion :: rest)) (.submitting node rest)
        { pool with resolvers := pool.resolvers.insert insertion }
  | accept {node : Node} :
      Works pool (.submitting node []) .idle
        { pool with
          summary.accepted :=
            pool.summary.accepted + if pool.resolvers.accepts node then 1 else 0 }

/-- A node is counted as accepted or not; in either case the worker is idle again. -/
theorem work?_submitting_nil (pool : Pool services counters) (node : Node) :
    pool.work? (.submitting node []) =
      some (.idle, { pool with
        summary.accepted :=
          pool.summary.accepted + if pool.resolvers.accepts node then 1 else 0 }) := by
  rw [work?]
  split <;> rfl

theorem work?_eq_some_iff {pool moved : Pool services counters} {worker next : Worker} :
    pool.work? worker = some (next, moved) ↔ pool.Works worker next moved := by
  constructor
  · intro worked
    cases worker with
    | idle =>
        cases waiting : pool.queue with
        | nil =>
            rw [work?, waiting] at worked
            cases closed : pool.closed with
            | false => simp [closed] at worked
            | true =>
                simp only [closed, if_true] at worked
                cases worked
                exact .leave waiting closed
        | cons node rest =>
            rw [work?, waiting] at worked
            cases worked
            exact .take waiting
    | holding node =>
        cases worked
        exact .count
    | submitting node insertions =>
        cases insertions with
        | nil =>
            rw [work?_submitting_nil] at worked
            cases worked
            exact .accept
        | cons insertion rest =>
            cases worked
            exact .insert
    | gone => contradiction
  · intro works
    cases works with
    | leave empty closed => simp [work?, empty, closed]
    | take waiting => simp [work?, waiting]
    | count => rfl
    | insert => rfl
    | accept => exact pool.work?_submitting_nil _

/-- How a pool moves by a step. -/
inductive Moves (pool : Pool services counters) :
    PoolStep → Pool services counters → Prop where
  | send {node : Node} (opened : pool.closed = false)
      (room : pool.queue.length < pool.capacity) :
      Moves pool (.send node) { pool with queue := pool.queue ++ [node] }
  | close (opened : pool.closed = false) : Moves pool .close { pool with closed := true }
  | advance {before after : List Worker} {worker next : Worker}
      {moved : Pool services counters} (workers : pool.workers = before ++ worker :: after)
      (works : pool.Works worker next moved) :
      Moves pool (.advance before.length) { moved with workers := before ++ next :: after }

/-- A step is taken, unless it is blocked, and moves the pool as it may. -/
theorem step?_eq_some_iff {pool moved : Pool services counters} {step : PoolStep} :
    pool.step? step = some moved ↔ pool.Moves step moved := by
  constructor
  · intro taken
    cases step with
    | send node =>
        simp only [step?, Option.ite_none_right_eq_some, Bool.and_eq_true,
          Bool.not_eq_true', decide_eq_true_eq] at taken
        rcases taken with ⟨⟨opened, room⟩, taken⟩
        cases taken
        exact .send opened room
    | close =>
        simp only [step?, Option.ite_none_left_eq_some, Bool.not_eq_true] at taken
        rcases taken with ⟨opened, taken⟩
        cases taken
        exact .close opened
    | advance position =>
        cases found : pool.workers[position]? with
        | none => simp [step?, found] at taken
        | some worker =>
            cases worked : pool.work? worker with
            | none => simp [step?, found, worked] at taken
            | some done =>
                simp only [step?, found, worked, Option.some.injEq] at taken
                subst taken
                rcases exists_split_of_getElem? found with ⟨before, after, workers, rfl⟩
                rw [workers, List.set_append_right _ _ (Nat.le_refl _), Nat.sub_self,
                  List.set_cons_zero]
                exact .advance workers (work?_eq_some_iff.mp worked)
  · intro moves
    cases moves with
    | send opened room => simp [step?, opened, room]
    | close opened => simp [step?, opened]
    | advance workers works =>
        simp [step?, workers, work?_eq_some_iff.mpr works]

/-! ## Runs -/

/-- The pool after a step, which is passed over if it is blocked. -/
def after (pool : Pool services counters) (step : PoolStep) : Pool services counters :=
  (pool.step? step).getD pool

theorem after_of_moves {pool moved : Pool services counters} {step : PoolStep}
    (moves : pool.Moves step moved) : pool.after step = moved := by
  rw [after, step?_eq_some_iff.mpr moves, Option.getD_some]

theorem after_of_blocked {pool : Pool services counters} {step : PoolStep}
    (blocked : pool.step? step = none) : pool.after step = pool := by
  rw [after, blocked, Option.getD_none]

theorem run_append (pool : Pool services counters) (steps further : List PoolStep) :
    pool.run (steps ++ further) = (pool.run steps).run further :=
  List.foldl_append

theorem run_append_singleton (pool : Pool services counters) (steps : List PoolStep)
    (step : PoolStep) : pool.run (steps ++ [step]) = (pool.run steps).after step :=
  pool.run_append steps [step]

/-- What a step does to a pool is nothing or a move. -/
theorem after_cases (pool : Pool services counters) (step : PoolStep) :
    pool.after step = pool ∨ pool.Moves step (pool.after step) := by
  cases taken : pool.step? step with
  | none => exact Or.inl (after_of_blocked taken)
  | some moved =>
      have moves := step?_eq_some_iff.mp taken
      rw [after_of_moves moves]
      exact Or.inr moves

/-! ## Sizes -/

/-- A pool has the workers that it was started with, and its queue fits its capacity. -/
structure SizedBy (config : PoolConfig) (pool : Pool services counters) : Prop where
  capacity : pool.capacity = max config.queueCapacity 1
  queue : pool.queue.length ≤ max config.queueCapacity 1
  workers : pool.workers.length = max config.workers 1

theorem SizedBy.after {config : PoolConfig} {pool : Pool services counters}
    (sized : pool.SizedBy config) (step : PoolStep) : (pool.after step).SizedBy config := by
  rcases pool.after_cases step with same | moves
  · rw [same]
    exact sized
  · generalize pool.after step = moved at moves
    cases moves with
    | send opened room =>
        refine ⟨sized.capacity, ?_, sized.workers⟩
        rw [sized.capacity] at room
        rw [List.length_append, List.length_singleton]
        exact room
    | close opened => exact ⟨sized.capacity, sized.queue, sized.workers⟩
    | advance workers works =>
        have count := sized.workers
        rw [workers, List.length_append, List.length_cons] at count
        cases works with
        | take waiting =>
            refine ⟨sized.capacity, ?_, ?_⟩
            · have fits := sized.queue
              rw [waiting, List.length_cons] at fits
              exact Nat.le_of_succ_le fits
            · rw [List.length_append, List.length_cons, count]
        | leave | count | insert | accept =>
            refine ⟨sized.capacity, sized.queue, ?_⟩
            rw [List.length_append, List.length_cons, count]

/-- However its steps are interleaved, the queue of a pool never exceeds its capacity. -/
theorem sizedBy_run (config : PoolConfig) (resolvers : ResolverSet services counters)
    (steps : List PoolStep) : ((start config resolvers).run steps).SizedBy config := by
  induction steps using List.reverseRecOn with
  | nil => exact ⟨rfl, Nat.zero_le _, List.length_replicate⟩
  | append_singleton steps step ih =>
      rw [run_append_singleton]
      exact ih.after step

/-! ## Progress -/

/-- A worker is blocked only when it has left, or while it waits for nodes to be
sent. -/
theorem exists_works_iff {pool : Pool services counters} {worker : Worker} :
    (∃ next moved, pool.Works worker next moved) ↔
      worker ≠ .gone ∧ (worker = .idle → pool.queue ≠ [] ∨ pool.closed = true) := by
  constructor
  · intro able
    rcases able with ⟨next, moved, works⟩
    cases works with
    | leave empty closed => exact ⟨Worker.noConfusion, fun _ => Or.inr closed⟩
    | take waiting =>
        rw [waiting]
        exact ⟨Worker.noConfusion, fun _ => Or.inl (List.cons_ne_nil _ _)⟩
    | count | insert | accept => exact ⟨Worker.noConfusion, fun idle => Worker.noConfusion idle⟩
  · intro able
    rcases able with ⟨present, supplied⟩
    cases worker with
    | idle =>
        cases waiting : pool.queue with
        | nil =>
            rcases supplied rfl with nonempty | closed
            · exact absurd waiting nonempty
            · exact ⟨_, _, .leave waiting closed⟩
        | cons node rest => exact ⟨_, _, .take waiting⟩
    | holding node => exact ⟨_, _, .count⟩
    | submitting node insertions =>
        cases insertions with
        | nil => exact ⟨_, _, .accept⟩
        | cons insertion rest => exact ⟨_, _, .insert⟩
    | gone => contradiction

end Pool

/-- The steps that a worker has before it until it has left, if nothing more is sent and
it takes no further node. -/
def Worker.effort {services counters : Nat} (resolvers : ResolverSet services counters) :
    Worker → Nat
  | .idle => 1
  | .holding node => (resolvers.insertions node).length + 3
  | .submitting _ insertions => insertions.length + 2
  | .gone => 0

@[simp] theorem Worker.effort_insert {services counters : Nat} (insertion : Insertion)
    (resolvers : ResolverSet services counters) :
    effort (resolvers.insert insertion) = effort resolvers := by
  funext worker
  cases worker <;> simp [effort]

namespace Pool

variable {services counters : Nat}

/-- The steps that the workers have before them until all have left, if nothing more is
sent. -/
def effort (pool : Pool services counters) : Nat :=
  (pool.queue.map fun node => (pool.resolvers.insertions node).length + 3).sum +
    (pool.workers.map (Worker.effort pool.resolvers)).sum

/-- Every step of a worker is one step less to be made. -/
theorem effort_of_advance {pool moved : Pool services counters} {position : Nat}
    (moves : pool.Moves (.advance position) moved) : moved.effort + 1 = pool.effort := by
  cases moves with
  | advance workers works =>
      simp only [effort, workers, List.map_append, List.map_cons, List.sum_append,
        List.sum_cons]
      cases works with
      | leave empty closed => simp only [Worker.effort]; omega
      | take waiting =>
          simp only [waiting, Worker.effort, List.map_cons, List.sum_cons]
          omega
      | count => simp only [Worker.effort]; omega
      | insert =>
          simp only [ResolverSet.insertions_insert, Worker.effort_insert, Worker.effort,
            List.length_cons]
          omega
      | accept => simp only [Worker.effort, List.length_nil]; omega

theorem closed_of_advance {pool moved : Pool services counters} {position : Nat}
    (moves : pool.Moves (.advance position) moved) : moved.closed = pool.closed := by
  cases moves with
  | advance workers works => cases works <;> rfl

theorem isFinished_iff {pool : Pool services counters} :
    pool.isFinished = true ↔ ∀ worker ∈ pool.workers, worker = .gone := by
  simp [isFinished]

/-- While some worker has not left a closed pool, one of them can move. -/
theorem exists_advance {pool : Pool services counters} (closed : pool.closed = true)
    (unfinished : pool.isFinished = false) :
    ∃ position moved, pool.Moves (.advance position) moved := by
  have present : ∃ worker ∈ pool.workers, worker ≠ .gone := by
    by_contra none
    have allGone : pool.isFinished = true := by
      rw [isFinished_iff]
      intro worker member
      by_contra notGone
      exact none ⟨worker, member, notGone⟩
    rw [allGone] at unfinished
    contradiction
  rcases present with ⟨worker, member, notGone⟩
  rcases List.append_of_mem member with ⟨before, after, workers⟩
  rcases exists_works_iff.mpr ⟨notGone, fun _ => Or.inr closed⟩ with ⟨next, moved, works⟩
  exact ⟨before.length, _, .advance workers works⟩

/-- The steps of workers empty a closed pool. -/
theorem exists_finish_of_closed {pool : Pool services counters}
    (closed : pool.closed = true) : ∃ steps, (pool.run steps).isFinished = true := by
  induction left : pool.effort generalizing pool with
  | zero =>
      refine ⟨[], ?_⟩
      by_contra unfinished
      rw [Bool.not_eq_true] at unfinished
      rcases exists_advance closed unfinished with ⟨position, moved, moves⟩
      have lowered := effort_of_advance moves
      omega
  | succ effort ih =>
      cases finished : pool.isFinished with
      | true => exact ⟨[], finished⟩
      | false =>
          rcases exists_advance closed finished with ⟨position, moved, moves⟩
          have lowered := effort_of_advance moves
          rw [left, Nat.add_right_cancel_iff] at lowered
          rcases ih ((closed_of_advance moves).trans closed) lowered with ⟨steps, ended⟩
          refine ⟨.advance position :: steps, ?_⟩
          have step : pool.run (.advance position :: steps) =
              (pool.after (.advance position)).run steps := rfl
          rw [step, after_of_moves moves, ended]

/-- Every pool can be brought to its end. -/
theorem exists_finish (pool : Pool services counters) :
    ∃ steps, (pool.run steps).isFinished = true := by
  cases closed : pool.closed with
  | true => exact exists_finish_of_closed closed
  | false =>
      have moves : pool.Moves .close { pool with closed := true } := .close closed
      have closes : ({ pool with closed := true } : Pool services counters).closed = true := rfl
      rcases exists_finish_of_closed closes with ⟨steps, ended⟩
      refine ⟨.close :: steps, ?_⟩
      have step : pool.run (.close :: steps) = (pool.after .close).run steps := rfl
      rw [step, after_of_moves moves, ended]

end Pool

end IdResolution
