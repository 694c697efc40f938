import IdResolution.Proofs.Resolver.Retry
import IdResolution.Proofs.Resolver.Set
import IdResolution.Proofs.Scan.Schedule
import IdResolution.Session.Basic

/-!
# Runs of a session

A session moves by actions, one after the other.  What an action makes of any one
resolver is little: nodes may be submitted to it, or it may take in the response to a
pass.  Whatever holds of a resolver at the start and is kept by these two holds
therefore after every run, whichever actions were done in its course and whichever
resolvers they were meant for.
-/

namespace IdResolution

variable {σ : Type} {services counters : Nat}

/-- Whether a target names the resolver at an index. -/
def Target.names (target : Target) (index : Nat) : Bool :=
  match target with
  | .all => true
  | .one named => named == index

/-- The nodes that an action submits to the resolver at an index. -/
def Action.submits (index : Nat) : Action services counters → List Node
  | .submit target node => if target.names index then [node] else []
  | .submitAll target nodes => if target.names index then nodes else []
  | .scan _ nodes => nodes
  | _ => []

/-! ## What becomes of a resolver -/

namespace Resolver

/-- Submit several nodes one after the other. -/
def submitAll (nodes : List Node) (resolver : Resolver services counters) :
    Resolver services counters :=
  nodes.foldl (fun resolver node => resolver.submit node) resolver

/-- What an action that submits the given nodes to a resolver may make of it. -/
inductive Advances (resolver : Resolver services counters) :
    List Node → Resolver services counters → Prop where
  | submit (nodes : List Node) : Advances resolver nodes (resolver.submitAll nodes)
  | absorb (response : Response) : Advances resolver [] (resolver.absorb response)

/-- A resolver that is left alone. -/
theorem Advances.stay (resolver : Resolver services counters) : resolver.Advances [] resolver :=
  .submit []

/-- A pass takes in its response, or it leaves its resolver alone. -/
theorem advances_conclude (calls : Calls) (resolver : Resolver services counters) :
    resolver.Advances [] (resolver.conclude calls) := by
  unfold conclude
  split
  · exact .absorb _
  · exact .stay resolver

end Resolver

theorem ResolverSet.getElem?_submitAll (nodes : List Node)
    (resolvers : ResolverSet services counters) (index : Nat) :
    (resolvers.submitAll nodes)[index]? =
      resolvers[index]?.map (Resolver.submitAll nodes) := by
  induction nodes generalizing resolvers with
  | nil =>
      change resolvers[index]? = resolvers[index]?.map id
      rw [Option.map_id, id]
  | cons node rest ih =>
      change (ResolverSet.submitAll rest (resolvers.submit node))[index]? = _
      rw [ih, ResolverSet.submit_eq_map, List.getElem?_map, Option.map_map]
      rfl

/-! ## One action -/

namespace Session

/-- Change the resolvers that a target names. -/
def modify (session : Session services counters σ) (target : Target)
    (change : Resolver services counters → Resolver services counters) :
    Session services counters σ :=
  { session with
    resolvers :=
      match target with
      | .all => session.resolvers.map change
      | .one index => session.resolvers.modify index change }

/-- A node that is submitted reaches the resolvers that are meant, each by itself. -/
theorem offer_eq (session : Session services counters σ) (target : Target) (node : Node) :
    session.offer target node =
      ((session.targeted target).accepts node, session.modify target (Resolver.submit node)) := by
  have placed : session.replace target ((session.targeted target).submit node) =
      (session.modify target (Resolver.submit node)).resolvers := by
    rw [ResolverSet.submit_eq_map]
    cases target with
    | all => rfl
    | one index =>
        simp only [targeted, modify, List.modify_eq_set_getElem?]
        cases session.resolvers[index]? <;> rfl
  exact congrArg (fun resolvers => (_, { session with resolvers })) placed

/-- Submissions do not change what is accepted. -/
theorem accepts_targeted_modify (session : Session services counters σ) (target : Target)
    (node other : Node) :
    ((session.modify target (Resolver.submit node)).targeted target).accepts other =
      (session.targeted target).accepts other := by
  apply ResolverSet.accepts_congr
  cases target with
  | all => simp [targeted, modify, Function.comp_def]
  | one index => cases found : session.resolvers[index]? <;> simp [targeted, modify, found]

/-- Nodes that are submitted in turn are counted when they are accepted. -/
theorem offerAll_eq (session : Session services counters σ) (target : Target)
    (nodes : List Node) :
    session.offerAll target nodes =
      (nodes.countP (session.targeted target).accepts,
        nodes.foldl (fun session node => session.modify target (Resolver.submit node))
          session) := by
  have step (count : Nat) (current : Session services counters σ) :
      nodes.foldl (fun counted node =>
          let offered := counted.2.offer target node
          (counted.1 + offered.1.toNat, offered.2)) (count, current) =
        (count + nodes.countP (current.targeted target).accepts,
          nodes.foldl (fun session node => session.modify target (Resolver.submit node))
            current) := by
    induction nodes generalizing count current with
    | nil => rfl
    | cons node rest ih =>
        rw [List.foldl_cons, ih, offer_eq, List.foldl_cons, List.countP_cons]
        simp only [accepts_targeted_modify]
        cases (current.targeted target).accepts node <;>
          simp [Nat.add_assoc, Nat.add_comm]
  exact (step 0 session).trans (by rw [Nat.zero_add])

/-- Changes to the resolvers that a target names leave the others alone. -/
theorem getElem?_modify (session : Session services counters σ) (target : Target)
    (change : Resolver services counters → Resolver services counters) (index : Nat) :
    (session.modify target change).resolvers[index]? =
      session.resolvers[index]?.map (if target.names index then change else id) := by
  cases target with
  | all => exact List.getElem?_map
  | one named =>
      by_cases same : named = index <;>
        simp [modify, Target.names, same]

theorem getElem?_foldl_modify (session : Session services counters σ) (target : Target)
    (nodes : List Node) (index : Nat) :
    (nodes.foldl (fun session node => session.modify target (Resolver.submit node))
        session).resolvers[index]? =
      session.resolvers[index]?.map
        (Resolver.submitAll (if target.names index then nodes else [])) := by
  induction nodes generalizing session with
  | nil =>
      rw [ite_self]
      change session.resolvers[index]? = session.resolvers[index]?.map id
      rw [Option.map_id, id]
  | cons node rest ih =>
      rw [List.foldl_cons, ih, getElem?_modify, Option.map_map]
      cases target.names index <;> rfl

/-- Submissions send nothing. -/
theorem network_foldl_modify (session : Session services counters σ) (target : Target)
    (nodes : List Node) :
    (nodes.foldl (fun session node => session.modify target (Resolver.submit node))
      session).network = session.network := by
  induction nodes generalizing session with
  | nil => rfl
  | cons node rest ih => exact ih (session.modify target (Resolver.submit node))

variable [Service σ] [Recording σ]

/-- What an action leaves behind. -/
def after (session : Session services counters σ) (action : Action services counters) :
    Session services counters σ :=
  (session.perform action).2

/-- What actions leave behind that are done one after the other. -/
def run (start : Session services counters σ) (actions : List (Action services counters)) :
    Session services counters σ :=
  actions.foldl after start

theorem run_append (start : Session services counters σ)
    (actions later : List (Action services counters)) :
    start.run (actions ++ later) = (start.run actions).run later :=
  List.foldl_append

theorem run_append_singleton (start : Session services counters σ)
    (actions : List (Action services counters)) (last : Action services counters) :
    start.run (actions ++ [last]) = (start.run actions).after last :=
  start.run_append actions [last]

/-- To resolve through one resolver alone leaves the others alone. -/
theorem resolvers_resolve_one (session : Session services counters σ) (named : Nat) :
    (session.after (.resolve (.one named))).resolvers =
      match session.resolvers[named]? with
      | some resolver =>
          session.resolvers.set named (resolver.conclude (resolver.calls session.network))
      | none => session.resolvers := by
  simp only [after, perform, targeted]
  cases session.resolvers[named]? with
  | none => rfl
  | some resolver =>
      have alone := (Deployment.resolve_alone ⟨resolver, session.network⟩).2.1
      rw [Deployment.resolver_resolve] at alone
      simp only [Option.toList_some, alone, replace]

/-- A resolve lets every resolver advance, be it meant for it or not. -/
theorem exists_advance_resolve {session : Session services counters σ} {index : Nat}
    {resolver : Resolver services counters} (target : Target)
    (found : session.resolvers[index]? = some resolver) :
    ∃ next, (session.after (.resolve target)).resolvers[index]? = some next ∧
      resolver.Advances [] next := by
  cases target with
  | all =>
      have place := session.resolvers.getElem?_resolve session.network index
      rw [found, Option.map_some] at place
      refine ⟨_, place, ?_⟩
      obtain same | ⟨response, -, same⟩ := ResolverSet.land_cases
        (ResolverSet.break? (ResolverSet.launch session.resolvers session.network).1)
        resolver (session.resolvers.networkAt session.network index) index
      · rw [same]
        exact .stay resolver
      · rw [same]
        exact .absorb response
  | one named =>
      rw [resolvers_resolve_one]
      by_cases same : named = index
      · subst same
        obtain ⟨inside, -⟩ := List.getElem?_eq_some_iff.mp found
        simp only [found, List.getElem?_set_self inside]
        exact ⟨_, rfl, resolver.advances_conclude _⟩
      · refine ⟨resolver, ?_, .stay resolver⟩
        split
        · rw [List.getElem?_set_ne same, found]
        · exact found

/-- Every action lets a resolver advance by the nodes that it submits to it, and keeps it
in its place. -/
theorem exists_advance {session : Session services counters σ} {index : Nat}
    {resolver : Resolver services counters} (action : Action services counters)
    (found : session.resolvers[index]? = some resolver) :
    ∃ next, (session.after action).resolvers[index]? = some next ∧
      resolver.Advances (action.submits index) next := by
  have unchanged (same : (session.after action).resolvers = session.resolvers)
      (nothing : action.submits index = []) :
      ∃ next, (session.after action).resolvers[index]? = some next ∧
        resolver.Advances (action.submits index) next := by
    rw [same, nothing]
    exact ⟨resolver, found, .stay resolver⟩
  cases action with
  | submit target node =>
      refine ⟨_, ?_, .submit _⟩
      rw [after, perform, offer_eq, getElem?_modify, found, Action.submits]
      cases target.names index <;> rfl
  | submitAll target nodes =>
      refine ⟨_, ?_, .submit _⟩
      rw [after, perform, offerAll_eq, getElem?_foldl_modify, found]
      rfl
  | scan config nodes =>
      refine ⟨_, ?_, .submit _⟩
      rw [after, perform]
      simp only [(scan_eq_submitAll config nodes session.resolvers).2]
      rw [ResolverSet.getElem?_submitAll, found]
      rfl
  | resolve target => exact exists_advance_resolve target found
  | add new =>
      refine ⟨resolver, ?_, .stay resolver⟩
      obtain ⟨inside, -⟩ := List.getElem?_eq_some_iff.mp found
      exact (List.getElem?_append_left inside).trans found
  | request client request => cases request <;> exact unchanged rfl rfl
  | call service request => cases request <;> exact unchanged rfl rfl
  | find | name | keys | pending | candidates | resolvedCount | counts | received | warnings
  | describe => exact unchanged rfl rfl

/-! ## Many actions -/

/-- What holds of a resolver at the start, and is kept whenever it advances, holds after
every run, together with the nodes that were submitted to it. -/
theorem exists_run {start : Session services counters σ} {index : Nat}
    {origin : Resolver services counters} (found : start.resolvers[index]? = some origin)
    {motive : List Node → Resolver services counters → Prop} (initially : motive [] origin)
    (kept : ∀ submitted resolver nodes next, motive submitted resolver →
      resolver.Advances nodes next → motive (submitted ++ nodes) next)
    (actions : List (Action services counters)) :
    ∃ reached, (start.run actions).resolvers[index]? = some reached ∧
      motive (actions.flatMap (Action.submits index)) reached := by
  induction actions using List.reverseRecOn with
  | nil => exact ⟨origin, found, initially⟩
  | append_singleton actions last ih =>
      obtain ⟨resolver, before, holds⟩ := ih
      obtain ⟨next, place, advances⟩ := exists_advance last before
      refine ⟨next, ?_, ?_⟩
      · rw [run_append_singleton]
        exact place
      · rw [List.flatMap_append, List.flatMap_singleton]
        exact kept _ resolver _ next holds advances

end Session

end IdResolution
