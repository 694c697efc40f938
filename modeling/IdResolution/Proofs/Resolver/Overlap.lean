import IdResolution.Proofs.Resolver.Insertion
import IdResolution.Proofs.Resolver.Response
import IdResolution.Proofs.Resolver.Retry

/-!
# Passes that overlap

A resolver may be used by several parties at a time: keys are queued while passes are
under way, and several passes may be under way at once.  A pass touches what is shared
twice.  It departs with the queue as it is then, and when it arrives the response to its
calls is taken in, or nothing if it failed.  Over a service in memory, queued keys keep
their places for good, and what one pass has brought no other pass can undo.
-/

namespace IdResolution

variable {σ : Type} {services counters : Nat}

/-- A pass under way. -/
structure Pass where
  /-- The queue at its departure. -/
  snapshot : List Key
  /-- How its calls end. -/
  calls : Calls

/-- A resolver on a network, with the passes under way in the order of their
departures. -/
structure Traffic (σ : Type) (services counters : Nat) where
  resolver : Resolver services counters
  network : Network σ services counters
  passes : List Pass := []

/-- What happens to a resolver that several parties use. -/
inductive Occurrence where
  /-- A key of a node that is being submitted is queued. -/
  | insert (key : Key)
  /-- A pass starts with the whole queue. -/
  | depart
  /-- The pass at a position ends, with its result taken in. -/
  | arrive (pass : Nat)
  /-- The pass at a position is given up. -/
  | abandon (pass : Nat)
  deriving DecidableEq

namespace Traffic

variable [Service σ]

/-- What one occurrence leaves behind; a pass that is not under way neither arrives nor
is given up. -/
def after (traffic : Traffic σ services counters) :
    Occurrence → Traffic σ services counters
  | .insert key => { traffic with resolver := traffic.resolver.insert key }
  | .depart =>
      { traffic with
        network := (traffic.resolver.launch traffic.network).2
        passes := traffic.passes ++
          [⟨traffic.resolver.pending, traffic.resolver.calls traffic.network⟩] }
  | .arrive position =>
      match traffic.passes[position]? with
      | none => traffic
      | some pass =>
          { traffic with
            resolver := traffic.resolver.conclude pass.calls
            passes := traffic.passes.eraseIdx position }
  | .abandon position => { traffic with passes := traffic.passes.eraseIdx position }

/-- What a history leaves behind. -/
def run (start : Traffic σ services counters) (history : List Occurrence) :
    Traffic σ services counters :=
  history.foldl after start

theorem run_append (start : Traffic σ services counters)
    (before rest : List Occurrence) :
    start.run (before ++ rest) = (start.run before).run rest :=
  List.foldl_append

theorem run_append_singleton (start : Traffic σ services counters)
    (history : List Occurrence) (last : Occurrence) :
    start.run (history ++ [last]) = (start.run history).after last :=
  start.run_append history [last]

theorem run_insert (traffic : Traffic σ services counters) (keys : List Key) :
    traffic.run (keys.map .insert) =
      { traffic with resolver := traffic.resolver.insertAll keys } := by
  induction keys generalizing traffic with
  | nil => rfl
  | cons key rest ih => exact ih (traffic.after (.insert key))

/-- To submit a node is to queue its keys one after the other. -/
theorem run_submit (traffic : Traffic σ services counters) (node : Node) :
    traffic.run ((traffic.resolver.keys node).map .insert) =
      { traffic with resolver := traffic.resolver.submit node } := by
  rw [run_insert, Resolver.submit_eq_insertAll]

/-- A pass that arrives before anything else happens is a resolve. -/
theorem after_depart_arrive (traffic : Traffic σ services counters) :
    let resolved := Deployment.resolve ⟨traffic.resolver, traffic.network⟩
    (traffic.after .depart).after (.arrive traffic.passes.length) =
      { traffic with
        resolver := resolved.2.resolver
        network := resolved.2.network } := by
  intro resolved
  simp only [after, resolved, Deployment.resolve_eq, List.getElem?_concat_length,
    List.eraseIdx_append_of_length_le (Nat.le_refl traffic.passes.length), Nat.sub_self,
    List.eraseIdx_cons_zero, List.append_nil]

/-! ## What is queued -/

/-- The queue only grows, and only at its end. -/
theorem pending_prefix_after (traffic : Traffic σ services counters)
    (occurrence : Occurrence) :
    traffic.resolver.pending <+: (traffic.after occurrence).resolver.pending := by
  cases occurrence with
  | insert key => exact traffic.resolver.pending_prefix_insert key
  | depart | abandon position => exact List.prefix_rfl
  | arrive position =>
      rw [after]
      split
      · exact List.prefix_rfl
      · rename_i pass found
        have same := Resolver.pending_conclude pass.calls traffic.resolver
        exact same.symm ▸ List.prefix_rfl

theorem pending_prefix_run (traffic : Traffic σ services counters)
    (history : List Occurrence) :
    traffic.resolver.pending <+: (traffic.run history).resolver.pending := by
  induction history using List.reverseRecOn with
  | nil => exact List.prefix_rfl
  | append_singleton history last ih =>
      rw [run_append_singleton]
      exact ih.trans (pending_prefix_after _ last)

end Traffic

/-! ## What passes bring -/

/-- The candidates registered for an address, each once, if there are any. -/
def Tables.candidates? (tables : Tables) (address : Address) : Option (List String) :=
  if (tables.registered address).isEmpty then none
  else some (firstOccurrences (tables.registered address))

/-- The calls of a pass are answered exactly when its snapshot holds no key with a failing
address, and then from the tables, as those of a resolver with this queue. -/
def Pass.AnsweredFrom (pass : Pass) (tables : Tables) (origin : Resolver services counters) :
    Prop :=
  ∃ asked : Resolver services counters, asked.fresh = origin.fresh ∧
    asked.pending = pass.snapshot ∧
      ∀ response, pass.calls.Answered response ↔
        (∀ key ∈ pass.snapshot, tables.isFailing key.address = false) ∧
          response = asked.responseFrom tables

/-- The cached candidates are the registered ones, or not known yet. -/
def Resolver.CachesFrom (tables : Tables) (resolver : Resolver services counters) : Prop :=
  ∀ address, resolver.candidates? address = none ∨
    resolver.candidates? address = tables.candidates? address

/-- A pass that succeeds brings the registered candidates of the keys in its snapshot. -/
theorem Pass.AnsweredFrom.candidates?_conclude {pass : Pass} {tables : Tables}
    {origin resolver : Resolver services counters}
    (answeredFrom : pass.AnsweredFrom tables origin) (fresh : resolver.fresh = origin.fresh)
    (caches : resolver.CachesFrom tables) {response : Response}
    (succeeded : pass.calls.Answered response) (address : Address) :
    (resolver.conclude pass.calls).candidates? address =
      if (pass.snapshot.map Key.address).contains address then tables.candidates? address
      else resolver.candidates? address := by
  rcases answeredFrom with ⟨asked, askedFresh, askedPending, answered⟩
  have kind : asked.kind = resolver.kind := by
    rw [← Resolver.kind_fresh, askedFresh, ← fresh, Resolver.kind_fresh]
  rcases (answered response).mp succeeded with ⟨-, rfl⟩
  rw [Resolver.conclude_of_answered succeeded]
  rw [Resolver.candidates?_absorb_responseFrom kind, askedPending]
  cases asks : (pass.snapshot.map Key.address).contains address with
  | false => rfl
  | true =>
      rw [Bool.true_and, if_pos rfl, Tables.candidates?]
      cases unregistered : (tables.registered address).isEmpty with
      | false => rfl
      | true =>
          rcases caches address with unknown | known
          · exact unknown
          · rw [Tables.candidates?, unregistered] at known
            exact known

namespace Traffic

variable [Service σ] [InMemory σ]

/-- What is true of a resolver over a service in memory, whatever has happened to it. -/
structure Lawful (origin : Resolver services counters) (tables : Tables)
    (traffic : Traffic σ services counters) : Prop where
  fresh : traffic.resolver.fresh = origin.fresh
  filled : ∃ keys, traffic.resolver.FilledWith keys
  answered : traffic.resolver.tablesOn traffic.network = tables
  caches : traffic.resolver.CachesFrom tables
  /-- A pass under way departed with a prefix of what is queued. -/
  snapshots : ∀ pass ∈ traffic.passes, pass.snapshot <+: traffic.resolver.pending
  passes : ∀ pass ∈ traffic.passes, pass.AnsweredFrom tables origin

namespace Lawful

variable {origin : Resolver services counters} {tables : Tables}
  {traffic : Traffic σ services counters}

theorem candidates?_conclude (lawful : Lawful origin tables traffic) {pass : Pass}
    (member : pass ∈ traffic.passes) {response : Response}
    (succeeded : pass.calls.Answered response) (address : Address) :
    (traffic.resolver.conclude pass.calls).candidates? address =
      if (pass.snapshot.map Key.address).contains address then tables.candidates? address
      else traffic.resolver.candidates? address :=
  (lawful.passes pass member).candidates?_conclude lawful.fresh lawful.caches succeeded address

/-- The end of a pass leaves an address as it is, or settles it. -/
theorem candidates?_conclude_cases (lawful : Lawful origin tables traffic) {pass : Pass}
    (member : pass ∈ traffic.passes) (address : Address) :
    (traffic.resolver.conclude pass.calls).candidates? address =
        traffic.resolver.candidates? address ∨
      (traffic.resolver.conclude pass.calls).candidates? address =
        tables.candidates? address := by
  by_cases succeeded : ∃ response, pass.calls.Answered response
  · rcases succeeded with ⟨response, answered⟩
    rw [lawful.candidates?_conclude member answered]
    split
    · exact Or.inr rfl
    · exact Or.inl rfl
  · left
    rw [Resolver.conclude_of_failed fun response answered => succeeded ⟨response, answered⟩]

theorem insert (lawful : Lawful origin tables traffic) (key : Key) :
    Lawful origin tables (traffic.after (.insert key)) where
  fresh := (Resolver.fresh_insert key traffic.resolver).trans lawful.fresh
  filled := by
    rcases lawful.filled with ⟨keys, filled⟩
    exact ⟨_, filled.insertAll [key]⟩
  answered := by
    rw [← lawful.answered]
    exact Resolver.tablesOn_congr (Resolver.fresh_insert key traffic.resolver) traffic.network
  caches address := by
    have same := traffic.resolver.candidates?_insert key address
    rw [after, same]
    exact lawful.caches address
  snapshots pass member := (lawful.snapshots pass member).trans
    (traffic.resolver.pending_prefix_insert key)
  passes := lawful.passes

theorem depart (lawful : Lawful origin tables traffic) :
    Lawful origin tables (traffic.after .depart) where
  fresh := lawful.fresh
  filled := lawful.filled
  answered := (traffic.resolver.tables_launch traffic.network).trans lawful.answered
  caches := lawful.caches
  snapshots := by
    intro pass member
    rw [after, List.mem_append, List.mem_singleton] at member
    rcases member with earlier | rfl
    · exact lawful.snapshots pass earlier
    · exact List.prefix_rfl
  passes := by
    intro pass member
    rw [after, List.mem_append, List.mem_singleton] at member
    rcases member with earlier | rfl
    · exact lawful.passes pass earlier
    · refine ⟨traffic.resolver, lawful.fresh, rfl, ?_⟩
      intro response
      rw [Resolver.answered_calls_iff, Resolver.answerOn, lawful.answered]

theorem arrive (lawful : Lawful origin tables traffic) (position : Nat) :
    Lawful origin tables (traffic.after (.arrive position)) := by
  rw [after]
  split
  · exact lawful
  · rename_i pass found
    constructor
    · exact (Resolver.fresh_conclude pass.calls traffic.resolver).trans lawful.fresh
    · rcases lawful.filled with ⟨keys, filled⟩
      exact ⟨keys, Resolver.filledWith_conclude filled⟩
    · rw [← lawful.answered]
      exact Resolver.tablesOn_congr (Resolver.fresh_conclude pass.calls traffic.resolver)
        traffic.network
    · intro address
      rcases lawful.candidates?_conclude_cases (List.mem_of_getElem? found) address with
        same | known
      · rw [same]
        exact lawful.caches address
      · exact Or.inr known
    · intro other member
      rw [Resolver.pending_conclude]
      exact lawful.snapshots other (List.mem_of_mem_eraseIdx member)
    · intro other member
      exact lawful.passes other (List.mem_of_mem_eraseIdx member)

theorem abandon (lawful : Lawful origin tables traffic) (position : Nat) :
    Lawful origin tables (traffic.after (.abandon position)) where
  fresh := lawful.fresh
  filled := lawful.filled
  answered := lawful.answered
  caches := lawful.caches
  snapshots pass member := lawful.snapshots pass (List.mem_of_mem_eraseIdx member)
  passes pass member := lawful.passes pass (List.mem_of_mem_eraseIdx member)

theorem after (lawful : Lawful origin tables traffic) (occurrence : Occurrence) :
    Lawful origin tables (traffic.after occurrence) := by
  cases occurrence with
  | insert key => exact lawful.insert key
  | depart => exact lawful.depart
  | arrive position => exact lawful.arrive position
  | abandon position => exact lawful.abandon position

/-- A pass that arrives and has succeeded leaves the registered candidates of the keys in
its snapshot. -/
theorem candidates?_arrive (lawful : Lawful origin tables traffic) {position : Nat}
    {pass : Pass} (found : traffic.passes[position]? = some pass) {response : Response}
    (succeeded : pass.calls.Answered response) {key : Key} (member : key ∈ pass.snapshot) :
    (traffic.after (.arrive position)).resolver.candidates? key.address =
      tables.candidates? key.address := by
  have asks : (pass.snapshot.map Key.address).contains key.address = true :=
    List.contains_iff_mem.mpr (List.mem_map_of_mem member)
  rw [Traffic.after, found]
  simp only
  rw [lawful.candidates?_conclude (List.mem_of_getElem? found) succeeded, if_pos asks]

/-- Once the registered candidates are cached for an address, they stay. -/
theorem candidates?_after (lawful : Lawful origin tables traffic) {address : Address}
    (settled : traffic.resolver.candidates? address = tables.candidates? address)
    (occurrence : Occurrence) :
    (traffic.after occurrence).resolver.candidates? address = tables.candidates? address := by
  cases occurrence with
  | insert key =>
      rw [← settled]
      exact traffic.resolver.candidates?_insert key address
  | depart | abandon position => exact settled
  | arrive position =>
      rw [Traffic.after]
      split
      · exact settled
      · rename_i pass found
        rcases lawful.candidates?_conclude_cases (List.mem_of_getElem? found) address with
          same | known
        · exact same.trans settled
        · exact known

theorem run (lawful : Lawful origin tables traffic) (history : List Occurrence) :
    Lawful origin tables (traffic.run history) := by
  induction history using List.reverseRecOn with
  | nil => exact lawful
  | append_singleton history last ih =>
      rw [run_append_singleton]
      exact ih.after last

theorem candidates?_run (lawful : Lawful origin tables traffic) {address : Address}
    (settled : traffic.resolver.candidates? address = tables.candidates? address)
    (history : List Occurrence) :
    (traffic.run history).resolver.candidates? address = tables.candidates? address := by
  induction history using List.reverseRecOn with
  | nil => exact settled
  | append_singleton history last ih =>
      rw [run_append_singleton]
      exact (lawful.run history).candidates?_after ih last

end Lawful

/-- A resolver that has seen nothing yet, with no pass under way. -/
theorem lawful_start (resolver : Resolver services counters)
    (network : Network σ services counters) :
    Lawful resolver (resolver.tablesOn network) ⟨resolver.fresh, network, []⟩ where
  fresh := resolver.fresh_fresh
  filled := ⟨[], resolver.filledWith_fresh⟩
  answered := by
    rw [Resolver.tablesOn, Resolver.client_fresh]
    rfl
  caches address := Or.inl (resolver.candidates?_fresh address)
  snapshots _ member := absurd member List.not_mem_nil
  passes _ member := absurd member List.not_mem_nil

/-- However submissions and any number of passes are interleaved on a resolver over a
service in memory: a key that has been queued stays in its place, and every pass that
departs later finds it there.  A pass departed with a prefix of what is queued ever
after, at its end in particular, and it succeeds exactly when no key in this snapshot has
a failing address.  Once it has arrived with success, what is cached for each of these
keys are the registered candidates, each once, or nothing if there are none, whatever
happens later. -/
theorem overlapping_passes_lose_nothing (resolver : Resolver services counters)
    (network : Network σ services counters) :
    let start : Traffic σ services counters := ⟨resolver.fresh, network, []⟩
    let tables := InMemory.tables (network.services.get resolver.client.service)
    (∀ (before : List Occurrence) (node : Node), ∀ key ∈ resolver.keys node,
      ∃ position : Nat, ∀ rest,
        let reached := start.run (before ++ .insert key :: rest)
        reached.resolver.pending[position]? = some key ∧
          ∃ pass, (reached.after .depart).passes = reached.passes ++ [pass] ∧
            pass.snapshot[position]? = some key) ∧
    (∀ history, ∀ pass ∈ (start.run history).passes,
      (∀ rest, pass.snapshot <+: (start.run (history ++ rest)).resolver.pending) ∧
        ((∃ response, pass.calls.Answered response) ↔
          ∀ key ∈ pass.snapshot, tables.isFailing key.address = false)) ∧
    ∀ (before : List Occurrence) (position : Nat) (pass : Pass) (response : Response),
      (start.run before).passes[position]? = some pass → pass.calls.Answered response →
        ∀ key ∈ pass.snapshot, ∀ rest,
          (start.run (before ++ .arrive position :: rest)).resolver.candidates? key.address =
            if tables.registered key.address = [] then none
            else some (tables.registered key.address).eraseDups := by
  intro start tables
  have lawful (history : List Occurrence) : Lawful resolver tables (start.run history) :=
    (lawful_start resolver network).run history
  refine ⟨?_, ?_, ?_⟩
  · intro before node key member
    let inserted := (start.run before).after (.insert key)
    have queued : key ∈ inserted.resolver.pending := by
      have lawfulBefore := lawful before
      rcases lawfulBefore.filled with ⟨keys, filled⟩
      apply filled.mem_pending_insertAll _ (List.mem_singleton_self key)
      rw [Resolver.kind_of_mem_keys member, ← Resolver.kind_fresh, ← lawfulBefore.fresh,
        Resolver.kind_fresh]
    rcases List.mem_iff_getElem?.mp queued with ⟨position, place⟩
    refine ⟨position, ?_⟩
    intro rest reached
    have follows : reached = inserted.run rest := by
      simp only [reached, run_append]
      rfl
    have stays : reached.resolver.pending[position]? = some key := by
      rcases inserted.pending_prefix_run rest with ⟨later, grown⟩
      rcases List.getElem?_eq_some_iff.mp place with ⟨inside, -⟩
      rw [follows, ← grown, List.getElem?_append_left inside, place]
    exact ⟨stays, _, rfl, stays⟩
  · intro history pass member
    constructor
    · intro rest
      rw [run_append]
      exact ((lawful history).snapshots pass member).trans (pending_prefix_run _ rest)
    · rcases (lawful history).passes pass member with ⟨asked, -, -, answered⟩
      simp only [answered]
      constructor
      · rintro ⟨response, sound, -⟩
        exact sound
      · intro sound
        exact ⟨_, sound, rfl⟩
  · intro before position pass response found succeeded key member rest
    have settled := (lawful before).candidates?_arrive found succeeded member
    have lawfulAfter := (lawful before).after (.arrive position)
    rw [run_append]
    have kept := lawfulAfter.candidates?_run settled rest
    rw [Tables.candidates?, firstOccurrences_eq_eraseDups] at kept
    simp only [List.isEmpty_iff] at kept
    exact kept

end Traffic

end IdResolution
