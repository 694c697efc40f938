import IdResolution.Resolver.Basic

/-!
# Sets of resolvers

Resolvers side by side over the same nodes.  Each has its own memory; in looking a
node up, earlier resolvers take precedence.  A set resolves by launching all its
resolvers and gathering their passes, which land in the order in which they finish,
at the same time in the order of the list.  A failure that breaks the gathering ends
this: the passes after it are abandoned, although their calls still run to their
ends.
-/

namespace IdResolution

/-- Resolvers in order of precedence. -/
abbrev ResolverSet (services counters : Nat) := List (Resolver services counters)

namespace ResolverSet

variable {σ : Type} {services counters : Nat}

/-- Submit a node to every resolver, and tell whether any accepts it.  The resolvers
behind the first that does are not left out. -/
def offer (node : Node) (resolvers : ResolverSet services counters) :
    Bool × ResolverSet services counters :=
  resolvers.foldl (fun offered resolver =>
    let next := resolver.offer node
    (next.1 || offered.1, offered.2 ++ [next.2])) (false, [])

/-- Whether any resolver accepts a node. -/
def accepts (node : Node) (resolvers : ResolverSet services counters) : Bool :=
  (offer node resolvers).1

/-- The resolvers once a node is submitted to all of them. -/
def submit (node : Node) (resolvers : ResolverSet services counters) :
    ResolverSet services counters :=
  (offer node resolvers).2

theorem offer_eq (node : Node) (resolvers : ResolverSet services counters) :
    resolvers.offer node =
      (resolvers.any (Resolver.accepts node), resolvers.map (Resolver.submit node)) := by
  have step (flag : Bool) (done : ResolverSet services counters) :
      resolvers.foldl (fun offered resolver =>
          let next := resolver.offer node
          (next.1 || offered.1, offered.2 ++ [next.2])) (flag, done) =
        (flag || resolvers.any (Resolver.accepts node),
          done ++ resolvers.map (Resolver.submit node)) := by
    induction resolvers generalizing flag done with
    | nil => simp
    | cons resolver rest ih =>
        rw [List.foldl_cons, ih]
        simp [Resolver.accepts, Resolver.submit, Bool.or_comm, Bool.or_left_comm]
  exact (step false []).trans (by simp)

/-- A set accepts a node when one of its resolvers does. -/
theorem accepts_eq_any (node : Node) (resolvers : ResolverSet services counters) :
    resolvers.accepts node = resolvers.any (Resolver.accepts node) := by
  rw [accepts, offer_eq]

/-- Every resolver of a set gets a node that is submitted. -/
theorem submit_eq_map (node : Node) (resolvers : ResolverSet services counters) :
    resolvers.submit node = resolvers.map (Resolver.submit node) := by
  rw [submit, offer_eq]

/-- The canonical id from the first resolver that has one for a node, with the
warnings of the resolvers asked up to it. -/
def find (node : Node) : ResolverSet services counters → Option String × List Warning
  | [] => (none, [])
  | resolver :: rest =>
      let found := resolver.find node
      match found.1 with
      | some dcid => (some dcid, found.2.toList)
      | none =>
          let others := find node rest
          (others.1, found.2.toList ++ others.2)

/-- The canonical id that a set has for a node. -/
def dcid? (node : Node) (resolvers : ResolverSet services counters) : Option String :=
  resolvers.findSome? (Resolver.dcid? node)

/-- Launch every resolver in turn. -/
def launch [Service σ] : ResolverSet services counters → Network σ services counters →
    List (Resolver services counters × Flight services counters) ×
      Network σ services counters
  | [], network => ([], network)
  | resolver :: rest, network =>
      let first := resolver.launch network
      let others := launch rest first.2
      ((resolver, first.1) :: others.1, others.2)

/-- The ends of passes. -/
def endings (flights : List (Resolver services counters × Flight services counters)) :
    List (Ending Error) :=
  flights.map fun flown => ⟨flown.2.finishedAt, flown.2.failure?⟩

/-- The failure that ends a resolve. -/
def break? (flights : List (Resolver services counters × Flight services counters)) :
    Option (Break Error) :=
  Ending.break? (endings flights)

/-- Whether the end of the pass at a position is taken notice of. -/
def isNoticed (decisive : Option (Break Error)) (flight : Flight services counters)
    (index : Nat) : Bool :=
  decisive.all fun decisive => decisive.notices flight.finishedAt index

/-- The resolver after its flight: with the result taken in if the pass succeeded and
its end was noticed, else as it was. -/
def land (decisive : Option (Break Error))
    (indexed : (Resolver services counters × Flight services counters) × Nat) :
    Resolver services counters :=
  match indexed.1.2.landing with
  | .ok landed => if isNoticed decisive indexed.1.2 indexed.2 then landed.2 else indexed.1.1
  | .error _ => indexed.1.1

/-- The warning for the pass at a position, if it failed and its end was noticed. -/
def passWarning? (decisive : Option (Break Error))
    (indexed : (Resolver services counters × Flight services counters) × Nat) :
    Option TimedWarning :=
  let flight := indexed.1.2
  match flight.failure? with
  | some error =>
      if isNoticed decisive flight indexed.2 then
        some (flight.finishedAt, .passFailed indexed.1.1.kind flight.keysSent error)
      else
        none
  | none => none

/-- The warnings of flights in the order in which they are logged: by time, and at
the same time those of calls before those of passes. -/
def flightWarnings (decisive : Option (Break Error))
    (flights : List (Resolver services counters × Flight services counters)) :
    List Warning :=
  (byTime (flights.flatMap (fun flown => flown.2.warnings) ++
    flights.zipIdx.filterMap (passWarning? decisive))).map (·.2)

/-- The outcome of a resolve: the summaries in list order, or the error. -/
def flightResult (decisive : Option (Break Error))
    (flights : List (Resolver services counters × Flight services counters)) :
    Except Error (List Stats) :=
  match decisive with
  | some decisive => .error decisive.failure
  | none => .ok (flights.filterMap fun flown =>
      match flown.2.landing with
      | .ok landed => some landed.1
      | .error _ => none)

/-- All that a resolve leaves behind. -/
structure Resolved (σ : Type) (services counters : Nat) where
  result : Except Error (List Stats)
  resolvers : ResolverSet services counters
  network : Network σ services counters
  warnings : List Warning

/-- Resolve everything queued in every resolver. -/
def resolve [Service σ] (resolvers : ResolverSet services counters)
    (network : Network σ services counters) : Resolved σ services counters :=
  let launched := launch resolvers network
  let decisive := break? launched.1
  { result := flightResult decisive launched.1
    resolvers := launched.1.zipIdx.map (land decisive)
    network := launched.2
    warnings := flightWarnings decisive launched.1 }

end ResolverSet

end IdResolution
