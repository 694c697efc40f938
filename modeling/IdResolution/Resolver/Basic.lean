import IdResolution.Client.Network
import IdResolution.Resolver.Memory

/-!
# Resolvers

A resolver is a strategy with a client to send its keys through and a memory of its
own.  A resolve pass is launched by sending the whole queue; how it lands is known
from the ends of its calls.
-/

namespace IdResolution

/-- A resolver on one of the clients of a network. -/
inductive Resolver (services counters : Nat) where
  | coordinates (client : Client services counters)
      (memory : Memory Coordinate Coordinate)
  | externalIds (client : Client services counters) (properties : List String)
      (memory : Memory Identifier String)

/-- A key of either kind. -/
inductive Key where
  | coordinate (coordinate : Coordinate)
  | identifier (identifier : Identifier)
  deriving DecidableEq, Repr

/-- An address under which answers are cached, of either kind. -/
inductive Address where
  | coordinate (coordinate : Coordinate)
  | sourceId (sourceId : String)
  deriving DecidableEq, Repr

/-- The merged response to a pass. -/
inductive Response where
  | places (entries : List PlaceEntry)
  | entities (entries : List EntityEntry)
  deriving DecidableEq, Repr

/-- A pass under way: when its result is known, the warnings of its calls, and either
the resolver as it is once the result has been taken in, or the failure. -/
structure Flight (services counters : Nat) where
  finishedAt : Nat
  warnings : List TimedWarning
  keysSent : Nat
  landing : Except Error (Stats × Resolver services counters)

/-- The failure of a pass. -/
def Flight.failure? {services counters : Nat} (flight : Flight services counters) :
    Option Error :=
  match flight.landing with
  | .ok _ => none
  | .error error => some error

namespace Resolver

variable {σ : Type} {services counters : Nat}

/-- A resolver by coordinates that has seen nothing yet. -/
def ofCoordinates (client : Client services counters) : Resolver services counters :=
  .coordinates client {}

/-- A resolver by external ids that has seen nothing yet. -/
def ofExternalIds (client : Client services counters) (properties : List String) :
    Resolver services counters :=
  .externalIds client properties {}

/-- What the keys of a resolver are. -/
def kind : Resolver services counters → KeyKind
  | .coordinates _ _ => .coordinates
  | .externalIds _ _ _ => .externalIds

/-- The keys that a node has for a resolver. -/
def keys (node : Node) : Resolver services counters → List Key
  | .coordinates _ _ => (Strategy.coordinates.keys node).map .coordinate
  | .externalIds _ properties _ =>
      ((Strategy.externalIds properties).keys node).map .identifier

/-- Queue one key; a key of the other kind is no key of this resolver. -/
def insert (key : Key) : Resolver services counters → Resolver services counters
  | .coordinates client memory =>
      match key with
      | .coordinate coordinate =>
          .coordinates client { memory with queue := memory.queue.insert coordinate }
      | .identifier _ => .coordinates client memory
  | .externalIds client properties memory =>
      match key with
      | .identifier identifier =>
          .externalIds client properties
            { memory with queue := memory.queue.insert identifier }
      | .coordinate _ => .externalIds client properties memory

/-- Submit a node: queue its keys one after the other, and tell whether it carries any,
queued before or not. -/
def offer (node : Node) : Resolver services counters → Bool × Resolver services counters
  | .coordinates client memory =>
      let offered := Strategy.coordinates.offer node memory
      (offered.1, .coordinates client offered.2)
  | .externalIds client properties memory =>
      let offered := (Strategy.externalIds properties).offer node memory
      (offered.1, .externalIds client properties offered.2)

/-- Whether a node carries a key for a resolver. -/
def accepts (node : Node) (resolver : Resolver services counters) : Bool :=
  (resolver.offer node).1

/-- The resolver once a node is submitted. -/
def submit (node : Node) (resolver : Resolver services counters) :
    Resolver services counters :=
  (resolver.offer node).2

/-- The queued keys, in the order of their first submission. -/
def pending : Resolver services counters → List Key
  | .coordinates _ memory => memory.queue.toList.map .coordinate
  | .externalIds _ _ memory => memory.queue.toList.map .identifier

/-- The candidates cached under an address. -/
def candidates? (address : Address) : Resolver services counters → Option (List String)
  | .coordinates _ memory =>
      match address with
      | .coordinate coordinate => memory.cache.candidates? coordinate
      | .sourceId _ => none
  | .externalIds _ _ memory =>
      match address with
      | .sourceId sourceId => memory.cache.candidates? sourceId
      | .coordinate _ => none

/-- The number of addresses with cached candidates. -/
def resolvedCount : Resolver services counters → Nat
  | .coordinates _ memory => memory.cache.size
  | .externalIds _ _ memory => memory.cache.size

/-- Take in a whole response; one to keys of the other kind is no response to this
resolver. -/
def absorb (response : Response) (resolver : Resolver services counters) :
    Resolver services counters :=
  match resolver, response with
  | .coordinates client memory, .places entries =>
      .coordinates client (Strategy.coordinates.absorb entries memory)
  | .externalIds client properties memory, .entities entries =>
      .externalIds client properties ((Strategy.externalIds properties).absorb entries memory)
  | resolver, _ => resolver

/-- The canonical id of a node, and the warning if its external ids disagree. -/
def find (node : Node) : Resolver services counters → Option String × Option Warning
  | .coordinates _ memory => ((Strategy.coordinates.find node memory).dcid?, none)
  | .externalIds _ properties memory =>
      let finding := (Strategy.externalIds properties).find node memory
      (finding.dcid?,
        match finding with
        | .conflict first conflicting =>
            some (.conflict node.label ⟨first.1, first.2⟩ ⟨conflicting.1, conflicting.2⟩)
        | _ => none)

/-- The canonical id of a node, if the answers to its keys give one. -/
def dcid? (node : Node) (resolver : Resolver services counters) : Option String :=
  (resolver.find node).1

/-- The flight of a pass of one strategy. -/
def flightOf {κ γ α β : Type} [BEq κ] [Hashable κ] [BEq γ] [Hashable γ]
    (strategy : Strategy κ γ α β) (client : Client services counters)
    (memory : Memory κ γ) (rebuild : Memory κ γ → Resolver services counters)
    (reports : List (Report β)) : Flight services counters where
  finishedAt := Report.finishedAt reports
  warnings := Report.warnings strategy.operation reports
  keysSent := memory.queue.size
  landing := (strategy.conclude client.chunkSize memory.queue.size reports memory).map
    fun concluded => (concluded.1, rebuild concluded.2)

/-- Send the whole queue. -/
def launch [Service σ] (resolver : Resolver services counters)
    (network : Network σ services counters) :
    Flight services counters × Network σ services counters :=
  match resolver with
  | .coordinates client memory =>
      let strategy := Strategy.coordinates
      let sent := network.request client strategy.operation
        (strategy.request memory.queue.toList)
      (flightOf strategy client memory (.coordinates client) sent.1, sent.2)
  | .externalIds client properties memory =>
      let strategy := Strategy.externalIds properties
      let sent := network.request client strategy.operation
        (strategy.request memory.queue.toList)
      (flightOf strategy client memory (.externalIds client properties) sent.1, sent.2)

end Resolver

end IdResolution
