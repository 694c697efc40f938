import IdResolution.Resolver.KeyQueue
import IdResolution.Resolver.Cache
import IdResolution.Warning

/-!
# Resolution by strategy

A strategy says which keys a node carries, how a key is asked for and how an entry
of the response is understood.  All else is common to the strategies: nodes are
submitted by queueing their keys, a pass sends the whole queue and takes in the
merged response, and a node is looked up by the answers to its keys.
-/

namespace IdResolution

/-- How nodes are resolved by one kind of key.  Keys of type `κ` are queued; answers
are cached under addresses of type `γ`. -/
structure Strategy (κ γ α β : Type) where
  kind : KeyKind
  operation : Operation α β
  /-- The keys of a node, in order of priority. -/
  keys : Node → List κ
  /-- The address under which the answer to a key is cached. -/
  address : κ → γ
  /-- The item of a request that asks for a key. -/
  item : κ → α
  /-- The address and the candidates in an entry of a response. -/
  entry : β → γ × List String

/-- Resolution by coordinates. -/
def Strategy.coordinates : Strategy Coordinate Coordinate Coordinate PlaceEntry where
  kind := .coordinates
  operation := .coordinates
  keys node := node.coordinate?.toList
  address := id
  item := id
  entry entry := (entry.coordinate, entry.candidates)

/-- Resolution by external ids under the given properties. -/
def Strategy.externalIds (properties : List String) :
    Strategy Identifier String EntityQuery EntityEntry where
  kind := .externalIds
  operation := .entities
  keys node := node.identifiers properties
  address := Identifier.sourceId
  item := EntityQuery.ofIdentifier
  entry entry := (entry.sourceId, entry.candidates)

/-- What a resolver remembers: queued keys and cached answers. -/
structure Memory (κ γ : Type) [BEq κ] [Hashable κ] [BEq γ] [Hashable γ] where
  queue : KeyQueue κ := {}
  cache : Cache γ := {}

/-- The summary of a resolve pass. -/
structure Stats where
  kind : KeyKind
  keysSent : Nat
  keysResolved : Nat
  apiCalls : Nat
  deriving DecidableEq, Repr

/-- The keys sent that were not resolved. -/
def Stats.keysUnresolved (stats : Stats) : Nat :=
  stats.keysSent - stats.keysResolved

/-- What the answers to the keys of a node say about it.  Each answer is given with
the address it is cached under. -/
inductive Finding (γ : Type) where
  /-- No key has been answered. -/
  | nothing
  /-- All answered keys have the same first candidate. -/
  | found (dcid : String)
  /-- The first answer, and the first later one that differs from it. -/
  | conflict (first conflicting : γ × String)
  deriving DecidableEq, Repr

/-- The canonical id that a finding gives. -/
def Finding.dcid? {γ : Type} : Finding γ → Option String
  | .found dcid => some dcid
  | .nothing | .conflict _ _ => none

namespace Strategy

variable {κ γ α β : Type} [BEq κ] [Hashable κ] [BEq γ] [Hashable γ]

/-- Submit a node: queue its keys, and tell whether it carries any, queued before or
not. -/
def offer (strategy : Strategy κ γ α β) (node : Node) (memory : Memory κ γ) :
    Bool × Memory κ γ :=
  let keys := strategy.keys node
  (!keys.isEmpty, { memory with queue := memory.queue.insertAll keys })

/-- Go through keys with the first answer, if there is one before them.  Keys that have
not been answered are passed over, and the first answer that differs ends the search. -/
def search (strategy : Strategy κ γ α β) (memory : Memory κ γ) :
    Option (γ × String) → List κ → Finding γ
  | none, [] => .nothing
  | some first, [] => .found first.2
  | chosen, key :: rest =>
      let address := strategy.address key
      match memory.cache.first? address with
      | none => search strategy memory chosen rest
      | some dcid =>
          match chosen with
          | none => search strategy memory (some (address, dcid)) rest
          | some first =>
              if first.2 = dcid then search strategy memory chosen rest
              else .conflict first (address, dcid)

/-- Look a node up by its keys. -/
def find (strategy : Strategy κ γ α β) (node : Node) (memory : Memory κ γ) : Finding γ :=
  strategy.search memory none (strategy.keys node)

/-- The items of a request for the given keys. -/
def request (strategy : Strategy κ γ α β) (keys : List κ) : List α :=
  keys.map strategy.item

/-- The summary of a pass that sent `keysSent` keys in chunks of at most `chunkSize`
and stored `keysResolved` entries of the response. -/
def stats (strategy : Strategy κ γ α β) (chunkSize keysSent keysResolved : Nat) :
    Stats where
  kind := strategy.kind
  keysSent
  keysResolved
  apiCalls := chunkCount chunkSize keysSent

/-- Take in the merged response of a pass, and count the entries that are stored. -/
def receive (strategy : Strategy κ γ α β) (entries : List β) (memory : Memory κ γ) :
    Nat × Memory κ γ :=
  let taken := memory.cache.take (entries.map strategy.entry)
  (taken.1, { memory with cache := taken.2 })

/-- What is remembered once the merged response of a pass is taken in. -/
def absorb (strategy : Strategy κ γ α β) (entries : List β) (memory : Memory κ γ) :
    Memory κ γ :=
  (strategy.receive entries memory).2

theorem cache_absorb (strategy : Strategy κ γ α β) (entries : List β) (memory : Memory κ γ) :
    (strategy.absorb entries memory).cache = memory.cache.fold (entries.map strategy.entry) := rfl

/-- Conclude a pass that sent `keysSent` keys and whose calls ended as reported: a
pass that failed leaves the memory as it is. -/
def conclude (strategy : Strategy κ γ α β) (chunkSize keysSent : Nat)
    (reports : List (Report β)) (memory : Memory κ γ) :
    Except Error (Stats × Memory κ γ) :=
  match Report.result reports with
  | .ok entries =>
      let received := strategy.receive entries memory
      .ok (strategy.stats chunkSize keysSent received.1, received.2)
  | .error error => .error error

end Strategy

end IdResolution
