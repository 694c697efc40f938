import IdResolution.Scan
import IdResolution.Service.Backend

/-!
# Sessions

A set of resolvers at work: their clients and services, and the warnings logged so
far.  A session is driven by actions, each of which gives an answer and may change
the session.
-/

namespace IdResolution

/-- A set of resolvers with all that they work on.  Its services may be of any one
type. -/
structure Session (services counters : Nat) (σ : Type := Backend) where
  network : Network σ services counters
  clients : List (Client services counters)
  resolvers : ResolverSet services counters := []
  log : List Warning := []

/-- The resolvers that an action is meant for. -/
inductive Target where
  | all
  | one (index : Nat)
  deriving DecidableEq, Repr

/-- Something to be done in a session. -/
inductive Action (services counters : Nat) where
  | submit (target : Target) (node : Node)
  | submitAll (target : Target) (nodes : List Node)
  | find (target : Target) (node : Node)
  | resolve (target : Target)
  /-- Submit nodes through a pool of workers. -/
  | scan (config : PoolConfig) (nodes : List Node)
  /-- Put a further resolver at the end of the list. -/
  | add (resolver : Resolver services counters)
  | name (index : Nat)
  | keys (index : Nat) (node : Node)
  | pending (index : Nat)
  | candidates (index : Nat) (address : Address)
  | resolvedCount (index : Nat)
  /-- Send a request through a client. -/
  | request (client : Client services counters) (request : Request)
  /-- Make one call to a service without a client. -/
  | call (service : Fin services) (request : Request)
  | counts
  | received (service : Fin services)
  /-- Take the warnings logged so far off the log. -/
  | warnings
  | describe

/-- What a client and its service have counted. -/
structure ClientCounts where
  apiCalls : Nat
  received : Nat
  sizes : Option (List Nat)
  deriving DecidableEq, Repr

/-- The answer to an action. -/
inductive Answer where
  | flag (value : Bool)
  | count (value : Nat)
  | dcid (value : Option String)
  | resolved (result : Except Error (List Stats))
  | summary (value : ScanSummary)
  | name (value : Option String)
  | keys (value : List Key)
  | candidates (value : Option (List String))
  | places (result : Except Error (List PlaceEntry))
  | entities (result : Except Error (List EntityEntry))
  | counts (clients : List ClientCounts) (total : Nat)
  | received (value : List Request)
  | warnings (value : List Warning)
  | description (set : String) (resolvers : Nat) (clients : List String)

namespace Session

variable {σ : Type} {services counters : Nat}

/-- The resolvers that a target names. -/
def targeted (session : Session services counters σ) :
    Target → ResolverSet services counters
  | .all => session.resolvers
  | .one index => session.resolvers[index]?.toList

/-- Put resolvers in the place of those that a target names. -/
def replace (session : Session services counters σ) (target : Target)
    (resolvers : ResolverSet services counters) : ResolverSet services counters :=
  match target with
  | .all => resolvers
  | .one index =>
      match resolvers with
      | resolver :: _ => session.resolvers.set index resolver
      | [] => session.resolvers

/-- Submit a node to the resolvers that a target names, and tell whether any accepts it. -/
def offer (session : Session services counters σ) (target : Target) (node : Node) :
    Bool × Session services counters σ :=
  let offered := (session.targeted target).offer node
  (offered.1, { session with resolvers := session.replace target offered.2 })

/-- Submit several nodes in turn, and count those that are accepted. -/
def offerAll (session : Session services counters σ) (target : Target) (nodes : List Node) :
    Nat × Session services counters σ :=
  nodes.foldl (fun counted node =>
    let offered := counted.2.offer target node
    (counted.1 + offered.1.toNat, offered.2)) (0, session)

/-- The keys that the resolver at an index has for a node. -/
def keysAt (session : Session services counters σ) (index : Nat) (node : Node) : List Key :=
  match session.resolvers[index]? with
  | some resolver => resolver.keys node
  | none => []

/-- The keys that are queued in the resolver at an index. -/
def pendingAt (session : Session services counters σ) (index : Nat) : List Key :=
  match session.resolvers[index]? with
  | some resolver => resolver.pending
  | none => []

/-- What a client and its service have counted. -/
def countsOf [Recording σ] (session : Session services counters σ)
    (client : Client services counters) : ClientCounts :=
  let service := session.network.services.get client.service
  { apiCalls := client.apiCalls session.network
    received := Recording.calls service
    sizes := Recording.sizes? service }

/-- The text that lists the names of resolvers. -/
def setText (resolvers : ResolverSet services counters) : String :=
  "[" ++ String.intercalate ", "
    (resolvers.map fun resolver => "\"" ++ resolver.kind.name ++ "\"") ++ "]"

/-- Send a request through a client, and log the calls that fail. -/
def send {α β : Type} [Service σ] (session : Session services counters σ)
    (client : Client services counters) (operation : Operation α β) (items : List α) :
    Except Error (List β) × Session services counters σ :=
  let sent := session.network.request client operation items
  (Report.result sent.1,
    { session with
      network := sent.2
      log := session.log ++ (byTime (Report.warnings operation sent.1)).map (·.2) })

/-- Make one call to a service, outside every count and without a log entry. -/
def call {α β : Type} [Service σ] (session : Session services counters σ)
    (service : Fin services) (operation : Operation α β) (items : List α) :
    Except Error (List β) × Session services counters σ :=
  let called := session.network.call service operation items
  (Report.result [⟨items.length, called.1⟩], { session with network := called.2 })

/-- Do something in a session. -/
def perform [Service σ] [Recording σ] (session : Session services counters σ) :
    Action services counters → Answer × Session services counters σ
  | .submit target node =>
      let offered := session.offer target node
      (.flag offered.1, offered.2)
  | .submitAll target nodes =>
      let offered := session.offerAll target nodes
      (.count offered.1, offered.2)
  | .find target node =>
      let found := (session.targeted target).find node
      (.dcid found.1, { session with log := session.log ++ found.2 })
  | .resolve target =>
      let resolved := (session.targeted target).resolve session.network
      (.resolved resolved.result,
        { session with
          network := resolved.network
          resolvers := session.replace target resolved.resolvers
          log := session.log ++ resolved.warnings })
  | .scan config nodes =>
      let scanned := IdResolution.scan config nodes session.resolvers
      (.summary scanned.1, { session with resolvers := scanned.2 })
  | .add resolver =>
      (.count (session.resolvers.length + 1),
        { session with resolvers := session.resolvers ++ [resolver] })
  | .name index => (.name (session.resolvers[index]?.map (·.kind.name)), session)
  | .keys index node => (.keys (session.keysAt index node), session)
  | .pending index => (.keys (session.pendingAt index), session)
  | .candidates index address =>
      (.candidates (session.resolvers[index]?.bind (·.candidates? address)), session)
  | .resolvedCount index =>
      (.count ((session.resolvers[index]?.map Resolver.resolvedCount).getD 0), session)
  | .request client (.coordinates request) =>
      let sent := session.send client .coordinates request.items
      (.places sent.1, sent.2)
  | .request client (.entities request) =>
      let sent := session.send client .entities request.items
      (.entities sent.1, sent.2)
  | .call service (.coordinates request) =>
      let called := session.call service .coordinates request.items
      (.places called.1, called.2)
  | .call service (.entities request) =>
      let called := session.call service .entities request.items
      (.entities called.1, called.2)
  | .counts =>
      (.counts (session.clients.map session.countsOf) session.network.total, session)
  | .received service =>
      (.received (Recording.requests (session.network.services.get service)), session)
  | .warnings => (.warnings session.log, { session with log := [] })
  | .describe =>
      (.description (setText session.resolvers) session.resolvers.length
        (session.clients.map (·.describe session.network)), session)

end Session

end IdResolution
