import IdResolution.Warning

/-!
# Clients on a network

Clients send chunked requests to services and count the calls they start.  Several
clients may share a service or a counter, each with its own chunk size; a total
counts the calls of all.
-/

namespace IdResolution

/-- A client: the service it calls, the counter of its calls, and the greatest
number of items in one call. -/
structure Client (services counters : Nat) where
  service : Fin services
  counter : Fin counters
  chunkSize : Nat := 500
  chunkSize_pos : 0 < chunkSize := by decide

/-- The services that clients call and the counts of their calls. -/
structure Network (σ : Type) (services counters : Nat) where
  services : Vector σ services
  counters : Vector Nat counters
  total : Nat := 0

/-- A service as a client calls it, beside the two counts that each call goes on: that of
the client and that of all clients. -/
structure Metered (σ : Type) where
  service : σ
  counter : Nat
  total : Nat

/-- Each call is counted when it starts, whatever becomes of it. -/
instance {σ : Type} [Service σ] : Service (Metered σ) where
  call operation items metered :=
    let called := Service.call operation items metered.service
    (called.1, ⟨called.2, metered.counter + 1, metered.total + 1⟩)

namespace Client

variable {services counters : Nat}

/-- The client with another chunk size; zero counts as one. -/
def withChunkSize (client : Client services counters) (size : Nat) :
    Client services counters :=
  { client with chunkSize := max size 1, chunkSize_pos := by omega }

/-- The calls that were started on the client's counter. -/
def apiCalls {σ : Type} (client : Client services counters)
    (network : Network σ services counters) : Nat :=
  network.counters.get client.counter

/-- The text that describes a client in diagnostics. -/
def describe {σ : Type} (client : Client services counters)
    (network : Network σ services counters) : String :=
  "ReconClient \x7b chunk_size: " ++ toString client.chunkSize ++ ", api_calls: " ++
    toString (client.apiCalls network) ++ ", .. \x7d"

end Client

namespace Network

variable {σ α β : Type} {services counters : Nat} [Service σ]

/-- Make one call to a service, outside every count. -/
def call (network : Network σ services counters) (service : Fin services)
    (operation : Operation α β) (items : List α) :
    Completion β × Network σ services counters :=
  let called := Service.call operation items (network.services.get service)
  (called.1, { network with services := network.services.set service called.2 })

/-- The service of a client with the counts of the client's calls. -/
def metered (network : Network σ services counters) (client : Client services counters) :
    Metered σ :=
  ⟨network.services.get client.service, network.counters.get client.counter, network.total⟩

/-- The network once a client's calls have left its service and its counts as given. -/
def settle (network : Network σ services counters) (client : Client services counters)
    (metered : Metered σ) : Network σ services counters where
  services := network.services.set client.service metered.service
  counters := network.counters.set client.counter metered.counter
  total := metered.total

/-- Send a request through a client: a call for each chunk, each of them counted. -/
def request (network : Network σ services counters) (client : Client services counters)
    (operation : Operation α β) (items : List α) :
    List (Report β) × Network σ services counters :=
  let called := callChunked operation client.chunkSize items (network.metered client)
  (called.1, network.settle client called.2)

end Network

end IdResolution
