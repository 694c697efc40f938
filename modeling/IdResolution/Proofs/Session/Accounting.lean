import IdResolution.Proofs.Client.Booking
import IdResolution.Proofs.Resolver.Set
import IdResolution.Proofs.Session.Run

/-!
# Accounts of a session

Every action of a session that sends something is booked, whether it succeeds or fails:
a pass as a request for the whole queue of its resolver, a request of a client, and a
single call.  The counts that the session keeps agree with these books at all times, and
so do the summaries of passes, which are worked out without looking at any count.
-/

namespace IdResolution

variable {σ : Type} [Service σ] {services counters : Nat}

/-- The number of keys in a request. -/
def Request.size : Request → Nat
  | .coordinates request => request.items.length
  | .entities request => request.items.length

/-- The number of calls of a pass. -/
def Calls.count : Calls → Nat
  | .places reports => reports.length
  | .entities reports => reports.length

namespace Resolver

/-- What a pass of a resolver sends: its whole queue. -/
def sending (resolver : Resolver services counters) : Sending services counters :=
  .request resolver.client resolver.pending.length

theorem booked_launch (resolver : Resolver services counters)
    (network : Network (Logged σ) services counters) :
    Network.Booked [resolver.sending] network (resolver.launch network).2 := by
  cases resolver with
  | coordinates client memory =>
      rw [sending, pending, List.length_map, ← List.length_map]
      exact network.booked_request client _ _
  | externalIds client properties memory =>
      rw [sending, pending, List.length_map, ← List.length_map]
      exact network.booked_request client _ _

/-- A pass makes one call for each started chunk of its queue. -/
theorem count_calls (resolver : Resolver services counters)
    (network : Network σ services counters) :
    (resolver.calls network).count =
      chunkCount resolver.client.chunkSize resolver.pending.length := by
  have counted {α β : Type} (client : Client services counters) (operation : Operation α β)
      (items : List α) : (network.request client operation items).1.length =
        chunkCount client.chunkSize items.length := by
    rw [Network.reports_request, callChunked, (callEach_calledInOrder operation _ _).length]
    exact length_partition client.chunkSize_pos items
  cases resolver with
  | coordinates client memory =>
      rw [pending, List.length_map, ← List.length_map]
      exact counted client _ _
  | externalIds client properties memory =>
      rw [pending, List.length_map, ← List.length_map]
      exact counted client _ _

end Resolver

theorem ResolverSet.booked_launch (resolvers : ResolverSet services counters)
    (network : Network (Logged σ) services counters) :
    Network.Booked (resolvers.map Resolver.sending) network (launch resolvers network).2 := by
  induction resolvers generalizing network with
  | nil => exact network.booked_nil
  | cons resolver rest ih => exact (resolver.booked_launch network).append (ih _)

theorem ResolverSet.length_of_ok {resolvers : ResolverSet services counters}
    {network : Network σ services counters} {stats : List Stats}
    (succeeded : (resolve resolvers network).result = .ok stats) :
    stats.length = resolvers.length := by
  obtain ⟨summaries, result, length, -⟩ := flightResult_of_sound (unbroken_of_ok succeeded)
  rw [succeeded] at result
  obtain rfl := Except.ok.inj result
  exact length

/-- When a resolve succeeds, the summary of each pass gives the number of its calls. -/
theorem ResolverSet.apiCalls_of_ok {resolvers : ResolverSet services counters}
    {network : Network σ services counters} {stats : List Stats}
    (succeeded : (resolve resolvers network).result = .ok stats) {index : Nat}
    {resolver : Resolver services counters} (found : resolvers[index]? = some resolver) :
    ∃ summary, stats[index]? = some summary ∧
      summary.apiCalls = (resolver.calls (resolvers.networkAt network index)).count := by
  have sound := unbroken_of_ok succeeded
  obtain ⟨summaries, result, -, at?⟩ := flightResult_of_sound sound
  rw [succeeded] at result
  obtain rfl := Except.ok.inj result
  obtain ⟨response, answered⟩ := break?_eq_none_iff.mp sound index resolver found
  refine ⟨_, at? index resolver response found answered, ?_⟩
  rw [Resolver.count_calls]
  rfl

namespace Session

/-- What an action sends. -/
def sendings (session : Session services counters σ) :
    Action services counters → List (Sending services counters)
  | .resolve target => (session.targeted target).map Resolver.sending
  | .request client request => [.request client request.size]
  | .call service request => [.call service request.size]
  | _ => []

/-- What is sent in the course of actions that are done one after the other. -/
def sent [Recording σ] (start : Session services counters σ) :
    List (Action services counters) → List (Sending services counters)
  | [] => []
  | action :: rest => start.sendings action ++ (start.after action).sent rest

/-- What an action sends is booked. -/
theorem booked_after (session : Session services counters (Logged σ))
    (action : Action services counters) :
    Network.Booked (session.sendings action) session.network
      (session.after action).network := by
  cases action with
  | resolve target => exact (session.targeted target).booked_launch session.network
  | request client request =>
      cases request <;> exact session.network.booked_request client _ _
  | call service request =>
      cases request <;> exact session.network.booked_call service _ _
  | submitAll target nodes =>
      simp only [after, perform, offerAll_eq, session.network_foldl_modify target nodes]
      exact session.network.booked_nil
  | submit | find | scan | add | name | keys | pending | candidates | resolvedCount | counts
  | received | warnings | describe => exact session.network.booked_nil

/-- What is sent in the course of a run is booked. -/
theorem booked_run (start : Session services counters (Logged σ))
    (actions : List (Action services counters)) :
    Network.Booked (start.sent actions) start.network (start.run actions).network := by
  induction actions generalizing start with
  | nil => exact start.network.booked_nil
  | cons action rest ih => exact (start.booked_after action).append (ih (start.after action))

/-- Whatever is done in a session, and whether or not it succeeds, a request adds one call
for each started chunk to the counter of its client and none to any other counter.  All
clients with one counter read the same count: what was sent over the counter, each request
with the number of its chunks.  The total has grown by the growth of all counters.  When
only clients call a service, and their counters count no calls to other services, the
service has received as many calls as these counters have grown, and their sizes add up to
the keys that were sent to it.  When a resolve succeeds, the summary of each pass gives the
number of the calls that this pass made. -/
theorem call_accounts_are_exact (start : Session services counters (Logged σ))
    (actions : List (Action services counters)) :
    let reached := start.run actions
    let sent := start.sent actions
    let growth (counter : Fin counters) : Nat := booked (Sending.callsOn counter) sent
    (∀ (client other : Client services counters) (request : Request),
      other.apiCalls (reached.after (.request client request)).network =
        other.apiCalls reached.network +
          if client.counter = other.counter then request.size ⌈/⌉ client.chunkSize else 0) ∧
    (∀ client : Client services counters,
      client.apiCalls reached.network = client.apiCalls start.network + growth client.counter) ∧
    reached.network.total = start.network.total + ∑ counter, growth counter ∧
    (∀ (home : Fin counters → Fin services) (service : Fin services),
      (∀ client keys, .request client keys ∈ sent → client.service = home client.counter) →
      (∀ keys, .call service keys ∉ sent) →
        let before := start.network.services.get service
        let after := reached.network.services.get service
        Recording.calls after =
          Recording.calls before + ∑ counter with home counter = service, growth counter ∧
        after.sizes.sum = before.sizes.sum + booked (Sending.keysTo service) sent) ∧
    ∀ (target : Target) (stats : List Stats),
      (reached.perform (.resolve target)).1 = .resolved (.ok stats) →
        let resolvers := reached.targeted target
        stats.length = resolvers.length ∧
        ∀ (index : Nat) (resolver : Resolver services counters),
          resolvers[index]? = some resolver → ∃ summary, stats[index]? = some summary ∧
            summary.apiCalls =
              (resolver.calls (resolvers.networkAt reached.network index)).count := by
  intro reached sent growth
  have balanced : Network.Booked sent start.network reached.network := start.booked_run actions
  refine ⟨?_, ?_, balanced.total, ?_, ?_⟩
  · intro client other request
    have requested := (reached.booked_after (.request client request)).counters other.counter
    rw [sendings, booked_singleton] at requested
    exact requested
  · intro client
    exact balanced.counters client.counter
  · intro home service wired byClients before after
    obtain ⟨sizes, logged, calls, keys⟩ := balanced.received service
    constructor
    · have received : Recording.calls after = Recording.calls before + sizes.length :=
        (congrArg List.length logged).trans List.length_append
      rw [received, calls, ← sum_booked_callsOn wired byClients]
    · rw [logged, List.sum_append, keys]
  · intro target stats answered resolvers
    have succeeded : (resolvers.resolve reached.network).result = .ok stats :=
      Answer.resolved.inj answered
    refine ⟨ResolverSet.length_of_ok succeeded, ?_⟩
    intro index resolver found
    exact ResolverSet.apiCalls_of_ok succeeded found

end Session

end IdResolution
