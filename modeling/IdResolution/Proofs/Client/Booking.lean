import IdResolution.Proofs.Client.Partition
import IdResolution.Proofs.Resolver.Pass
import IdResolution.Service.Logged
import Mathlib.Algebra.BigOperators.Group.Finset.Piecewise

/-!
# The books of a network

Requests through clients and single calls are sent over a network one after the other.
What each of them comes to is booked: the calls on the counter of the client, calls and
keys on the service.  The network keeps these books itself, in its counts and in what
its services have received, and the two always agree.
-/

namespace IdResolution

variable {services counters : Nat}

/-- Something sent over a network, with the number of its keys: a request through a
client, or a single call that no client makes. -/
inductive Sending (services counters : Nat) where
  | request (client : Client services counters) (keys : Nat)
  | call (service : Fin services) (keys : Nat)

namespace Sending

/-- The service that receives a sending. -/
def service : Sending services counters → Fin services
  | .request client _ => client.service
  | .call service _ => service

/-- The number of keys in a sending. -/
def keys : Sending services counters → Nat
  | .request _ keys => keys
  | .call _ keys => keys

/-- The number of calls that a sending takes. -/
def calls : Sending services counters → Nat
  | .request client keys => keys ⌈/⌉ client.chunkSize
  | .call _ _ => 1

/-- The calls of a sending that count on a counter. -/
def callsOn (counter : Fin counters) : Sending services counters → Nat
  | .request client keys =>
      if client.counter = counter then keys ⌈/⌉ client.chunkSize else 0
  | .call _ _ => 0

/-- The calls of a sending that reach a service. -/
def callsTo (service : Fin services) (sending : Sending services counters) : Nat :=
  if sending.service = service then sending.calls else 0

/-- The keys of a sending that reach a service. -/
def keysTo (service : Fin services) (sending : Sending services counters) : Nat :=
  if sending.service = service then sending.keys else 0

/-- When the counters of a service count nothing but calls to it, and all calls to it
are made by clients, a sending makes as many calls to the service as it adds to its
counters. -/
theorem sum_callsOn {home : Fin counters → Fin services} {service : Fin services}
    {sending : Sending services counters}
    (wired : ∀ client keys, sending = .request client keys →
      client.service = home client.counter)
    (byClients : ∀ keys, sending ≠ .call service keys) :
    (∑ counter with home counter = service, sending.callsOn counter) =
      sending.callsTo service := by
  cases sending with
  | request client keys =>
      have place := wired client keys rfl
      simp only [callsOn, callsTo, Sending.service, calls, place, Finset.sum_ite_eq,
        Finset.mem_filter, Finset.mem_univ, true_and]
  | call called keys =>
      have apart : called ≠ service := by
        intro same
        exact byClients keys (congrArg (Sending.call · keys) same)
      simp [callsOn, callsTo, Sending.service, apart]

end Sending

/-- The sum of what sendings come to. -/
def booked (amount : Sending services counters → Nat)
    (sent : List (Sending services counters)) : Nat :=
  (sent.map amount).sum

theorem booked_append (amount : Sending services counters → Nat)
    (sent later : List (Sending services counters)) :
    booked amount (sent ++ later) = booked amount sent + booked amount later := by
  rw [booked, List.map_append, List.sum_append]
  rfl

theorem booked_singleton (amount : Sending services counters → Nat)
    (sending : Sending services counters) : booked amount [sending] = amount sending :=
  List.sum_singleton

theorem booked_cons (amount : Sending services counters → Nat)
    (sending : Sending services counters) (rest : List (Sending services counters)) :
    booked amount (sending :: rest) = amount sending + booked amount rest :=
  List.sum_cons

/-- When the counters of a service count nothing but calls to it, and all calls to it
are made by clients, its counters add up to the calls that it has received. -/
theorem sum_booked_callsOn {home : Fin counters → Fin services} {service : Fin services}
    {sent : List (Sending services counters)}
    (wired : ∀ client keys, .request client keys ∈ sent →
      client.service = home client.counter)
    (byClients : ∀ keys, .call service keys ∉ sent) :
    (∑ counter with home counter = service, booked (Sending.callsOn counter) sent) =
      booked (Sending.callsTo service) sent := by
  induction sent with
  | nil => exact Finset.sum_const_zero
  | cons sending rest ih =>
      have first : (∑ counter with home counter = service, sending.callsOn counter) =
          sending.callsTo service := by
        apply Sending.sum_callsOn
        · intro client keys same
          exact wired client keys (same ▸ List.mem_cons_self)
        · intro keys same
          exact byClients keys (same ▸ List.mem_cons_self)
      have others := ih
        (fun client keys member => wired client keys (List.mem_cons_of_mem sending member))
        (fun keys member => byClients keys (List.mem_cons_of_mem sending member))
      simp only [booked_cons, Finset.sum_add_distrib, first, others]

/-! ## Sizes of chunks -/

/-- A log has the sizes of the chunks that were called, in order. -/
theorem Logged.sizes_callEach {σ α β : Type} [Service σ] (operation : Operation α β)
    (chunks : List (List α)) (service : Logged σ) :
    (callEach operation chunks service).2.sizes = service.sizes ++ chunks.map List.length := by
  induction chunks generalizing service with
  | nil => exact (List.append_nil _).symm
  | cons chunk rest ih =>
      rw [callEach, List.map_cons, List.append_cons]
      exact ih _

/-- A client makes one call for each started chunk. -/
theorem Client.length_partition (client : Client services counters) {α : Type}
    (items : List α) :
    (partition client.chunkSize items).length = items.length ⌈/⌉ client.chunkSize := by
  rw [IdResolution.length_partition client.chunkSize_pos, chunkCount_eq_ceilDiv]

/-! ## Books of a network -/

namespace Network

variable {σ α β : Type}

/-- Between two states of a network, each counter has grown by the calls that were
booked on it, the total by the growth of all counters, and each service has received the
calls and keys that were booked on it. -/
structure Booked (sent : List (Sending services counters))
    (before after : Network (Logged σ) services counters) : Prop where
  counters (counter : Fin counters) : after.counters.get counter =
    before.counters.get counter + booked (Sending.callsOn counter) sent
  total : after.total = before.total + ∑ counter, booked (Sending.callsOn counter) sent
  received (service : Fin services) : ∃ sizes : List Nat,
    (after.services.get service).sizes = (before.services.get service).sizes ++ sizes ∧
      sizes.length = booked (Sending.callsTo service) sent ∧
      sizes.sum = booked (Sending.keysTo service) sent

/-- Nothing is booked when nothing is sent. -/
theorem booked_nil (network : Network (Logged σ) services counters) :
    Booked [] network network where
  counters _ := rfl
  total := by simp [booked]
  received _ := ⟨[], (List.append_nil _).symm, rfl, rfl⟩

theorem Booked.append {sent later : List (Sending services counters)}
    {first second third : Network (Logged σ) services counters}
    (balanced : Booked sent first second) (balancedLater : Booked later second third) :
    Booked (sent ++ later) first third where
  counters counter := by
    rw [balancedLater.counters, balanced.counters, booked_append, Nat.add_assoc]
  total := by
    rw [balancedLater.total, balanced.total, Nat.add_assoc, ← Finset.sum_add_distrib]
    simp only [booked_append]
  received service := by
    obtain ⟨sizes, logged, calls, keys⟩ := balanced.received service
    obtain ⟨others, loggedLater, callsLater, keysLater⟩ := balancedLater.received service
    refine ⟨sizes ++ others, ?_, ?_, ?_⟩
    · rw [loggedLater, logged, List.append_assoc]
    · rw [List.length_append, calls, callsLater, booked_append]
    · rw [List.sum_append, keys, keysLater, booked_append]

variable [Service σ]

/-- A request is booked on the counter and the service of its client. -/
theorem booked_request (network : Network (Logged σ) services counters)
    (client : Client services counters) (operation : Operation α β) (items : List α) :
    Booked [.request client items.length] network
      (network.request client operation items).2 := by
  have counted := network.callsCounted_request client operation items
  rw [chunkCount_eq_ceilDiv] at counted
  constructor
  · intro counter
    rw [booked_singleton, Sending.callsOn]
    split
    · rename_i own
      rw [← own, counted.counter]
    · rename_i apart
      exact counted.otherCounters counter (Ne.symm apart)
  · simp only [booked_singleton, Sending.callsOn, Finset.sum_ite_eq, Finset.mem_univ,
      if_true, counted.total]
  · intro service
    rw [booked_singleton, booked_singleton, Sending.callsTo, Sending.keysTo]
    by_cases own : (Sending.request client items.length).service = service
    · rw [if_pos own, if_pos own, ← own]
      refine ⟨(partition client.chunkSize items).map List.length, ?_, ?_, ?_⟩
      · rw [Sending.service, get_request, callChunked, Logged.sizes_callEach]
      · rw [List.length_map, client.length_partition]
        rfl
      · rw [← List.length_flatten, flatten_partition]
        rfl
    · rw [if_neg own, if_neg own]
      refine ⟨[], ?_, rfl, rfl⟩
      rw [counted.otherServices service (Ne.symm own), List.append_nil]

/-- A single call is booked on its service alone. -/
theorem booked_call (network : Network (Logged σ) services counters) (service : Fin services)
    (operation : Operation α β) (items : List α) :
    Booked [.call service items.length] network
      (network.call service operation items).2 := by
  constructor
  · intro counter
    rfl
  · simp [booked_singleton, Sending.callsOn, call]
  · intro other
    rw [booked_singleton, booked_singleton, Sending.callsTo, Sending.keysTo]
    let sending : Sending services counters := .call service items.length
    by_cases own : sending.service = other
    · rw [if_pos own, if_pos own, ← own]
      refine ⟨[items.length], ?_, rfl, List.sum_singleton⟩
      rw [call]
      exact congrArg Logged.sizes (Vector.getElem_set_self service.isLt)
    · rw [if_neg own, if_neg own]
      refine ⟨[], ?_, rfl, rfl⟩
      have positions : service.val ≠ other.val := fun same => own (Fin.ext same)
      rw [List.append_nil, call]
      exact congrArg Logged.sizes (Vector.getElem_set_ne service.isLt other.isLt positions)

end Network

end IdResolution
