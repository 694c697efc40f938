import IdResolution.Client.Network
import IdResolution.Proofs.Client.Report
import IdResolution.Proofs.Warning
import IdResolution.Service.Script

/-!
# What becomes of a request

The main statement about requests through a client, for every service: which calls
are made, when the request succeeds and with what, which error it fails with
otherwise, and what is logged.  Which failure counts depends on the number of
chunks: up to thirty of them are watched together, and of more it is the foremost
failure that counts, not the earliest.
-/

namespace IdResolution

/-- Calls are answered as without the counts, and each of them counts once. -/
theorem callEach_metered {σ α β : Type} [Service σ] (operation : Operation α β)
    (chunks : List (List α)) (metered : Metered σ) :
    callEach operation chunks metered =
      let called := callEach operation chunks metered.service
      (called.1, ⟨called.2, metered.counter + called.1.length,
        metered.total + called.1.length⟩) := by
  induction chunks generalizing metered with
  | nil => rfl
  | cons chunk rest ih =>
      simp only [callEach, ih, Service.call, List.length_cons, Nat.add_assoc, Nat.add_comm 1]

namespace Network

variable {σ α β : Type} [Service σ] {services counters : Nat}

/-- A request is sent as if the service were called without the counts, and each of them
grows by the number of the calls. -/
theorem request_eq (network : Network σ services counters) (client : Client services counters)
    (operation : Operation α β) (items : List α) :
    network.request client operation items =
      let called := callChunked operation client.chunkSize items
        (network.services.get client.service)
      (called.1, network.settle client ⟨called.2,
        network.counters.get client.counter + called.1.length,
        network.total + called.1.length⟩) := by
  rw [request, callChunked, callEach_metered]
  rfl

theorem reports_request (network : Network σ services counters)
    (client : Client services counters) (operation : Operation α β) (items : List α) :
    (network.request client operation items).1 =
      (callChunked operation client.chunkSize items
        (network.services.get client.service)).1 := by
  rw [request_eq]

/-- A request reaches the service of its client. -/
theorem get_request (network : Network σ services counters)
    (client : Client services counters) (operation : Operation α β) (items : List α) :
    (network.request client operation items).2.services.get client.service =
      (callChunked operation client.chunkSize items
        (network.services.get client.service)).2 := by
  rw [request_eq]
  exact Vector.getElem_set_self client.service.isLt

/-- A request reaches no service but that of its client. -/
theorem get_request_of_ne (network : Network σ services counters)
    (client : Client services counters) (operation : Operation α β) (items : List α)
    {other : Fin services} (apart : other ≠ client.service) :
    (network.request client operation items).2.services.get other =
      network.services.get other := by
  have positions : client.service.val ≠ other.val := by
    intro equal
    exact apart (Fin.ext equal.symm)
  exact Vector.getElem_set_ne client.service.isLt other.isLt positions

/-- A request makes one call for each of its chunks and no other.  It succeeds exactly
when all calls are answered, with the answers joined in the order of the chunks, and
otherwise it fails with the error of the failing call that counts before the others.
One warning is logged for each call that failed with a cause. -/
theorem request_gathers_chunks (network : Network σ services counters)
    (client : Client services counters) (operation : Operation α β) (items : List α) :
    let chunks := partition client.chunkSize items
    let sent := network.request client operation items
    let logged := (byTime (Report.warnings operation sent.1)).map Prod.snd
    (CalledInOrder operation chunks (network.services.get client.service) sent.1
        (sent.2.services.get client.service) ∧
      ∀ other ≠ client.service, sent.2.services.get other = network.services.get other) ∧
    (∀ entries, Report.result sent.1 = .ok entries ↔
      ∃ responses : List (List β),
        sent.1.map (fun report => report.completion.outcome) = responses.map .answered ∧
          entries = responses.flatten) ∧
    (∀ error, Report.result sent.1 = .error error →
      Report.DecidedBy (CountsBefore chunks.length) sent.1 error) ∧
    logged.Nodup ∧
    ∀ warning, warning ∈ logged ↔
      ∃ index chunk report cause, chunks[index]? = some chunk ∧
        sent.1[index]? = some report ∧ report.completion.outcome = .failed cause ∧
        warning = .chunkFailed operation.name index chunk.length cause := by
  intro chunks sent logged
  have inOrder : CalledInOrder operation chunks (network.services.get client.service) sent.1
      (sent.2.services.get client.service) := by
    rw [reports_request, get_request]
    exact callEach_calledInOrder operation chunks (network.services.get client.service)
  refine ⟨⟨inOrder, ?_⟩, ?_, ?_, ?_, ?_⟩
  · intro other apart
    exact get_request_of_ne network client operation items apart
  · intro entries
    exact Report.result_eq_ok_iff
  · intro error failed
    rw [← inOrder.length]
    exact Report.result_eq_error failed
  · exact Report.nodup_logged operation sent.1
  · intro warning
    rw [Report.mem_logged_iff]
    constructor
    · intro logged
      rcases logged with ⟨index, report, cause, found, failed, rfl⟩
      rcases inOrder.exists_chunk found with ⟨chunk, called⟩
      have same := inOrder.report index chunk called
      rw [found] at same
      cases same
      exact ⟨index, chunk, _, cause, called, found, failed, rfl⟩
    · intro failing
      rcases failing with ⟨index, chunk, report, cause, called, found, failed, rfl⟩
      have same := inOrder.report index chunk called
      rw [found] at same
      cases same
      exact ⟨index, _, cause, found, failed, rfl⟩

end Network

/-- A service whose first call fails late and whose second call fails at once. -/
def slowFailureFirst : ScriptService where
  script :=
    [{ mishap := some (.fail (.connectionFailed "slow")), delay := 5 },
     { mishap := some (.fail (.connectionFailed "fast")) }]

/-- A request in thirty-one chunks fails with the error of its first chunk, although
the failure of the second chunk comes earlier. -/
theorem foremost_failure_passes_earliest :
    let network : Network ScriptService 1 1 := ⟨#v[slowFailureFirst], #v[0], 0⟩
    let client : Client 1 1 := { service := 0, counter := 0, chunkSize := 1 }
    let sent := network.request client .coordinates (List.replicate 31 ⟨⟨0⟩, ⟨0⟩⟩)
    Report.result sent.1 = .error (.call (.connectionFailed "slow")) ∧
      ¬Report.DecidedBy EndsBefore sent.1 (.call (.connectionFailed "slow")) := by
  intro network client sent
  have slow : sent.1[0]? = some ⟨1, 5, .failed (.connectionFailed "slow")⟩ := by
    decide +kernel
  have fast : sent.1[1]? = some ⟨1, 0, .failed (.connectionFailed "fast")⟩ := by
    decide +kernel
  have broken : Ending.break? (Report.endings sent.1) =
      some ⟨5, 0, .call (.connectionFailed "slow")⟩ := by
    decide +kernel
  constructor
  · simp only [Report.result, broken]
  · intro decided
    rcases decided with ⟨index, report, found, fails, first⟩
    have notBefore := first 1 _ fast ⟨_, .failed _⟩
    simp only [EndsBefore] at notBefore
    cases index with
    | zero =>
        rw [slow] at found
        cases found
        simp at notBefore
    | succ index =>
        cases index with
        | zero =>
            rw [fast] at found
            cases found
            rw [Outcome.failed_failsWith_iff] at fails
            exact absurd fails (by decide)
        | succ index => omega

end IdResolution
