import IdResolution.Proofs.Http.WholeReply
import IdResolution.Proofs.Resolver.LastEntry
import IdResolution.Proofs.Resolver.Retry

/-!
# Passes over HTTP

A pass over HTTP makes one post for each chunk of its queue.  It succeeds exactly when every
answer is a success with a response for its text, and then takes in these responses in the
order of the chunks; otherwise it leaves the resolver as it is and has the error of the first
answer that fails.  When the answers come changes nothing but which failure is the first.
-/

namespace IdResolution

open Http

/-! ## What answers bring -/

/-- The errors of an answer to a call for keys of a kind. -/
def Http.WholeReply.FailsFor (kind : KeyKind) (answer : WholeReply) (error : Error) : Prop :=
  match kind with
  | .coordinates => answer.FailsWith .coordinates error
  | .externalIds => answer.FailsWith .entities error

theorem Http.WholeReply.FailsFor.isRetryable_iff {kind : KeyKind} {answer : WholeReply}
    {error : Error} (fails : answer.FailsFor kind error) :
    error.isRetryable = true ↔
      ∃ code message, error = .call (.serverError code message) ∧ 500 ≤ code := by
  cases kind with
  | coordinates => exact FailsWith.isRetryable_iff fails
  | externalIds => exact FailsWith.isRetryable_iff fails

/-- Every answer to a call for keys of a kind brings entries, and the response joins them in
the order of the answers. -/
inductive Response.BroughtBy : KeyKind → List WholeReply → Response → Prop where
  | places {answers : List WholeReply} {bodies : List (List PlaceEntry)}
      (each : List.Forall₂ (WholeReply.Brings .coordinates) answers bodies) :
      BroughtBy .coordinates answers (.places bodies.flatten)
  | entities {answers : List WholeReply} {bodies : List (List EntityEntry)}
      (each : List.Forall₂ (WholeReply.Brings .entities) answers bodies) :
      BroughtBy .externalIds answers (.entities bodies.flatten)

/-- An error is that of an answer that fails, and of all answers that fail, given the times at
which they come, none counts before it. -/
def DecidedByAnswer (fails : WholeReply → Error → Prop) (answers : List WholeReply)
    (times : List Nat) (error : Error) : Prop :=
  ∃ index answer time, answers[index]? = some answer ∧ times[index]? = some time ∧
    fails answer error ∧
    ∀ other rival rivalTime, answers[other]? = some rival → times[other]? = some rivalTime →
      (∃ cause, fails rival cause) →
      ¬CountsBefore answers.length (rivalTime, other) (time, index)

/-- An error is that of the first answer that fails. -/
def FirstToFail (fails : WholeReply → Error → Prop) (answers : List WholeReply) (error : Error) :
    Prop :=
  ∃ (index : Nat) (answer : WholeReply), answers[index]? = some answer ∧ fails answer error ∧
    ∀ earlier < index, ∀ before, answers[earlier]? = some before →
      ∀ cause, ¬fails before cause

/-- Of answers that come at one time, the first that fails decides. -/
theorem DecidedByAnswer.first {fails : WholeReply → Error → Prop} {answers : List WholeReply}
    {times : List Nat} {error : Error} (decided : DecidedByAnswer fails answers times error)
    (immediate : ∀ time ∈ times, time = 0) : FirstToFail fails answers error := by
  obtain ⟨index, answer, time, answered, timed, failing, first⟩ := decided
  refine ⟨index, answer, answered, failing, ?_⟩
  intro earlier precedes before beforeAnswered cause beforeFails
  have bound : index < times.length := (List.getElem?_eq_some_iff.mp timed).1
  have timedBefore := List.getElem?_eq_getElem (precedes.trans bound)
  have same : times[earlier] = time := by
    rw [immediate _ (List.getElem_mem _), immediate time (List.mem_of_getElem? timed)]
  apply first earlier before _ beforeAnswered timedBefore ⟨cause, beforeFails⟩
  unfold CountsBefore
  split
  · exact .inr ⟨same, precedes⟩
  · exact precedes

/-! ## Calls -/

section Reports

variable {α β : Type} {operation : Operation α β} {answers : List WholeReply}
  {reports : List (Report β)} {timeoutMs : Nat}

theorem Report.result_eq_ok_iff_brings
    (outcomes : reports.map (fun report => report.completion.outcome) =
      answers.map fun answer => answer.toReply.outcome operation timeoutMs) {entries : List β} :
    Report.result reports = .ok entries ↔
      ∃ bodies, List.Forall₂ (WholeReply.Brings operation) answers bodies ∧
        entries = bodies.flatten := by
  have brings (bodies : List (List β)) :
      answers.map (fun answer => answer.toReply.outcome operation timeoutMs) =
          bodies.map .answered ↔ List.Forall₂ (WholeReply.Brings operation) answers bodies := by
    rw [← List.forall₂_eq_eq_eq, List.forall₂_map_left_iff, List.forall₂_map_right_iff]
    simp only [WholeReply.outcome_eq_answered_iff]
  rw [Report.result_eq_ok_iff, outcomes]
  simp only [brings]

theorem Report.decidedByAnswer
    (outcomes : reports.map (fun report => report.completion.outcome) =
      answers.map fun answer => answer.toReply.outcome operation timeoutMs) {error : Error}
    (failed : Report.result reports = .error error) :
    DecidedByAnswer (WholeReply.FailsWith operation) answers
      (reports.map fun report => report.completion.time) error := by
  have length : reports.length = answers.length := by
    simpa using congrArg List.length outcomes
  have outcome_eq {index : Nat} {report : Report β} {answer : WholeReply}
      (reported : reports[index]? = some report) (answered : answers[index]? = some answer) :
      report.completion.outcome = answer.toReply.outcome operation timeoutMs := by
    have same := congrArg (·[index]?) outcomes
    simpa [reported, answered] using same
  obtain ⟨index, report, reported, fails, first⟩ := Report.result_eq_error failed
  have bound : index < answers.length := by
    rw [← length]
    exact (List.getElem?_eq_some_iff.mp reported).1
  have answered := List.getElem?_eq_getElem bound
  rw [outcome_eq reported answered] at fails
  refine ⟨index, answers[index], report.completion.time, answered, by simp [reported],
    WholeReply.failsWith_of_outcome fails, ?_⟩
  rintro other rival rivalTime rivalAnswered timed ⟨cause, rivalFails⟩
  rw [List.getElem?_map, Option.map_eq_some_iff] at timed
  obtain ⟨rivalReport, rivalReported, rfl⟩ := timed
  rw [← length]
  apply first other rivalReport rivalReported
  rw [outcome_eq rivalReported rivalAnswered]
  exact WholeReply.exists_outcome_failsWith rivalFails

end Reports

/-- When the calls of a pass ended. -/
def Calls.times : Calls → List Nat
  | .places reports => reports.map fun report => report.completion.time
  | .entities reports => reports.map fun report => report.completion.time

theorem Calls.Undelayed.times_eq_zero {calls : Calls} (undelayed : calls.Undelayed) :
    ∀ time ∈ calls.times, time = 0 := by
  cases calls <;> exact List.forall_mem_map.mpr undelayed

/-- The calls of a pass end with given answers, at whatever times. -/
inductive Calls.EndWith (timeoutMs : Nat) (answers : List WholeReply) : KeyKind → Calls → Prop where
  | places {reports : List (Report PlaceEntry)}
      (outcomes : reports.map (fun report => report.completion.outcome) =
        answers.map fun answer => answer.toReply.outcome .coordinates timeoutMs) :
      EndWith timeoutMs answers .coordinates (.places reports)
  | entities {reports : List (Report EntityEntry)}
      (outcomes : reports.map (fun report => report.completion.outcome) =
        answers.map fun answer => answer.toReply.outcome .entities timeoutMs) :
      EndWith timeoutMs answers .externalIds (.entities reports)

namespace Calls

variable {timeoutMs : Nat} {answers : List WholeReply} {kind : KeyKind} {calls : Calls}

theorem EndWith.of_alike {timed : Calls} (ended : EndWith timeoutMs answers kind calls)
    (alike : calls.Alike timed) : EndWith timeoutMs answers kind timed := by
  cases ended with
  | places outcomes =>
      cases alike with
      | places same => exact .places (same.symm.trans outcomes)
  | entities outcomes =>
      cases alike with
      | entities same => exact .entities (same.symm.trans outcomes)

/-- Calls that end with answers have the response that these bring. -/
theorem EndWith.result_eq_ok_iff (ended : EndWith timeoutMs answers kind calls)
    {response : Response} : calls.result = .ok response ↔ response.BroughtBy kind answers := by
  constructor
  · intro succeeded
    cases ended with
    | places outcomes =>
        obtain ⟨entries, received, rfl⟩ := map_eq_ok_iff.mp succeeded
        obtain ⟨bodies, each, rfl⟩ := (Report.result_eq_ok_iff_brings outcomes).mp received
        exact .places each
    | entities outcomes =>
        obtain ⟨entries, received, rfl⟩ := map_eq_ok_iff.mp succeeded
        obtain ⟨bodies, each, rfl⟩ := (Report.result_eq_ok_iff_brings outcomes).mp received
        exact .entities each
  · intro brought
    cases brought with
    | places each =>
        cases ended with
        | places outcomes =>
            exact map_eq_ok_iff.mpr
              ⟨_, (Report.result_eq_ok_iff_brings outcomes).mpr ⟨_, each, rfl⟩, rfl⟩
    | entities each =>
        cases ended with
        | entities outcomes =>
            exact map_eq_ok_iff.mpr
              ⟨_, (Report.result_eq_ok_iff_brings outcomes).mpr ⟨_, each, rfl⟩, rfl⟩

/-- Calls that end with answers and fail have the error of the answer that decides. -/
theorem EndWith.decidedByAnswer (ended : EndWith timeoutMs answers kind calls) {error : Error}
    (failed : calls.result = .error error) :
    DecidedByAnswer (WholeReply.FailsFor kind) answers calls.times error := by
  cases ended with
  | places outcomes => exact Report.decidedByAnswer outcomes (map_eq_error_iff.mp failed)
  | entities outcomes => exact Report.decidedByAnswer outcomes (map_eq_error_iff.mp failed)

end Calls

/-! ## Resolvers -/

namespace Resolver

variable {services counters : Nat}

/-- The path of the operation that answers the keys of a resolver. -/
def path : Resolver services counters → String
  | .coordinates _ _ => Operation.coordinates.path
  | .externalIds _ _ _ => Operation.entities.path

/-- The texts of the requests for the queue of a resolver, one for each chunk. -/
def requestTexts : Resolver services counters → List String
  | .coordinates client memory =>
      (partition client.chunkSize (Strategy.coordinates.request memory.queue.toList)).map
        Operation.coordinates.encodeRequest
  | .externalIds client properties memory =>
      (partition client.chunkSize
        ((Strategy.externalIds properties).request memory.queue.toList)).map
        Operation.entities.encodeRequest

/-- A service over HTTP stands as it is configured, and it is reached: the endpoint without the
slashes at its end, with the path behind it, is a URL at which its server listens, and the key
can stand in a header. -/
structure Reaches (resolver : Resolver services counters) (config : Config) (base : String)
    (url : Url) (service : HttpService) : Prop where
  bound : service.binding = .ofConfig config
  stripped : Stripped config.endpoint base
  usable : Url.parse? (base ++ resolver.path) = some url
  legal : config.apiKey.all isHeaderText = true
  reached : service.server.isReachedBy url = true

variable {resolver : Resolver services counters} {config : Config} {base : String} {url : Url}
  {service : HttpService} {network : Network HttpService services counters}

theorem Reaches.delivers {α β : Type} {operation : Operation α β}
    (reaches : resolver.Reaches config base url service) (path : operation.path = resolver.path) :
    Delivers service operation url where
  usable := by
    rw [reaches.bound, endpoint_ofConfig reaches.stripped, path]
    exact reaches.usable
  legal := by
    rw [reaches.bound]
    exact reaches.legal
  reached := reaches.reached

end Resolver

/-- The calls of a request that is delivered are its posts, in the order of the chunks. -/
theorem Http.Delivers.request {α β : Type} {services counters : Nat}
    {network : Network HttpService services counters} {client : Client services counters}
    {operation : Operation α β} {url : Url}
    (delivers : Delivers (network.services.get client.service) operation url)
    {answers : List WholeReply} {left : List Reply}
    (next : (network.services.get client.service).server.replies =
      answers.map WholeReply.toReply ++ left)
    {items : List α}
    (enough : answers.length = (partition client.chunkSize items).length) :
    let sent := network.request client operation items
    sent.1.map (fun report => report.completion.outcome) = answers.map (fun answer =>
        answer.toReply.outcome operation (network.services.get client.service).binding.timeoutMs) ∧
      (∀ report ∈ sent.1, report.completion.time = 0) ∧
      sent.2.services.get client.service = afterPosts (network.services.get client.service) url
        ((partition client.chunkSize items).map operation.encodeRequest) left := by
  intro sent
  obtain ⟨completions, after⟩ := delivers.callEach next enough
  have reports : sent.1 = (IdResolution.callEach operation (partition client.chunkSize items)
      (network.services.get client.service)).1 :=
    network.reports_request client operation items
  rw [← reports] at completions
  refine ⟨?_, ?_, ?_⟩
  · have outcomes := congrArg (List.map Completion.outcome) completions
    rw [List.map_map, List.map_map] at outcomes
    exact outcomes
  · intro report listed
    have completed : report.completion ∈ sent.1.map Report.completion :=
      List.mem_map_of_mem listed
    rw [completions, List.mem_map] at completed
    obtain ⟨answer, -, same⟩ := completed
    rw [← same]
  · rw [Network.get_request]
    exact after

namespace Resolver

variable {services counters : Nat} {resolver : Resolver services counters} {config : Config}
  {base : String} {url : Url} {network : Network HttpService services counters}

/-- A pass that is delivered makes its posts at once, and its calls end with the answers. -/
theorem Reaches.launch
    (reaches : resolver.Reaches config base url (network.services.get resolver.client.service))
    {answers : List WholeReply} {left : List Reply}
    (next : (network.services.get resolver.client.service).server.replies =
      answers.map WholeReply.toReply ++ left)
    (enough : answers.length = resolver.requestTexts.length) :
    (resolver.calls network).EndWith (Binding.ofConfig config).timeoutMs answers
        resolver.kind ∧
      (resolver.calls network).Undelayed ∧
      (resolver.launch network).2.services.get resolver.client.service =
        afterPosts (network.services.get resolver.client.service) url resolver.requestTexts
          left := by
  rw [← reaches.bound]
  cases resolver with
  | coordinates client memory =>
      rw [requestTexts, List.length_map] at enough
      have delivers : Delivers _ Operation.coordinates url := reaches.delivers rfl
      obtain ⟨outcomes, undelayed, after⟩ := delivers.request next enough
      exact ⟨.places outcomes, undelayed, after⟩
  | externalIds client properties memory =>
      rw [requestTexts, List.length_map] at enough
      have delivers : Delivers _ Operation.entities url := reaches.delivers rfl
      obtain ⟨outcomes, undelayed, after⟩ := delivers.request next enough
      exact ⟨.entities outcomes, undelayed, after⟩

end Resolver

namespace Deployment

/-! ## Passes -/

section Ended

variable {σ : Type} [Service σ] {services counters timeoutMs : Nat}
  {deployment : Deployment σ services counters} {answers : List WholeReply}

/-- The error of a pass is that of its calls. -/
theorem result_eq_error_of_resolve {error : Error} (failed : deployment.resolve.1 = .error error) :
    (deployment.resolver.calls deployment.network).result = .error error := by
  rw [resolve_eq] at failed
  exact map_eq_error_iff.mp failed

/-- A pass whose answers bring a response takes it in as a whole. -/
theorem resolve_of_brought
    (ended : (deployment.resolver.calls deployment.network).EndWith timeoutMs answers
      deployment.resolver.kind)
    {response : Response} (brought : response.BroughtBy deployment.resolver.kind answers) :
    deployment.resolve.1 = .ok (deployment.resolver.statsOf response) ∧
      deployment.resolve.2.resolver = deployment.resolver.absorb response := by
  have answered : (deployment.resolver.calls deployment.network).Answered response :=
    Calls.result_eq_ok_iff.mp (ended.result_eq_ok_iff.mpr brought)
  constructor
  · exact resolve_eq_ok_iff.mpr ⟨response, answered, rfl⟩
  · rw [resolver_resolve, Resolver.conclude_of_answered answered]

/-- A pass whose answers bring no response leaves the resolver as it is, and has the error of
the first answer that fails if all of them come at once. -/
theorem resolve_of_not_brought
    (ended : (deployment.resolver.calls deployment.network).EndWith timeoutMs answers
      deployment.resolver.kind)
    (undelayed : (deployment.resolver.calls deployment.network).Undelayed)
    (failing : ∀ response : Response, ¬response.BroughtBy deployment.resolver.kind answers) :
    deployment.resolve.2.resolver = deployment.resolver ∧
      ∃ error, deployment.resolve.1 = .error error ∧
        FirstToFail (WholeReply.FailsFor deployment.resolver.kind) answers error := by
  have unanswered : ∀ response,
      ¬(deployment.resolver.calls deployment.network).Answered response := by
    intro response answered
    exact failing response
      (ended.result_eq_ok_iff.mp (Calls.result_eq_ok_iff.mpr answered))
  constructor
  · rw [resolver_resolve, Resolver.conclude_of_failed unanswered]
  · obtain ⟨error, failed⟩ := exists_error_iff.mpr unanswered
    have decided := ended.decidedByAnswer (result_eq_error_of_resolve failed)
    exact ⟨error, failed, decided.first undelayed.times_eq_zero⟩

end Ended

/-! ## Two identifiers at a prepared server -/

/-- An endpoint with slashes at its end, and a key. -/
def keyedConfig : Config where
  endpoint := "https://api.example.com//"
  apiKey := some "key"

/-- The pass for the two identifiers at a server that has its answers prepared. -/
def prepared (answers : List WholeReply) : Deployment HttpService 1 1 where
  resolver := .twoCodes ["isoCode", "geoId"]
  network :=
    { services := #v[
        { binding := .ofConfig keyedConfig
          server :=
            { host := .name "api.example.com"
              port := 443
              secure := true
              replies := answers.map WholeReply.toReply } }]
      counters := #v[0] }

/-- An answer that names an entity for a source id. -/
def naming (sourceId dcid : String) : WholeReply where
  status := 200
  text := "\x7b\"resolvedEntities\":[\x7b\"sourceId\":\"" ++ sourceId ++
    "\",\"resolvedIds\":[\x7b\"ids\":[\x7b\"prop\":\"dcid\",\"val\":\"" ++ dcid ++
    "\"\x7d]\x7d]\x7d]\x7d"
  final := by decide
  bodiless none := absurd none (by decide)

theorem length_requestTexts_twoCodes (properties : List String) :
    (Resolver.twoCodes properties).requestTexts.length = 2 := by
  have queued : ((Strategy.externalIds properties).request
      (({} : KeyQueue Identifier).insertAll
        [⟨"isoCode", "IN"⟩, ⟨"geoId", "06"⟩]).toList).length = 2 := by
    rw [Strategy.request, List.length_map, Resolver.toList_twoCodes]
    rfl
  simp only [Resolver.twoCodes, Resolver.requestTexts, List.length_map]
  rw [length_partition (by decide), queued]
  rfl

theorem reaches_prepared (answers : List WholeReply) :
    (prepared answers).resolver.Reaches keyedConfig "https://api.example.com"
      ⟨true, .name "api.example.com", 443, "/v1/recon/entity/resolve"⟩
      ((prepared answers).network.services.get (prepared answers).resolver.client.service) where
  bound := rfl
  stripped := ⟨⟨2, by decide⟩, by decide⟩
  usable := by
    change Url.parse? ("https://api.example.com" ++ Operation.entities.path) = _
    decide +kernel
  legal := by decide
  reached := rfl

theorem replies_prepared (answers : List WholeReply) :
    ((prepared answers).network.services.get
      (prepared answers).resolver.client.service).server.replies =
        answers.map WholeReply.toReply ++ [] :=
  (List.append_nil _).symm

/-- The resolver knows nothing before, so the last entry with candidates is all that counts. -/
theorem candidates?_absorb_twoCodes (properties : List String) (entries : List EntityEntry)
    (sourceId : String) :
    ((Resolver.twoCodes properties).absorb (.entities entries)).candidates? (.sourceId sourceId) =
      (lastCandidates? (entries.map fun entry => (entry.sourceId, entry.candidates))
        sourceId).map List.eraseDups := by
  have unknown : ({} : Cache String).candidates? sourceId = none :=
    (Resolver.twoCodes properties).candidates?_fresh (.sourceId sourceId)
  have taken := Cache.candidates?_fold_eq_last {}
    (entries.map fun entry => (entry.sourceId, entry.candidates)) sourceId
  rw [unknown, Option.or_none] at taken
  exact taken

/-! ## The answers decide -/

variable {services counters : Nat} {deployment : Deployment HttpService services counters}
  {config : Config} {base : String} {url : Url}

/-- A pass over HTTP makes one post for each chunk, to the endpoint without the slashes at its
end and with the path of the operation behind it, and with the key if there is one.  Any final
status and any text may answer it, but the text is empty where the status has no body, which is
so for 101, 204 and 304.  The pass succeeds exactly when every answer brings a part of the
response, which is then taken in as a whole.  Otherwise the resolver stays as it is, and the
error is that of the first answer that fails, to be retried exactly if the server says that the
fault is its own.  At whatever times the answers come, success and what it leaves behind are the
same, and the error is that of the failing answer that counts before the others. -/
theorem answers_decide_pass
    (reaches : deployment.resolver.Reaches config base url
      (deployment.network.services.get deployment.resolver.client.service))
    {answers : List WholeReply} {left : List Reply}
    (next : (deployment.network.services.get deployment.resolver.client.service).server.replies =
      answers.map WholeReply.toReply ++ left)
    (enough : answers.length = deployment.resolver.requestTexts.length) :
    let resolver := deployment.resolver
    let service := deployment.network.services.get resolver.client.service
    let resolved := deployment.resolve
    ((resolved.2.network.services.get resolver.client.service).server.received =
      service.server.received ++
        resolver.requestTexts.map fun body => { url, apiKey := config.apiKey, body }) ∧
    (∀ response : Response, response.BroughtBy resolver.kind answers →
      resolved.1 = .ok (resolver.statsOf response) ∧
        resolved.2.resolver = resolver.absorb response) ∧
    ((∀ response : Response, ¬response.BroughtBy resolver.kind answers) →
      resolved.2.resolver = resolver ∧
        ∃ error, resolved.1 = .error error ∧
          FirstToFail (WholeReply.FailsFor resolver.kind) answers error ∧
          (error.isRetryable = true ↔
            ∃ code message, error = .call (.serverError code message) ∧ 500 ≤ code)) ∧
    ∀ timed, (resolver.calls deployment.network).Alike timed →
      resolver.conclude timed = resolved.2.resolver ∧
      (∀ response, timed.result = .ok response ↔ response.BroughtBy resolver.kind answers) ∧
      ∀ error, timed.result = .error error →
        DecidedByAnswer (WholeReply.FailsFor resolver.kind) answers timed.times error := by
  intro resolver service resolved
  obtain ⟨ended, undelayed, after⟩ := reaches.launch next enough
  refine ⟨?_, ?_, ?_, ?_⟩
  · have network : resolved.2.network = (resolver.launch deployment.network).2 := by
      rw [show resolved = _ from deployment.resolve_eq]
    have key : service.binding.apiKey = config.apiKey := by
      rw [reaches.bound]
      rfl
    rw [network, after, afterPosts, key]
  · intro response brought
    exact resolve_of_brought ended brought
  · intro failing
    obtain ⟨kept, error, failed, first⟩ := resolve_of_not_brought ended undelayed failing
    refine ⟨kept, error, failed, first, ?_⟩
    obtain ⟨index, answer, -, fails, -⟩ := first
    exact fails.isRetryable_iff
  · intro timed alike
    have endedTimed := ended.of_alike alike
    refine ⟨?_, fun response => endedTimed.result_eq_ok_iff,
      fun error failed => endedTimed.decidedByAnswer failed⟩
    rw [resolver_resolve, Resolver.conclude_congr alike]

/-- When the first of two answers is that the server is overloaded, although its text would do
for a response, the second one is lost.  When both answers are responses, both are taken in. -/
theorem answers_decide_pass_of_two_answers :
    let overload : WholeReply := ⟨503, "\x7b\x7d", by decide, by decide⟩
    let india := naming "isoCode:IN" "country/IND"
    let california := naming "geoId:06" "geoId/06"
    let refused := (prepared [overload, california]).resolve
    let answered := (prepared [india, california]).resolve
    (refused.1 = .error (.call (.serverError 503 "\x7b\x7d")) ∧
      refused.2.resolver = .twoCodes ["isoCode", "geoId"]) ∧
    (∃ stats, answered.1 = .ok stats ∧
      stats.keysSent = 2 ∧ stats.keysResolved = 2 ∧ stats.apiCalls = 2) ∧
    answered.2.resolver.candidates? (.sourceId "isoCode:IN") = some ["country/IND"] ∧
    answered.2.resolver.candidates? (.sourceId "geoId:06") = some ["geoId/06"] := by
  intro overload india california refused answered
  have enough (first second : WholeReply) :
      [first, second].length = (prepared [first, second]).resolver.requestTexts.length :=
    (length_requestTexts_twoCodes _).symm
  constructor
  · obtain ⟨-, -, failing, -⟩ := answers_decide_pass (reaches_prepared [overload, california])
      (replies_prepared [overload, california]) (enough overload california)
    have unsuccessful : ¬overload.Succeeds := by simp [WholeReply.Succeeds, overload]
    have lost : ∀ response : Response,
        ¬response.BroughtBy .externalIds [overload, california] := by
      intro response brought
      cases brought with
      | entities each =>
          cases each with
          | cons brings _ => exact unsuccessful brings.succeeds
    obtain ⟨kept, error, failed, ⟨index, answer, found, fails, first⟩, -⟩ := failing lost
    have index_eq : index = 0 := by
      by_contra later
      exact first 0 (Nat.pos_of_ne_zero later) overload rfl _ (.refused unsuccessful)
    subst index_eq
    obtain rfl : overload = answer := Option.some.inj found
    refine ⟨?_, kept⟩
    cases fails with
    | refused => exact failed
    | undecodable succeeds => exact absurd succeeds unsuccessful
  · obtain ⟨-, succeeding, -⟩ := answers_decide_pass (reaches_prepared [india, california])
      (replies_prepared [india, california]) (enough india california)
    have each : List.Forall₂ (WholeReply.Brings .entities) [india, california]
        [[⟨"isoCode:IN", [⟨[⟨"dcid", "country/IND"⟩]⟩]⟩],
          [⟨"geoId:06", [⟨[⟨"dcid", "geoId/06"⟩]⟩]⟩]] :=
      .cons ⟨⟨by decide, by decide⟩, by decide +kernel⟩
        (.cons ⟨⟨by decide, by decide⟩, by decide +kernel⟩ .nil)
    obtain ⟨summed, taken⟩ := succeeding _ (.entities each)
    refine ⟨⟨_, summed, ?_, rfl, ?_⟩, ?_, ?_⟩
    · exact congrArg List.length (Resolver.pending_twoCodes _)
    · exact congrArg (fun queue => chunkCount 1 queue.length) (Resolver.pending_twoCodes _)
    · rw [taken]
      exact (candidates?_absorb_twoCodes _ _ _).trans (by decide)
    · rw [taken]
      exact (candidates?_absorb_twoCodes _ _ _).trans (by decide)

end Deployment

end IdResolution
