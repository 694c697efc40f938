import IdResolution.Proofs.Resolver.Pass

/-!
# Failed passes and retries

A pass that fails does no harm: queue and cache stay exactly as they were, whatever
answers some of its calls received.  It shows in the counts of calls and in the log,
and nowhere else.  To retry is therefore to resolve for the first time: after any
number of failed passes, a pass comes to the same as if it were the only one.
-/

namespace IdResolution

/-! ## Two queued identifiers -/

/-- The network of a service with a script, of which some calls may have been counted. -/
def Network.scripted (service : ScriptService) (counted : Nat) : Network ScriptService 1 1 :=
  ⟨#v[service], #v[counted], counted⟩

namespace Resolver

/-- A resolver with two queued identifiers, each of which is asked for by a call of its own. -/
def twoCodes (properties : List String) : Resolver 1 1 :=
  .externalIds { service := 0, counter := 0, chunkSize := 1 } properties
    { queue := ({} : KeyQueue Identifier).insertAll [⟨"isoCode", "IN"⟩, ⟨"geoId", "06"⟩] }

theorem toList_twoCodes : (({} : KeyQueue Identifier).insertAll
    [⟨"isoCode", "IN"⟩, ⟨"geoId", "06"⟩]).toList = [⟨"isoCode", "IN"⟩, ⟨"geoId", "06"⟩] := by
  rw [KeyQueue.toList_insertAll_empty]
  decide

theorem pending_twoCodes (properties : List String) : (twoCodes properties).pending =
    [.identifier ⟨"isoCode", "IN"⟩, .identifier ⟨"geoId", "06"⟩] := by
  rw [twoCodes, pending, toList_twoCodes]
  rfl

/-- A pass for the two identifiers takes the next two answers of the script. -/
theorem launch_twoCodes (properties : List String) (first second : ScriptEntry)
    (script : List ScriptEntry) (requests : List Request) (counted : Nat) :
    let network := Network.scripted ⟨first :: second :: script, requests⟩ counted
    (twoCodes properties).calls network =
        .entities [⟨1, first.answer .entities⟩, ⟨1, second.answer .entities⟩] ∧
      ∃ received, ((twoCodes properties).launch network).2 =
        .scripted ⟨script, received⟩ (counted + 2) := by
  intro network
  have chunks : partition 1 ((Strategy.externalIds properties).request
      [⟨"isoCode", "IN"⟩, ⟨"geoId", "06"⟩]) =
        [[.ofIdentifier ⟨"isoCode", "IN"⟩], [.ofIdentifier ⟨"geoId", "06"⟩]] := by
    change partition 1 [EntityQuery.ofIdentifier _, EntityQuery.ofIdentifier _] = _
    decide +kernel
  constructor
  · simp only [twoCodes, calls, toList_twoCodes, Network.request, callChunked, chunks]
    rfl
  · refine ⟨requests ++ [.ofCall .entities [.ofIdentifier ⟨"isoCode", "IN"⟩]] ++
      [.ofCall .entities [.ofIdentifier ⟨"geoId", "06"⟩]], ?_⟩
    simp only [twoCodes, launch, toList_twoCodes, Network.request, callChunked, chunks]
    rfl

end Resolver

/-- Two answers of a script that are no mishaps make up a response. -/
theorem Calls.answered_scripted {first second : ScriptEntry} (answered : first.mishap = none)
    (answeredSecond : second.mishap = none) :
    (Calls.entities [⟨1, first.answer .entities⟩, ⟨1, second.answer .entities⟩]).Answered
      (.entities (first.entities ++ second.entities)) := by
  let reports : List (Report EntityEntry) :=
    [⟨1, first.answer .entities⟩, ⟨1, second.answer .entities⟩]
  have outcomes : reports.map (fun report => report.completion.outcome) =
      [first.entities, second.entities].map .answered := by
    simp [reports, ScriptEntry.answer, answered, answeredSecond]
  have joined : [first.entities, second.entities].flatten =
      first.entities ++ second.entities := by simp
  rw [← joined]
  exact .entities outcomes

theorem Calls.undelayed_scripted {first second : ScriptEntry} (immediate : first.delay = 0)
    (immediateSecond : second.delay = 0) :
    (Calls.entities [⟨1, first.answer .entities⟩, ⟨1, second.answer .entities⟩]).Undelayed := by
  simp [Calls.Undelayed, ScriptEntry.answer, immediate, immediateSecond]

namespace Deployment

variable {σ : Type} {services counters : Nat} [Service σ]

/-- A pass in terms of its calls. -/
theorem resolve_eq (deployment : Deployment σ services counters) :
    let calls := deployment.resolver.calls deployment.network
    deployment.resolve =
      (calls.result.map fun response => deployment.resolver.statsOf response,
        ⟨deployment.resolver.conclude calls,
          (deployment.resolver.launch deployment.network).2⟩) := by
  intro calls
  simp only [resolve, Resolver.landing_launch_eq, Resolver.conclude, calls]
  cases (deployment.resolver.calls deployment.network).result <;> rfl

theorem resolver_resolve (deployment : Deployment σ services counters) :
    deployment.resolve.2.resolver =
      deployment.resolver.conclude (deployment.resolver.calls deployment.network) := by
  rw [resolve_eq]

/-- A pass succeeds with the summary of the response to its calls. -/
theorem resolve_eq_ok_iff {deployment : Deployment σ services counters} {stats : Stats} :
    deployment.resolve.1 = .ok stats ↔
      ∃ response, (deployment.resolver.calls deployment.network).Answered response ∧
        stats = deployment.resolver.statsOf response := by
  simp only [resolve_eq, ← Calls.result_eq_ok_iff]
  cases (deployment.resolver.calls deployment.network).result with
  | ok response => simp [Except.map, eq_comm]
  | error error => simp [Except.map]

/-- A pass fails exactly when not all of its calls are answered. -/
theorem exists_error_iff {deployment : Deployment σ services counters} :
    (∃ error, deployment.resolve.1 = .error error) ↔
      ∀ response, ¬(deployment.resolver.calls deployment.network).Answered response := by
  simp only [resolve_eq, ← Calls.result_eq_ok_iff]
  cases (deployment.resolver.calls deployment.network).result with
  | ok response => simp [Except.map]
  | error error => simp [Except.map]

theorem not_succeeds_of_error {deployment : Deployment σ services counters} {error : Error}
    (failed : deployment.resolve.1 = .error error) : ¬deployment.Succeeds := by
  intro ⟨stats, succeeded⟩
  rw [succeeded] at failed
  contradiction

/-- What a pass logs. -/
def logged (deployment : Deployment σ services counters) : List Warning :=
  (ResolverSet.resolve [deployment.resolver] deployment.network).warnings

/-- A pass that fails logs its calls that failed with a cause, and that it failed. -/
theorem logged_perm_of_error {deployment : Deployment σ services counters} {error : Error}
    (failed : deployment.resolve.1 = .error error) :
    deployment.logged.Perm
      ((deployment.resolver.calls deployment.network).warnings.map Prod.snd ++
        [.passFailed deployment.resolver.kind deployment.resolver.pending.length error]) := by
  let resolver := deployment.resolver
  let flight := (resolver.launch deployment.network).1
  let passFailed : TimedWarning :=
    (flight.finishedAt, .passFailed resolver.kind resolver.pending.length error)
  have fails : flight.failure? = some error := by
    rcases deployment.resolve_cases with ⟨stats, _, _, same⟩ | ⟨failure, landing, same⟩
    · rw [same] at failed
      contradiction
    · rw [same] at failed
      rw [Flight.failure?, landing, Except.error.inj failed]
  have broken : ResolverSet.break? [(resolver, flight)] =
      some ⟨flight.finishedAt, 0, error⟩ := by
    rw [ResolverSet.break?, ResolverSet.endings, List.map_singleton,
      Ending.break?_singleton, fails, Option.map_some]
  have noticed : ResolverSet.passWarning? (some ⟨flight.finishedAt, 0, error⟩)
      ((resolver, flight), 0) = some passFailed := by
    simp [ResolverSet.passWarning?, fails, ResolverSet.isNoticed, Break.notices, passFailed,
      flight, Resolver.keysSent_launch]
  have logged : deployment.logged =
      (byTime (flight.warnings ++ [passFailed])).map Prod.snd := by
    have only : deployment.logged = ResolverSet.flightWarnings
        (ResolverSet.break? [(resolver, flight)]) [(resolver, flight)] := rfl
    rw [only, broken, ResolverSet.flightWarnings, List.flatMap_singleton, List.zipIdx_singleton,
      List.filterMap_cons_some noticed, List.filterMap_nil]
  rw [logged, Resolver.warnings_launch]
  have reordered := List.mergeSort_perm
    ((resolver.calls deployment.network).warnings ++ [passFailed])
    fun first second => first.1 ≤ second.1
  have kept := reordered.map Prod.snd
  rw [List.map_append] at kept
  exact kept

/-- Failed passes leave the resolver as it was, however many they are. -/
theorem resolver_run_of_failing {start : Deployment σ services counters} {passes : Nat}
    (failing : ∀ earlier < passes,
      ¬(start.run (List.replicate earlier .resolve)).Succeeds) :
    (start.run (List.replicate passes .resolve)).resolver = start.resolver := by
  induction passes with
  | zero => rfl
  | succ passes ih =>
      rw [List.replicate_succ', run_append_singleton, after]
      rw [resolver_resolve_of_failing (failing passes (Nat.lt_succ_self passes))]
      exact ih fun earlier before => failing earlier (Nat.lt_succ_of_lt before)

/-- Two passes of one resolver whose calls end in the same ways come to the same, on
whatever networks. -/
theorem resolve_congr {τ : Type} [Service τ] {first : Deployment σ services counters}
    {second : Deployment τ services counters} (same : first.resolver = second.resolver)
    (alike : (first.resolver.calls first.network).Alike
      (second.resolver.calls second.network)) :
    first.resolve.2.resolver = second.resolve.2.resolver ∧
      ∀ stats, first.resolve.1 = .ok stats ↔ second.resolve.1 = .ok stats := by
  rw [same] at alike
  constructor
  · rw [resolver_resolve, resolver_resolve, same, Resolver.conclude_congr alike]
  · intro stats
    rw [resolve_eq_ok_iff, resolve_eq_ok_iff, same]
    simp only [alike.answered_iff]

/-- A pass for the two identifiers that fails leaves nothing but a shorter script. -/
theorem resolve_twoCodes_of_error (properties : List String) (first second : ScriptEntry)
    (script : List ScriptEntry) (requests : List Request) (counted : Nat) {error : Error}
    (failed : (Calls.entities [⟨1, first.answer .entities⟩,
      ⟨1, second.answer .entities⟩]).result = .error error) :
    let deployment : Deployment ScriptService 1 1 := ⟨.twoCodes properties,
      .scripted ⟨first :: second :: script, requests⟩ counted⟩
    deployment.resolve.1 = .error error ∧ ∃ received, deployment.resolve.2 =
      ⟨.twoCodes properties, .scripted ⟨script, received⟩ (counted + 2)⟩ := by
  intro deployment
  obtain ⟨calls, received, network⟩ :=
    Resolver.launch_twoCodes properties first second script requests counted
  rw [resolve_eq, calls, network, failed, Resolver.conclude, failed]
  exact ⟨rfl, received, rfl⟩

/-! ## Failed passes -/

/-- A pass fails exactly when not all of its calls are answered.  It then leaves queue
and cache, and hence every answer of the resolver, exactly as they were, whatever some
of its calls were answered.  Its calls are counted, one for each chunk; its failed calls
are logged, and that it failed.  After any number of failed passes, a pass whose calls
end in given ways leaves the same queue and cache behind, and gives the same summary, as
if it were the only one. -/
theorem failed_passes_leave_no_trace (start : Deployment σ services counters) :
    let resolver := start.resolver
    let calls := resolver.calls start.network
    ((∃ error, start.resolve.1 = .error error) ↔ ∀ response, ¬calls.Answered response) ∧
    (∀ error, start.resolve.1 = .error error →
      start.resolve.2.resolver = resolver ∧
      Network.CallsCounted resolver.client
        (chunkCount resolver.client.chunkSize resolver.pending.length)
        start.network start.resolve.2.network ∧
      start.logged.Perm (calls.warnings.map Prod.snd ++
        [.passFailed resolver.kind resolver.pending.length error])) ∧
    ∀ (passes : Nat) {τ : Type} [Service τ] (network : Network τ services counters),
      let retried := start.run (List.replicate passes .resolve)
      let only : Deployment τ services counters := ⟨resolver, network⟩
      (∀ earlier < passes, ¬(start.run (List.replicate earlier .resolve)).Succeeds) →
      (retried.resolver.calls retried.network).Alike (resolver.calls network) →
      retried.resolve.2.resolver = only.resolve.2.resolver ∧
        ∀ stats, retried.resolve.1 = .ok stats ↔ only.resolve.1 = .ok stats := by
  intro resolver calls
  refine ⟨?_, ?_, ?_⟩
  · exact exists_error_iff
  · intro error failed
    refine ⟨?_, ?_, ?_⟩
    · exact resolver_resolve_of_failing (not_succeeds_of_error failed)
    · rw [resolve_eq]
      exact resolver.callsCounted_launch start.network
    · exact logged_perm_of_error failed
  · intro passes τ _ network retried only failing alike
    exact resolve_congr (resolver_run_of_failing failing) alike

/-- Two passes fail, each with one of its two calls answered.  The third pass comes to the same
as if there had been no other. -/
theorem failed_passes_leave_no_trace_of_partial_answers :
    let resolver := Resolver.twoCodes ["isoCode", "geoId"]
    let india : ScriptEntry := { entities := [⟨"isoCode:IN", [⟨[⟨"dcid", "country/IND"⟩]⟩]⟩] }
    let california : ScriptEntry := { entities := [⟨"geoId:06", [⟨[⟨"dcid", "geoId/06"⟩]⟩]⟩] }
    let breakdown : ScriptEntry := { mishap := some .breakDown }
    let refusal : ScriptEntry := { mishap := some (.fail (.serverError 503 "overload")) }
    let start : Deployment ScriptService 1 1 := ⟨resolver, .scripted
      ⟨[india, breakdown, refusal, california, india, california], []⟩ 0⟩
    let only : Deployment ScriptService 1 1 :=
      ⟨resolver, .scripted ⟨[india, california], []⟩ 0⟩
    let retried := start.run (List.replicate 2 .resolve)
    start.resolve.1 = .error (.internal "chunk task failed: the call broke down") ∧
    start.resolve.2.resolver = resolver ∧
    (∀ earlier < 2, ¬(start.run (List.replicate earlier .resolve)).Succeeds) ∧
    retried.network.total = 4 ∧
    retried.resolve.2.resolver = only.resolve.2.resolver ∧
    ∃ stats, retried.resolve.1 = .ok stats ∧ only.resolve.1 = .ok stats ∧
      stats.keysSent = 2 ∧ stats.keysResolved = 2 := by
  intro resolver india california breakdown refusal start only retried
  obtain ⟨failed, received, left⟩ := resolve_twoCodes_of_error ["isoCode", "geoId"] india
    breakdown [refusal, california, india, california] [] 0 rfl
  obtain ⟨failedAgain, receivedAgain, leftAgain⟩ := resolve_twoCodes_of_error
    ["isoCode", "geoId"] refusal california [india, california] received 2 rfl
  have twice : retried = ⟨resolver, .scripted ⟨[india, california], receivedAgain⟩ 4⟩ :=
    (congrArg (fun once => (once.after .resolve)) left).trans leftAgain
  have failing : ∀ earlier < 2, ¬(start.run (List.replicate earlier .resolve)).Succeeds := by
    intro earlier before
    cases earlier with
    | zero => exact not_succeeds_of_error failed
    | succ earlier =>
        obtain rfl : earlier = 0 := by omega
        have once : start.run (List.replicate 1 .resolve) = start.resolve.2 := rfl
        rw [once, left]
        exact not_succeeds_of_error failedAgain
  have calls (requests : List Request) (counted : Nat) :=
    (Resolver.launch_twoCodes ["isoCode", "geoId"] india california [] requests counted).1
  have alike : (retried.resolver.calls retried.network).Alike (resolver.calls only.network) := by
    rw [twice, calls receivedAgain 4, calls [] 0]
    exact .entities rfl
  obtain ⟨-, atomic, again⟩ := failed_passes_leave_no_trace start
  obtain ⟨same, summaries⟩ := again 2 only.network failing alike
  have answered : (resolver.calls only.network).Answered
      (.entities (india.entities ++ california.entities)) := by
    rw [calls [] 0]
    exact Calls.answered_scripted rfl rfl
  have succeeded : only.resolve.1 = .ok (resolver.statsOf _) :=
    resolve_eq_ok_iff.mpr ⟨_, answered, rfl⟩
  refine ⟨failed, (atomic _ failed).1, failing, ?_, same, _, (summaries _).mpr succeeded,
    succeeded, ?_, rfl⟩
  · rw [twice]
    rfl
  · exact congrArg List.length (Resolver.pending_twoCodes ["isoCode", "geoId"])

end Deployment

end IdResolution
