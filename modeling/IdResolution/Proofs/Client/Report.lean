import IdResolution.Client.Report
import IdResolution.Proofs.Gathering

/-!
# The calls of a request and their reports

A request makes one call for each of its chunks, whatever becomes of the calls.  It
succeeds exactly when all calls are answered, with the answers joined in the order
of the chunks; otherwise its error is that of the call which breaks the gathering.
-/

namespace IdResolution

variable {σ α β : Type}

/-! ## Calls in order -/

/-- The state of a service after calls for some chunks, one after the other. -/
def Service.afterCalls [Service σ] (operation : Operation α β) (chunks : List (List α))
    (service : σ) : σ :=
  chunks.foldl (fun state chunk => (Service.call operation chunk state).2) service

/-- One call was made for each chunk, in the order of the chunks: each report is of
the call for the chunk at its position, made when the calls for all chunks before it
and no others had reached the service. -/
structure CalledInOrder [Service σ] (operation : Operation α β) (chunks : List (List α))
    (service : σ) (reports : List (Report β)) (after : σ) : Prop where
  length : reports.length = chunks.length
  report : ∀ index chunk, chunks[index]? = some chunk →
    reports[index]? = some (Report.mk chunk.length
      (Service.call operation chunk
        (Service.afterCalls operation (chunks.take index) service)).1)
  final : after = Service.afterCalls operation chunks service

/-- Calls are made for all chunks in turn, whether or not some of them fail. -/
theorem callEach_calledInOrder [Service σ] (operation : Operation α β)
    (chunks : List (List α)) (service : σ) :
    CalledInOrder operation chunks service (callEach operation chunks service).1
      (callEach operation chunks service).2 := by
  induction chunks generalizing service with
  | nil => exact ⟨rfl, by simp, rfl⟩
  | cons chunk rest ih =>
      have others := ih (Service.call operation chunk service).2
      constructor
      · simp only [callEach, List.length_cons, others.length]
      · intro index called found
        cases index with
        | zero =>
            cases found
            rfl
        | succ index =>
            rw [List.getElem?_cons_succ] at found
            exact others.report index called found
      · exact others.final

/-- Every report is of the call for some chunk. -/
theorem CalledInOrder.exists_chunk [Service σ] {operation : Operation α β}
    {chunks : List (List α)} {service after : σ} {reports : List (Report β)}
    (inOrder : CalledInOrder operation chunks service reports after) {index : Nat}
    {report : Report β} (found : reports[index]? = some report) :
    ∃ chunk, chunks[index]? = some chunk := by
  rcases List.getElem?_eq_some_iff.mp found with ⟨bound, -⟩
  rw [inOrder.length] at bound
  exact ⟨chunks[index], List.getElem?_eq_getElem bound⟩

/-! ## Outcomes -/

/-- The errors that an outcome may lead to; an answer leads to none. -/
inductive Outcome.FailsWith : Outcome β → Error → Prop where
  | failed (cause : CallError) : FailsWith (.failed cause) (.call cause)
  | broken (message : String) : FailsWith .broken (.internal message)

@[simp] theorem Outcome.failed_failsWith_iff {cause : CallError} {error : Error} :
    (Outcome.failed cause : Outcome β).FailsWith error ↔ error = .call cause := by
  constructor
  · intro fails
    cases fails
    rfl
  · intro same
    subst same
    exact .failed cause

namespace Report

theorem failure?_failsWith {report : Report β} {error : Error}
    (failed : report.failure? = some error) :
    report.completion.outcome.FailsWith error := by
  unfold failure? at failed
  split at failed
  · contradiction
  · rename_i cause outcome
    cases failed
    rw [outcome]
    exact .failed cause
  · rename_i outcome
    cases failed
    rw [outcome]
    exact .broken _

theorem failure?_ne_none {report : Report β} {error : Error}
    (fails : report.completion.outcome.FailsWith error) : report.failure? ≠ none := by
  unfold failure?
  cases outcome : report.completion.outcome with
  | answered entries =>
      rw [outcome] at fails
      cases fails
  | failed cause => simp
  | broken => simp

/-- Reports have no failure among them exactly when their outcomes are answers. -/
theorem map_outcome_eq_answered_iff {reports : List (Report β)}
    {responses : List (List β)} :
    reports.map (fun report => report.completion.outcome) = responses.map .answered ↔
      (∀ report ∈ reports, report.failure? = none) ∧
        reports.map entries = responses := by
  induction reports generalizing responses with
  | nil =>
      cases responses with
      | nil => simp
      | cons response others => simp
  | cons report rest ih =>
      cases responses with
      | nil => simp
      | cons response others =>
          simp only [List.map_cons, List.cons.injEq, List.forall_mem_cons, ih]
          cases outcome : report.completion.outcome with
          | answered entries =>
              simp only [failure?, Report.entries, outcome, Outcome.answered.injEq]
              constructor
              · intro paired
                rcases paired with ⟨same, sound, joined⟩
                exact ⟨⟨trivial, sound⟩, same, joined⟩
              · intro paired
                rcases paired with ⟨⟨-, sound⟩, same, joined⟩
                exact ⟨same, sound, joined⟩
          | failed cause => simp [failure?, outcome]
          | broken => simp [failure?, outcome]

/-! ## Results -/

theorem break?_endings_eq_none_iff {reports : List (Report β)} :
    Ending.break? (endings reports) = none ↔ ∀ report ∈ reports, report.failure? = none := by
  rw [Ending.break?_eq_none_iff, endings, List.forall_mem_map]

/-- A request succeeds exactly when every call is answered, with the answers joined
in the order of the calls. -/
theorem result_eq_ok_iff {reports : List (Report β)} {entries : List β} :
    result reports = .ok entries ↔
      ∃ responses : List (List β),
        reports.map (fun report => report.completion.outcome) = responses.map .answered ∧
          entries = responses.flatten := by
  simp only [map_outcome_eq_answered_iff]
  unfold result
  cases broken : Ending.break? (endings reports) with
  | none =>
      have sound := break?_endings_eq_none_iff.mp broken
      simp only [Except.ok.injEq]
      constructor
      · intro joined
        exact ⟨_, ⟨sound, rfl⟩, joined.symm⟩
      · intro answered
        rcases answered with ⟨responses, ⟨-, rfl⟩, rfl⟩
        rfl
  | some decisive =>
      simp only [reduceCtorEq, false_iff]
      intro answered
      rcases answered with ⟨responses, ⟨sound, -⟩, -⟩
      rw [break?_endings_eq_none_iff.mpr sound] at broken
      contradiction

/-- A request fails when its gathering breaks, with the failure that breaks it. -/
theorem result_eq_error_of_break {reports : List (Report β)} {error : Error}
    (broken : (Ending.break? (endings reports)).map Break.failure = some error) :
    result reports = .error error := by
  rcases Option.map_eq_some_iff.mp broken with ⟨decisive, found, rfl⟩
  rw [result, found]

/-- An error of a request is that of a call, and no failing call precedes it. -/
def DecidedBy (precedes : Nat × Nat → Nat × Nat → Prop) (reports : List (Report β))
    (error : Error) : Prop :=
  ∃ index report, reports[index]? = some report ∧
    report.completion.outcome.FailsWith error ∧
    ∀ other rival, reports[other]? = some rival →
      (∃ cause, rival.completion.outcome.FailsWith cause) →
      ¬precedes (rival.completion.time, other) (report.completion.time, index)

/-- A request that fails does so with the error of the call that counts before all
others that fail. -/
theorem result_eq_error {reports : List (Report β)} {error : Error}
    (failed : result reports = .error error) :
    DecidedBy (CountsBefore reports.length) reports error := by
  unfold result at failed
  cases broken : Ending.break? (endings reports) with
  | none =>
      rw [broken] at failed
      contradiction
  | some decisive =>
      rw [broken] at failed
      cases failed
      rcases Ending.break?_first broken with ⟨time, decides⟩
      simp only [endings, List.length_map] at decides
      have failing := decides.fails
      simp only [List.getElem?_map, Option.map_eq_some_iff, Ending.mk.injEq] at failing
      rcases failing with ⟨report, found, rfl, failure⟩
      refine ⟨decisive.index, report, found, failure?_failsWith failure, ?_⟩
      rintro other rival rivalFound ⟨cause, fails⟩
      apply decides.first other ⟨rival.completion.time, rival.failure?⟩
      · rw [List.getElem?_map, rivalFound, Option.map_some]
      · exact failure?_ne_none fails

end Report

end IdResolution
