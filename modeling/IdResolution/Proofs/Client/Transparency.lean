import IdResolution.Proofs.Service.InMemory

/-!
# Chunks do not show

Over a service in memory, a request in chunks of any size comes to the same as one
call with all its items: it succeeds in the same cases and with the same entries.
Its error names a failing key, and when no key is delayed it is the very error of
the one call, that of the first failing key.
-/

namespace IdResolution

variable {σ α β : Type} [Service σ] [InMemory σ]

namespace InMemory

/-- A request for sound addresses is answered item by item. -/
theorem result_callChunked_of_sound (operation : Operation α β) (size : Nat)
    {items : List α} {service : σ}
    (sound : ∀ item ∈ items, (tables service).isFailing (operation.asks item) = false) :
    Report.result (callChunked operation size items service).1 =
      .ok (items.map ((tables service).entry operation)) := by
  rw [Report.result_eq_ok_iff]
  refine ⟨(partition size items).map (List.map ((tables service).entry operation)), ?_, ?_⟩
  · rw [callChunked, callEach_reports, List.map_map, List.map_map]
    apply List.map_congr_left
    intro chunk chunkMember
    apply Tables.outcome_answer_eq_answered_iff.mpr
    refine ⟨?_, rfl⟩
    intro item member
    exact sound item ((mem_partition_iff size).mp ⟨chunk, chunkMember, member⟩)
  · rw [← List.map_flatten, flatten_partition]

/-- A request succeeds exactly when none of its items asks for a failing address, and
then every item is answered by its own entry. -/
theorem result_callChunked_eq_ok_iff {operation : Operation α β} {size : Nat}
    {items : List α} {service : σ} {entries : List β} :
    Report.result (callChunked operation size items service).1 = .ok entries ↔
      (∀ item ∈ items, (tables service).isFailing (operation.asks item) = false) ∧
        entries = items.map ((tables service).entry operation) := by
  constructor
  · intro succeeded
    have sound : ∀ item ∈ items,
        (tables service).isFailing (operation.asks item) = false := by
      intro item member
      rcases (mem_partition_iff size).mpr member with ⟨chunk, chunkMember, itemMember⟩
      rcases Report.result_eq_ok_iff.mp succeeded with ⟨responses, outcomes, -⟩
      rw [callChunked, callEach_reports, List.map_map] at outcomes
      have answered : ((tables service).answer operation chunk).outcome ∈
          responses.map .answered := by
        rw [← outcomes]
        exact List.mem_map.mpr ⟨chunk, chunkMember, rfl⟩
      rcases List.mem_map.mp answered with ⟨response, -, same⟩
      exact (Tables.outcome_answer_eq_answered_iff.mp same.symm).1 item itemMember
    rw [result_callChunked_of_sound operation size sound] at succeeded
    cases succeeded
    exact ⟨sound, rfl⟩
  · intro sound
    rcases sound with ⟨sound, rfl⟩
    exact result_callChunked_of_sound operation size sound

/-- A request that fails names a failing address that it asks for. -/
theorem exists_failing_of_result_callChunked {operation : Operation α β} {size : Nat}
    {items : List α} {service : σ} {error : Error}
    (failed : Report.result (callChunked operation size items service).1 = .error error) :
    ∃ item ∈ items, (tables service).isFailing (operation.asks item) = true ∧
      error = .call (Tables.failureFor (operation.asks item)) := by
  rcases Report.result_eq_error failed with ⟨index, report, found, fails, -⟩
  rw [callChunked, callEach_reports] at found
  rcases List.mem_map.mp (List.mem_of_getElem? found) with ⟨chunk, chunkMember, rfl⟩
  cases outcome : ((tables service).answer operation chunk).outcome with
  | answered entries =>
      simp only [outcome] at fails
      cases fails
  | failed cause =>
      simp only [outcome, Outcome.failed_failsWith_iff] at fails
      rcases Tables.outcome_answer_eq_failed_iff.mp outcome with ⟨item, first, rfl⟩
      have member := List.mem_of_find?_eq_some first
      exact ⟨item, (mem_partition_iff size).mp ⟨chunk, chunkMember, member⟩,
        List.find?_some (p := fun item => (tables service).isFailing _) first, fails⟩
  | broken =>
      rw [Tables.outcome_answer] at outcome
      split at outcome <;> contradiction

/-- A request that asks for no delayed address fails because of the first failing
address of all. -/
theorem result_callChunked_of_undelayed (operation : Operation α β) (size : Nat)
    {items : List α} {service : σ} {failing : α}
    (undelayed : ∀ item ∈ items, (tables service).delayOf (operation.asks item) = 0)
    (first : items.find? (fun item => (tables service).isFailing (operation.asks item)) =
      some failing) :
    Report.result (callChunked operation size items service).1 =
      .error (.call (Tables.failureFor (operation.asks failing))) := by
  have whole := congrArg
    (Option.map fun item => Error.call (Tables.failureFor (operation.asks item))) first
  rw [← flatten_partition size items, List.find?_flatten, List.map_findSome?] at whole
  apply Report.result_eq_error_of_break
  rw [callChunked, callEach_reports, Report.endings, List.map_map]
  rw [Ending.break?_of_simultaneous 0]
  · rw [List.findSome?_map]
    simp only [Function.comp_def, Tables.failure?_answer]
    exact whole
  · intro ending member
    rcases List.mem_map.mp member with ⟨chunk, chunkMember, rfl⟩
    apply Tables.time_answer_eq_zero
    intro item itemMember
    exact undelayed item ((mem_partition_iff size).mp ⟨chunk, chunkMember, itemMember⟩)

/-- Without delays, a request fails exactly as the one call with all its items. -/
theorem result_callChunked_eq_error_iff {operation : Operation α β} {size : Nat}
    {items : List α} {service : σ} {error : Error}
    (undelayed : ∀ item ∈ items, (tables service).delayOf (operation.asks item) = 0) :
    Report.result (callChunked operation size items service).1 = .error error ↔
      ∃ cause, ((tables service).answer operation items).outcome = .failed cause ∧
        error = .call cause := by
  simp only [Tables.outcome_answer_eq_failed_iff]
  cases first : items.find? fun item => (tables service).isFailing (operation.asks item) with
  | none =>
      have sound := List.find?_eq_none.mp first
      simp only [Bool.not_eq_true] at sound
      rw [result_callChunked_of_sound operation size sound]
      simp
  | some failing =>
      rw [result_callChunked_of_undelayed operation size undelayed first]
      simp [eq_comm]

end InMemory

/-- A request in chunks over a service in memory succeeds exactly when one call with all
its items does, and both give one entry for each item, in order, that echoes its key
and names the registered candidates.  Without delays both fail alike, naming the first
failing key; in any case the error of the request names a failing key. -/
theorem chunked_agrees_with_whole (operation : Operation α β) (size : Nat)
    (items : List α) (service : σ) :
    let tables := InMemory.tables service
    let chunked := Report.result (callChunked operation size items service).1
    let whole := (Service.call operation items service).1.outcome
    (∀ entries, chunked = .ok entries ↔ whole = .answered entries) ∧
    (∀ entries, chunked = .ok entries →
      entries.map operation.answers = items.map operation.asks ∧
        entries.map operation.candidates =
          items.map fun item => tables.registered (operation.asks item)) ∧
    ((∀ item ∈ items, tables.delayOf (operation.asks item) = 0) →
      ∀ error, chunked = .error error ↔ ∃ cause, whole = .failed cause ∧ error = .call cause) ∧
    (∀ cause, whole = .failed cause →
      ∃ item, items.find? (fun item => tables.isFailing (operation.asks item)) = some item ∧
        cause = Tables.failureFor (operation.asks item)) ∧
    ∀ error, chunked = .error error →
      ∃ item ∈ items, tables.isFailing (operation.asks item) = true ∧
        error = .call (Tables.failureFor (operation.asks item)) := by
  intro tables chunked whole
  have wholeOutcome : whole = (tables.answer operation items).outcome :=
    congrArg Completion.outcome (InMemory.call_completion operation items service)
  rw [wholeOutcome]
  refine ⟨?_, ?_, ?_, ?_, ?_⟩
  · intro entries
    rw [Tables.outcome_answer_eq_answered_iff]
    exact InMemory.result_callChunked_eq_ok_iff
  · intro entries succeeded
    rcases InMemory.result_callChunked_eq_ok_iff.mp succeeded with ⟨-, rfl⟩
    constructor
    · rw [List.map_map]
      exact List.map_congr_left fun item _ => Tables.answers_entry tables operation item
    · rw [List.map_map]
      exact List.map_congr_left fun item _ => Tables.candidates_entry tables operation item
  · intro undelayed error
    exact InMemory.result_callChunked_eq_error_iff undelayed
  · intro cause failed
    exact Tables.outcome_answer_eq_failed_iff.mp failed
  · intro error failed
    exact InMemory.exists_failing_of_result_callChunked failed

/-- A place is known, one is slow, and one fails.  A request in two chunks that asks for the
first two is answered like one call, and one that asks for the last fails like it. -/
theorem chunked_agrees_with_whole_about_failing_place :
    let known : Coordinate := ⟨.ofDecimal false 5 (-1), .ofDecimal false 25 (-2)⟩
    let slow : Coordinate := ⟨.ofDecimal false 6 (-1), .ofDecimal false 25 (-2)⟩
    let failing : Coordinate := ⟨.ofDecimal false 7 (-1), .ofDecimal false 25 (-2)⟩
    let tables : Tables :=
      { places := .ofList [(known, ["country/AUT"])]
        failingCoordinates := .ofList [failing]
        delays := .ofList [(slow, 5)] }
    let chunked (items : List Coordinate) :=
      Report.result (callChunked Operation.coordinates 2 items tables).1
    let whole (items : List Coordinate) :=
      (Service.call Operation.coordinates items tables).1.outcome
    (∃ entries, chunked [known, slow, known] = .ok entries ∧
      whole [known, slow, known] = .answered entries ∧
      entries.map PlaceEntry.coordinate = [known, slow, known] ∧
      entries.map PlaceEntry.candidates = [["country/AUT"], [], ["country/AUT"]]) ∧
    whole [known, known, known, failing] = .failed (Tables.injectedFailure failing.label) ∧
    chunked [known, known, known, failing] =
      .error (.call (Tables.injectedFailure failing.label)) := by
  intro known slow failing tables chunked whole
  have failingApart : failing ≠ known ∧ failing ≠ slow := by decide +kernel
  have slowApart : slow ≠ known ∧ slow ≠ failing := by decide +kernel
  constructor
  · obtain ⟨alike, brings, -⟩ := chunked_agrees_with_whole Operation.coordinates 2
      [known, slow, known] tables
    have answered : whole [known, slow, known] =
        .answered ([known, slow, known].map tables.placeEntry) := by
      apply Tables.outcome_answer_eq_answered_iff.mpr
      refine ⟨?_, rfl⟩
      simp [tables, Tables.isFailing, Operation.asks, failingApart]
    have succeeded := (alike _).mpr answered
    refine ⟨_, succeeded, answered, rfl, (brings _ succeeded).2.trans ?_⟩
    simp [tables, InMemory.tables, Tables.registered, Operation.asks, Std.HashMap.getD_insert,
      slowApart.1.symm]
  · obtain ⟨-, -, undelayed, -⟩ := chunked_agrees_with_whole Operation.coordinates 2
      [known, known, known, failing] tables
    have failed : whole [known, known, known, failing] =
        .failed (Tables.injectedFailure failing.label) := by
      apply Tables.outcome_answer_eq_failed_iff.mpr
      refine ⟨failing, ?_, rfl⟩
      simp [tables, Tables.isFailing, Operation.asks, failingApart]
    refine ⟨failed, (undelayed ?_ _).mpr ⟨_, failed, rfl⟩⟩
    simp [tables, InMemory.tables, Tables.delayOf, Operation.asks, Std.HashMap.getD_insert,
      slowApart]

end IdResolution
