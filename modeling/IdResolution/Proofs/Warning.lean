import IdResolution.Warning

/-!
# The warnings of a request

Every call that fails with a cause leaves exactly one warning, which names the
position and the size of its chunk; answered calls and calls that break down leave
none.  Logging in the order of time keeps all warnings and adds none.
-/

namespace IdResolution

variable {α β : Type}

namespace Report

theorem warning?_eq_some_iff {operation : Operation α β} {chunk : Nat} {report : Report β}
    {timed : TimedWarning} :
    report.warning? operation chunk = some timed ↔
      ∃ cause, report.completion.outcome = .failed cause ∧
        timed = (report.completion.time,
          .chunkFailed operation.name chunk report.size cause) := by
  unfold warning?
  cases report.completion.outcome with
  | answered entries => simp
  | failed cause => simp [eq_comm]
  | broken => simp

/-- The warnings of a request are those of its calls that fail with a cause. -/
theorem mem_warnings_iff {operation : Operation α β} {reports : List (Report β)}
    {timed : TimedWarning} :
    timed ∈ warnings operation reports ↔
      ∃ index report cause, reports[index]? = some report ∧
        report.completion.outcome = .failed cause ∧
        timed = (report.completion.time,
          .chunkFailed operation.name index report.size cause) := by
  simp only [warnings, List.mem_filterMap, List.mem_zipIdx_iff_getElem?,
    warning?_eq_some_iff, Prod.exists]
  constructor
  · intro warned
    rcases warned with ⟨report, index, found, cause, failed, same⟩
    exact ⟨index, report, cause, found, failed, same⟩
  · intro listed
    rcases listed with ⟨index, report, cause, found, failed, same⟩
    exact ⟨report, index, found, cause, failed, same⟩

/-- No two calls of a request leave the same warning. -/
theorem nodup_warnings (operation : Operation α β) (reports : List (Report β)) :
    ((warnings operation reports).map Prod.snd).Nodup := by
  have positions : reports.zipIdx.Pairwise fun first second => first.2 ≠ second.2 := by
    apply List.pairwise_map.mp
    rw [List.zipIdx_map_snd]
    exact List.nodup_range'
  apply List.pairwise_map.mpr
  apply List.pairwise_filterMap.mpr
  apply positions.imp
  intro first second apart firstTimed firstFound secondTimed secondFound equal
  rcases warning?_eq_some_iff.mp firstFound with ⟨firstCause, -, rfl⟩
  rcases warning?_eq_some_iff.mp secondFound with ⟨secondCause, -, rfl⟩
  simp only [Warning.chunkFailed.injEq] at equal
  exact apart equal.2.1

/-- What is logged for a request, in the order of time. -/
theorem mem_logged_iff {operation : Operation α β} {reports : List (Report β)}
    {warning : Warning} :
    warning ∈ (byTime (warnings operation reports)).map Prod.snd ↔
      ∃ index report cause, reports[index]? = some report ∧
        report.completion.outcome = .failed cause ∧
        warning = .chunkFailed operation.name index report.size cause := by
  simp only [List.mem_map, byTime, List.mem_mergeSort, mem_warnings_iff]
  constructor
  · intro logged
    rcases logged with ⟨timed, ⟨index, report, cause, found, failed, rfl⟩, rfl⟩
    exact ⟨index, report, cause, found, failed, rfl⟩
  · intro listed
    rcases listed with ⟨index, report, cause, found, failed, rfl⟩
    exact ⟨_, ⟨index, report, cause, found, failed, rfl⟩, rfl⟩

/-- Nothing is logged twice for a request. -/
theorem nodup_logged (operation : Operation α β) (reports : List (Report β)) :
    ((byTime (warnings operation reports)).map Prod.snd).Nodup := by
  have reordered := List.mergeSort_perm (warnings operation reports) fun first second =>
    first.1 ≤ second.1
  exact (reordered.map Prod.snd).nodup_iff.mpr (nodup_warnings operation reports)

end Report

end IdResolution
