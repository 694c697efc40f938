import IdResolution.Gathering

/-!
# Which failure breaks a gathering

A gathering breaks exactly when some task fails.  Tasks that are watched together
break by the failure that is least by its time and then by its position; a longer
row of tasks breaks by the failure that stands foremost, whatever the times.  When
all tasks end at the same time, both rules choose the same failure.
-/

namespace IdResolution

variable {ε : Type}

/-- Of two ends, each given by its time and the position of its task, the first is
the earlier one; at the same time, the one whose task stands in front. -/
def EndsBefore (first second : Nat × Nat) : Prop :=
  first.1 < second.1 ∨ (first.1 = second.1 ∧ first.2 < second.2)

/-- Of two ends, each given by its time and the position of its task, the first is
that of the task in front. -/
def StandsBefore (first second : Nat × Nat) : Prop :=
  first.2 < second.2

/-- The order that decides among the failures of a number of tasks. -/
def CountsBefore (tasks : Nat) : Nat × Nat → Nat × Nat → Prop :=
  if tasks ≤ watchedTogether then EndsBefore else StandsBefore

namespace Ending

/-- The task at a position fails at a time, and no other failure in the row
precedes that one. -/
structure FirstFailure (precedes : Nat × Nat → Nat × Nat → Prop)
    (endings : List (Ending ε)) (index time : Nat) (failure : ε) : Prop where
  fails : endings[index]? = some ⟨time, some failure⟩
  first : ∀ other rival, endings[other]? = some rival → rival.failure ≠ none →
    ¬precedes (rival.time, other) (time, index)

/-- A first failure stays first behind a task that does not fail before it. -/
theorem FirstFailure.cons {precedes : Nat × Nat → Nat × Nat → Prop}
    (shift : ∀ {time rival index other},
      precedes (time, index + 1) (rival, other + 1) → precedes (time, index) (rival, other))
    {ending : Ending ε} {endings : List (Ending ε)} {index time : Nat} {failure : ε}
    (decides : FirstFailure precedes endings index time failure)
    (head : ending.failure ≠ none → ¬precedes (ending.time, 0) (time, index + 1)) :
    FirstFailure precedes (ending :: endings) (index + 1) time failure := by
  constructor
  · rw [List.getElem?_cons_succ]
    exact decides.fails
  · intro other rival found fails before
    cases other with
    | zero =>
        cases found
        exact head fails before
    | succ other =>
        rw [List.getElem?_cons_succ] at found
        exact decides.first other rival found fails (shift before)

/-- A task that fails at the head of a row is first unless one behind it precedes. -/
theorem FirstFailure.head {precedes : Nat × Nat → Nat × Nat → Prop}
    {ending : Ending ε} {endings : List (Ending ε)} {failure : ε}
    (irreflexive : ¬precedes (ending.time, 0) (ending.time, 0))
    (failed : ending.failure = some failure)
    (tail : ∀ other rival, endings[other]? = some rival → rival.failure ≠ none →
      ¬precedes (rival.time, other + 1) (ending.time, 0)) :
    FirstFailure precedes (ending :: endings) 0 ending.time failure := by
  constructor
  · rw [List.getElem?_cons_zero, ← failed]
  · intro other rival found fails
    cases other with
    | zero =>
        cases found
        exact irreflexive
    | succ other =>
        rw [List.getElem?_cons_succ] at found
        exact tail other rival found fails

theorem not_endsBefore_self (place : Nat × Nat) : ¬EndsBefore place place := by
  simp [EndsBefore]

/-! ## Tasks that are watched together -/

theorem earliest?_eq_none_iff {start : Nat} {endings : List (Ending ε)} :
    earliest? start endings = none ↔ ∀ ending ∈ endings, ending.failure = none := by
  induction endings generalizing start with
  | nil => simp [earliest?]
  | cons ending rest ih =>
      rw [List.forall_mem_cons, ← @ih (start + 1), earliest?]
      cases ending.failure with
      | none => simp
      | some failure =>
          cases earliest? (start + 1) rest with
          | none => simp
          | some later =>
              simp only [reduceCtorEq, false_and, iff_false]
              split <;> simp

/-- Watched together, the failure that ends first decides. -/
theorem earliest?_first {start : Nat} {endings : List (Ending ε)} {decisive : Break ε}
    (found : earliest? start endings = some decisive) :
    ∃ index, decisive.index = start + index ∧
      FirstFailure EndsBefore endings index decisive.time decisive.failure := by
  induction endings generalizing start decisive with
  | nil => simp [earliest?] at found
  | cons ending rest ih =>
      have shift : ∀ {time rival index other}, EndsBefore (time, index + 1) (rival, other + 1) →
          EndsBefore (time, index) (rival, other) := by
        intro time rival index other before
        simp only [EndsBefore] at before ⊢
        omega
      rw [earliest?] at found
      cases failed : ending.failure with
      | none =>
          rw [failed] at found
          rcases ih found with ⟨index, position, decides⟩
          refine ⟨index + 1, by omega, decides.cons shift ?_⟩
          intro fails
          exact absurd failed fails
      | some failure =>
          rw [failed] at found
          cases later : earliest? (start + 1) rest with
          | none =>
              rw [later] at found
              cases found
              refine ⟨0, rfl, .head (not_endsBefore_self _) failed ?_⟩
              intro other rival at? fails
              have member := List.mem_of_getElem? at?
              exact absurd (earliest?_eq_none_iff.mp later rival member) fails
          | some first =>
              rw [later] at found
              rcases ih later with ⟨index, position, decides⟩
              simp only at found
              split at found
              · rename_i sooner
                cases found
                refine ⟨index + 1, by omega, decides.cons shift ?_⟩
                intro fails
                simp only [EndsBefore]
                omega
              · rename_i notSooner
                cases found
                refine ⟨0, rfl, .head (not_endsBefore_self _) failed ?_⟩
                intro other rival at? fails
                have notBefore := decides.first other rival at? fails
                simp only [EndsBefore] at notBefore ⊢
                omega

/-! ## Tasks that are heard one after the other -/

theorem foremost?_eq_none_iff {start endedBy : Nat} {endings : List (Ending ε)} :
    foremost? start endedBy endings = none ↔ ∀ ending ∈ endings, ending.failure = none := by
  induction endings generalizing start endedBy with
  | nil => simp [foremost?]
  | cons ending rest ih =>
      rw [List.forall_mem_cons, foremost?]
      cases ending.failure with
      | none => simp [ih]
      | some failure => simp

/-- Heard one after the other, the failure that stands foremost decides. -/
theorem foremost?_first {start endedBy : Nat} {endings : List (Ending ε)}
    {decisive : Break ε} (found : foremost? start endedBy endings = some decisive) :
    ∃ index time, decisive.index = start + index ∧
      FirstFailure StandsBefore endings index time decisive.failure := by
  induction endings generalizing start endedBy with
  | nil => simp [foremost?] at found
  | cons ending rest ih =>
      rw [foremost?] at found
      cases failed : ending.failure with
      | none =>
          rw [failed] at found
          rcases ih found with ⟨index, time, position, decides⟩
          refine ⟨index + 1, time, by omega, decides.cons ?_ ?_⟩
          · intro time rival index other before
            exact Nat.lt_of_succ_lt_succ before
          · intro fails
            exact absurd failed fails
      | some failure =>
          rw [failed] at found
          cases found
          refine ⟨0, ending.time, rfl, .head (Nat.lt_irrefl 0) failed ?_⟩
          intro other rival at? fails
          exact Nat.not_lt_zero (other + 1)

/-! ## Gatherings of any size -/

/-- A gathering breaks exactly when a task fails. -/
theorem break?_eq_none_iff {endings : List (Ending ε)} :
    break? endings = none ↔ ∀ ending ∈ endings, ending.failure = none := by
  unfold break?
  split
  · exact earliest?_eq_none_iff
  · exact foremost?_eq_none_iff

/-- A gathering breaks by the failure that counts before all others. -/
theorem break?_first {endings : List (Ending ε)} {decisive : Break ε}
    (found : break? endings = some decisive) :
    ∃ time, FirstFailure (CountsBefore endings.length) endings decisive.index time
      decisive.failure := by
  unfold break? at found
  unfold CountsBefore
  split at found
  · rename_i few
    rcases earliest?_first found with ⟨index, position, decides⟩
    rw [if_pos few, position, Nat.zero_add]
    exact ⟨decisive.time, decides⟩
  · rename_i many
    rcases foremost?_first found with ⟨index, time, position, decides⟩
    rw [if_neg many, position, Nat.zero_add]
    exact ⟨time, decides⟩

theorem earliest?_of_simultaneous {start time : Nat} {endings : List (Ending ε)}
    (same : ∀ ending ∈ endings, ending.time = time) :
    (earliest? start endings).map Break.failure = endings.findSome? Ending.failure := by
  induction endings generalizing start with
  | nil => rfl
  | cons ending rest ih =>
      rw [List.forall_mem_cons] at same
      have later := @ih (start + 1) same.2
      rw [earliest?, List.findSome?_cons]
      cases ending.failure with
      | none => exact later
      | some failure =>
          cases found : earliest? (start + 1) rest with
          | none => rfl
          | some first =>
              rcases earliest?_first found with ⟨index, position, decides⟩
              have firstTime := same.2 _ (List.mem_of_getElem? decides.fails)
              have notSooner : ¬first.time < ending.time := by
                rw [same.1]
                exact Nat.not_lt.mpr (Nat.le_of_eq firstTime.symm)
              simp only [if_neg notSooner, Option.map_some]

theorem foremost?_failure {start endedBy : Nat} {endings : List (Ending ε)} :
    (foremost? start endedBy endings).map Break.failure =
      endings.findSome? Ending.failure := by
  induction endings generalizing start endedBy with
  | nil => rfl
  | cons ending rest ih =>
      rw [foremost?, List.findSome?_cons]
      cases ending.failure with
      | none => exact ih
      | some failure => rfl

/-- Of tasks that all end at the same time, the first one that fails breaks the
gathering, however many they are. -/
theorem break?_of_simultaneous (time : Nat) {endings : List (Ending ε)}
    (same : ∀ ending ∈ endings, ending.time = time) :
    (break? endings).map Break.failure = endings.findSome? Ending.failure := by
  unfold break?
  split
  · exact earliest?_of_simultaneous same
  · exact foremost?_failure

theorem foremost?_time_of_simultaneous {start endedBy time : Nat}
    {endings : List (Ending ε)} {decisive : Break ε} (before : endedBy ≤ time)
    (same : ∀ ending ∈ endings, ending.time = time)
    (found : foremost? start endedBy endings = some decisive) : decisive.time = time := by
  induction endings generalizing start endedBy with
  | nil => simp [foremost?] at found
  | cons ending rest ih =>
      rw [List.forall_mem_cons] at same
      rw [foremost?] at found
      cases failed : ending.failure with
      | none =>
          rw [failed] at found
          exact ih (Nat.max_le.mpr ⟨before, Nat.le_of_eq same.1⟩) same.2 found
      | some failure =>
          rw [failed] at found
          cases found
          rw [same.1]
          exact Nat.max_eq_right before

/-- A gathering of tasks that all end at the same time breaks at that time. -/
theorem break?_time_of_simultaneous {time : Nat} {endings : List (Ending ε)}
    {decisive : Break ε} (same : ∀ ending ∈ endings, ending.time = time)
    (found : break? endings = some decisive) : decisive.time = time := by
  unfold break? at found
  split at found
  · rcases earliest?_first found with ⟨index, -, decides⟩
    exact same _ (List.mem_of_getElem? decides.fails)
  · exact foremost?_time_of_simultaneous (Nat.zero_le time) same found

/-- What becomes of tasks that end at once is known at once. -/
theorem knownAt_of_immediate {endings : List (Ending ε)}
    (immediate : ∀ ending ∈ endings, ending.time = 0) : knownAt endings = 0 := by
  unfold knownAt
  cases found : break? endings with
  | some decisive => exact break?_time_of_simultaneous immediate found
  | none =>
      simp only
      clear found
      induction endings with
      | nil => rfl
      | cons ending rest ih =>
          rw [List.forall_mem_cons] at immediate
          rw [List.foldl_cons, immediate.1]
          exact ih immediate.2

/-- Of tasks that all end at the same time, none before the one that breaks the
gathering fails. -/
theorem failure_eq_none_of_simultaneous {time : Nat} {endings : List (Ending ε)}
    {decisive : Break ε} (same : ∀ ending ∈ endings, ending.time = time)
    (found : break? endings = some decisive) {earlier : Nat} {ending : Ending ε}
    (before : earlier < decisive.index) (at? : endings[earlier]? = some ending) :
    ending.failure = none := by
  rcases break?_first found with ⟨breakTime, decides⟩
  have sameTime := same _ (List.mem_of_getElem? decides.fails)
  have earlierTime := same _ (List.mem_of_getElem? at?)
  cases failed : ending.failure with
  | none => rfl
  | some failure =>
      exfalso
      apply decides.first earlier ending at? (by simp [failed])
      unfold CountsBefore
      split
      · exact Or.inr ⟨earlierTime.trans sameTime.symm, before⟩
      · exact before

/-- A task by itself decides its gathering. -/
theorem break?_singleton (ending : Ending ε) :
    break? [ending] = ending.failure.map fun failure => ⟨ending.time, 0, failure⟩ := by
  have watched : 1 ≤ watchedTogether := by decide
  rw [break?, List.length_singleton, if_pos watched]
  simp only [earliest?]
  cases ending.failure <;> rfl

end Ending

end IdResolution
