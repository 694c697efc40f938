/-!
# Gathering

Tasks run side by side, and their ends are gathered into one: a success when all
succeed, and otherwise the end of the gathering by one failure.  Up to thirty
tasks are watched together, so that the failure that comes first decides.  More
tasks are heard one after the other: the foremost failure decides, and it is heard
once all tasks before it have ended.
-/

namespace IdResolution

variable {ε : Type}

/-- When a task ends, and its failure if it fails. -/
structure Ending (ε : Type) where
  time : Nat
  failure : Option ε
  deriving DecidableEq, Repr

/-- The failure by which a gathering ends: when it is heard, the position of its
task, and the failure itself. -/
structure Break (ε : Type) where
  time : Nat
  index : Nat
  failure : ε
  deriving DecidableEq, Repr

/-- The most tasks that are watched together. -/
def watchedTogether : Nat := 30

namespace Ending

/-- The break by the failure that comes first; of failures at the same time, by the
foremost.  The tasks stand from the given position on. -/
def earliest? : Nat → List (Ending ε) → Option (Break ε)
  | _, [] => none
  | index, ending :: rest =>
      match ending.failure, earliest? (index + 1) rest with
      | none, later => later
      | some failure, none => some ⟨ending.time, index, failure⟩
      | some failure, some later =>
          if later.time < ending.time then some later
          else some ⟨ending.time, index, failure⟩

/-- The break by the foremost failure, heard when the tasks up to it have all
ended.  The tasks stand from the given position on, and those before have ended by
the given time. -/
def foremost? : Nat → Nat → List (Ending ε) → Option (Break ε)
  | _, _, [] => none
  | index, endedBy, ending :: rest =>
      match ending.failure with
      | none => foremost? (index + 1) (max endedBy ending.time) rest
      | some failure => some ⟨max endedBy ending.time, index, failure⟩

/-- The break that ends a gathering, if a task fails. -/
def break? (endings : List (Ending ε)) : Option (Break ε) :=
  if endings.length ≤ watchedTogether then earliest? 0 endings else foremost? 0 0 endings

/-- When the outcome of a gathering is known: with its break, or else with the last
end of a task. -/
def knownAt (endings : List (Ending ε)) : Nat :=
  match break? endings with
  | some decisive => decisive.time
  | none => endings.foldl (fun latest ending => max latest ending.time) 0

end Ending

/-- Whether an end at a given time, of the task at a given position, is taken notice
of before the gathering breaks, or is the break itself. -/
def Break.notices (decisive : Break ε) (time index : Nat) : Bool :=
  time < decisive.time || (time == decisive.time && index ≤ decisive.index)

end IdResolution
