import IdResolution.Client.Report

/-!
# Warnings

What is logged for an operator's attention.  A warning keeps its causes;
`Warning.fields` gives the texts that a log entry consists of.
-/

namespace IdResolution

/-- What a resolver's keys are. -/
inductive KeyKind where
  | coordinates
  | externalIds
  deriving DecidableEq, Repr

namespace KeyKind

/-- The name of a resolver for keys of this kind. -/
def name : KeyKind → String
  | .coordinates => "coordinates"
  | .externalIds => "external_ids"

/-- The wording of a pass that failed. -/
def failureMessage : KeyKind → String
  | .coordinates => "coordinate resolution failed"
  | .externalIds => "external id resolution failed"

end KeyKind

/-- An external id that was answered, with its first candidate. -/
structure Answered where
  sourceId : String
  dcid : String
  deriving DecidableEq, Repr

/-- An event that is logged as a warning. -/
inductive Warning where
  /-- Two external ids of a node are answered by different entities. -/
  | conflict (node : String) (first conflicting : Answered)
  /-- The call for one chunk of a request failed. -/
  | chunkFailed (operation : String) (chunk size : Nat) (cause : CallError)
  /-- A resolve pass failed. -/
  | passFailed (kind : KeyKind) (keys : Nat) (error : Error)
  deriving DecidableEq, Repr

/-- The named texts of a log entry. -/
def Warning.fields : Warning → List (String × String)
  | .conflict node first conflicting =>
      [("message", "external ids resolve to different entities"), ("node", node),
       ("first", first.sourceId), ("first_dcid", first.dcid),
       ("conflicting", conflicting.sourceId), ("conflicting_dcid", conflicting.dcid)]
  | .chunkFailed operation chunk size cause =>
      [("message", "chunk failed"), ("operation", operation), ("chunk", toString chunk),
       ("size", toString size), ("error", cause.message)]
  | .passFailed kind keys error =>
      [("message", kind.failureMessage), ("keys", toString keys),
       ("error", error.message)]

/-- A warning with the time at which it is logged. -/
abbrev TimedWarning := Nat × Warning

/-- The warning for the chunk at a given position, if its call failed with a cause. -/
def Report.warning? {α β : Type} (operation : Operation α β) (chunk : Nat)
    (report : Report β) : Option TimedWarning :=
  match report.completion.outcome with
  | .failed cause =>
      some (report.completion.time,
        .chunkFailed operation.name chunk report.size cause)
  | _ => none

/-- The warnings for the chunks of a request, in the order of the chunks. -/
def Report.warnings {α β : Type} (operation : Operation α β)
    (reports : List (Report β)) : List TimedWarning :=
  reports.zipIdx.filterMap fun indexed => indexed.1.warning? operation indexed.2

/-- Warnings in the order of their times; those at the same time stay in order. -/
def byTime (warnings : List TimedWarning) : List TimedWarning :=
  warnings.mergeSort fun first second => first.1 ≤ second.1

end IdResolution
