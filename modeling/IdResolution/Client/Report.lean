import IdResolution.Client.Partition
import IdResolution.Gathering
import IdResolution.Service.Basic

/-!
# Chunked requests

A request of any size is sent as one call for each of its chunks.  All calls are
started in the order of the chunks, and every one runs to its end.  The request
succeeds when all calls do, with the entries in the order of the chunks; otherwise
it fails with the error that breaks the gathering of its calls.
-/

namespace IdResolution

/-- A call for one chunk, with the number of its items. -/
structure Report (β : Type) where
  size : Nat
  completion : Completion β
  deriving DecidableEq, Repr

/-- Start a call for each chunk in turn. -/
def callEach {σ α β : Type} [Service σ] (operation : Operation α β) :
    List (List α) → σ → List (Report β) × σ
  | [], service => ([], service)
  | chunk :: rest, service =>
      let started := Service.call operation chunk service
      let others := callEach operation rest started.2
      (⟨chunk.length, started.1⟩ :: others.1, others.2)

/-- Send a request in chunks of at most `size` items. -/
def callChunked {σ α β : Type} [Service σ] (operation : Operation α β) (size : Nat)
    (items : List α) (service : σ) : List (Report β) × σ :=
  callEach operation (partition size items) service

namespace Report

variable {β : Type}

/-- The entries that a call answered. -/
def entries (report : Report β) : List β :=
  match report.completion.outcome with
  | .answered entries => entries
  | _ => []

/-- The error that a call leads to. -/
def failure? (report : Report β) : Option Error :=
  match report.completion.outcome with
  | .answered _ => none
  | .failed cause => some (.call cause)
  | .broken => some (.internal "chunk task failed: the call broke down")

/-- The ends of the calls of a request. -/
def endings (reports : List (Report β)) : List (Ending Error) :=
  reports.map fun report => ⟨report.completion.time, report.failure?⟩

/-- The result of a request whose calls ended as reported. -/
def result (reports : List (Report β)) : Except Error (List β) :=
  match Ending.break? (endings reports) with
  | some decisive => .error decisive.failure
  | none => .ok (reports.flatMap entries)

/-- When the result of a request is known. -/
def finishedAt (reports : List (Report β)) : Nat :=
  Ending.knownAt (endings reports)

end Report

end IdResolution
