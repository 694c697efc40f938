import IdResolution.Error
import IdResolution.Message.Basic

/-!
# Services

A service answers calls.  A call ends in one of three ways at some time after it
started, and may change the state of the service; calls reach a service in the
order in which they start.
-/

namespace IdResolution

/-- How a call ends. -/
inductive Outcome (β : Type) where
  | answered (entries : List β)
  | failed (cause : CallError)
  /-- The call broke down without an answer or a cause. -/
  | broken
  deriving DecidableEq, Repr

/-- The end of a call, with the milliseconds from its start. -/
structure Completion (β : Type) where
  time : Nat := 0
  outcome : Outcome β
  deriving DecidableEq, Repr

/-- States of a service that answers calls. -/
class Service (σ : Type) where
  /-- Start a call with the given items. -/
  call {α β : Type} : Operation α β → List α → σ → Completion β × σ

/-- A request as a service receives it. -/
inductive Request where
  | coordinates (request : CoordinatesRequest)
  | entities (request : EntitiesRequest)
  deriving DecidableEq, Repr

/-- The request of a call. -/
def Request.ofCall {α β : Type} : Operation α β → List α → Request
  | .coordinates, items => .coordinates ⟨items⟩
  | .entities, items => .entities ⟨items⟩

/-- Services that keep account of what they have received. -/
class Recording (σ : Type) where
  /-- The number of calls received. -/
  calls : σ → Nat
  /-- The sizes of the requests received, in ascending order, if they are kept. -/
  sizes? : σ → Option (List Nat)
  /-- The requests received, in order, as far as they are kept. -/
  requests : σ → List Request

end IdResolution
