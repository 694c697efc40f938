import IdResolution.Service.Basic

/-!
# Scripted services

A service that answers its calls one after the other from a list of prepared
answers, and with empty responses after that.  It keeps the requests it received.
-/

namespace IdResolution

/-- How a scripted call ends when it does not answer. -/
inductive Mishap where
  | fail (cause : CallError)
  | breakDown
  deriving DecidableEq, Repr

/-- A prepared answer: what is sent to either operation, or the mishap that comes
instead. -/
structure ScriptEntry where
  places : List PlaceEntry := []
  entities : List EntityEntry := []
  mishap : Option Mishap := none
  /-- Milliseconds until the call ends. -/
  delay : Nat := 0
  deriving DecidableEq, Repr

/-- The end of a call that is answered by a prepared answer. -/
def ScriptEntry.answer {α β : Type} (entry : ScriptEntry) (operation : Operation α β) :
    Completion β where
  time := entry.delay
  outcome :=
    match entry.mishap, operation with
    | some (.fail cause), _ => .failed cause
    | some .breakDown, _ => .broken
    | none, .coordinates => .answered entry.places
    | none, .entities => .answered entry.entities

/-- A service with the answers it has still to give and the requests it has
received, in order. -/
structure ScriptService where
  script : List ScriptEntry := []
  requests : List Request := []

instance : Service ScriptService where
  call operation items service :=
    ((service.script.headD {}).answer operation,
      { script := service.script.tail,
        requests := service.requests ++ [.ofCall operation items] })

end IdResolution
