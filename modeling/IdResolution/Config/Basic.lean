import IdResolution.Error
import IdResolution.Text.Blank
import IdResolution.Vocabulary

/-!
# Configuration

Where the service is, how it is called, and which properties of a node are
inspected for external ids.
-/

namespace IdResolution

/-- Whole milliseconds have no nanoseconds left beside them. -/
def noNanos : Fin 1000000 := ⟨0, by decide⟩

/-- The settings of a client and of the resolvers on it. -/
structure Config where
  /-- The base URL of the service. -/
  endpoint : String := "https://api.datacommons.org"
  /-- The key sent with every request, if there is one. -/
  apiKey : Option String := none
  /-- The greatest number of keys in one call. -/
  chunkSize : Nat := 500
  /-- How long a call may take, in whole milliseconds. -/
  timeoutMs : Nat := 30000
  /-- The nanoseconds by which it may take longer than the whole milliseconds. -/
  timeoutNanos : Fin 1000000 := noNanos
  /-- The external id properties, in order of priority. -/
  idProperties : List String := Vocabulary.externalIds
  deriving DecidableEq, Repr

namespace Config

/-- The first fault of a configuration, if it has one. -/
def fault? (config : Config) : Option ConfigError :=
  if config.chunkSize = 0 then some .zeroChunkSize
  else if Text.trim config.endpoint = "" then some .emptyEndpoint
  else if config.timeoutMs = 0 ∧ config.timeoutNanos = noNanos then some .zeroTimeout
  else if config.idProperties = [] then some .noIdProperties
  else none

/-- The configuration itself if it has no fault. -/
def validate (config : Config) : Except ConfigError Config :=
  match config.fault? with
  | some fault => .error fault
  | none => .ok config

end Config

end IdResolution
