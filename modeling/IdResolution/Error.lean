/-!
# Errors

Why a configuration is refused, why a call to the service fails, and the error of
a whole operation.  Errors are causes; `message` gives the wording.
-/

namespace IdResolution

/-- Why a configuration is refused. -/
inductive ConfigError where
  | zeroChunkSize
  | emptyEndpoint
  | zeroTimeout
  | noIdProperties
  | invalidField (field reason : String)
  deriving DecidableEq, Repr

/-- Why a call to the service failed. -/
inductive CallError where
  | connectionFailed (message : String)
  | timeout (durationMs : Nat)
  | serializationFailed (message : String)
  | deserializationFailed (message : String)
  | serverError (code : Nat) (message : String)
  deriving DecidableEq, Repr

/-- The error of an operation. -/
inductive Error where
  | config (cause : ConfigError)
  | call (cause : CallError)
  /-- Something broke down that is neither the caller's nor the service's doing. -/
  | internal (message : String)
  deriving DecidableEq, Repr

/-- The wording of a refused configuration. -/
def ConfigError.message : ConfigError → String
  | .zeroChunkSize => "Chunk size must be positive"
  | .emptyEndpoint => "Reconciliation endpoint cannot be empty"
  | .zeroTimeout => "Request timeout must be positive"
  | .noIdProperties => "At least one external id property is required"
  | .invalidField field reason => s!"Invalid value for '{field}': {reason}"

/-- The wording of a failed call. -/
def CallError.message : CallError → String
  | .connectionFailed message => s!"Connection failed: {message}"
  | .timeout durationMs => s!"Request timed out after {durationMs}ms"
  | .serializationFailed message => s!"Failed to serialize request: {message}"
  | .deserializationFailed message => s!"Failed to deserialize response: {message}"
  | .serverError code message => s!"Server error (code {code}): {message}"

/-- A failed call may succeed when it is repeated, if the service was not reached
in time or reported a fault of its own. -/
def CallError.isRetryable : CallError → Bool
  | .connectionFailed _ | .timeout _ => true
  | .serverError code _ => 500 ≤ code
  | .serializationFailed _ | .deserializationFailed _ => false

namespace Error

/-- The wording of a cause, without the area it lies in. -/
def causeMessage : Error → String
  | .config cause => cause.message
  | .call cause => cause.message
  | .internal message => s!"Internal error: {message}"

/-- The wording of an error, with the area it lies in. -/
def message : Error → String
  | .config cause => s!"Validation error: {cause.message}"
  | .call cause => s!"Transport error: {cause.message}"
  | .internal message => s!"Internal error: {message}"

/-- Whether the operation may succeed when it is repeated. -/
def isRetryable : Error → Bool
  | .call cause => cause.isRetryable
  | .config _ | .internal _ => false

end Error

end IdResolution
