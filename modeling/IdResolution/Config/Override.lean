import IdResolution.Config.Basic
import IdResolution.Numeral.Basic
import IdResolution.Text.Ascii

/-!
# Overrides

Settings given as texts under fixed variable names.  Each variable that is set and
not blank replaces one field; two of them hold numbers and may be malformed.
-/

namespace IdResolution.Config

/-- Why a text is no number of 64 bits. -/
inductive NumberFault where
  | invalidDigit
  | tooLarge
  deriving DecidableEq, Repr

/-- The wording of a malformed number. -/
def NumberFault.message : NumberFault → String
  | .invalidDigit => "invalid digit found in string"
  | .tooLarge => "number too large to fit in target type"

/-- Read digits after a number already read.  The first character that is no digit,
or the first digit that exceeds 64 bits, decides the fault. -/
def readDigits : Nat → List Char → Except NumberFault Nat
  | number, [] => .ok number
  | number, c :: rest =>
      match Digit.ofChar? c with
      | none => .error .invalidDigit
      | some digit =>
          let next := number * 10 + digit.val
          if next < UInt64.size then readDigits next rest else .error .tooLarge

/-- Read a number of 64 bits: digits, of which there is at least one, after a plus
sign if there is one. -/
def readNumber : List Char → Except NumberFault Nat
  | [] => .error .invalidDigit
  | ['+'] => .error .invalidDigit
  | '+' :: rest => readDigits 0 rest
  | text => readDigits 0 text

/-- Read the number in a field; its name appears in the error. -/
def readField (field : String) (text : String) : Except ConfigError Nat :=
  match readNumber text.toList with
  | .ok number => .ok number
  | .error fault => .error (.invalidField field s!"'{text}': {fault.message}")

/-- The parts between commas, trimmed, without the blank ones. -/
def readList (text : String) : List String :=
  ((Text.splitAt (· = ',') text.toList).map Text.trimBlanks).filterMap fun part =>
    if part = [] then none else some (String.ofList part)

/-- The trimmed value of a variable that is set and not blank. -/
def setting? (lookup : String → Option String) (name : String) : Option String :=
  match lookup name with
  | some value =>
      let trimmed := Text.trim value
      if trimmed = "" then none else some trimmed
  | none => none

/-- Replace a number by the one in a variable, if it is set. -/
def overrideNumber (lookup : String → Option String) (name field : String)
    (current : Nat) : Except ConfigError Nat :=
  match setting? lookup name with
  | some text => readField field text
  | none => .ok current

/-- Replace every field whose variable is set and keep the others. -/
def override (config : Config) (lookup : String → Option String) :
    Except ConfigError Config := do
  let chunkSize ← overrideNumber lookup "RECON_CHUNK_SIZE" "chunk_size" config.chunkSize
  let timeoutMs ← overrideNumber lookup "RECON_TIMEOUT_MS" "timeout" config.timeoutMs
  return {
    endpoint := (setting? lookup "RECON_ENDPOINT").getD config.endpoint
    apiKey := setting? lookup "RECON_API_KEY" <|> config.apiKey
    chunkSize
    timeoutMs
    timeoutNanos := ((setting? lookup "RECON_TIMEOUT_MS").map fun _ => noNanos).getD
      config.timeoutNanos
    idProperties := ((setting? lookup "RECON_ID_PROPERTIES").map readList).getD
      config.idProperties }

/-- The default configuration with the overrides of an environment, if that has no
fault. -/
def ofEnvironment (lookup : String → Option String) : Except ConfigError Config := do
  (← ({} : Config).override lookup).validate

end IdResolution.Config
