import IdResolution.Config.Basic
import IdResolution.Error
import IdResolution.Http.Url
import IdResolution.Json.Octets
import IdResolution.Message.Json
import IdResolution.Service.Basic

/-!
# Operations over HTTP

Each call of an operation is one `POST` of its request in JSON, and the reply to it
is the end of the call: a status other than success is a fault of the server
whatever its body says, and a success has to bring a response in JSON.
-/

namespace IdResolution

/-- The JSON text of the request of a call. -/
def Operation.encodeRequest {α β : Type} : Operation α β → List α → String
  | .coordinates, items => JsonForm.encode (⟨items⟩ : CoordinatesRequest)
  | .entities, items => JsonForm.encode (⟨items⟩ : EntitiesRequest)

/-- The entries of the response that a JSON text gives. -/
def Operation.decodeResponse? {α β : Type} : Operation α β → String → Option (List β)
  | .coordinates, text => (JsonForm.decode? text : Option CoordinatesResponse).map (·.items)
  | .entities, text => (JsonForm.decode? text : Option EntitiesResponse).map (·.items)

namespace Http

/-- A request as it is sent. -/
structure Post where
  method : String := "POST"
  url : Url
  apiKey : Option String
  contentType : String := "application/json"
  body : String
  deriving DecidableEq, Repr

/-- The body of a reply. -/
inductive Body where
  | text (content : String)
  | octets (bytes : List UInt8)
  /-- The body breaks off, or never ends. -/
  | unreadable
  deriving DecidableEq, Repr

/-- What comes back for a request. -/
inductive Reply where
  | message (status : Nat) (body : Body)
  /-- The connection is closed without a reply. -/
  | closed
  /-- No reply comes in time. -/
  | silent
  deriving DecidableEq, Repr

/-- The text of a body for an error message. -/
def Body.message : Body → String
  | .text content => content
  | .octets bytes => Text.replaceInvalid bytes
  | .unreadable => ""

/-- The text by which a body is read as JSON; none if there is no body. -/
def Body.text? : Body → Option String
  | .text content => some content
  | .octets bytes => some (Json.textOfOctets bytes)
  | .unreadable => none

/-- The statuses of success. -/
def isSuccess (status : Nat) : Bool :=
  200 ≤ status ∧ status < 300

/-- The statuses whose replies have no body. -/
def isBodiless (status : Nat) : Bool :=
  status = 101 ∨ status = 204 ∨ status = 304

/-- The statuses that end an exchange.  Those below 200 only announce a later reply,
except for the one that switches protocols. -/
def isFinal (status : Nat) : Bool :=
  status = 101 ∨ (200 ≤ status ∧ status < 1000)

/-- The end of the call that a reply answers. -/
def Reply.outcome {α β : Type} (operation : Operation α β) (timeoutMs : Nat) :
    Reply → Outcome β
  | .closed => .failed (.connectionFailed "connection closed before message completed")
  | .silent => .failed (.timeout timeoutMs)
  | .message status body =>
      let body := if isBodiless status then .text "" else body
      if !isFinal status then
        .failed (.connectionFailed "no final reply before the connection closed")
      else if isSuccess status then
        match body.text?.bind operation.decodeResponse? with
        | some entries => .answered entries
        | none => .failed (.deserializationFailed "error decoding response body")
      else
        .failed (.serverError status body.message)

/-- How operations are sent: where to, with which key, and with which time limit. -/
structure Binding where
  endpoint : String
  apiKey : Option String := none
  timeoutMs : Nat
  deriving DecidableEq, Repr

/-- The binding of a configuration.  The endpoint loses the slashes at its end, and of the
time limit the whole milliseconds are kept, as far as 64 bits hold them. -/
def Binding.ofConfig (config : Config) : Binding where
  endpoint := String.ofList ((config.endpoint.toList.reverse.dropWhile (· = '/')).reverse)
  apiKey := config.apiKey
  timeoutMs := min config.timeoutMs (UInt64.size - 1)

/-- A header may hold all characters but the control characters other than tab. -/
def isHeaderText (text : String) : Bool :=
  text.toList.all fun c => c = '\t' ∨ (0x20 ≤ c.toNat ∧ c.toNat ≠ 0x7f)

/-- The request of a call, unless the endpoint is no URL or the key no header text. -/
def Binding.post {α β : Type} (binding : Binding) (operation : Operation α β)
    (items : List α) : Except CallError Post :=
  match Url.parse? (binding.endpoint ++ operation.path) with
  | none => .error (.serializationFailed "builder error: invalid URL")
  | some url =>
      if binding.apiKey.all isHeaderText then
        .ok { url, apiKey := binding.apiKey, body := operation.encodeRequest items }
      else
        .error (.serializationFailed "builder error: invalid header value")

end Http

end IdResolution
