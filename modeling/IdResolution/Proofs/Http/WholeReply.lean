import IdResolution.Proofs.Client.Report
import IdResolution.Service.Http
import Mathlib.Data.List.Forall2

/-!
# Answers over HTTP

A call over HTTP that is answered as a whole brings entries exactly when the status is one of
success and the text is a response.  Any other status is an error of the server, whatever the
text says, and any other text is one that cannot be decoded.  When the calls of a request are
delivered, each of them is one post to the operation, and the outcome of the request is read
off the answers, whatever the times at which they come.
-/

namespace IdResolution

namespace Http

/-- A whole answer to a post: its final status, and the text of its body.  The text is empty
where the status has no body. -/
structure WholeReply where
  status : Nat
  text : String
  final : isFinal status = true
  bodiless : isBodiless status = true → text = ""

namespace WholeReply

variable {α β : Type} {operation : Operation α β} {answer : WholeReply} {entries : List β}
  {error : Error}

/-- The answer as what comes back for a post. -/
def toReply (answer : WholeReply) : Reply :=
  .message answer.status (.text answer.text)

/-- The answer has a status of success. -/
def Succeeds (answer : WholeReply) : Prop :=
  200 ≤ answer.status ∧ answer.status < 300

/-- The answer brings entries: it is a success, and its text is a response with them. -/
structure Brings (operation : Operation α β) (answer : WholeReply) (entries : List β) : Prop where
  succeeds : answer.Succeeds
  decoded : operation.decodeResponse? answer.text = some entries

/-- The errors of a call with an answer that brings nothing. -/
inductive FailsWith (operation : Operation α β) (answer : WholeReply) : Error → Prop where
  /-- A status other than success is passed on with the text, even if that is a response. -/
  | refused (status : ¬answer.Succeeds) :
      FailsWith operation answer (.call (.serverError answer.status answer.text))
  | undecodable (succeeds : answer.Succeeds)
      (undecoded : operation.decodeResponse? answer.text = none) (message : String) :
      FailsWith operation answer (.call (.deserializationFailed message))

theorem isSuccess_iff : isSuccess answer.status = true ↔ answer.Succeeds := by
  simp [isSuccess, Succeeds]

/-- The end of a call with a whole answer, by its status and then by its text. -/
theorem outcome_toReply (operation : Operation α β) (timeoutMs : Nat) (answer : WholeReply) :
    answer.toReply.outcome operation timeoutMs =
      if isSuccess answer.status then
        match operation.decodeResponse? answer.text with
        | some entries => .answered entries
        | none => .failed (.deserializationFailed "error decoding response body")
      else
        .failed (.serverError answer.status answer.text) := by
  have body : (if isBodiless answer.status then Body.text "" else .text answer.text) =
      .text answer.text := by
    split
    next none => rw [answer.bodiless none]
    next => rfl
  rw [toReply, Reply.outcome, body]
  exact if_neg (by simp [answer.final])

/-- What an answer brings is what its call is answered with. -/
theorem outcome_eq_answered_iff {timeoutMs : Nat} :
    answer.toReply.outcome operation timeoutMs = .answered entries ↔
      answer.Brings operation entries := by
  rw [outcome_toReply]
  constructor
  · intro answered
    split at answered
    next success =>
      split at answered
      next found decoded =>
        obtain rfl := Outcome.answered.inj answered
        exact ⟨isSuccess_iff.mp success, decoded⟩
      next => contradiction
    next => contradiction
  · intro ⟨succeeds, decoded⟩
    simp only [isSuccess_iff.mpr succeeds, decoded, if_true]

/-- A call whose answer brings nothing fails with its error. -/
theorem failsWith_of_outcome {timeoutMs : Nat}
    (fails : (answer.toReply.outcome operation timeoutMs).FailsWith error) :
    answer.FailsWith operation error := by
  rw [outcome_toReply] at fails
  split at fails
  next success =>
    split at fails
    next => cases fails
    next undecoded =>
      rw [Outcome.failed_failsWith_iff.mp fails]
      exact .undecodable (isSuccess_iff.mp success) undecoded _
  next refused =>
    rw [Outcome.failed_failsWith_iff.mp fails]
    exact .refused (mt isSuccess_iff.mpr refused)

/-- An answer that leads to an error brings nothing. -/
theorem FailsWith.not_brings (fails : answer.FailsWith operation error) (entries : List β) :
    ¬answer.Brings operation entries := by
  rintro ⟨succeeds, decoded⟩
  cases fails with
  | refused status => exact status succeeds
  | undecodable _ undecoded _ =>
      rw [decoded] at undecoded
      contradiction

theorem exists_outcome_failsWith {timeoutMs : Nat} (fails : answer.FailsWith operation error) :
    ∃ cause, (answer.toReply.outcome operation timeoutMs).FailsWith cause := by
  cases outcome : answer.toReply.outcome operation timeoutMs with
  | answered entries => exact absurd (outcome_eq_answered_iff.mp outcome) (fails.not_brings entries)
  | failed cause => exact ⟨_, .failed cause⟩
  | broken => exact ⟨_, .broken ""⟩

/-- Among the errors of answers, those of a server at fault may pass when the call is
repeated. -/
theorem FailsWith.isRetryable_iff (fails : answer.FailsWith operation error) :
    error.isRetryable = true ↔
      ∃ code message, error = .call (.serverError code message) ∧ 500 ≤ code := by
  cases fails with
  | refused status => simp [Error.isRetryable, CallError.isRetryable]
  | undecodable succeeds undecoded message => simp [Error.isRetryable, CallError.isRetryable]

end WholeReply

/-! ## Posts -/

/-- What an endpoint is without the slashes at its end. -/
structure Stripped (endpoint base : String) : Prop where
  slashes : ∃ count, endpoint.toList = base.toList ++ List.replicate count '/'
  ended : base.toList.getLast? ≠ some '/'

theorem endpoint_ofConfig {config : Config} {base : String}
    (stripped : Stripped config.endpoint base) : (Binding.ofConfig config).endpoint = base := by
  obtain ⟨⟨count, split⟩, ended⟩ := stripped
  have kept : base.toList.reverse.dropWhile (· = '/') = base.toList.reverse := by
    rw [List.getLast?_eq_head?_reverse] at ended
    cases reversed : base.toList.reverse with
    | nil => rfl
    | cons last front =>
        rw [reversed, List.head?_cons] at ended
        exact List.dropWhile_cons_of_neg (by simpa using ended)
  rw [Binding.ofConfig, split, List.reverse_append, List.reverse_replicate,
    List.dropWhile_append_of_pos (by simp), kept, List.reverse_reverse, String.ofList_toList]

/-- The posts of an operation reach the server of a service: they are sent to a URL at which it
listens, and with a key that a header can hold. -/
structure Delivers {α β : Type} (service : HttpService) (operation : Operation α β) (url : Url) :
    Prop where
  usable : Url.parse? (service.binding.endpoint ++ operation.path) = some url
  legal : service.binding.apiKey.all isHeaderText = true
  reached : service.server.isReachedBy url = true

/-- The service after posts that were answered, with the replies that are left. -/
def afterPosts (service : HttpService) (url : Url) (bodies : List String) (left : List Reply) :
    HttpService :=
  { service with
    server := { service.server with
      replies := left
      received := service.server.received ++ bodies.map fun body =>
        { url, apiKey := service.binding.apiKey, body } } }

section Calls

variable {α β : Type} {operation : Operation α β} {url : Url} {service : HttpService}

theorem Delivers.call (delivers : Delivers service operation url) {answer : WholeReply}
    {left : List Reply} (next : service.server.replies = answer.toReply :: left) (chunk : List α) :
    Service.call operation chunk service =
      ({ outcome := answer.toReply.outcome operation service.binding.timeoutMs },
        afterPosts service url [operation.encodeRequest chunk] left) := by
  have posted : service.binding.post operation chunk =
      .ok { url, apiKey := service.binding.apiKey, body := operation.encodeRequest chunk } := by
    simp only [Binding.post, delivers.usable, delivers.legal, if_true]
  have spoken : answer.toReply ≠ .silent := by simp [WholeReply.toReply]
  simp only [Service.call, posted, delivers.reached, HttpServer.receive, next, List.headD_cons,
    List.tail_cons, spoken, if_true, if_false, afterPosts, List.map_singleton]

/-- Calls are answered one after the other, as long as there are answers. -/
theorem Delivers.callEach (delivers : Delivers service operation url) {answers : List WholeReply}
    {left : List Reply} (next : service.server.replies = answers.map WholeReply.toReply ++ left)
    {chunks : List (List α)} (enough : answers.length = chunks.length) :
    (IdResolution.callEach operation chunks service).1.map Report.completion =
        answers.map (fun answer =>
          { outcome := answer.toReply.outcome operation service.binding.timeoutMs }) ∧
      (IdResolution.callEach operation chunks service).2 =
        afterPosts service url (chunks.map operation.encodeRequest) left := by
  induction chunks generalizing service answers with
  | nil =>
      obtain rfl := List.eq_nil_of_length_eq_zero enough
      obtain rfl : service.server.replies = left := next
      refine ⟨rfl, ?_⟩
      simp [IdResolution.callEach, afterPosts]
  | cons chunk rest ih =>
      obtain ⟨answer, others, rfl⟩ := List.exists_cons_of_length_eq_add_one enough
      have called := delivers.call next chunk
      let later := afterPosts service url [operation.encodeRequest chunk]
        (others.map WholeReply.toReply ++ left)
      have delivered : Delivers later operation url :=
        ⟨delivers.usable, delivers.legal, delivers.reached⟩
      obtain ⟨completions, after⟩ := ih delivered rfl (Nat.succ.inj enough)
      constructor
      · rw [IdResolution.callEach, called]
        exact congrArg (List.cons _) completions
      · rw [IdResolution.callEach, called]
        refine after.trans ?_
        simp only [later, afterPosts, List.map_cons, List.map_nil, List.append_assoc,
          List.cons_append, List.nil_append]

end Calls

end Http

end IdResolution
