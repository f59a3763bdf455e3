import FreeLunch.Foundations.Writes
import FreeLunch.Gateway.Attempts
import FreeLunch.Python.Exact
import FreeLunch.Python.Utf8
import Mathlib.Data.List.Infix

/-!
# Requests with retries

`_request_with_retries` of `OpenAICompatibleAdapter` and `OpenRouterAdapter`: one loop in two
copies, which differ in the number of attempts, in how an error body is read and in the
categories of errors.

Main results:

- Theorem `requestWithRetries_contract_iff`: the requests that end as the adapters promise are
  those that meet no length header and no error body that raises something else.

Current gaps:

- Bodies come without a content encoding: a response that has one is decoded by `aiter_bytes`, and
  again where `httpx.Response` is put together from its headers and the decoded bytes.
- The request itself is left out: `httpx` raises for a body that it cannot serialise, with `NaN`,
  an infinity or a lone surrogate.
- An upstream outcome is what `httpx` reports: a response with the chunks of its body, a timeout
  or another `HTTPError`, before or within the body.
-/

namespace FreeLunch
namespace Providers

open Gateway Python Writes

/-! ## Categories -/

/-- What `categorize_error` returns: the category and whether the error is retryable. -/
abbrev Category := GatewayErrorCategory × Bool

section Categories

variable (lower : String → String)

/-- `any(phrase in message for phrase in phrases)`. -/
def mentions (phrases : List String) (message : String) : Bool :=
  phrases.any fun phrase => decide (phrase.toList <:+: message.toList)

/-- `categorize_openrouter_error`. -/
def categorizeOpenrouterError (statusCode : Option Int) (errorCode : Option String)
    (message : String) : Category :=
  let messageLower := lower message
  let codeLower := lower (errorCode.getD "")
  if ["context_length_exceeded", "max_tokens_exceeded", "token_limit_exceeded",
        "string_too_long"].contains codeLower ||
      mentions ["context length", "maximum context length", "too many tokens", "token limit"]
        messageLower then (.contextExceeded, true)
  else if statusCode == some 429 ||
      ["429", "rate_limit_exceeded", "rate_limited"].contains codeLower ||
      mentions ["rate limit"] messageLower then (.rateLimited, true)
  else if [some 401, some 402].contains statusCode ||
      ["401", "402", "invalid_api_key", "invalid_credentials", "insufficient_credits",
        "payment_required"].contains codeLower then (.authError, false)
  else if [some 400, some 403, some 404].contains statusCode ||
      ["400", "403", "404", "invalid_request", "invalid_model", "moderation_error"].contains
        codeLower then (.invalidRequest, false)
  else if [some 408, some 409, some 425, some 500, some 502, some 503, some 504].contains
        statusCode ||
      ["408", "409", "425", "500", "502", "503", "504", "server_error",
        "provider_error"].contains codeLower then (.providerUnavailable, true)
  else
    match statusCode with
    | none => (.providerUnavailable, true)
    | some status =>
        if 500 ≤ status then (.providerUnavailable, true) else (.invalidRequest, false)

/-- `categorize_openai_compatible_error`. -/
def categorizeOpenaiCompatibleError (statusCode : Option Int) (errorCode : Option String)
    (message : String) : Category :=
  let messageLower := lower message
  let codeLower := lower (errorCode.getD "")
  if ["context_length_exceeded", "context_window_exceeded", "max_tokens_exceeded",
        "token_limit_exceeded", "string_too_long"].contains codeLower ||
      mentions ["context length", "maximum context length", "context window", "too many tokens",
        "token limit", "input is too long"] messageLower then (.contextExceeded, true)
  else if statusCode == some 429 ||
      ["429", "rate_limit_exceeded", "rate_limited", "too_many_requests"].contains codeLower ||
      mentions ["rate limit"] messageLower then (.rateLimited, true)
  else if [some 401, some 402, some 403].contains statusCode ||
      ["401", "402", "403", "invalid_api_key", "invalid_key", "invalid_authentication",
        "authentication_error", "permission_denied", "insufficient_credits",
        "payment_required"].contains codeLower then (.authError, false)
  else if [some 400, some 404, some 405, some 409, some 422].contains statusCode ||
      ["400", "404", "405", "409", "422", "invalid_request_error", "invalid_request",
        "invalid_model", "model_not_found", "unsupported_parameter"].contains codeLower then
    (.invalidRequest, false)
  else if [some 408, some 425, some 500, some 502, some 503, some 504].contains statusCode ||
      ["408", "425", "500", "502", "503", "504", "timeout", "server_error",
        "internal_server_error", "service_unavailable"].contains codeLower then
    (.providerUnavailable, true)
  else
    match statusCode with
    | none => (.providerUnavailable, true)
    | some status =>
        if 500 ≤ status then (.providerUnavailable, true) else (.invalidRequest, false)

end Categories

/-! ## Upstream -/

/-- How the body of a response ends. -/
inductive BodyEnd where
  | complete
  | timeout
  | transportError
deriving DecidableEq, Repr

/-- What a request meets upstream. -/
inductive UpstreamOutcome where
  | response (statusCode : Nat) (contentLength : Option String) (chunks : List (List UInt8))
      (ending : BodyEnd)
  | timeout
  | transportError
deriving DecidableEq, Repr

/-- The `httpx.Response` that is put together from a stream. -/
structure UpstreamResponse where
  statusCode : Nat
  content : List UInt8
deriving DecidableEq, Repr

/-- What the body of the `try` can raise. -/
inductive AttemptFailure where
  | provider (error : ProviderError)
  | timeout
  | transport
  | builtin (exc : Exc)
deriving DecidableEq, Repr

/-- The two adapter classes, with the attributes the loop reads. -/
inductive HttpAdapter where
  | openaiCompatible (name : String) (maxRetries : Int) (maxResponseBytes : Nat)
  | openrouter (maxResponseBytes : Nat)
deriving DecidableEq, Repr

/-- `max_response_bytes`. -/
def HttpAdapter.maxResponseBytes : HttpAdapter → Nat
  | .openaiCompatible _ _ maxResponseBytes => maxResponseBytes
  | .openrouter maxResponseBytes => maxResponseBytes

/-- `name`. -/
def HttpAdapter.name : HttpAdapter → String
  | .openaiCompatible name _ _ => name
  | .openrouter _ => "openrouter"

/-- How often the loop runs: `range(max(int(self.max_retries), 1))` and `range(3)`. -/
def HttpAdapter.attempts : HttpAdapter → Nat
  | .openaiCompatible _ maxRetries _ => (max maxRetries 1).toNat
  | .openrouter _ => 3

/-- `categorize_error`. -/
def HttpAdapter.categorizeError (lower : String → String) : HttpAdapter →
    Option Int → Option String → String → Category
  | .openaiCompatible _ _ _ => categorizeOpenaiCompatibleError lower
  | .openrouter _ => categorizeOpenrouterError lower

section Requests

variable (F : Type) [Runtime F]

/-! ## Error bodies -/

/-- `json.loads(raw_body.decode("utf-8"))`, `none` for a body that is no JSON text. -/
def loadsBody (rawBody : List UInt8) : Except Exc (Option (PyValue F)) :=
  match decodeStrict rawBody with
  | none => .ok none
  | some text =>
      match loads text with
      | .ok value => .ok (some value)
      | .error (.jsonDecodeError _) => .ok none
      | .error exc => .error exc

/-- `str(value)[:500] if value else None`. -/
def messageOf {F : Type} [Runtime F] (value : PyValue F) : Option String :=
  if value.truthy then some (clip value.toStr) else none

/-- `str(value)` unless it is `None`. -/
def codeOf {F : Type} [Runtime F] (value : PyValue F) : Option String :=
  if value.isNone then none else some value.toStr

/-- The text of a body that is no JSON, if any is left. -/
def bodyText (rawBody : List UInt8) : Option String :=
  let text := (strip (decodeIgnore rawBody)).take 500
  if text = [] then none else some (String.ofList text)

/-- `OpenAICompatibleAdapter._extract_error_details`. -/
def openaiCompatibleErrorDetails (rawBody : List UInt8) :
    Except Exc (Option String × Option String) :=
  if rawBody = [] then .ok (none, none)
  else do
    match ← loadsBody F rawBody with
    | none => return (bodyText rawBody, none)
    | some (.dict payload) =>
        let errorPayload :=
          match dictGet payload "error" with
          | some (.dict error) => error
          | _ => payload
        return (messageOf ((dictGet errorPayload "message").getD .none),
          codeOf ((dictGet errorPayload "code").getD .none))
    | some _ => return (none, none)

/-- `OpenRouterAdapter._extract_error_details`. -/
def openrouterErrorDetails (rawBody : List UInt8) :
    Except Exc (Option String × Option String) :=
  if rawBody = [] then .ok (none, none)
  else do
    match ← loadsBody F rawBody with
    | none => return (bodyText rawBody, none)
    | some payload =>
        match ← payload.get "error" payload with
        | .dict error =>
            return (messageOf ((dictGet error "message").getD .none),
              codeOf ((dictGet error "code").getD .none))
        | _ => return (none, none)

/-- `_extract_error_details`. -/
def HttpAdapter.extractErrorDetails : HttpAdapter → List UInt8 →
    Except Exc (Option String × Option String)
  | .openaiCompatible _ _ _ => openaiCompatibleErrorDetails F
  | .openrouter _ => openrouterErrorDetails F

variable (lower : String → String)

/-- `message or f"{self.name} error ({status_code})"`. -/
def HttpAdapter.normalizedMessage (adapter : HttpAdapter) (statusCode : Nat)
    (message : Option String) : String :=
  (message.filter (· ≠ "")).getD (adapter.name ++ " error (" ++ intText statusCode ++ ")")

/-- The error that `_raise_for_response` raises for the details of a body. -/
def HttpAdapter.responseError (adapter : HttpAdapter) (statusCode : Nat)
    (details : Option String × Option String) : ProviderError :=
  let message := adapter.normalizedMessage statusCode details.1
  let (category, retryable) := adapter.categorizeError lower (some statusCode) details.2 message
  if retryable then providerRetryableError message category (some statusCode) details.2
  else providerFatalError message category (some statusCode) details.2

/-! ## The loop -/

/-- `raise ProviderRetryableError("provider response exceeded size limit", ...)`. -/
def sizeLimitError : ProviderError :=
  providerRetryableError "provider response exceeded size limit"

/-- The test of the `content-length` header. -/
def declaredTooLong (maxResponseBytes : Nat) (contentLength : Option String) :
    Except Exc Bool :=
  match contentLength with
  | none => .ok false
  | some text =>
      if isDigitText text.toList then do
        return decide ((maxResponseBytes : Int) < (← intOfText text.toList))
      else return false

/-- The loop over the chunks, with what has been read so far. -/
def readBody (maxResponseBytes : Nat) (ending : BodyEnd) :
    List UInt8 → List (List UInt8) → Except AttemptFailure (List UInt8)
  | body, [] =>
      match ending with
      | .complete => .ok body
      | .timeout => .error .timeout
      | .transportError => .error .transport
  | body, chunk :: chunks =>
      if maxResponseBytes < body.length + chunk.length then
        .error (.provider sizeLimitError)
      else readBody maxResponseBytes ending (body ++ chunk) chunks

/-- The body of the `try`. -/
def requestOnce (adapter : HttpAdapter) :
    UpstreamOutcome → Except AttemptFailure UpstreamResponse
  | .timeout => .error .timeout
  | .transportError => .error .transport
  | .response statusCode contentLength chunks ending =>
      match declaredTooLong adapter.maxResponseBytes contentLength with
      | .error exc => .error (.builtin exc)
      | .ok true => .error (.provider sizeLimitError)
      | .ok false => do
          let content ← readBody adapter.maxResponseBytes ending [] chunks
          if 400 ≤ statusCode then
            match adapter.extractErrorDetails F content with
            | .error exc => .error (.builtin exc)
            | .ok details => .error (.provider (adapter.responseError lower statusCode details))
          else return { statusCode, content }

/-- What a call comes to: the requests it has sent, and its result. -/
structure RequestRun where
  sent : Nat
  result : Except (ProviderError ⊕ Exc) UpstreamResponse

/-- The loop: attempts left, attempts made, and `last_error`. -/
def retryLoop (adapter : HttpAdapter) (upstream : Nat → UpstreamOutcome) :
    Nat → Nat → Option ProviderError → RequestRun
  | 0, made, lastError =>
      ⟨made, .error (.inl (lastError.getD (providerRetryableError "provider request failed")))⟩
  | left + 1, made, _ =>
      match requestOnce F lower adapter (upstream made) with
      | .ok response => ⟨made + 1, .ok response⟩
      | .error (.provider error) =>
          if error.retryable then retryLoop adapter upstream left (made + 1) (some error)
          else ⟨made + 1, .error (.inl error)⟩
      | .error .timeout =>
          retryLoop adapter upstream left (made + 1)
            (some (providerRetryableError "provider timeout"))
      | .error .transport =>
          retryLoop adapter upstream left (made + 1)
            (some (providerRetryableError "provider transport error"))
      | .error (.builtin exc) => ⟨made + 1, .error (.inr exc)⟩

/-- `_request_with_retries`. -/
def requestWithRetries (adapter : HttpAdapter) (upstream : Nat → UpstreamOutcome) : RequestRun :=
  retryLoop F lower adapter upstream adapter.attempts 0 none

/-! ## The contract -/

/-- A header that announces no more than the adapter accepts, or announces nothing it reads. -/
def LengthAccepted (adapter : HttpAdapter) (contentLength : Option String) : Prop :=
  ∀ text ∈ contentLength, isDigitText text.toList = true →
    ∃ n, intOfText text.toList = .ok n ∧ n ≤ adapter.maxResponseBytes

/-- A response whose length and body are within the limit, and which was read to its end. -/
def Received (adapter : HttpAdapter) (outcome : UpstreamOutcome) (response : UpstreamResponse) :
    Prop :=
  ∃ contentLength chunks, outcome = .response response.statusCode contentLength chunks .complete ∧
    LengthAccepted adapter contentLength ∧ response.content = chunks.flatten ∧
    response.content.length ≤ adapter.maxResponseBytes

/-- An error response with what `categorize_error` makes of it. -/
def Categorised (adapter : HttpAdapter) (outcome : UpstreamOutcome) (error : ProviderError) :
    Prop :=
  ∃ response details, Received adapter outcome response ∧ 400 ≤ response.statusCode ∧
    adapter.extractErrorDetails F response.content = .ok details ∧
    error.message = adapter.normalizedMessage response.statusCode details.1 ∧
    adapter.categorizeError lower (some response.statusCode) details.2 error.message =
      (error.category, error.retryable) ∧
    error.statusCode = some (response.statusCode : Int)

/-- An outcome that is no whole response within the limit. -/
inductive Unread (adapter : HttpAdapter) : UpstreamOutcome → Prop where
  | timeout : Unread adapter .timeout
  | transportError : Unread adapter .transportError
  | declared (statusCode : Nat) (text : String) (chunks : List (List UInt8)) (ending : BodyEnd)
      (hdigits : isDigitText text.toList = true) (n : Int) (hn : intOfText text.toList = .ok n)
      (hlong : (adapter.maxResponseBytes : Int) < n) :
      Unread adapter (.response statusCode (some text) chunks ending)
  | body (statusCode : Nat) (contentLength : Option String) (chunks : List (List UInt8))
      (ending : BodyEnd) (hlength : LengthAccepted adapter contentLength)
      (hbody : ¬ (ending = .complete ∧ chunks.flatten.length ≤ adapter.maxResponseBytes)) :
      Unread adapter (.response statusCode contentLength chunks ending)

/-- The error of an outcome that is no whole response within the limit. -/
def Unavailable (adapter : HttpAdapter) (outcome : UpstreamOutcome) (error : ProviderError) :
    Prop :=
  Unread adapter outcome ∧ error.category = .providerUnavailable ∧ error.retryable = true

/-- An attempt after which the request is sent again, with the error it leaves. -/
def Retried (adapter : HttpAdapter) (outcome : UpstreamOutcome) (error : ProviderError) : Prop :=
  error.retryable = true ∧
    (Categorised F lower adapter outcome error ∨ Unavailable adapter outcome error)

/-- What `_request_with_retries` promises. -/
inductive Contract (adapter : HttpAdapter) (upstream : Nat → UpstreamOutcome)
    (run : RequestRun) : Prop where
  | answered (i : Nat) (hi : i < adapter.attempts)
      (hretried : ∀ j < i, ∃ error, Retried F lower adapter (upstream j) error)
      (response : UpstreamResponse) (hreceived : Received adapter (upstream i) response)
      (hstatus : response.statusCode < 400)
      (hlength : response.content.length ≤ adapter.maxResponseBytes)
      (hrun : run = ⟨i + 1, .ok response⟩)
  | refused (i : Nat) (hi : i < adapter.attempts)
      (hretried : ∀ j < i, ∃ error, Retried F lower adapter (upstream j) error)
      (error : ProviderError) (hcategorised : Categorised F lower adapter (upstream i) error)
      (hfatal : error.retryable = false) (hrun : run = ⟨i + 1, .error (.inl error)⟩)
  | exhausted (hretried : ∀ j < adapter.attempts,
        ∃ error, Retried F lower adapter (upstream j) error)
      (error : ProviderError)
      (hlast : Retried F lower adapter (upstream (adapter.attempts - 1)) error)
      (hrun : run = ⟨adapter.attempts, .error (.inl error)⟩)

/-! ## One attempt -/

/-- A length header of digits that `int()` does not read. -/
def RefusedLength (contentLength : Option String) : Prop :=
  ∃ text ∈ contentLength, isDigitText text.toList = true ∧
    ∃ exc, intOfText text.toList = .error exc

/-- A JSON text that `json.loads` answers with something else than `JSONDecodeError`: it nests
below the recursion limit or writes an integer of more than 4300 digits. -/
def LoadsRaises (text : List Char) : Prop :=
  ∃ exc, (loads text : Except Exc (PyValue F)) = .error exc ∧ ∀ t, exc ≠ .jsonDecodeError t

/-- An error body whose details cannot be read: one that `json.loads` raises on, and for
OpenRouter any JSON value that is no object. -/
def UnreadableBody (adapter : HttpAdapter) (rawBody : List UInt8) : Prop :=
  rawBody ≠ [] ∧ ∃ text, decodeStrict rawBody = some text ∧
    (LoadsRaises F text ∨ (∃ maxResponseBytes, adapter = .openrouter maxResponseBytes) ∧
      ∃ value : PyValue F, loads text = .ok value ∧ value.isDict = false)

/-- An outcome that ends the call with an exception which is no `ProviderError`. -/
inductive BreaksContract (adapter : HttpAdapter) : UpstreamOutcome → Prop where
  | length (statusCode : Nat) (contentLength : Option String) (chunks : List (List UInt8))
      (ending : BodyEnd) (h : RefusedLength contentLength) :
      BreaksContract adapter (.response statusCode contentLength chunks ending)
  | body (outcome : UpstreamOutcome) (response : UpstreamResponse)
      (hreceived : Received adapter outcome response) (hstatus : 400 ≤ response.statusCode)
      (hbody : UnreadableBody F adapter response.content) : BreaksContract adapter outcome

theorem declaredTooLong_false_iff {adapter : HttpAdapter} {contentLength : Option String} :
    declaredTooLong adapter.maxResponseBytes contentLength = .ok false ↔
      LengthAccepted adapter contentLength := by
  unfold declaredTooLong LengthAccepted
  cases contentLength with
  | none => simp
  | some text =>
      simp only [Option.mem_some_iff, forall_eq']
      by_cases hdigits : isDigitText text.toList = true
      · rw [if_pos hdigits]
        simp only [hdigits, true_implies]
        cases hn : intOfText text.toList with
        | error exc => simp [bind, Except.bind]
        | ok n =>
            rw [ok_bind]
            simp [pure, Except.pure]
      · rw [if_neg hdigits]
        simp [hdigits, pure, Except.pure]

theorem declaredTooLong_error_iff {maxResponseBytes : Nat} {contentLength : Option String} :
    (∃ exc, declaredTooLong maxResponseBytes contentLength = .error exc) ↔
      RefusedLength contentLength := by
  unfold declaredTooLong RefusedLength
  cases contentLength with
  | none => simp
  | some text =>
      simp only [Option.mem_some_iff, exists_eq_left']
      by_cases hdigits : isDigitText text.toList = true
      · rw [if_pos hdigits]
        simp only [hdigits, true_and]
        cases hn : intOfText text.toList with
        | error exc => simp [bind, Except.bind]
        | ok n =>
            rw [ok_bind]
            simp [pure, Except.pure]
      · rw [if_neg hdigits]
        simp [hdigits, pure, Except.pure]

theorem declaredTooLong_true {maxResponseBytes : Nat} {contentLength : Option String}
    (h : declaredTooLong maxResponseBytes contentLength = .ok true) :
    ∃ text n, contentLength = some text ∧ isDigitText text.toList = true ∧
      intOfText text.toList = .ok n ∧ (maxResponseBytes : Int) < n := by
  unfold declaredTooLong at h
  cases contentLength with
  | none => cases h
  | some text =>
      simp only at h
      by_cases hdigits : isDigitText text.toList = true
      · rw [if_pos hdigits] at h
        obtain ⟨n, hn, h⟩ := bind_ok_iff.mp h
        refine ⟨text, n, rfl, hdigits, hn, ?_⟩
        simpa [pure, Except.pure] using h
      · rw [if_neg hdigits] at h
        cases h

/-- A body is read exactly when it is complete and within the limit. -/
theorem readBody_ok_iff {maxResponseBytes : Nat} {ending : BodyEnd} {body content : List UInt8}
    {chunks : List (List UInt8)} (hbody : body.length ≤ maxResponseBytes) :
    readBody maxResponseBytes ending body chunks = .ok content ↔
      ending = .complete ∧ content = body ++ chunks.flatten ∧
        content.length ≤ maxResponseBytes := by
  induction chunks generalizing body with
  | nil =>
      cases ending with
      | complete =>
          rw [readBody, List.flatten_nil, List.append_nil]
          constructor
          · intro h
            cases h
            exact ⟨rfl, rfl, hbody⟩
          · rintro ⟨-, rfl, -⟩
            rfl
      | timeout => simp [readBody]
      | transportError => simp [readBody]
  | cons chunk rest ih =>
      rw [readBody, List.flatten_cons, ← List.append_assoc]
      by_cases hlong : maxResponseBytes < body.length + chunk.length
      · rw [if_pos hlong]
        constructor
        · intro h
          cases h
        · rintro ⟨-, rfl, hlength⟩
          rw [List.length_append, List.length_append] at hlength
          omega
      · rw [if_neg hlong]
        apply ih
        rw [List.length_append]
        omega

/-- A body that is not read leaves an error that is retried. -/
theorem readBody_error {maxResponseBytes : Nat} {ending : BodyEnd} {body : List UInt8}
    {chunks : List (List UInt8)} {failure : AttemptFailure}
    (h : readBody maxResponseBytes ending body chunks = .error failure) :
    failure = .provider sizeLimitError ∨ failure = .timeout ∨ failure = .transport := by
  induction chunks generalizing body with
  | nil =>
      cases ending with
      | complete => cases h
      | timeout =>
          cases h
          exact .inr (.inl rfl)
      | transportError =>
          cases h
          exact .inr (.inr rfl)
  | cons chunk rest ih =>
      rw [readBody] at h
      split at h
      · cases h
        exact .inl rfl
      · exact ih h

theorem loadsBody_error_iff {rawBody : List UInt8} :
    (∃ exc, loadsBody F rawBody = .error exc) ↔
      ∃ text, decodeStrict rawBody = some text ∧ LoadsRaises F text := by
  unfold loadsBody LoadsRaises
  cases decodeStrict rawBody with
  | none => simp
  | some text =>
      simp only [Option.some.injEq, exists_eq_left']
      cases hloads : (loads text : Except Exc (PyValue F)) with
      | ok value => simp
      | error exc => cases exc <;> simp

theorem loadsBody_some_iff {rawBody : List UInt8} {value : PyValue F} :
    loadsBody F rawBody = .ok (some value) ↔
      ∃ text, decodeStrict rawBody = some text ∧ loads text = .ok value := by
  unfold loadsBody
  cases decodeStrict rawBody with
  | none => simp
  | some text =>
      simp only [Option.some.injEq, exists_eq_left']
      cases hloads : (loads text : Except Exc (PyValue F)) with
      | ok value => simp
      | error exc => cases exc <;> simp

theorem openaiCompatibleErrorDetails_error_iff {rawBody : List UInt8} :
    (∃ exc, openaiCompatibleErrorDetails F rawBody = .error exc) ↔
      rawBody ≠ [] ∧ ∃ text, decodeStrict rawBody = some text ∧ LoadsRaises F text := by
  rw [← loadsBody_error_iff]
  unfold openaiCompatibleErrorDetails
  by_cases hempty : rawBody = []
  · simp [hempty]
  · rw [if_neg hempty]
    simp only [ne_eq, hempty, not_false_eq_true, true_and]
    cases hloads : loadsBody F rawBody with
    | error exc => simp [bind, Except.bind]
    | ok loaded =>
        rw [ok_bind]
        cases loaded with
        | none => simp [pure, Except.pure]
        | some value => cases value <;> simp [pure, Except.pure]

theorem openrouterErrorDetails_error_iff {rawBody : List UInt8} :
    (∃ exc, openrouterErrorDetails F rawBody = .error exc) ↔
      rawBody ≠ [] ∧ ∃ text, decodeStrict rawBody = some text ∧
        (LoadsRaises F text ∨ ∃ value : PyValue F, loads text = .ok value ∧
          value.isDict = false) := by
  have hsplit : (∃ text, decodeStrict rawBody = some text ∧
      (LoadsRaises F text ∨ ∃ value : PyValue F, loads text = .ok value ∧
        value.isDict = false)) ↔
      (∃ exc, loadsBody F rawBody = .error exc) ∨
        ∃ value, loadsBody F rawBody = .ok (some value) ∧ value.isDict = false := by
    rw [loadsBody_error_iff]
    simp only [loadsBody_some_iff]
    constructor
    · rintro ⟨text, htext, hraises | ⟨value, hvalue, hdict⟩⟩
      · exact .inl ⟨text, htext, hraises⟩
      · exact .inr ⟨value, ⟨text, htext, hvalue⟩, hdict⟩
    · rintro (⟨text, htext, hraises⟩ | ⟨value, ⟨text, htext, hvalue⟩, hdict⟩)
      · exact ⟨text, htext, .inl hraises⟩
      · exact ⟨text, htext, .inr ⟨value, hvalue, hdict⟩⟩
  rw [hsplit]
  unfold openrouterErrorDetails
  by_cases hempty : rawBody = []
  · simp [hempty]
  · rw [if_neg hempty]
    simp only [ne_eq, hempty, not_false_eq_true, true_and]
    cases hloads : loadsBody F rawBody with
    | error exc => simp [bind, Except.bind]
    | ok loaded =>
        rw [ok_bind]
        cases loaded with
        | none => simp [pure, Except.pure]
        | some value =>
            cases value with
            | dict members =>
                simp only [PyValue.get, ok_bind]
                cases (dictGet members "error").getD (.dict members) <;>
                  simp [pure, Except.pure, PyValue.isDict]
            | _ => simp [PyValue.get, PyValue.isDict, bind, Except.bind]

/-- The error bodies that the adapters cannot read. -/
theorem extractErrorDetails_error_iff {adapter : HttpAdapter} {rawBody : List UInt8} :
    (∃ exc, adapter.extractErrorDetails F rawBody = .error exc) ↔
      UnreadableBody F adapter rawBody := by
  unfold UnreadableBody
  cases adapter with
  | openaiCompatible name maxRetries maxResponseBytes =>
      change (∃ exc, openaiCompatibleErrorDetails F rawBody = .error exc) ↔ _
      rw [openaiCompatibleErrorDetails_error_iff]
      simp
  | openrouter maxResponseBytes =>
      change (∃ exc, openrouterErrorDetails F rawBody = .error exc) ↔ _
      rw [openrouterErrorDetails_error_iff]
      simp

theorem responseError_spec (adapter : HttpAdapter) (statusCode : Nat)
    (details : Option String × Option String) :
    (adapter.responseError lower statusCode details).message =
        adapter.normalizedMessage statusCode details.1 ∧
      adapter.categorizeError lower (some statusCode) details.2
          (adapter.responseError lower statusCode details).message =
        ((adapter.responseError lower statusCode details).category,
          (adapter.responseError lower statusCode details).retryable) ∧
      (adapter.responseError lower statusCode details).statusCode = some (statusCode : Int) := by
  unfold HttpAdapter.responseError
  simp only
  cases hcategory : adapter.categorizeError lower (some statusCode) details.2
      (adapter.normalizedMessage statusCode details.1) with
  | mk category retryable =>
      cases retryable with
      | true => exact ⟨rfl, hcategory, rfl⟩
      | false => exact ⟨rfl, hcategory, rfl⟩

theorem Received.unique {adapter : HttpAdapter} {outcome : UpstreamOutcome}
    {response other : UpstreamResponse} (h : Received adapter outcome response)
    (h' : Received adapter outcome other) : response = other := by
  obtain ⟨contentLength, chunks, heq, -, hcontent, -⟩ := h
  obtain ⟨contentLength', chunks', heq', -, hcontent', -⟩ := h'
  rw [heq] at heq'
  injection heq' with hstatus hlength hchunks hending
  cases response
  cases other
  cases hstatus
  simp only at hcontent hcontent'
  rw [hcontent, hcontent', hchunks]

/-- What one attempt can come to. -/
theorem requestOnce_cases (adapter : HttpAdapter) (outcome : UpstreamOutcome) :
    (∃ response, requestOnce F lower adapter outcome = .ok response ∧
        Received adapter outcome response ∧ response.statusCode < 400) ∨
      (∃ error, requestOnce F lower adapter outcome = .error (.provider error) ∧
        (Categorised F lower adapter outcome error ∨ Unavailable adapter outcome error)) ∨
      ((requestOnce F lower adapter outcome = .error .timeout ∨
          requestOnce F lower adapter outcome = .error .transport) ∧ Unread adapter outcome) ∨
      ∃ exc, requestOnce F lower adapter outcome = .error (.builtin exc) ∧
        BreaksContract F adapter outcome := by
  cases outcome with
  | timeout => exact .inr (.inr (.inl ⟨.inl rfl, .timeout⟩))
  | transportError => exact .inr (.inr (.inl ⟨.inr rfl, .transportError⟩))
  | response statusCode contentLength chunks ending =>
      rw [requestOnce]
      cases hdeclared : declaredTooLong adapter.maxResponseBytes contentLength with
      | error exc =>
          exact .inr (.inr (.inr ⟨exc, rfl,
            .length _ _ _ _ (declaredTooLong_error_iff.mp ⟨exc, hdeclared⟩)⟩))
      | ok tooLong =>
          cases tooLong with
          | true =>
              obtain ⟨text, n, rfl, hdigits, hn, hlong⟩ := declaredTooLong_true hdeclared
              exact .inr (.inl ⟨sizeLimitError, rfl,
                .inr ⟨.declared _ _ _ _ hdigits n hn hlong, rfl, rfl⟩⟩)
          | false =>
              have hlength := declaredTooLong_false_iff.mp hdeclared
              simp only
              cases hread : readBody adapter.maxResponseBytes ending [] chunks with
              | error failure =>
                  have hunread : Unread adapter
                      (.response statusCode contentLength chunks ending) := by
                    refine .body _ _ _ _ hlength ?_
                    rintro ⟨hending, hle⟩
                    rw [(readBody_ok_iff (Nat.zero_le _)).mpr ⟨hending, rfl, hle⟩] at hread
                    cases hread
                  rcases readBody_error hread with rfl | rfl | rfl
                  · exact .inr (.inl ⟨sizeLimitError, rfl, .inr ⟨hunread, rfl, rfl⟩⟩)
                  · exact .inr (.inr (.inl ⟨.inl rfl, hunread⟩))
                  · exact .inr (.inr (.inl ⟨.inr rfl, hunread⟩))
              | ok content =>
                  obtain ⟨rfl, hcontent, hle⟩ := (readBody_ok_iff (Nat.zero_le _)).mp hread
                  have hreceived : Received adapter
                      (.response statusCode contentLength chunks .complete)
                      ⟨statusCode, content⟩ :=
                    ⟨contentLength, chunks, rfl, hlength, hcontent, hle⟩
                  rw [ok_bind]
                  by_cases hstatus : 400 ≤ statusCode
                  · rw [if_pos hstatus]
                    cases hdetails : adapter.extractErrorDetails F content with
                    | error exc =>
                        exact .inr (.inr (.inr ⟨exc, rfl, .body _ _ hreceived hstatus
                          ((extractErrorDetails_error_iff F).mp ⟨exc, hdetails⟩)⟩))
                    | ok details =>
                        exact .inr (.inl ⟨_, rfl, .inl ⟨_, details, hreceived, hstatus, hdetails,
                          responseError_spec lower adapter statusCode details⟩⟩)
                  · rw [if_neg hstatus]
                    exact .inl ⟨_, rfl, hreceived, Nat.lt_of_not_le hstatus⟩

/-! ## The cases exclude each other -/

theorem Received.not_refusedLength {adapter : HttpAdapter} {statusCode : Nat}
    {contentLength : Option String} {chunks : List (List UInt8)} {ending : BodyEnd}
    {response : UpstreamResponse}
    (h : Received adapter (.response statusCode contentLength chunks ending) response) :
    ¬ RefusedLength contentLength := by
  obtain ⟨contentLength', chunks', heq, hlength, -⟩ := h
  injection heq with hstatus hcontentLength
  rintro ⟨text, htext, hdigits, exc, hexc⟩
  obtain ⟨n, hn, -⟩ := hlength text (hcontentLength ▸ htext) hdigits
  rw [hn] at hexc
  cases hexc

theorem Received.length_le {adapter : HttpAdapter} {outcome : UpstreamOutcome}
    {response : UpstreamResponse} (h : Received adapter outcome response) :
    response.content.length ≤ adapter.maxResponseBytes := by
  obtain ⟨contentLength, chunks, -, -, -, hle⟩ := h
  exact hle

/-- A whole response within the limit that is no error does not break the contract. -/
theorem Received.not_breaksContract {adapter : HttpAdapter} {outcome : UpstreamOutcome}
    {response : UpstreamResponse} (h : Received adapter outcome response)
    (hstatus : response.statusCode < 400) : ¬ BreaksContract F adapter outcome := by
  intro hbreaks
  cases hbreaks with
  | length statusCode contentLength chunks ending hrefused => exact h.not_refusedLength hrefused
  | body _ other hother hstatus' _ =>
      rw [hother.unique h] at hstatus'
      omega

theorem Unread.not_received {adapter : HttpAdapter} {outcome : UpstreamOutcome}
    (h : Unread adapter outcome) (response : UpstreamResponse) :
    ¬ Received adapter outcome response := by
  rintro ⟨contentLength, chunks, heq, hlength, hcontent, hle⟩
  cases h with
  | timeout => cases heq
  | transportError => cases heq
  | declared statusCode text chunks' ending hdigits n hn hlong =>
      injection heq with hstatus hcontentLength
      obtain ⟨m, hm, hmle⟩ := hlength text (by rw [← hcontentLength]; rfl) hdigits
      rw [hn] at hm
      cases hm
      omega
  | body statusCode contentLength' chunks' ending hlength' hbody =>
      injection heq with hstatus hcontentLength hchunks hending
      apply hbody
      rw [hchunks, ← hcontent]
      exact ⟨hending, hle⟩

theorem Unread.not_breaksContract {adapter : HttpAdapter} {outcome : UpstreamOutcome}
    (h : Unread adapter outcome) : ¬ BreaksContract F adapter outcome := by
  intro hbreaks
  cases hbreaks with
  | length statusCode contentLength chunks ending hrefused =>
      obtain ⟨text, htext, hdigits, exc, hexc⟩ := hrefused
      cases h with
      | declared _ text' _ _ _ n hn _ =>
          cases htext
          rw [hn] at hexc
          cases hexc
      | body _ _ _ _ hlength _ =>
          obtain ⟨n, hn, -⟩ := hlength text htext hdigits
          rw [hn] at hexc
          cases hexc
  | body _ response hreceived _ _ => exact h.not_received response hreceived

theorem Categorised.not_breaksContract {adapter : HttpAdapter} {outcome : UpstreamOutcome}
    {error : ProviderError} (h : Categorised F lower adapter outcome error) :
    ¬ BreaksContract F adapter outcome := by
  obtain ⟨response, details, hreceived, -, hdetails, -⟩ := h
  intro hbreaks
  cases hbreaks with
  | length statusCode contentLength chunks ending hrefused =>
      exact hreceived.not_refusedLength hrefused
  | body _ other hother _ hbody =>
      rw [hother.unique hreceived] at hbody
      obtain ⟨exc, hexc⟩ := (extractErrorDetails_error_iff F).mpr hbody
      rw [hdetails] at hexc
      cases hexc

theorem Retried.not_breaksContract {adapter : HttpAdapter} {outcome : UpstreamOutcome}
    {error : ProviderError} (h : Retried F lower adapter outcome error) :
    ¬ BreaksContract F adapter outcome := by
  obtain ⟨-, hcategorised | hunavailable⟩ := h
  · exact hcategorised.not_breaksContract
  · exact hunavailable.1.not_breaksContract F

/-- A response that is answered or refused for good is not retried. -/
theorem Retried.retryable {adapter : HttpAdapter} {outcome : UpstreamOutcome}
    {error other : ProviderError} (h : Retried F lower adapter outcome error)
    (h' : Categorised F lower adapter outcome other) : other.retryable = true := by
  obtain ⟨response', details', hreceived', hstatus', hdetails', hmessage', hcategory', -⟩ := h'
  obtain ⟨hretryable, ⟨response, details, hreceived, hstatus, hdetails, hmessage, hcategory, -⟩ |
    hunavailable⟩ := h
  · rw [hreceived'.unique hreceived] at hdetails' hmessage' hcategory'
    rw [hdetails] at hdetails'
    cases hdetails'
    rw [hmessage', ← hmessage, hcategory] at hcategory'
    have hsame := (Prod.mk.inj hcategory').2
    rw [← hsame]
    exact hretryable
  · exact absurd hreceived' (hunavailable.1.not_received response')

theorem Retried.not_answered {adapter : HttpAdapter} {outcome : UpstreamOutcome}
    {error : ProviderError} (h : Retried F lower adapter outcome error)
    {response : UpstreamResponse} (hreceived : Received adapter outcome response) :
    400 ≤ response.statusCode := by
  obtain ⟨-, ⟨other, details, hother, hstatus, -⟩ | hunavailable⟩ := h
  · rw [hreceived.unique hother]
    exact hstatus
  · exact absurd hreceived (hunavailable.1.not_received response)

/-! ## The whole loop -/

/-- One turn of the loop. -/
theorem retryLoop_step (adapter : HttpAdapter) (upstream : Nat → UpstreamOutcome)
    (left made : Nat) (lastError : Option ProviderError) :
    (∃ response, Received adapter (upstream made) response ∧ response.statusCode < 400 ∧
        retryLoop F lower adapter upstream (left + 1) made lastError =
          ⟨made + 1, .ok response⟩) ∨
      (∃ error, Categorised F lower adapter (upstream made) error ∧ error.retryable = false ∧
        retryLoop F lower adapter upstream (left + 1) made lastError =
          ⟨made + 1, .error (.inl error)⟩) ∨
      (∃ error, Retried F lower adapter (upstream made) error ∧
        retryLoop F lower adapter upstream (left + 1) made lastError =
          retryLoop F lower adapter upstream left (made + 1) (some error)) ∨
      ∃ exc, BreaksContract F adapter (upstream made) ∧
        retryLoop F lower adapter upstream (left + 1) made lastError =
          ⟨made + 1, .error (.inr exc)⟩ := by
  rw [retryLoop]
  rcases requestOnce_cases F lower adapter (upstream made) with
    ⟨response, honce, hreceived, hstatus⟩ | ⟨error, honce, hkind⟩ |
    ⟨honce | honce, hunread⟩ | ⟨exc, honce, hbreaks⟩
  · rw [honce]
    exact .inl ⟨response, hreceived, hstatus, rfl⟩
  · rw [honce]
    cases hretryable : error.retryable with
    | true =>
        refine .inr (.inr (.inl ⟨error, ⟨hretryable, hkind⟩, ?_⟩))
        simp only [hretryable, if_true]
    | false =>
        rcases hkind with hcategorised | hunavailable
        · refine .inr (.inl ⟨error, hcategorised, hretryable, ?_⟩)
          simp [hretryable]
        · rw [hunavailable.2.2] at hretryable
          cases hretryable
  · rw [honce]
    exact .inr (.inr (.inl ⟨_, ⟨rfl, .inr ⟨hunread, rfl, rfl⟩⟩, rfl⟩))
  · rw [honce]
    exact .inr (.inr (.inl ⟨_, ⟨rfl, .inr ⟨hunread, rfl, rfl⟩⟩, rfl⟩))
  · rw [honce]
    exact .inr (.inr (.inr ⟨exc, hbreaks, rfl⟩))

omit [Runtime F] in
theorem attempts_pos (adapter : HttpAdapter) : 0 < adapter.attempts := by
  cases adapter with
  | openaiCompatible name maxRetries maxResponseBytes =>
      change 0 < (max maxRetries 1).toNat
      omega
  | openrouter maxResponseBytes => exact Nat.succ_pos 2

/-- The loop keeps the contract from any attempt on, or some attempt it makes breaks it.  By
induction on the attempts left; `last_error` is that of the attempt before. -/
theorem retryLoop_contract (adapter : HttpAdapter) (upstream : Nat → UpstreamOutcome)
    (left made : Nat) (lastError : Option ProviderError)
    (hattempts : made + left = adapter.attempts)
    (hretried : ∀ j < made, ∃ error, Retried F lower adapter (upstream j) error)
    (hlast : made = 0 ∨ ∃ error, lastError = some error ∧
      Retried F lower adapter (upstream (made - 1)) error) :
    Contract F lower adapter upstream
        (retryLoop F lower adapter upstream left made lastError) ∨
      ∃ i < adapter.attempts,
        (∀ j < i, ∃ error, Retried F lower adapter (upstream j) error) ∧
          BreaksContract F adapter (upstream i) := by
  induction left generalizing made lastError with
  | zero =>
      rcases hlast with hmade | ⟨error, hsome, hlastRetried⟩
      · have := attempts_pos adapter
        omega
      · have hall : made = adapter.attempts := by omega
        rw [hall] at hretried hlastRetried
        refine .inl (.exhausted hretried error hlastRetried ?_)
        rw [retryLoop, hsome, hall]
        rfl
  | succ left ih =>
      have hmade : made < adapter.attempts := by omega
      rcases retryLoop_step F lower adapter upstream left made lastError with
        ⟨response, hreceived, hstatus, hrun⟩ | ⟨error, hcategorised, hfatal, hrun⟩ |
        ⟨error, hagain, hrun⟩ | ⟨exc, hbreaks, -⟩
      · exact .inl (.answered made hmade hretried response hreceived hstatus
          hreceived.length_le hrun)
      · exact .inl (.refused made hmade hretried error hcategorised hfatal hrun)
      · rw [hrun]
        apply ih (made + 1) (some error) (by omega)
        · intro j hj
          rcases Nat.lt_succ_iff_lt_or_eq.mp hj with hj | rfl
          · exact hretried j hj
          · exact ⟨error, hagain⟩
        · exact .inr ⟨error, rfl, hagain⟩
      · exact .inr ⟨made, hmade, hretried, hbreaks⟩

/-- An outcome that breaks the contract is reached if every attempt before it is retried. -/
theorem retryLoop_breaks (adapter : HttpAdapter) (upstream : Nat → UpstreamOutcome)
    (left made : Nat) (lastError : Option ProviderError) {i : Nat} (hle : made ≤ i)
    (hlt : i < made + left)
    (hretried : ∀ j < i, ∃ error, Retried F lower adapter (upstream j) error)
    (hbreaks : BreaksContract F adapter (upstream i)) :
    ∃ exc, (retryLoop F lower adapter upstream left made lastError).result =
      .error (.inr exc) := by
  induction left generalizing made lastError with
  | zero => omega
  | succ left ih =>
      rcases Nat.lt_or_eq_of_le hle with hbefore | rfl
      · obtain ⟨error, hagain⟩ := hretried made hbefore
        rcases retryLoop_step F lower adapter upstream left made lastError with
          ⟨response, hreceived, hstatus, -⟩ | ⟨other, hcategorised, hfatal, -⟩ |
          ⟨other, -, hrun⟩ | ⟨exc, hbroken, -⟩
        · exact absurd hstatus (Nat.not_lt.mpr (hagain.not_answered F lower hreceived))
        · rw [hagain.retryable F lower hcategorised] at hfatal
          cases hfatal
        · rw [hrun]
          exact ih (made + 1) (some other) hbefore (by omega)
        · exact absurd hbroken (hagain.not_breaksContract F lower)
      · rcases retryLoop_step F lower adapter upstream left made lastError with
          ⟨response, hreceived, hstatus, -⟩ | ⟨other, hcategorised, -, -⟩ |
          ⟨other, hagain, -⟩ | ⟨exc, -, hrun⟩
        · exact absurd hbreaks (hreceived.not_breaksContract F hstatus)
        · exact absurd hbreaks (hcategorised.not_breaksContract F lower)
        · exact absurd hbreaks (hagain.not_breaksContract F lower)
        · rw [hrun]
          exact ⟨exc, rfl⟩

/-- A response that is returned was received whole, within the limit, and is no error. -/
theorem received_of_retryLoop (adapter : HttpAdapter) (upstream : Nat → UpstreamOutcome)
    (left made : Nat) (lastError : Option ProviderError) {response : UpstreamResponse}
    (h : (retryLoop F lower adapter upstream left made lastError).result = .ok response) :
    ∃ i, Received adapter (upstream i) response ∧ response.statusCode < 400 := by
  induction left generalizing made lastError with
  | zero =>
      rw [retryLoop] at h
      cases h
  | succ left ih =>
      rcases retryLoop_step F lower adapter upstream left made lastError with
        ⟨other, hreceived, hstatus, hrun⟩ | ⟨error, -, -, hrun⟩ | ⟨error, -, hrun⟩ |
        ⟨exc, -, hrun⟩
      · rw [hrun] at h
        cases h
        exact ⟨made, hreceived, hstatus⟩
      · rw [hrun] at h
        cases h
      · rw [hrun] at h
        exact ih (made + 1) (some error) h
      · rw [hrun] at h
        cases h

/-- A call ends as the adapters promise exactly when no attempt it comes to meets a length
header that `int()` refuses or an error body that cannot be read. -/
theorem requestWithRetries_contract_iff (adapter : HttpAdapter)
    (upstream : Nat → UpstreamOutcome) :
    Contract F lower adapter upstream (requestWithRetries F lower adapter upstream) ↔
      ∀ i < adapter.attempts,
        (∀ j < i, ∃ error, Retried F lower adapter (upstream j) error) →
          ¬ BreaksContract F adapter (upstream i) := by
  unfold requestWithRetries
  constructor
  · intro hcontract i hi hretried hbreaks
    obtain ⟨exc, hexc⟩ := retryLoop_breaks F lower adapter upstream adapter.attempts 0 none
      (Nat.zero_le i) (by omega) hretried hbreaks
    cases hcontract with
    | answered _ _ _ _ _ _ _ hrun =>
        rw [hrun] at hexc
        cases hexc
    | refused _ _ _ _ _ _ hrun =>
        rw [hrun] at hexc
        cases hexc
    | exhausted _ _ _ hrun =>
        rw [hrun] at hexc
        cases hexc
  · intro h
    rcases retryLoop_contract F lower adapter upstream adapter.attempts 0 none (Nat.zero_add _)
      (fun j hj => absurd hj (Nat.not_lt_zero j)) (.inl rfl) with
      hcontract | ⟨i, hi, hretried, hbreaks⟩
    · exact hcontract
    · exact absurd hbreaks (h i hi hretried)

end Requests

/-- An unauthorized response whose body is a JSON text but no object. -/
def unauthorizedText : UpstreamOutcome :=
  .response 401 none [encodeUtf8 "\"unauthorized\"".toList] .complete

/-- OpenRouter's adapter answers it with an `AttributeError`. -/
theorem unauthorizedText_breaks :
    ¬ Contract Exact (fun text => String.ofList (lowerAscii text.toList))
      (.openrouter 16777216) (fun _ => unauthorizedText)
      (requestWithRetries Exact (fun text => String.ofList (lowerAscii text.toList))
        (.openrouter 16777216) fun _ => unauthorizedText) := by
  intro hcontract
  have hresult : (requestWithRetries Exact (fun text => String.ofList (lowerAscii text.toList))
      (.openrouter 16777216) fun _ => unauthorizedText).result =
        .error (.inr (.attributeError "'str' object has no attribute 'get'")) := by
    decide +kernel
  cases hcontract with
  | answered _ _ _ _ _ _ _ hrun =>
      rw [hrun] at hresult
      cases hresult
  | refused _ _ _ _ _ _ hrun =>
      rw [hrun] at hresult
      cases hresult
  | exhausted _ _ _ hrun =>
      rw [hrun] at hresult
      cases hresult

end Providers
end FreeLunch
