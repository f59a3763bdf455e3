import FreeLunch.Health.Marks
import FreeLunch.Python.Json

/-!
# Provider attempts

What an attempt at a provider can raise and what the gateway does about it: the
normalized errors of `src/providers/base.py`, the error hidden in a stream event,
and the effects of an attempt (the call of the provider, health updates, request
logs and bytes for the client), with their meaning on the `models` table.

Main results:

- Theorem `providerErrorFromErrorPayload_message_le`: an error found in an event
  carries at most 500 characters of text.
- Theorem `row?_applyEffects_of_unmarked`: the row of a model shows no effect but its
  own health updates.

Current gaps:

- Health updates and request logs are calls that return; `_iso_after_minutes` out
  of range and database errors are not followed here.
-/

namespace FreeLunch
namespace Gateway

open Python Store Health

/-! ## Errors -/

/-- `GatewayErrorCategory`. -/
inductive GatewayErrorCategory where
  | rateLimited
  | providerUnavailable
  | invalidRequest
  | authError
  | contextExceeded
deriving DecidableEq, Repr

/-- `ProviderError`. -/
structure ProviderError where
  message : String
  category : GatewayErrorCategory
  retryable : Bool
  statusCode : Option Int := none
  errorCode : Option String := none
deriving DecidableEq, Repr

/-- `ProviderRetryableError`. -/
def providerRetryableError (message : String)
    (category : GatewayErrorCategory := .providerUnavailable)
    (statusCode : Option Int := none) (errorCode : Option String := none) : ProviderError where
  message := message
  category := category
  retryable := true
  statusCode := statusCode
  errorCode := errorCode

/-- `ProviderFatalError`. -/
def providerFatalError (message : String)
    (category : GatewayErrorCategory := .invalidRequest)
    (statusCode : Option Int := none) (errorCode : Option String := none) : ProviderError where
  message := message
  category := category
  retryable := false
  statusCode := statusCode
  errorCode := errorCode

/-- What the `except` clauses of the gateway tell apart. -/
inductive Raised where
  | stopAsyncIteration
  | provider (error : ProviderError)
  | timeout (text : String)
  | other (text : String)
deriving DecidableEq, Repr

/-- `str(exc)`. -/
def Raised.text : Raised → String
  | .stopAsyncIteration => ""
  | .provider error => error.message
  | .timeout text => text
  | .other text => text

/-- A built-in exception, as the gateway sees it. -/
def raisedOf : Exc → Raised
  | .timeoutError text => .timeout text
  | exc => .other exc.text

/-- `text[:500]`. -/
def clip (text : String) : String :=
  String.ofList (text.toList.take 500)

theorem length_clip_le (text : String) : (clip text).length ≤ 500 := by
  unfold clip
  rw [String.length_ofList, List.length_take]
  omega

/-- `_provider_error_status`. -/
def providerErrorStatus (exc : ProviderError) : Int :=
  match exc.category with
  | .authError =>
      match exc.statusCode with
      | some status => if status = 0 then 401 else status
      | none => 401
  | .invalidRequest | .contextExceeded => 400
  | .rateLimited => 429
  | .providerUnavailable => 502

section Events

variable {F : Type} [Runtime F]

/-- `categorize_error` of a provider adapter, reached through the registry. -/
abbrev CategorizeError :=
  Option Int → Option String → String → Except Exc (GatewayErrorCategory × Bool)

/-- A value that is an `int`, or a string of digits that `int()` reads. -/
def statusOf (value : PyValue F) : Except Exc (Option Int) :=
  match value.asInt?, value with
  | some n, _ => .ok (some n)
  | none, .str text =>
      if isDigitText text.toList then (intOfText text.toList).map some else .ok none
  | none, _ => .ok none

/-- The status code of an error object: its `status_code`, else its `code`. -/
def errorStatus (rawStatusCode code : PyValue F) : Except Exc (Option Int) := do
  match ← statusOf rawStatusCode with
  | some status => pure (some status)
  | none => statusOf code

/-- `provider_error_from_error_payload`. -/
def providerErrorFromErrorPayload (payload : PyValue F) (categorizeError : CategorizeError) :
    Except Exc (Option ProviderError) :=
  match payload with
  | .dict members =>
      match dictGet members "error" with
      | some (.dict error) => do
          let rawMessage := (dictGet error "message").getD .none
          let message :=
            clip (if rawMessage.truthy then rawMessage.toStr else "provider stream error")
          let code := (dictGet error "code").getD .none
          let errorCode :=
            match code with
            | .none => none
            | code => some code.toStr
          let statusCode ← errorStatus ((dictGet error "status_code").getD .none) code
          let (category, retryable) ← categorizeError statusCode errorCode message
          if retryable then
            pure (some (providerRetryableError message category statusCode errorCode))
          else pure (some (providerFatalError message category statusCode errorCode))
      | _ => .ok none
  | _ => .ok none

/-- The lines of an event, as text. -/
def eventLines (rawEvent : List UInt8) : List (List Char) :=
  splitlines (decodeIgnore rawEvent)

/-- `_parse_stream_event`: the value of the first `data: ` line, or the end marker. -/
def parseStreamEvent (rawEvent : List UInt8) : Except Exc (PyValue F × Bool) :=
  match (eventLines rawEvent).find? fun line => startsWith line "data: ".toList with
  | none => .ok (.none, false)
  | some line =>
      let data := strip (line.drop 6)
      if data = "[DONE]".toList then .ok (.none, true)
      else
        match loads data with
        | .ok value => .ok (value, false)
        | .error (.jsonDecodeError _) => .ok (.none, false)
        | .error exc => .error exc

/-- `_is_comment_event`. -/
def isCommentEvent (rawEvent : List UInt8) : Bool :=
  let lines := ((eventLines rawEvent).map strip).filter fun line => !line.isEmpty
  !lines.isEmpty && lines.all fun line => startsWith line ":".toList

/-- An error found in an event carries at most 500 characters of text. -/
theorem providerErrorFromErrorPayload_message_le {payload : PyValue F}
    {categorizeError : CategorizeError} {error : ProviderError}
    (h : providerErrorFromErrorPayload payload categorizeError = .ok (some error)) :
    error.message.length ≤ 500 := by
  unfold providerErrorFromErrorPayload at h
  split at h <;> try cases h
  split at h <;> try cases h
  simp only [bind, Except.bind, pure, Except.pure] at h
  split at h <;> try cases h
  split at h <;> try cases h
  split at h <;> cases h <;> exact length_clip_le _

end Events

/-! ## Effects -/

/-- The dictionary `_candidate_token_observation` builds. -/
structure TokenObservation where
  selectedProviderModelId : String
  selectedTokenizerFamily : Option String
  estimatedPromptTokens : Int
  selectedContextWindow : Option Int
deriving DecidableEq, Repr

/-- An entry of `log_request`. -/
structure LogEntry (F : Type) where
  requestId : String
  timestamp : String
  selectedModelId : String
  providerId : String
  clientRequestedModel : Option String
  attemptIndex : Nat
  wasFallback : Bool
  tokenObservation : TokenObservation
  promptTokens : PyValue F := .none
  completionTokens : PyValue F := .none
  totalTokens : PyValue F := .none
  latencyMs : Int
  ttfbMs : PyValue F := .none
  success : Bool
  gatewayErrorCategory : Option GatewayErrorCategory := none
  errorCode : Option String := none
  errorMessage : Option String := none
  wasStreaming : Bool
  hadTools : Bool
  hadVision : Bool

/-- What the gateway does in the course of an attempt. -/
inductive Effect (F : Type) where
  /-- A method of the provider is invoked for the model. -/
  | contact (modelId : String)
  | markSuccess (modelId : String) (latencyMs ttfbMs : PyValue F)
  | markFailure (modelId error : String)
  | logRequest (entry : LogEntry F)
  | emit (bytes : List UInt8)

section Effects

variable {F : Type}

/-- The models whose provider was invoked, in order. -/
def contacts (effects : List (Effect F)) : List String :=
  effects.filterMap fun
    | .contact modelId => some modelId
    | _ => none

/-- The models marked as successful, in order. -/
def successMarks (effects : List (Effect F)) : List String :=
  effects.filterMap fun
    | .markSuccess modelId _ _ => some modelId
    | _ => none

/-- The models marked as failed, in order. -/
def failureMarks (effects : List (Effect F)) : List String :=
  effects.filterMap fun
    | .markFailure modelId _ => some modelId
    | _ => none

/-- The request logs, in order. -/
def requestLogs (effects : List (Effect F)) : List (LogEntry F) :=
  effects.filterMap fun
    | .logRequest entry => some entry
    | _ => none

/-- The bytes for the client, event by event. -/
def emitted (effects : List (Effect F)) : List (List UInt8) :=
  effects.filterMap fun
    | .emit bytes => some bytes
    | _ => none

@[simp]
theorem contacts_append (es fs : List (Effect F)) :
    contacts (es ++ fs) = contacts es ++ contacts fs :=
  List.filterMap_append

@[simp]
theorem successMarks_append (es fs : List (Effect F)) :
    successMarks (es ++ fs) = successMarks es ++ successMarks fs :=
  List.filterMap_append

@[simp]
theorem failureMarks_append (es fs : List (Effect F)) :
    failureMarks (es ++ fs) = failureMarks es ++ failureMarks fs :=
  List.filterMap_append

@[simp]
theorem requestLogs_append (es fs : List (Effect F)) :
    requestLogs (es ++ fs) = requestLogs es ++ requestLogs fs :=
  List.filterMap_append

@[simp]
theorem emitted_append (es fs : List (Effect F)) :
    emitted (es ++ fs) = emitted es ++ emitted fs :=
  List.filterMap_append

/-! ## The health columns -/

/-- The clock and the settings that health updates meet. -/
structure HealthClock where
  settings : HealthSettings
  now : String
  isoAfterMinutes : Rat → Except Exc String

/-- A number as SQLite stores it in a `REAL` column. -/
def realOf [FloatArith F] : PyValue F → Option F
  | .int n => some (FloatArith.ofInt n)
  | .float x => some x
  | _ => none

/-- What one effect does to the table. -/
def applyEffect [FloatArith F] (clock : HealthClock) (table : ModelsTable F) :
    Effect F → ModelsTable F
  | .markSuccess modelId latencyMs ttfbMs =>
      table.exec (Health.markSuccess modelId
        { now := clock.now, latencyMs := realOf latencyMs, ttfbMs := realOf ttfbMs })
  | .markFailure modelId error =>
      match Health.markFailure clock.settings table modelId
          { now := clock.now, error := error, isoAfterMinutes := clock.isoAfterMinutes } with
      | .ok w => table.execAll w.toList
      | .error _ => table
  | _ => table

/-- What the effects of an attempt do to the table, once applied. -/
def applyEffects [FloatArith F] (clock : HealthClock) (table : ModelsTable F)
    (effects : List (Effect F)) : ModelsTable F :=
  effects.foldl (applyEffect clock) table

/-- The health columns of a row. -/
structure HealthColumns where
  consecutiveFailures : Option Int
  backoffLevel : Option Int
  cooldownUntil : Option String
  isHealthy : Option Int
  lastFailureAt : Option String
deriving DecidableEq, Repr

/-- The health columns of the stored row of a model. -/
def healthColumns (table : ModelsTable F) (modelId : String) : Option HealthColumns :=
  (table.row? modelId).map fun row =>
    { consecutiveFailures := row.consecutiveFailures
      backoffLevel := row.backoffLevel
      cooldownUntil := row.cooldownUntil
      isHealthy := row.isHealthy
      lastFailureAt := row.lastFailureAt }

theorem applyEffects_append [FloatArith F] (clock : HealthClock) (table : ModelsTable F)
    (es fs : List (Effect F)) :
    applyEffects clock table (es ++ fs) = applyEffects clock (applyEffects clock table es) fs :=
  List.foldl_append

/-- Effects without a health update leave the table alone. -/
theorem applyEffects_eq_self [FloatArith F] (clock : HealthClock) (table : ModelsTable F)
    {effects : List (Effect F)} (hsuccess : successMarks effects = [])
    (hfailure : failureMarks effects = []) : applyEffects clock table effects = table := by
  induction effects with
  | nil => rfl
  | cons effect rest ih =>
      have hcons : effect :: rest = [effect] ++ rest := rfl
      rw [hcons, successMarks_append, List.append_eq_nil_iff] at hsuccess
      rw [hcons, failureMarks_append, List.append_eq_nil_iff] at hfailure
      have hrest := ih hsuccess.2 hfailure.2
      cases effect with
      | markSuccess modelId latencyMs ttfbMs => cases hsuccess.1
      | markFailure modelId error => cases hfailure.1
      | contact modelId => exact hrest
      | logRequest entry => exact hrest
      | emit bytes => exact hrest

/-- A health update of one model does not show in the row of another. -/
theorem row?_applyEffect_of_unmarked [FloatArith F] (clock : HealthClock)
    (table : ModelsTable F) {effect : Effect F} {modelId : String}
    (hsuccess : modelId ∉ successMarks [effect]) (hfailure : modelId ∉ failureMarks [effect]) :
    (applyEffect clock table effect).row? modelId = table.row? modelId := by
  cases effect with
  | contact other => rfl
  | logRequest entry => rfl
  | emit bytes => rfl
  | markSuccess other latencyMs ttfbMs =>
      have hne : modelId ≠ other := by
        rintro rfl
        exact hsuccess List.mem_cons_self
      exact rowOf_updateWhere_of_ne (w := Health.markSuccess other _) rfl hne table.rows
  | markFailure other error =>
      have hne : modelId ≠ other := by
        rintro rfl
        exact hfailure List.mem_cons_self
      unfold applyEffect
      dsimp only
      cases hmark : Health.markFailure clock.settings table other
          { now := clock.now, error := error, isoAfterMinutes := clock.isoAfterMinutes } with
      | error exc => rfl
      | ok write =>
          cases write with
          | none => rfl
          | some w =>
              obtain ⟨text, level, cooldownUntil, rfl⟩ := markFailure_eq_ok_some hmark
              exact rowOf_updateWhere_of_ne
                (w := .failure other clock.now text level cooldownUntil _) rfl hne table.rows

/-- The row of a model shows no effect but its own health updates. -/
theorem row?_applyEffects_of_unmarked [FloatArith F] (clock : HealthClock)
    (table : ModelsTable F) {effects : List (Effect F)} {modelId : String}
    (hsuccess : modelId ∉ successMarks effects) (hfailure : modelId ∉ failureMarks effects) :
    (applyEffects clock table effects).row? modelId = table.row? modelId := by
  induction effects generalizing table with
  | nil => rfl
  | cons effect rest ih =>
      have hcons : effect :: rest = [effect] ++ rest := rfl
      rw [hcons, successMarks_append, List.mem_append, not_or] at hsuccess
      rw [hcons, failureMarks_append, List.mem_append, not_or] at hfailure
      calc (applyEffects clock table (effect :: rest)).row? modelId
          = (applyEffect clock table effect).row? modelId :=
            ih (applyEffect clock table effect) hsuccess.2 hfailure.2
        _ = table.row? modelId := row?_applyEffect_of_unmarked clock table hsuccess.1 hfailure.1

end Effects

end Gateway
end FreeLunch
