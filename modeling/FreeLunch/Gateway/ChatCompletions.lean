import FreeLunch.Gateway.StreamErrors
import FreeLunch.Routing.PickCandidates
import Mathlib.Data.List.Induction

/-!
# The failover loop

The candidate loop of `chat_completions` in `src/proxy.py`: one attempt after the
other, the arms of its `try`, and the answer when the candidates run out.  The
effects are kept attempt by attempt; a relayed stream is the last attempt.

Main results:

- Theorem `chatLoop_effects`: the effects of a request are those of its attempts.
- Theorem `chat_nonstreaming_spec`: contacts, logs, health updates and answer of a
  request that does not stream.

Current gaps:

- `_candidate_token_observation` is a total parameter.
-/

namespace FreeLunch
namespace Gateway

open Python Store Health Routing

/-! ## A request and its surroundings -/

/-- `ChatResult`. -/
structure ChatResult (F : Type) where
  payload : PyValue F
  latencyMs : PyValue F := .none
  ttfbMs : PyValue F := .none
  promptTokens : PyValue F := .none
  completionTokens : PyValue F := .none
  totalTokens : PyValue F := .none

/-- The clock readings of the loop: at the start, before an attempt streams, and when
an attempt is logged. -/
structure ChatClock where
  start : Rat
  attempt : Nat → Rat
  logged : Nat → Rat
  timestamp : Nat → String
  relay : Nat → RelayClock

/-- What the loop reads: the parsed request, the settings, the registry with each
routable provider's `categorize_error`, and what the providers do. -/
structure ChatEnv (F : Type) where
  requestId : String
  requestedModel : Option String
  requiresStreaming : Bool
  requiresTools : Bool
  requiresVision : Bool
  settings : GatewaySettings
  registry : String → Option CategorizeError
  tokenObservation : Routed → TokenObservation
  chatCompletions : Routed → Except Raised (ChatResult F)
  streamChatCompletions : Routed → Except Raised (List UpstreamItem)
  clock : ChatClock
  client : DisconnectPattern

/-- What an attempt that does not raise ends with. -/
inductive Answer (F : Type) where
  | result (result : ChatResult F)
  | stream (firstEvent : List UInt8) (upstream : List UpstreamItem)

/-- What the client gets. -/
inductive Response (F : Type) where
  | payload (payload : PyValue F)
  | stream
  | http (status : Int) (detail : String)
  | uncaught (text : String)

/-- The variables the loop carries from one candidate to the next. -/
structure LoopState where
  lastProviderError : Option ProviderError
  allFailuresContextExceeded : Bool

/-- The variables before the first candidate. -/
def LoopState.initial : LoopState where
  lastProviderError := none
  allFailuresContextExceeded := true

/-- How an arm of the `try` leaves the loop body. -/
inductive Next (F : Type) where
  | goOn (st : LoopState)
  | answer (response : Response F)

section Chat

variable {F : Type} [Runtime F]

/-- The arguments an attempt hands to the relay and to `_log_failure`. -/
def relayContext (env : ChatEnv F) (idx : Nat) (candidate : Routed)
    (categorizeError : CategorizeError) : RelayContext where
  requestId := env.requestId
  modelId := candidate.id
  providerName := candidate.providerId
  attemptIndex := idx
  requestedModel := env.requestedModel
  requiresTools := env.requiresTools
  requiresVision := env.requiresVision
  start := env.clock.start
  tokenObservation := env.tokenObservation candidate
  categorizeError := categorizeError
  settings := env.settings

/-! ## One attempt -/

/-- The loop that waits for the first event that is not a comment. -/
def firstStreamEvent (settings : GatewaySettings) :
    List UpstreamItem → Except Raised (List UInt8 × List UpstreamItem)
  | [] => .error .stopAsyncIteration
  | .error raised :: _ => .error raised
  | .ok rawEvent :: rest =>
      if settings.gatewayMaxSseEventBytes < rawEvent.length then
        .error (.provider (providerRetryableError "provider SSE event exceeded size limit"))
      else if isCommentEvent rawEvent then firstStreamEvent settings rest
      else .ok (rawEvent, rest)

/-- `stream_remaining`. -/
def streamRemaining (env : ChatEnv F) (idx : Nat) : Rat :=
  env.settings.gatewayStreamTotalTimeoutSeconds - (env.clock.attempt idx - env.clock.start)

/-- The outcome of the candidate once its provider is invoked. -/
def contactOutcome (env : ChatEnv F) (candidate : Routed) : Except Raised (Answer F) :=
  if env.requiresStreaming then do
    let upstream ← env.streamChatCompletions candidate
    let (firstEvent, rest) ← firstStreamEvent env.settings upstream
    pure (.stream firstEvent rest)
  else (env.chatCompletions candidate).map .result

/-- The body of the `try` up to the answer: a stream whose deadline has passed raises
before the provider is invoked. -/
def attempt (env : ChatEnv F) (idx : Nat) (candidate : Routed) :
    List (Effect F) × Except Raised (Answer F) :=
  if env.requiresStreaming ∧ streamRemaining env idx ≤ 0 then
    ([], .error (.timeout "provider stream total deadline exceeded"))
  else ([.contact candidate.id], contactOutcome env candidate)

/-- `_log_failure` in an arm of the loop. -/
def logFailure (env : ChatEnv F) (ctx : RelayContext) (error : ProviderError) : Effect F :=
  .logRequest (failureEntry ctx (env.clock.timestamp ctx.attemptIndex)
    (milliseconds env.clock.start (env.clock.logged ctx.attemptIndex)) error
    env.requiresStreaming)

/-- The end of the body for a result: `mark_success` and the log entry. -/
def succeed (env : ChatEnv F) (ctx : RelayContext) (result : ChatResult F) :
    List (Effect F) :=
  [.markSuccess ctx.modelId result.latencyMs result.ttfbMs,
    .logRequest
      { requestId := ctx.requestId
        timestamp := env.clock.timestamp ctx.attemptIndex
        selectedModelId := ctx.modelId
        providerId := ctx.providerName
        clientRequestedModel := ctx.requestedModel
        attemptIndex := ctx.attemptIndex
        wasFallback := decide (0 < ctx.attemptIndex)
        tokenObservation := ctx.tokenObservation
        promptTokens := result.promptTokens
        completionTokens := result.completionTokens
        totalTokens := result.totalTokens
        latencyMs := milliseconds env.clock.start (env.clock.logged ctx.attemptIndex)
        ttfbMs := result.ttfbMs
        success := true
        wasStreaming := env.requiresStreaming
        hadTools := ctx.requiresTools
        hadVision := ctx.requiresVision }]

/-- The three `except` arms. -/
def handle (env : ChatEnv F) (ctx : RelayContext) (st : LoopState) :
    Raised → List (Effect F) × Next F
  | .stopAsyncIteration =>
      let error := providerRetryableError "provider stream ended before first event"
      ([.markFailure ctx.modelId error.message, logFailure env ctx error],
        .goOn { lastProviderError := some error, allFailuresContextExceeded := false })
  | .provider error =>
      if error.retryable then
        ((if error.category ≠ .contextExceeded then [.markFailure ctx.modelId error.message]
            else []) ++ [logFailure env ctx error],
          .goOn
            { lastProviderError := some error
              allFailuresContextExceeded :=
                if error.category ≠ .contextExceeded then false
                else st.allFailuresContextExceeded })
      else
        ([logFailure env ctx error],
          .answer (.http (providerErrorStatus error) error.message))
  | raised =>
      let error := providerRetryableError (clip raised.text)
      ([.markFailure ctx.modelId raised.text, logFailure env ctx error],
        .goOn { lastProviderError := some error, allFailuresContextExceeded := false })

/-! ## The loop -/

/-- The answer when the candidates run out. -/
def exhausted (st : LoopState) : Response F :=
  match st.lastProviderError with
  | some error =>
      if error.category = .contextExceeded ∧ st.allFailuresContextExceeded = true then
        .http 400 error.message
      else .http 502 error.message
  | none => .http 502 "all candidates failed"

/-- The candidate loop: the answer and the effects of each attempt. -/
def chatLoop (env : ChatEnv F) :
    Nat → List Routed → LoopState → Response F × List (List (Effect F))
  | _, [], st => (exhausted st, [])
  | idx, candidate :: rest, st =>
      match env.registry candidate.providerId with
      | none => (.uncaught candidate.providerId, [])
      | some categorizeError =>
          let ctx := relayContext env idx candidate categorizeError
          let (effects, outcome) := attempt env idx candidate
          match outcome with
          | .ok (.result result) => (.payload result.payload, [effects ++ succeed env ctx result])
          | .ok (.stream firstEvent upstream) =>
              let relayed :=
                relayStream ctx (env.clock.relay idx) env.client firstEvent upstream
              (.stream, [effects ++ relayed.effects])
          | .error raised =>
              match handle env ctx st raised with
              | (more, .answer response) => (response, [effects ++ more])
              | (more, .goOn st') =>
                  let (response, later) := chatLoop env (idx + 1) rest st'
                  (response, (effects ++ more) :: later)

/-- `chat_completions` after candidate selection. -/
def chatCompletions (env : ChatEnv F) (candidates : List Routed) :
    Response F × List (List (Effect F)) :=
  chatLoop env 0 candidates .initial

/-! ## The attempts of a request -/

/-- An attempt: its position, its candidate and the registered `categorize_error`. -/
structure Attempt where
  idx : Nat
  candidate : Routed
  categorizeError : CategorizeError

/-- The arguments of the attempt. -/
def Attempt.context (env : ChatEnv F) (a : Attempt) : RelayContext :=
  relayContext env a.idx a.candidate a.categorizeError

/-- The effects of a whole attempt, up to the end of its relay. -/
def Attempt.effects (env : ChatEnv F) (a : Attempt) : List (Effect F) :=
  (attempt env a.idx a.candidate).1 ++
    match (attempt env a.idx a.candidate).2 with
    | .ok (.result result) => succeed env (a.context env) result
    | .ok (.stream firstEvent upstream) =>
        (relayStream (a.context env) (env.clock.relay a.idx) env.client firstEvent
          upstream).effects
    | .error raised => (handle env (a.context env) .initial raised).1

/-- The exceptions after which the loop goes on. -/
def Raised.failsOver : Raised → Bool
  | .provider error => error.retryable
  | _ => true

/-- The attempts the loop makes: a registered candidate is reached when the attempts
before it failed over. -/
def attempts (env : ChatEnv F) : Nat → List Routed → List Attempt
  | _, [] => []
  | idx, candidate :: rest =>
      match env.registry candidate.providerId with
      | none => []
      | some categorizeError =>
          ⟨idx, candidate, categorizeError⟩ ::
            match (attempt env idx candidate).2 with
            | .ok _ => []
            | .error raised =>
                if raised.failsOver then attempts env (idx + 1) rest else []

/-- The error a failed attempt is logged with. -/
def failureOf : Raised → ProviderError
  | .stopAsyncIteration => providerRetryableError "provider stream ended before first event"
  | .provider error => error
  | raised => providerRetryableError (clip raised.text)

/-- A failure that is categorised `CONTEXT_EXCEEDED`. -/
def Raised.contextExceeded : Raised → Bool
  | .provider error => decide (error.category = .contextExceeded)
  | _ => false

/-- The variables after a candidate that failed over. -/
def LoopState.after (st : LoopState) (raised : Raised) : LoopState where
  lastProviderError := some (failureOf raised)
  allFailuresContextExceeded := st.allFailuresContextExceeded && raised.contextExceeded

/-- The text a failed attempt is marked with. -/
def markedText : Raised → String
  | .stopAsyncIteration => "provider stream ended before first event"
  | raised => raised.text

omit [Runtime F] in
/-- What an arm of the `try` does: a health penalty, unless the error is fatal or a
context error, and one log entry. -/
theorem handle_effects (env : ChatEnv F) (ctx : RelayContext) (st : LoopState)
    (raised : Raised) :
    (handle env ctx st raised).1 =
      (if raised.failsOver && !raised.contextExceeded
        then [.markFailure ctx.modelId (markedText raised)] else []) ++
        [logFailure env ctx (failureOf raised)] := by
  cases raised with
  | provider error =>
      by_cases hretryable : error.retryable = true
      · by_cases hcategory : error.category = .contextExceeded <;>
          simp [handle, hretryable, hcategory, Raised.failsOver, Raised.contextExceeded,
            markedText, Raised.text, failureOf]
      · simp [handle, hretryable, Raised.failsOver, failureOf]
  | stopAsyncIteration => rfl
  | timeout text => rfl
  | other text => rfl

omit [Runtime F] in
/-- The loop goes on after every exception but a fatal provider error. -/
theorem handle_next (env : ChatEnv F) (ctx : RelayContext) (st : LoopState)
    (raised : Raised) :
    (handle env ctx st raised).2 =
      if raised.failsOver then .goOn (st.after raised)
      else .answer (.http (providerErrorStatus (failureOf raised))
        (failureOf raised).message) := by
  cases raised with
  | provider error =>
      by_cases hretryable : error.retryable = true
      · by_cases hcategory : error.category = .contextExceeded <;>
          simp [handle, Raised.failsOver, hretryable, hcategory, LoopState.after,
            Raised.contextExceeded, failureOf]
      · simp [handle, Raised.failsOver, hretryable, failureOf]
  | stopAsyncIteration =>
      simp [handle, Raised.failsOver, LoopState.after, Raised.contextExceeded, failureOf]
  | timeout text =>
      simp [handle, Raised.failsOver, LoopState.after, Raised.contextExceeded, failureOf]
  | other text =>
      simp [handle, Raised.failsOver, LoopState.after, Raised.contextExceeded, failureOf]

/-- One turn of the loop at a registered candidate that fails. -/
theorem chatLoop_error {env : ChatEnv F} {idx : Nat} {candidate : Routed}
    {rest : List Routed} {st : LoopState} {categorizeError : CategorizeError}
    {raised : Raised} (hregistry : env.registry candidate.providerId = some categorizeError)
    (houtcome : (attempt env idx candidate).2 = .error raised) :
    chatLoop env idx (candidate :: rest) st =
      if raised.failsOver then
        ((chatLoop env (idx + 1) rest (st.after raised)).1,
          Attempt.effects env ⟨idx, candidate, categorizeError⟩ ::
            (chatLoop env (idx + 1) rest (st.after raised)).2)
      else
        (.http (providerErrorStatus (failureOf raised)) (failureOf raised).message,
          [Attempt.effects env ⟨idx, candidate, categorizeError⟩]) := by
  have heffects : Attempt.effects env ⟨idx, candidate, categorizeError⟩ =
      (attempt env idx candidate).1 ++
        (handle env (relayContext env idx candidate categorizeError) st raised).1 := by
    unfold Attempt.effects
    dsimp only
    rw [houtcome, handle_effects env _ st]
    exact congrArg _ (handle_effects env _ _ _)
  have hnext := handle_next env (relayContext env idx candidate categorizeError) st raised
  rw [heffects, chatLoop, hregistry]
  dsimp only
  rw [houtcome]
  dsimp only
  generalize handle env (relayContext env idx candidate categorizeError) st raised = arm
    at hnext ⊢
  obtain ⟨more, next⟩ := arm
  dsimp only at hnext
  subst hnext
  cases raised.failsOver <;> rfl

/-- The effects of the loop are those of its attempts. -/
theorem chatLoop_effects (env : ChatEnv F) (candidates : List Routed) (idx : Nat)
    (st : LoopState) :
    (chatLoop env idx candidates st).2 =
      (attempts env idx candidates).map (Attempt.effects env) := by
  induction candidates generalizing idx st with
  | nil => rfl
  | cons candidate rest ih =>
      cases hregistry : env.registry candidate.providerId with
      | none => simp [chatLoop, attempts, hregistry]
      | some categorizeError =>
          cases houtcome : (attempt env idx candidate).2 with
          | ok answer =>
              cases answer with
              | result result =>
                  simp [chatLoop, attempts, hregistry, houtcome, Attempt.effects,
                    Attempt.context]
              | stream firstEvent upstream =>
                  simp [chatLoop, attempts, hregistry, houtcome, Attempt.effects,
                    Attempt.context]
          | error raised =>
              rw [chatLoop_error hregistry houtcome]
              cases hover : raised.failsOver with
              | true => simp [attempts, hregistry, houtcome, hover, ih]
              | false => simp [attempts, hregistry, houtcome, hover]

/-! ## A sample request -/

/-- A candidate of the sample provider. -/
def sampleCandidate (id : String) : Routed where
  id := id
  providerId := "p"
  providerModelId := id

/-- A request over candidates `a`, `b`, `c`, `d`: `a` exceeds its context, `b` is rate
limited and the others succeed; a stream ends before its first event. -/
def sampleEnv (requiresStreaming : Bool) (attemptAt : Nat → Rat) : ChatEnv Exact where
  requestId := "request"
  requestedModel := none
  requiresStreaming := requiresStreaming
  requiresTools := false
  requiresVision := false
  settings := sampleContext.settings
  registry _ := some sampleContext.categorizeError
  tokenObservation _ := sampleContext.tokenObservation
  chatCompletions candidate :=
    if candidate.id = "a" then
      .error (.provider (providerRetryableError "too many tokens" .contextExceeded))
    else if candidate.id = "b" then
      .error (.provider (providerRetryableError "slow down" .rateLimited))
    else .ok { payload := .str "ok" }
  streamChatCompletions _ := .ok []
  clock :=
    { start := 0, attempt := attemptAt, logged := fun _ => 0, timestamp := fun _ => "t0"
      relay := fun _ => sampleClock }
  client := stayingClient

/-- The candidates of the sample request. -/
def sampleCandidates : List Routed :=
  ["a", "b", "c", "d"].map sampleCandidate

/-! ## Requests that do not stream -/

/-- An outcome that ends the loop: a success or a fatal error. -/
def endsLoop (outcome : Except Raised (ChatResult F)) : Bool :=
  match outcome with
  | .ok _ => true
  | .error raised => !raised.failsOver

/-- A success. -/
def succeeds (outcome : Except Raised (ChatResult F)) : Bool :=
  match outcome with
  | .ok _ => true
  | .error _ => false

/-- A failure that counts against the health of the model: a retryable error of another
category than `CONTEXT_EXCEEDED`, or another exception. -/
def penalised (outcome : Except Raised (ChatResult F)) : Bool :=
  match outcome with
  | .ok _ => false
  | .error raised => raised.failsOver && !raised.contextExceeded

/-- A failure that is categorised `CONTEXT_EXCEEDED`. -/
def exceedsContext (outcome : Except Raised (ChatResult F)) : Bool :=
  match outcome with
  | .ok _ => false
  | .error raised => raised.contextExceeded

/-- The candidates up to and including the first success or fatal error. -/
def contacted (env : ChatEnv F) (candidates : List Routed) : List Routed :=
  candidates.takeWhile (fun candidate => !endsLoop (env.chatCompletions candidate)) ++
    (candidates.find? fun candidate => endsLoop (env.chatCompletions candidate)).toList

/-- The answer the outcomes call for. -/
def answerOf (env : ChatEnv F) (candidates : List Routed) : Response F :=
  match candidates.find? fun candidate => endsLoop (env.chatCompletions candidate) with
  | some candidate =>
      match env.chatCompletions candidate with
      | .ok result => .payload result.payload
      | .error raised =>
          .http (providerErrorStatus (failureOf raised)) (failureOf raised).message
  | none =>
      .http
        (if candidates ≠ [] ∧
            ∀ candidate ∈ candidates, exceedsContext (env.chatCompletions candidate) = true
          then 400 else 502)
        (match candidates.getLast?.map env.chatCompletions with
          | some (.error raised) => (failureOf raised).message
          | _ => "all candidates failed")

omit [Runtime F] in
theorem contacted_cons (env : ChatEnv F) (candidate : Routed) (rest : List Routed) :
    contacted env (candidate :: rest) =
      candidate ::
        if endsLoop (env.chatCompletions candidate) then [] else contacted env rest := by
  unfold contacted
  cases hends : endsLoop (env.chatCompletions candidate) with
  | true => simp [hends]
  | false => simp [hends]

omit [Runtime F] in
/-- An attempt that does not stream. -/
theorem attempt_nonstreaming {env : ChatEnv F} (hstreaming : env.requiresStreaming = false)
    (idx : Nat) (candidate : Routed) :
    attempt env idx candidate =
      ([.contact candidate.id], (env.chatCompletions candidate).map .result) := by
  simp [attempt, contactOutcome, hstreaming]

omit [Runtime F] in
/-- The attempts are the contacted candidates, in order. -/
theorem attempts_nonstreaming {env : ChatEnv F} (hstreaming : env.requiresStreaming = false)
    {candidates : List Routed}
    (hregistered : ∀ candidate ∈ candidates, (env.registry candidate.providerId).isSome)
    (idx : Nat) :
    (attempts env idx candidates).map (fun a => (a.candidate, a.idx)) =
      (contacted env candidates).zipIdx idx := by
  induction candidates generalizing idx with
  | nil => rfl
  | cons candidate rest ih =>
      obtain ⟨categorizeError, hregistry⟩ :=
        Option.isSome_iff_exists.mp (hregistered candidate List.mem_cons_self)
      have hrest := ih
        (fun other hother => hregistered other (List.mem_cons_of_mem _ hother)) (idx + 1)
      rw [contacted_cons, attempts, hregistry, attempt_nonstreaming hstreaming]
      cases houtcome : env.chatCompletions candidate with
      | ok result => simp [Except.map, endsLoop]
      | error raised =>
          cases hover : raised.failsOver with
          | true => simp [Except.map, endsLoop, hover, hrest]
          | false => simp [Except.map, endsLoop, hover]

/-- What one attempt that does not stream does, read off its outcome. -/
theorem effects_nonstreaming {env : ChatEnv F} (hstreaming : env.requiresStreaming = false)
    (a : Attempt) :
    contacts (a.effects env) = [a.candidate.id] ∧
      (requestLogs (a.effects env)).map
          (fun entry => (entry.selectedModelId, entry.attemptIndex, entry.wasFallback,
            entry.success)) =
        [(a.candidate.id, a.idx, decide (0 < a.idx),
          succeeds (env.chatCompletions a.candidate))] ∧
      successMarks (a.effects env) =
        (if succeeds (env.chatCompletions a.candidate) then [a.candidate.id] else []) ∧
      failureMarks (a.effects env) =
        (if penalised (env.chatCompletions a.candidate) then [a.candidate.id] else []) := by
  unfold Attempt.effects
  rw [attempt_nonstreaming hstreaming]
  cases houtcome : env.chatCompletions a.candidate with
  | ok result => exact ⟨rfl, rfl, rfl, rfl⟩
  | error raised =>
      dsimp only [Except.map]
      have hrule : penalised (F := F) (.error raised) =
          (raised.failsOver && !raised.contextExceeded) := rfl
      rw [handle_effects, hrule]
      by_cases hpenalised : (raised.failsOver && !raised.contextExceeded) = true
      · rw [if_pos hpenalised, if_pos hpenalised]
        exact ⟨rfl, rfl, rfl, rfl⟩
      · rw [if_neg hpenalised, if_neg hpenalised]
        exact ⟨rfl, rfl, rfl, rfl⟩

omit [Runtime F] in
/-- A projection of the effects that respects appending acts attempt by attempt. -/
theorem project_flatten {α : Type} {p : List (Effect F) → List α}
    (happend : ∀ es fs, p (es ++ fs) = p es ++ p fs)
    (effects : List (List (Effect F))) :
    p effects.flatten = effects.flatMap p := by
  induction effects with
  | nil =>
      have hnil := happend [] []
      simpa using hnil
  | cons first rest ih => rw [List.flatten_cons, happend, ih, List.flatMap_cons]

/-- A projection of a request that does not stream, read off the contacted candidates. -/
theorem project_nonstreaming {α : Type} {p : List (Effect F) → List α}
    (happend : ∀ es fs, p (es ++ fs) = p es ++ p fs)
    {env : ChatEnv F} (hstreaming : env.requiresStreaming = false)
    {candidates : List Routed}
    (hregistered : ∀ candidate ∈ candidates, (env.registry candidate.providerId).isSome)
    {g : Routed × Nat → List α}
    (heach : ∀ a : Attempt, p (a.effects env) = g (a.candidate, a.idx)) :
    p (chatCompletions env candidates).2.flatten =
      (contacted env candidates).zipIdx.flatMap g := by
  have hattempt : (fun a : Attempt => p (a.effects env)) =
      fun a => g (a.candidate, a.idx) := funext heach
  rw [chatCompletions, chatLoop_effects, project_flatten happend, List.flatMap_map, hattempt,
    ← attempts_nonstreaming hstreaming hregistered, List.flatMap_map]

/-- The candidates of `zipIdx` with a property, in order. -/
theorem flatMap_zipIdx_ite {α β : Type} (p : α → Bool) (f : α → β) (xs : List α) (n : Nat) :
    (xs.zipIdx n).flatMap (fun x => if p x.1 then [f x.1] else []) =
      (xs.filter p).map f := by
  induction xs generalizing n with
  | nil => rfl
  | cons x rest ih =>
      rw [List.zipIdx_cons, List.flatMap_cons, ih]
      cases hx : p x <;> simp [hx]

/-! ## The answer -/

/-- The variables after one more candidate; a success leaves the loop with them. -/
def LoopState.next (env : ChatEnv F) (st : LoopState) (candidate : Routed) : LoopState :=
  match env.chatCompletions candidate with
  | .ok _ => st
  | .error raised => st.after raised

/-- The loop answers with the first outcome that ends it, or runs out of candidates. -/
theorem chatLoop_answer {env : ChatEnv F} (hstreaming : env.requiresStreaming = false)
    {candidates : List Routed}
    (hregistered : ∀ candidate ∈ candidates, (env.registry candidate.providerId).isSome)
    (idx : Nat) (st : LoopState) :
    (chatLoop env idx candidates st).1 =
      match candidates.find? fun candidate => endsLoop (env.chatCompletions candidate) with
      | some _ => answerOf env candidates
      | none => exhausted (candidates.foldl (LoopState.next env) st) := by
  induction candidates generalizing idx st with
  | nil => rfl
  | cons candidate rest ih =>
      obtain ⟨categorizeError, hregistry⟩ :=
        Option.isSome_iff_exists.mp (hregistered candidate List.mem_cons_self)
      have hattempt := attempt_nonstreaming hstreaming idx candidate
      cases houtcome : env.chatCompletions candidate with
      | ok result =>
          rw [houtcome] at hattempt
          simp [chatLoop, hregistry, hattempt, Except.map, answerOf, endsLoop, houtcome]
      | error raised =>
          rw [houtcome] at hattempt
          have herror : (attempt env idx candidate).2 = .error raised := by
            rw [hattempt]
            rfl
          rw [chatLoop_error hregistry herror]
          cases hover : raised.failsOver with
          | false => simp [answerOf, endsLoop, houtcome, hover]
          | true =>
              have hrest := ih (fun other hother =>
                hregistered other (List.mem_cons_of_mem _ hother)) (idx + 1) (st.after raised)
              have hends : endsLoop (env.chatCompletions candidate) = false := by
                rw [houtcome, endsLoop, hover]
                rfl
              have hfind : (candidate :: rest).find? (fun candidate =>
                  endsLoop (env.chatCompletions candidate)) =
                  rest.find? fun candidate => endsLoop (env.chatCompletions candidate) := by
                rw [List.find?_cons, hends]
              have hnext : LoopState.next env st candidate = st.after raised := by
                rw [LoopState.next, houtcome]
              rw [if_pos rfl, hrest, hfind, List.foldl_cons, hnext]
              cases hlast : rest.find? fun candidate =>
                  endsLoop (env.chatCompletions candidate) with
              | none => rfl
              | some last => simp only [answerOf, hfind, hlast]

omit [Runtime F] in
/-- The accumulators after candidates that all failed. -/
theorem foldl_next {env : ChatEnv F} {candidates : List Routed}
    (hfailed : ∀ candidate ∈ candidates,
      endsLoop (env.chatCompletions candidate) = false) (st : LoopState) :
    (candidates.foldl (LoopState.next env) st).lastProviderError =
        (match candidates.getLast?.map env.chatCompletions with
          | some (.error raised) => some (failureOf raised)
          | _ => st.lastProviderError) ∧
      (candidates.foldl (LoopState.next env) st).allFailuresContextExceeded =
        (st.allFailuresContextExceeded &&
          candidates.all fun candidate => exceedsContext (env.chatCompletions candidate)) := by
  induction candidates using List.reverseRecOn with
  | nil => simp
  | append_singleton front candidate ih =>
      have hlast := hfailed candidate (by simp)
      obtain ⟨-, hflag⟩ := ih fun other hother => hfailed other (by simp [hother])
      rw [List.foldl_append, List.foldl_cons, List.foldl_nil, List.getLast?_append]
      cases houtcome : env.chatCompletions candidate with
      | ok result =>
          rw [houtcome] at hlast
          cases hlast
      | error raised =>
          simp [LoopState.next, houtcome, LoopState.after, hflag, exceedsContext, Bool.and_assoc]

theorem category_of_contextExceeded {raised : Raised}
    (h : raised.contextExceeded = true) :
    (failureOf raised).category = .contextExceeded := by
  cases raised with
  | provider error => exact of_decide_eq_true h
  | stopAsyncIteration => cases h
  | timeout text => cases h
  | other text => cases h

omit [Runtime F] in
/-- A loop in which no outcome ends it answers with the mapped last error. -/
theorem exhausted_foldl_next {env : ChatEnv F} {candidates : List Routed}
    (hfind : (candidates.find? fun candidate =>
      endsLoop (env.chatCompletions candidate)) = none) :
    exhausted (candidates.foldl (LoopState.next env) .initial) = answerOf env candidates := by
  have hfailed : ∀ candidate ∈ candidates,
      endsLoop (env.chatCompletions candidate) = false := by
    simpa using hfind
  obtain ⟨herror, hflag⟩ := foldl_next hfailed .initial
  unfold exhausted answerOf
  rw [hfind, herror, hflag]
  rcases List.eq_nil_or_concat' candidates with rfl | ⟨front, candidate, rfl⟩
  · simp [LoopState.initial]
  · have hlast := hfailed candidate (by simp)
    cases houtcome : env.chatCompletions candidate with
    | ok result =>
        rw [houtcome] at hlast
        cases hlast
    | error raised =>
        by_cases hall : ∀ other ∈ front ++ [candidate],
            exceedsContext (env.chatCompletions other) = true
        · have hcontext := hall candidate (by simp)
          rw [houtcome] at hcontext
          have hcategory := category_of_contextExceeded hcontext
          rw [List.all_eq_true.mpr hall, if_pos ⟨by simp, hall⟩]
          simp [LoopState.initial, houtcome, hcategory]
        · have heach : ((front ++ [candidate]).all fun other =>
              exceedsContext (env.chatCompletions other)) = false :=
            Bool.eq_false_iff.mpr fun h => hall (List.all_eq_true.mp h)
          rw [heach, if_neg fun h => hall h.2]
          simp [LoopState.initial, houtcome]

/-- A request that does not stream: the contacted candidates, one log entry for each of
them, the health updates, and the answer. -/
theorem chat_nonstreaming_spec (env : ChatEnv F) (candidates : List Routed)
    (hstreaming : env.requiresStreaming = false)
    (hregistered : ∀ candidate ∈ candidates, (env.registry candidate.providerId).isSome) :
    contacts (chatCompletions env candidates).2.flatten =
        (contacted env candidates).map Routed.id ∧
      (requestLogs (chatCompletions env candidates).2.flatten).map
          (fun entry => (entry.selectedModelId, entry.attemptIndex, entry.wasFallback,
            entry.success)) =
        (contacted env candidates).zipIdx.map
          (fun (candidate, i) => (candidate.id, i, decide (0 < i),
            succeeds (env.chatCompletions candidate))) ∧
      successMarks (chatCompletions env candidates).2.flatten =
        ((contacted env candidates).filter
          fun candidate => succeeds (env.chatCompletions candidate)).map Routed.id ∧
      failureMarks (chatCompletions env candidates).2.flatten =
        ((contacted env candidates).filter
          fun candidate => penalised (env.chatCompletions candidate)).map Routed.id ∧
      (chatCompletions env candidates).1 = answerOf env candidates := by
  refine ⟨?_, ?_, ?_, ?_, ?_⟩
  · rw [project_nonstreaming contacts_append hstreaming hregistered
      (g := fun x => [x.1.id]) fun a => (effects_nonstreaming hstreaming a).1]
    simpa using flatMap_zipIdx_ite (fun _ => true) Routed.id (contacted env candidates) 0
  · rw [project_nonstreaming (p := fun effects => (requestLogs effects).map _)
      (fun es fs => by rw [requestLogs_append, List.map_append]) hstreaming hregistered
      (g := fun x => [(x.1.id, x.2, decide (0 < x.2), succeeds (env.chatCompletions x.1))])
      fun a => (effects_nonstreaming hstreaming a).2.1]
    exact List.map_eq_flatMap.symm
  · rw [project_nonstreaming successMarks_append hstreaming hregistered
      (g := fun x => if succeeds (env.chatCompletions x.1) then [x.1.id] else [])
      fun a => (effects_nonstreaming hstreaming a).2.2.1]
    exact flatMap_zipIdx_ite (fun candidate => succeeds (env.chatCompletions candidate))
      Routed.id _ 0
  · rw [project_nonstreaming failureMarks_append hstreaming hregistered
      (g := fun x => if penalised (env.chatCompletions x.1) then [x.1.id] else [])
      fun a => (effects_nonstreaming hstreaming a).2.2.2]
    exact flatMap_zipIdx_ite (fun candidate => penalised (env.chatCompletions candidate))
      Routed.id _ 0
  · rw [chatCompletions, chatLoop_answer hstreaming hregistered]
    cases hfind : candidates.find? fun candidate =>
        endsLoop (env.chatCompletions candidate) with
    | some last => rfl
    | none => exact exhausted_foldl_next hfind

/-- The sample request stops at `c`, and only `b` is penalised. -/
theorem chat_nonstreaming_spec_sample :
    contacts (chatCompletions (sampleEnv false fun _ => 0) sampleCandidates).2.flatten =
        ["a", "b", "c"] ∧
      failureMarks (chatCompletions (sampleEnv false fun _ => 0) sampleCandidates).2.flatten =
        ["b"] ∧
      (chatCompletions (sampleEnv false fun _ => 0) sampleCandidates).1 =
        .payload (.str "ok") := by
  obtain ⟨hcontacts, -, -, hfailures, hanswer⟩ :=
    chat_nonstreaming_spec (sampleEnv false fun _ => 0) sampleCandidates rfl fun _ _ => rfl
  refine ⟨hcontacts.trans ?_, hfailures.trans ?_, hanswer.trans ?_⟩
  · decide
  · decide
  · rfl

end Chat

end Gateway
end FreeLunch
