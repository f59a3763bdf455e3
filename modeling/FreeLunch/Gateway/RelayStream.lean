import FreeLunch.Gateway.Attempts
import FreeLunch.Python.Exact

/-!
# Relaying a stream

`_relay_stream` of `src/proxy.py`: the analysis of the first event, the relay loop
with its deadlines and disconnect checks, the `except` clauses and the `finally`
block that settles the attempt.  Upstream is the list of what `anext` gives after
the first event; its end is the end of the stream.

Main results:

- Theorem `relayLoop_spec`: the loop relays a prefix of the events.
- Theorem `finish_spec`: the `finally` block settles the attempt exactly once.
- Theorem `relayStream_settles_iff`: draining the relay settles the attempt exactly
  once exactly when the first event can be analysed.
-/

namespace FreeLunch
namespace Gateway

open Python

/-! ## The arguments of the relay -/

/-- The settings of the gateway that an attempt reads. -/
structure GatewaySettings where
  gatewayStreamTotalTimeoutSeconds : Rat
  gatewayStreamIdleTimeoutSeconds : Rat
  gatewayMaxSseEventBytes : Int

/-- The arguments of `_relay_stream` besides the stream itself. -/
structure RelayContext where
  requestId : String
  modelId : String
  providerName : String
  attemptIndex : Nat
  requestedModel : Option String
  requiresTools : Bool
  requiresVision : Bool
  start : Rat
  tokenObservation : TokenObservation
  categorizeError : CategorizeError
  settings : GatewaySettings

/-- The clock readings of the relay: before the first event, at each turn of the
loop, and in the `finally` block. -/
structure RelayClock where
  started : Rat
  turn : Nat → Rat
  finished : Rat
  timestamp : String

/-- The answers of `request.is_disconnected()`, in the order of the calls.  A client
that is gone stays gone. -/
structure DisconnectPattern where
  isDisconnected : Nat → Bool
  stays : ∀ n, isDisconnected n = true → isDisconnected (n + 1) = true

theorem DisconnectPattern.connected_of_le (client : DisconnectPattern) {m n : Nat}
    (hle : m ≤ n) (hn : client.isDisconnected n = false) :
    client.isDisconnected m = false := by
  induction hle with
  | refl => exact hn
  | @step k hle ih =>
      apply ih
      cases hk : client.isDisconnected k with
      | false => rfl
      | true =>
          have hnext := client.stays k hk
          rw [hn] at hnext
          cases hnext

/-- The item upstream gives: an event, or an exception of `anext`. -/
abbrev UpstreamItem := Except Raised (List UInt8)

/-- The local variables of `_relay_stream`, with the effects so far and the number of
disconnect checks. -/
structure RelayState (F : Type) where
  doneSeen : Bool
  promptTokens : PyValue F
  completionTokens : PyValue F
  totalTokens : PyValue F
  streamError : Option ProviderError
  effects : List (Effect F)
  checks : Nat

/-- The outcome of draining the relay: its effects, the number of disconnect checks
it made, and the exception it ended with. -/
structure RelayResult (F : Type) where
  effects : List (Effect F)
  checks : Nat
  raised : Option Exc

/-- The event the relay adds when upstream sent no end marker. -/
def doneEvent : List UInt8 :=
  "data: [DONE]\n\n".toList.map fun c => UInt8.ofNat c.toNat

section Relay

variable {F : Type} [Runtime F]

/-- The local variables before the first event. -/
def RelayState.initial : RelayState F where
  doneSeen := false
  promptTokens := .none
  completionTokens := .none
  totalTokens := .none
  streamError := none
  effects := []
  checks := 0

/-- `yield bytes`. -/
def RelayState.emit (st : RelayState F) (bytes : List UInt8) : RelayState F :=
  { st with effects := st.effects ++ [.emit bytes] }

/-! ## Reading one event -/

/-- `if payload and isinstance(payload.get("usage"), dict)`: take over the token
counts.  A true value that is no dictionary has no `get`. -/
def recordUsage (payload : PyValue F) (st : RelayState F) : Except Exc (RelayState F) :=
  if payload.truthy then
    match payload with
    | .dict members =>
        match dictGet members "usage" with
        | some (.dict usage) =>
            .ok { st with
              promptTokens := (dictGet usage "prompt_tokens").getD .none
              completionTokens := (dictGet usage "completion_tokens").getD .none
              totalTokens := (dictGet usage "total_tokens").getD .none }
        | _ => .ok st
    | payload => .error (.attributeError
        ("'" ++ payload.typeName ++ "' object has no attribute 'get'"))
  else .ok st

/-- `if payload:` look for an error; a later error replaces an earlier one. -/
def recordError (ctx : RelayContext) (payload : PyValue F) (st : RelayState F) :
    Except Exc (RelayState F) :=
  if payload.truthy then
    (providerErrorFromErrorPayload payload ctx.categorizeError).map fun
      | some error => { st with streamError := some error }
      | none => st
  else .ok st

/-- The analysis of one event.  What an analysis that raises has already recorded is
not kept: nothing reads it afterwards. -/
def observe (ctx : RelayContext) (rawEvent : List UInt8) (st : RelayState F) :
    Except Exc (RelayState F) := do
  let (payload, eventIsDone) ← parseStreamEvent rawEvent
  let st ← recordUsage payload { st with doneSeen := st.doneSeen || eventIsDone }
  recordError ctx payload st

/-! ## The loop -/

/-- The time left at a turn of the loop. -/
def remainingAt (ctx : RelayContext) (clock : RelayClock) (turn : Nat) : Rat :=
  ctx.start + ctx.settings.gatewayStreamTotalTimeoutSeconds - clock.turn turn

/-- The `while True` loop: the exception that ended it, if any, and the variables. -/
def relayLoop (ctx : RelayContext) (clock : RelayClock) (client : DisconnectPattern) :
    Nat → List UpstreamItem → RelayState F → Option Raised × RelayState F
  | turn, [], st =>
      if remainingAt ctx clock turn ≤ 0 then
        (some (.timeout "stream total deadline exceeded"), st)
      else (none, st)
  | turn, item :: rest, st =>
      if remainingAt ctx clock turn ≤ 0 then
        (some (.timeout "stream total deadline exceeded"), st)
      else
        match item with
        | .error .stopAsyncIteration => (none, st)
        | .error raised => (some raised, st)
        | .ok rawEvent =>
            if ctx.settings.gatewayMaxSseEventBytes < rawEvent.length then
              (some (.provider (providerRetryableError
                "provider SSE event exceeded size limit")), st)
            else if client.isDisconnected st.checks then
              (none, { st with checks := st.checks + 1 })
            else
              match observe ctx rawEvent { st with checks := st.checks + 1 } with
              | .error exc => (some (raisedOf exc), { st with checks := st.checks + 1 })
              | .ok st' =>
                  relayLoop ctx clock client (turn + 1) rest (st'.emit rawEvent)

/-! ## Settling the attempt -/

/-- The `except` clauses: the error a raised exception stands for. -/
def streamErrorOf : Raised → ProviderError
  | .provider error => error
  | .timeout _ => providerRetryableError "provider stream deadline exceeded"
  | raised => providerRetryableError (clip raised.text)

/-- `int((time.monotonic() - start) * 1000)`. -/
def milliseconds (start now : Rat) : Int :=
  truncate ((now - start) * 1000)

/-- The log entry of a relayed success. -/
def successEntry (ctx : RelayContext) (clock : RelayClock) (st : RelayState F) :
    LogEntry F where
  requestId := ctx.requestId
  timestamp := clock.timestamp
  selectedModelId := ctx.modelId
  providerId := ctx.providerName
  clientRequestedModel := ctx.requestedModel
  attemptIndex := ctx.attemptIndex
  wasFallback := decide (0 < ctx.attemptIndex)
  tokenObservation := ctx.tokenObservation
  promptTokens := st.promptTokens
  completionTokens := st.completionTokens
  totalTokens := st.totalTokens
  latencyMs := milliseconds ctx.start clock.finished
  ttfbMs := .int (milliseconds ctx.start clock.started)
  success := true
  wasStreaming := true
  hadTools := ctx.requiresTools
  hadVision := ctx.requiresVision

/-- `_log_failure`, for an attempt that streams or not. -/
def failureEntry (ctx : RelayContext) (timestamp : String) (latencyMs : Int)
    (error : ProviderError) (requiresStreaming : Bool) : LogEntry F where
  requestId := ctx.requestId
  timestamp := timestamp
  selectedModelId := ctx.modelId
  providerId := ctx.providerName
  clientRequestedModel := ctx.requestedModel
  attemptIndex := ctx.attemptIndex
  wasFallback := decide (0 < ctx.attemptIndex)
  tokenObservation := ctx.tokenObservation
  latencyMs := latencyMs
  success := false
  gatewayErrorCategory := some error.category
  errorCode := error.errorCode
  errorMessage := some (clip error.message)
  wasStreaming := requiresStreaming
  hadTools := ctx.requiresTools
  hadVision := ctx.requiresVision

/-- The success branch of the `finally` block, after the end marker. -/
def successSettlement (ctx : RelayContext) (clock : RelayClock) (st : RelayState F) :
    List (Effect F) :=
  [.markSuccess ctx.modelId (.int (milliseconds ctx.start clock.finished))
      (.int (milliseconds ctx.start clock.started)),
    .logRequest (successEntry ctx clock st)]

/-- The failure branch of the `finally` block. -/
def failureSettlement (ctx : RelayContext) (clock : RelayClock) (error : ProviderError) :
    List (Effect F) :=
  (if error.retryable then [.markFailure ctx.modelId error.message] else []) ++
    [.logRequest (failureEntry ctx clock.timestamp
      (milliseconds ctx.start clock.finished) error true)]

/-- The `finally` block. -/
def finish (ctx : RelayContext) (clock : RelayClock) (client : DisconnectPattern)
    (st : RelayState F) : RelayResult F :=
  match st.streamError with
  | some error =>
      { effects := st.effects ++ failureSettlement ctx clock error
        checks := st.checks
        raised := none }
  | none =>
      if client.isDisconnected st.checks then
        { effects := st.effects, checks := st.checks + 1, raised := none }
      else
        { effects := st.effects ++ (if st.doneSeen then [] else [.emit doneEvent]) ++
            successSettlement ctx clock st
          checks := st.checks + 1
          raised := none }

/-- The first `yield`, unless the client is gone. -/
def yieldFirst (client : DisconnectPattern) (firstEvent : List UInt8) (st : RelayState F) :
    RelayState F :=
  let checked := { st with checks := st.checks + 1 }
  if client.isDisconnected st.checks then checked else checked.emit firstEvent

/-- The `except` clauses and the `finally` block after the loop. -/
def settle (ctx : RelayContext) (clock : RelayClock) (client : DisconnectPattern) :
    Option Raised × RelayState F → RelayResult F
  | (none, st) => finish ctx clock client st
  | (some raised, st) =>
      finish ctx clock client { st with streamError := some (streamErrorOf raised) }

/-- `_relay_stream`, drained by the consumer.  The first event is analysed outside the
`try`, so an exception there ends the generator at once. -/
def relayStream (ctx : RelayContext) (clock : RelayClock) (client : DisconnectPattern)
    (firstEvent : List UInt8) (upstream : List UpstreamItem) : RelayResult F :=
  match observe ctx firstEvent RelayState.initial with
  | .error exc => { effects := [], checks := 0, raised := some exc }
  | .ok st => settle ctx clock client
      (relayLoop ctx clock client 0 upstream (yieldFirst client firstEvent st))

/-! ## The contract of the relay -/

/-- An effect other than a `yield`. -/
def Effect.settles : Effect F → Bool
  | .emit _ => false
  | _ => true

/-- The settlement among the effects. -/
def settlementOf (effects : List (Effect F)) : List (Effect F) :=
  effects.filter Effect.settles

/-- The events upstream gives before it ends or raises. -/
def upstreamEvents : List UpstreamItem → List (List UInt8)
  | .ok rawEvent :: rest => rawEvent :: upstreamEvents rest
  | _ => []

/-- An event that carries the end marker. -/
def carriesDone (F : Type) [Runtime F] (rawEvent : List UInt8) : Bool :=
  match parseStreamEvent (F := F) rawEvent with
  | .ok (_, eventIsDone) => eventIsDone
  | .error _ => false

/-- The attempt is settled exactly once: as a success, as a failure, whose health
penalty depends on the error being retryable, or not at all when a check found the
client gone. -/
def SettledOnce (ctx : RelayContext) (client : DisconnectPattern) (result : RelayResult F) :
    Prop :=
  (∃ (entry : LogEntry F) (latencyMs ttfbMs : PyValue F), entry.success = true ∧
    settlementOf result.effects =
      [.markSuccess ctx.modelId latencyMs ttfbMs, .logRequest entry]) ∨
  (∃ (entry : LogEntry F) (error : ProviderError), entry.success = false ∧
    entry.gatewayErrorCategory = some error.category ∧
    settlementOf result.effects =
      (if error.retryable then [.markFailure ctx.modelId error.message] else []) ++
        [.logRequest entry]) ∨
  (settlementOf result.effects = [] ∧
    ∃ n < result.checks, client.isDisconnected n = true)

/-- The client gets a prefix of the events in order, followed by an end marker exactly
when the attempt is settled as a success and none of them carried one. -/
def RelaysInOrder (firstEvent : List UInt8) (upstream : List UpstreamItem)
    (result : RelayResult F) : Prop :=
  ∃ relayed, relayed <+: firstEvent :: upstreamEvents upstream ∧
    emitted result.effects = relayed ++
      (if successMarks result.effects ≠ [] ∧ ∀ event ∈ relayed, carriesDone F event = false
        then [doneEvent] else [])

/-- The first event can be analysed: its payload is read without an interpreter limit,
and a payload that counts as true is a dictionary whose error can be categorised. -/
def FirstEventReadable (F : Type) [Runtime F] (ctx : RelayContext)
    (firstEvent : List UInt8) : Prop :=
  ∃ (payload : PyValue F) (eventIsDone : Bool),
    parseStreamEvent firstEvent = .ok (payload, eventIsDone) ∧
    (payload.truthy = true → ∃ members, payload = .dict members ∧
      ∃ error, providerErrorFromErrorPayload payload ctx.categorizeError = .ok error)

/-! ## One event -/

theorem recordUsage_ok {payload : PyValue F} {st st' : RelayState F}
    (h : recordUsage payload st = .ok st') :
    st'.doneSeen = st.doneSeen ∧ st'.effects = st.effects ∧ st'.checks = st.checks ∧
      (payload.truthy = true → ∃ members, payload = .dict members) := by
  unfold recordUsage at h
  split at h
  · rename_i htruthy
    split at h
    · rename_i members
      split at h <;> cases h <;> exact ⟨rfl, rfl, rfl, fun _ => ⟨members, rfl⟩⟩
    · cases h
  · rename_i hfalsy
    cases h
    exact ⟨rfl, rfl, rfl, fun htruthy => absurd htruthy hfalsy⟩

theorem recordError_ok {ctx : RelayContext} {payload : PyValue F} {st st' : RelayState F}
    (h : recordError ctx payload st = .ok st') :
    st'.doneSeen = st.doneSeen ∧ st'.effects = st.effects ∧ st'.checks = st.checks ∧
      (payload.truthy = true →
        ∃ error, providerErrorFromErrorPayload payload ctx.categorizeError = .ok error) := by
  unfold recordError at h
  split at h
  · cases herror : providerErrorFromErrorPayload payload ctx.categorizeError with
    | error exc =>
        rw [herror] at h
        cases h
    | ok error =>
        rw [herror] at h
        cases error <;> cases h <;> exact ⟨rfl, rfl, rfl, fun _ => ⟨_, rfl⟩⟩
  · rename_i hfalsy
    cases h
    exact ⟨rfl, rfl, rfl, fun htruthy => absurd htruthy hfalsy⟩

/-- An analysis that returns records the end marker and leaves the effects and the
check counter alone. -/
theorem observe_ok {ctx : RelayContext} {rawEvent : List UInt8} {st st' : RelayState F}
    (h : observe ctx rawEvent st = .ok st') :
    st'.doneSeen = (st.doneSeen || carriesDone F rawEvent) ∧ st'.effects = st.effects ∧
      st'.checks = st.checks ∧ FirstEventReadable F ctx rawEvent := by
  unfold observe at h
  cases hparse : parseStreamEvent (F := F) rawEvent with
  | error exc =>
      rw [hparse] at h
      cases h
  | ok pair =>
      obtain ⟨payload, eventIsDone⟩ := pair
      simp only [hparse, bind, Except.bind] at h
      cases husage : recordUsage payload
          { st with doneSeen := st.doneSeen || eventIsDone } with
      | error exc =>
          rw [husage] at h
          cases h
      | ok st₁ =>
          rw [husage] at h
          have husage' := recordUsage_ok husage
          have herror' := recordError_ok h
          refine ⟨?_, herror'.2.1.trans husage'.2.1,
            herror'.2.2.1.trans husage'.2.2.1, payload, eventIsDone, hparse, ?_⟩
          · rw [herror'.1, husage'.1]
            simp [carriesDone, hparse]
          · intro htruthy
            obtain ⟨members, hmembers⟩ := husage'.2.2.2 htruthy
            exact ⟨members, hmembers, herror'.2.2.2 htruthy⟩

/-- A readable event is analysed without an exception. -/
theorem observe_of_readable {ctx : RelayContext} {rawEvent : List UInt8}
    (h : FirstEventReadable F ctx rawEvent) (st : RelayState F) :
    ∃ st', observe ctx rawEvent st = .ok st' := by
  obtain ⟨payload, eventIsDone, hparse, hpayload⟩ := h
  unfold observe
  simp only [hparse, bind, Except.bind]
  cases htruthy : payload.truthy with
  | false =>
      refine ⟨{ st with doneSeen := st.doneSeen || eventIsDone }, ?_⟩
      simp [recordUsage, recordError, htruthy]
  | true =>
      obtain ⟨members, rfl, error, herror⟩ := hpayload htruthy
      have husage : ∃ st₁, recordUsage (.dict members)
          { st with doneSeen := st.doneSeen || eventIsDone } = .ok st₁ := by
        unfold recordUsage
        rw [if_pos htruthy]
        dsimp only
        split <;> exact ⟨_, rfl⟩
      obtain ⟨st₁, hst₁⟩ := husage
      rw [hst₁]
      dsimp only
      unfold recordError
      rw [if_pos htruthy, herror]
      cases error <;> exact ⟨_, rfl⟩

/-! ## The loop -/

/-- What the loop leaves behind, with the events it has relayed; it relays nothing to
a client that is gone when it starts. -/
structure LoopOutcome (client : DisconnectPattern) (upstream : List UpstreamItem)
    (before after : RelayState F) (seen : List (List UInt8)) : Prop where
  prefix_events : seen <+: upstreamEvents upstream
  effects_eq : after.effects = before.effects ++ seen.map .emit
  checks_le : before.checks ≤ after.checks
  doneSeen_eq : after.doneSeen = (before.doneSeen || seen.any (carriesDone F))
  connected : client.isDisconnected before.checks = true → seen = []

/-- A loop that ends before it relays anything. -/
theorem LoopOutcome.stop {client : DisconnectPattern} {upstream : List UpstreamItem}
    {before after : RelayState F} (heffects : after.effects = before.effects)
    (hchecks : before.checks ≤ after.checks) (hdone : after.doneSeen = before.doneSeen) :
    LoopOutcome client upstream before after [] where
  prefix_events := List.nil_prefix
  effects_eq := by rw [heffects, List.map_nil, List.append_nil]
  checks_le := hchecks
  doneSeen_eq := by rw [hdone, List.any_nil, Bool.or_false]
  connected := fun _ => rfl

/-- The loop relays a prefix of the events, by induction on what upstream gives. -/
theorem relayLoop_spec (ctx : RelayContext) (clock : RelayClock) (client : DisconnectPattern)
    (upstream : List UpstreamItem) (turn : Nat) (st : RelayState F) :
    ∃ seen, LoopOutcome client upstream st
      (relayLoop ctx clock client turn upstream st).2 seen := by
  induction upstream generalizing turn st with
  | nil =>
      refine ⟨[], ?_⟩
      unfold relayLoop
      split <;> exact .stop rfl (Nat.le_refl _) rfl
  | cons item rest ih =>
      unfold relayLoop
      split
      · exact ⟨[], .stop rfl (Nat.le_refl _) rfl⟩
      · split
        · exact ⟨[], .stop rfl (Nat.le_refl _) rfl⟩
        · exact ⟨[], .stop rfl (Nat.le_refl _) rfl⟩
        · rename_i rawEvent
          split
          · exact ⟨[], .stop rfl (Nat.le_refl _) rfl⟩
          · split
            · exact ⟨[], .stop rfl (Nat.le_succ _) rfl⟩
            · rename_i hthere
              split
              · exact ⟨[], .stop rfl (Nat.le_succ _) rfl⟩
              · rename_i st' hobserve
                obtain ⟨hdone, heffects, hchecks, -⟩ := observe_ok hobserve
                obtain ⟨seen, hseen⟩ := ih (turn + 1) (st'.emit rawEvent)
                refine ⟨rawEvent :: seen, ?_, ?_, ?_, ?_, ?_⟩
                · exact (List.cons_prefix_cons).mpr ⟨rfl, hseen.prefix_events⟩
                · rw [hseen.effects_eq]
                  simp [RelayState.emit, heffects]
                · have hemit : (st'.emit rawEvent).checks = st.checks + 1 := hchecks
                  have hle := hseen.checks_le
                  rw [hemit] at hle
                  exact Nat.le_trans (Nat.le_succ _) hle
                · rw [hseen.doneSeen_eq]
                  simp [RelayState.emit, hdone, Bool.or_assoc]
                · intro hgone
                  exact absurd hgone hthere

/-! ## Settlement -/

omit [Runtime F] in
@[simp]
theorem settlementOf_append (es fs : List (Effect F)) :
    settlementOf (es ++ fs) = settlementOf es ++ settlementOf fs :=
  List.filter_append ..

omit [Runtime F] in
@[simp]
theorem settlementOf_map_emit (events : List (List UInt8)) :
    settlementOf (events.map (Effect.emit (F := F))) = [] := by
  unfold settlementOf
  rw [List.filter_eq_nil_iff]
  intro effect hmem
  obtain ⟨event, -, rfl⟩ := List.mem_map.mp hmem
  simp [Effect.settles]

omit [Runtime F] in
@[simp]
theorem emitted_map_emit (events : List (List UInt8)) :
    emitted (events.map (Effect.emit (F := F))) = events := by
  induction events with
  | nil => rfl
  | cons event rest ih => exact congrArg (event :: ·) ih

omit [Runtime F] in
@[simp]
theorem successMarks_map_emit (events : List (List UInt8)) :
    successMarks (events.map (Effect.emit (F := F))) = [] := by
  induction events with
  | nil => rfl
  | cons event rest ih => exact ih

omit [Runtime F] in
theorem emitted_failureSettlement (ctx : RelayContext) (clock : RelayClock)
    (error : ProviderError) :
    emitted (failureSettlement (F := F) ctx clock error) = [] := by
  unfold failureSettlement
  cases error.retryable <;> rfl

omit [Runtime F] in
theorem successMarks_failureSettlement (ctx : RelayContext) (clock : RelayClock)
    (error : ProviderError) :
    successMarks (failureSettlement (F := F) ctx clock error) = [] := by
  unfold failureSettlement
  cases error.retryable <;> rfl

omit [Runtime F] in
theorem settlementOf_failureSettlement (ctx : RelayContext) (clock : RelayClock)
    (error : ProviderError) :
    settlementOf (failureSettlement (F := F) ctx clock error) =
      failureSettlement ctx clock error := by
  unfold failureSettlement
  cases error.retryable <;> rfl

/-- What the `finally` block finds: the events relayed so far are a prefix of the
events, and a client that is still there has got all of them. -/
structure Relayed (client : DisconnectPattern) (firstEvent : List UInt8)
    (upstream : List UpstreamItem) (st : RelayState F) (relayed : List (List UInt8)) :
    Prop where
  effects_eq : st.effects = relayed.map .emit
  prefix_events : relayed <+: firstEvent :: upstreamEvents upstream
  complete : st.streamError = none → client.isDisconnected st.checks = false →
    st.doneSeen = relayed.any (carriesDone F)

/-- The `finally` block settles the attempt exactly once. -/
theorem finish_spec {ctx : RelayContext} {clock : RelayClock} {client : DisconnectPattern}
    {firstEvent : List UInt8} {upstream : List UpstreamItem} {st : RelayState F}
    {relayed : List (List UInt8)} (h : Relayed client firstEvent upstream st relayed) :
    SettledOnce ctx client (finish ctx clock client st) ∧
      RelaysInOrder firstEvent upstream (finish ctx clock client st) := by
  unfold finish
  cases herror : st.streamError with
  | some error =>
      dsimp only
      have hsettled : settlementOf (st.effects ++ failureSettlement ctx clock error) =
          failureSettlement ctx clock error := by
        rw [h.effects_eq, settlementOf_append, settlementOf_map_emit,
          settlementOf_failureSettlement]
        rfl
      refine ⟨.inr (.inl ⟨_, error, rfl, rfl, hsettled⟩), relayed, h.prefix_events, ?_⟩
      · rw [h.effects_eq, emitted_append, emitted_map_emit, emitted_failureSettlement,
          successMarks_append, successMarks_map_emit, successMarks_failureSettlement]
        simp
  | none =>
      dsimp only
      cases hgone : client.isDisconnected st.checks with
      | true =>
          simp only [if_true]
          refine ⟨.inr (.inr ⟨?_, st.checks, Nat.lt_succ_self _, hgone⟩), relayed,
            h.prefix_events, ?_⟩
          · rw [h.effects_eq, settlementOf_map_emit]
          · rw [h.effects_eq, emitted_map_emit, successMarks_map_emit]
            simp
      | false =>
          simp only [Bool.false_eq_true, if_false]
          have hdone := h.complete herror hgone
          have hsettled : settlementOf (st.effects ++
              (if st.doneSeen then [] else [.emit doneEvent]) ++
                successSettlement ctx clock st) = successSettlement ctx clock st := by
            rw [h.effects_eq, settlementOf_append, settlementOf_append,
              settlementOf_map_emit]
            cases st.doneSeen <;> rfl
          refine ⟨.inl ⟨successEntry ctx clock st, _, _, rfl, hsettled⟩, relayed,
            h.prefix_events, ?_⟩
          · have hmarks : successMarks (successSettlement ctx clock st) = [ctx.modelId] := rfl
            have hemitted : emitted (successSettlement ctx clock st) = [] := rfl
            rw [h.effects_eq, emitted_append, emitted_append, emitted_map_emit, hemitted,
              successMarks_append, hmarks, List.append_nil]
            congr 1
            rw [hdone]
            cases hany : relayed.any (carriesDone F) with
            | true =>
                obtain ⟨event, hevent, hcarries⟩ := List.any_eq_true.mp hany
                simp only [if_true]
                rw [if_neg]
                · rfl
                · rintro ⟨-, hall⟩
                  rw [hall event hevent] at hcarries
                  cases hcarries
            | false =>
                rw [List.any_eq_false] at hany
                simp only [Bool.false_eq_true, if_false]
                rw [if_pos]
                · rfl
                · exact ⟨by simp, fun event hevent => by simpa using hany event hevent⟩

/-- The variables after the `except` clauses. -/
def caught : Option Raised × RelayState F → RelayState F
  | (none, st) => st
  | (some raised, st) => { st with streamError := some (streamErrorOf raised) }

/-- What the loop leaves behind satisfies what the `finally` block needs. -/
theorem relayed_caught {ctx : RelayContext} (clock : RelayClock)
    (client : DisconnectPattern) {firstEvent : List UInt8} (upstream : List UpstreamItem)
    {st : RelayState F} (hobserve : observe ctx firstEvent .initial = .ok st) :
    ∃ relayed, Relayed client firstEvent upstream
      (caught (relayLoop ctx clock client 0 upstream (yieldFirst client firstEvent st)))
      relayed := by
  obtain ⟨hdone, heffects, hchecks, -⟩ := observe_ok hobserve
  obtain ⟨seen, hseen⟩ := relayLoop_spec ctx clock client upstream 0
    (yieldFirst client firstEvent st)
  have hcaught : ∀ outcome : Option Raised × RelayState F,
      (caught outcome).effects = outcome.2.effects ∧
        (caught outcome).checks = outcome.2.checks ∧
        (caught outcome).doneSeen = outcome.2.doneSeen := by
    rintro ⟨_ | raised, after⟩ <;> exact ⟨rfl, rfl, rfl⟩
  obtain ⟨hcaughtEffects, hcaughtChecks, hcaughtDone⟩ :=
    hcaught (relayLoop ctx clock client 0 upstream (yieldFirst client firstEvent st))
  have hchecked : st.checks = 0 := hchecks
  have hempty : st.effects = [] := heffects
  cases hgone : client.isDisconnected 0 with
  | true =>
      -- the client was gone before the first event: nothing is relayed at all
      have hyield : yieldFirst client firstEvent st = { st with checks := 1 } := by
        simp [yieldFirst, hchecked, hgone]
      rw [hyield] at hseen hcaughtEffects hcaughtChecks hcaughtDone ⊢
      have hnothing : seen = [] := hseen.connected (client.stays 0 hgone)
      refine ⟨[], ?_, List.nil_prefix, ?_⟩
      · rw [hcaughtEffects, hseen.effects_eq, hnothing]
        simp [hempty]
      · intro _ hthere
        have hconnected := client.connected_of_le (Nat.zero_le _) hthere
        rw [hgone] at hconnected
        cases hconnected
  | false =>
      have hyield : yieldFirst client firstEvent st =
          RelayState.emit { st with checks := 1 } firstEvent := by
        simp [yieldFirst, hchecked, hgone]
      rw [hyield] at hseen hcaughtEffects hcaughtChecks hcaughtDone ⊢
      refine ⟨firstEvent :: seen, ?_, List.cons_prefix_cons.mpr ⟨rfl, hseen.prefix_events⟩, ?_⟩
      · rw [hcaughtEffects, hseen.effects_eq]
        simp [RelayState.emit, hempty]
      · intro _ _
        rw [hcaughtDone, hseen.doneSeen_eq]
        simp [RelayState.emit, hdone, RelayState.initial]

omit [Runtime F] in
theorem settle_eq (ctx : RelayContext) (clock : RelayClock) (client : DisconnectPattern)
    (outcome : Option Raised × RelayState F) :
    settle ctx clock client outcome = finish ctx clock client (caught outcome) := by
  rcases outcome with ⟨_ | raised, st⟩ <;> rfl

omit [Runtime F] in
/-- A relay that ends before its first disconnect check has settled nothing. -/
theorem not_settledOnce_of_unchecked {ctx : RelayContext} {client : DisconnectPattern}
    {exc : Option Exc} :
    ¬ SettledOnce (F := F) ctx client { effects := [], checks := 0, raised := exc } := by
  rintro (⟨entry, latencyMs, ttfbMs, -, heq⟩ | ⟨entry, error, -, -, heq⟩ | ⟨-, n, hn, -⟩)
  · cases heq
  · cases hretryable : error.retryable <;> rw [hretryable] at heq <;> cases heq
  · cases hn

/-- Draining the relay settles the attempt exactly once, with the events relayed in
order, exactly when the first event can be analysed. -/
theorem relayStream_settles_iff (ctx : RelayContext) (clock : RelayClock)
    (client : DisconnectPattern) (firstEvent : List UInt8) (upstream : List UpstreamItem) :
    (SettledOnce ctx client
        (relayStream (F := F) ctx clock client firstEvent upstream) ∧
      RelaysInOrder firstEvent upstream
        (relayStream (F := F) ctx clock client firstEvent upstream)) ↔
      FirstEventReadable F ctx firstEvent := by
  unfold relayStream
  cases hobserve : observe ctx firstEvent (RelayState.initial (F := F)) with
  | error exc =>
      dsimp only
      constructor
      · rintro ⟨hsettled, -⟩
        exact absurd hsettled not_settledOnce_of_unchecked
      · intro hreadable
        obtain ⟨st', hst'⟩ := observe_of_readable hreadable (RelayState.initial (F := F))
        rw [hobserve] at hst'
        cases hst'
  | ok st =>
      dsimp only
      obtain ⟨relayed, hrelayed⟩ := relayed_caught clock client upstream hobserve
      rw [settle_eq]
      exact iff_of_true (finish_spec hrelayed) (observe_ok hobserve).2.2.2

end Relay

/-! ## A first event that is no object -/

/-- A relay with default settings for the first candidate of a request. -/
def sampleContext : RelayContext where
  requestId := "request"
  modelId := "m"
  providerName := "p"
  attemptIndex := 0
  requestedModel := none
  requiresTools := false
  requiresVision := false
  start := 0
  tokenObservation :=
    { selectedProviderModelId := "m", selectedTokenizerFamily := none
      estimatedPromptTokens := 0, selectedContextWindow := none }
  categorizeError _ _ _ := .ok (.providerUnavailable, true)
  settings :=
    { gatewayStreamTotalTimeoutSeconds := 600, gatewayStreamIdleTimeoutSeconds := 60
      gatewayMaxSseEventBytes := 1048576 }

/-- A relay that takes no time. -/
def sampleClock : RelayClock where
  started := 0
  turn _ := 0
  finished := 0
  timestamp := "t0"

/-- A client that stays. -/
def stayingClient : DisconnectPattern where
  isDisconnected _ := false
  stays _ h := h

/-- An event with an array as its payload. -/
def arrayEvent : List UInt8 :=
  "data: [1]\n\n".toList.map fun c => UInt8.ofNat c.toNat

theorem parse_arrayEvent :
    parseStreamEvent (F := Exact) arrayEvent = .ok (.list [.int 1], false) := by
  have hlines : eventLines arrayEvent = ["data: [1]".toList, []] := by decide +kernel
  have hdata : strip ("data: [1]".toList.drop 6) = "[1]".toList := by decide +kernel
  have hfind : ["data: [1]".toList, []].find? (fun line => startsWith line "data: ".toList) =
      some "data: [1]".toList := by
    decide +kernel
  have hopen : "[1]".toList ≠ "[DONE]".toList := by decide +kernel
  have hloads : loads (F := Exact) "[1]".toList = .ok (.list [.int 1]) := by rfl
  unfold parseStreamEvent
  rw [hlines, hfind]
  dsimp only
  rw [hdata, if_neg hopen, hloads]

/-- An array as the first payload ends the relay before it settles anything, although
the client stays. -/
theorem array_event_settles_nothing :
    relayStream (F := Exact) sampleContext sampleClock stayingClient arrayEvent [] =
        { effects := [], checks := 0
          raised := some (.attributeError "'list' object has no attribute 'get'") } ∧
      ¬ SettledOnce sampleContext stayingClient
        (relayStream (F := Exact) sampleContext sampleClock stayingClient arrayEvent []) := by
  have hraised : relayStream (F := Exact) sampleContext sampleClock stayingClient
      arrayEvent [] =
        { effects := [], checks := 0
          raised := some (.attributeError "'list' object has no attribute 'get'") } := by
    simp [relayStream, observe, parse_arrayEvent, bind, Except.bind, recordUsage,
      PyValue.truthy, PyValue.typeName]
  refine ⟨hraised, ?_⟩
  rw [hraised]
  exact not_settledOnce_of_unchecked

end Gateway
end FreeLunch
