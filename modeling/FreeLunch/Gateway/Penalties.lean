import FreeLunch.Gateway.ChatCompletions

/-!
# Health penalties

Which attempts of a request count against the health of a model: an attempt that
invoked no provider, and an attempt that failed because the prompt was too long.

Main results:

- Theorem `penalised_only_if_contacted_iff`: failures are counted for contacted models
  only, exactly when no model is reached past the deadline without being contacted.
- Theorem `context_exceeded_unpenalised_iff`: context errors leave the health columns
  alone, exactly when no relayed stream ends in a retryable one.
-/

namespace FreeLunch
namespace Gateway

open Python Store Health Routing

section Penalties

variable {F : Type} [Runtime F]

/-! ## The model an effect is about -/

/-- The model an effect is about. -/
def Effect.subject : Effect F → Option String
  | .contact modelId => some modelId
  | .markSuccess modelId _ _ => some modelId
  | .markFailure modelId _ => some modelId
  | .logRequest entry => some entry.selectedModelId
  | .emit _ => none

omit [Runtime F] in
theorem mem_failureMarks_iff {effects : List (Effect F)} {modelId : String} :
    modelId ∈ failureMarks effects ↔ ∃ error, .markFailure modelId error ∈ effects := by
  unfold failureMarks
  rw [List.mem_filterMap]
  constructor
  · rintro ⟨effect, hmem, hmark⟩
    cases effect <;> cases hmark
    exact ⟨_, hmem⟩
  · rintro ⟨error, hmem⟩
    exact ⟨_, hmem, rfl⟩

omit [Runtime F] in
theorem mem_successMarks_iff {effects : List (Effect F)} {modelId : String} :
    modelId ∈ successMarks effects ↔
      ∃ latencyMs ttfbMs, .markSuccess modelId latencyMs ttfbMs ∈ effects := by
  unfold successMarks
  rw [List.mem_filterMap]
  constructor
  · rintro ⟨effect, hmem, hmark⟩
    cases effect <;> cases hmark
    exact ⟨_, _, hmem⟩
  · rintro ⟨latencyMs, ttfbMs, hmem⟩
    exact ⟨_, hmem, rfl⟩

omit [Runtime F] in
theorem mem_requestLogs_iff {effects : List (Effect F)} {entry : LogEntry F} :
    entry ∈ requestLogs effects ↔ .logRequest entry ∈ effects := by
  unfold requestLogs
  rw [List.mem_filterMap]
  constructor
  · rintro ⟨effect, hmem, hlog⟩
    cases effect <;> cases hlog
    exact hmem
  · intro hmem
    exact ⟨_, hmem, rfl⟩

omit [Runtime F] in
theorem mem_contacts_iff {effects : List (Effect F)} {modelId : String} :
    modelId ∈ contacts effects ↔ .contact modelId ∈ effects := by
  unfold contacts
  rw [List.mem_filterMap]
  constructor
  · rintro ⟨effect, hmem, hcontact⟩
    cases effect <;> cases hcontact
    exact hmem
  · intro hmem
    exact ⟨_, hmem, rfl⟩

omit [Runtime F] in
/-- A settlement is about the model of the relay, and contacts nobody. -/
theorem subject_settlementEffects {ctx : RelayContext} {clock : RelayClock}
    {client : DisconnectPattern} {st : RelayState F} {effect : Effect F}
    (h : effect ∈ settlementEffects ctx clock client st) :
    effect.subject = some ctx.modelId ∧ ∀ modelId, effect ≠ .contact modelId := by
  unfold settlementEffects at h
  split at h
  · unfold failureSettlement at h
    split at h <;> simp only [List.nil_append, List.singleton_append, List.mem_cons,
      List.not_mem_nil, or_false] at h <;> rcases h with rfl | rfl <;>
      exact ⟨rfl, fun _ h => by cases h⟩
  · split at h
    · cases h
    · simp only [successSettlement, List.mem_cons, List.not_mem_nil, or_false] at h
      rcases h with rfl | rfl <;> exact ⟨rfl, fun _ h => by cases h⟩

/-- The effects of a relay are about its model, and contact nobody. -/
theorem subject_relayStream {ctx : RelayContext} {clock : RelayClock}
    {client : DisconnectPattern} {firstEvent : List UInt8} {upstream : List UpstreamItem}
    {effect : Effect F}
    (h : effect ∈ (relayStream ctx clock client firstEvent upstream).effects) :
    (effect.subject = none ∨ effect.subject = some ctx.modelId) ∧
      ∀ modelId, effect ≠ .contact modelId := by
  cases hobserve : observe ctx firstEvent (RelayState.initial (F := F)) with
  | error exc =>
      rw [relayStream, hobserve] at h
      cases h
  | ok st =>
      obtain ⟨events, heffects⟩ := relayStream_effects clock client upstream hobserve
      rw [heffects, List.mem_append] at h
      rcases h with hemitted | hsettled
      · obtain ⟨event, -, rfl⟩ := List.mem_map.mp hemitted
        exact ⟨.inl rfl, fun _ h => by cases h⟩
      · obtain ⟨hsubject, hcontact⟩ := subject_settlementEffects hsettled
        exact ⟨.inr hsubject, hcontact⟩

omit [Runtime F] in
/-- The arms of the `try` are about the model of the attempt, and contact nobody. -/
theorem subject_handle {env : ChatEnv F} {ctx : RelayContext} {st : LoopState}
    {raised : Raised} {effect : Effect F} (h : effect ∈ (handle env ctx st raised).1) :
    effect.subject = some ctx.modelId ∧ ∀ modelId, effect ≠ .contact modelId := by
  rw [handle_effects, List.mem_append] at h
  rcases h with hmark | hlog
  · split at hmark
    · obtain rfl := List.mem_singleton.mp hmark
      exact ⟨rfl, fun _ h => by cases h⟩
    · cases hmark
  · obtain rfl := List.mem_singleton.mp hlog
    exact ⟨rfl, fun _ h => by cases h⟩

/-- The attempt finds the deadline of the request passed. -/
def Attempt.late (env : ChatEnv F) (a : Attempt) : Prop :=
  env.requiresStreaming = true ∧ streamRemaining env a.idx ≤ 0

omit [Runtime F] in
theorem attempt_of_late {env : ChatEnv F} {a : Attempt} (hlate : a.late env) :
    attempt env a.idx a.candidate =
      ([], .error (.timeout "provider stream total deadline exceeded")) :=
  if_pos hlate

omit [Runtime F] in
theorem attempt_of_not_late {env : ChatEnv F} {a : Attempt} (hlate : ¬ a.late env) :
    attempt env a.idx a.candidate =
      ([.contact a.candidate.id], contactOutcome env a.candidate) :=
  if_neg hlate

/-- An attempt is about the model of its candidate, and contacts it unless it is late. -/
theorem subject_effects {env : ChatEnv F} {a : Attempt} {effect : Effect F}
    (h : effect ∈ a.effects env) :
    (effect = .contact a.candidate.id ∧ ¬ a.late env) ∨
      ((effect.subject = none ∨ effect.subject = some a.candidate.id) ∧
        ∀ modelId, effect ≠ .contact modelId) := by
  rcases List.mem_append.mp h with hcontact | hafter
  · unfold attempt at hcontact
    split at hcontact
    · cases hcontact
    · rename_i hlate
      exact .inl ⟨List.mem_singleton.mp hcontact, hlate⟩
  · refine .inr ?_
    split at hafter
    · simp only [succeed, List.mem_cons, List.not_mem_nil, or_false] at hafter
      rcases hafter with rfl | rfl <;> exact ⟨.inr rfl, fun _ h => by cases h⟩
    · exact subject_relayStream hafter
    · obtain ⟨hsubject, hother⟩ := subject_handle hafter
      exact ⟨.inr hsubject, hother⟩

/-- An attempt contacts its model unless it is late. -/
theorem mem_contacts_effects_iff {env : ChatEnv F} {a : Attempt} {modelId : String} :
    modelId ∈ contacts (a.effects env) ↔ modelId = a.candidate.id ∧ ¬ a.late env := by
  rw [mem_contacts_iff]
  constructor
  · intro h
    rcases subject_effects h with ⟨hcontact, hlate⟩ | ⟨-, hother⟩
    · injection hcontact with hid
      exact ⟨hid, hlate⟩
    · exact absurd rfl (hother modelId)
  · rintro ⟨rfl, hlate⟩
    refine List.mem_append_left _ ?_
    rw [attempt_of_not_late hlate]
    exact List.mem_cons_self

/-- A late attempt is marked and logged as a failure all the same. -/
theorem mem_failureMarks_of_late {env : ChatEnv F} {a : Attempt} (hlate : a.late env) :
    a.candidate.id ∈ failureMarks (a.effects env) := by
  unfold Attempt.effects
  rw [attempt_of_late hlate]
  exact List.mem_cons_self

/-! ## Models that were never contacted -/

/-- Failures are counted and logged for contacted models only, and the others keep
their health columns. -/
structure PenalisesContacted [FloatArith F] (effects : List (Effect F)) : Prop where
  marked : ∀ modelId ∈ failureMarks effects, modelId ∈ contacts effects
  logged : ∀ entry ∈ requestLogs effects, entry.success = false →
    entry.selectedModelId ∈ contacts effects
  kept : ∀ modelId, modelId ∉ contacts effects → ∀ clock table,
    healthColumns (applyEffects clock table effects) modelId = healthColumns table modelId

/-- Failures are counted for contacted models only, exactly when every candidate that is
reached has time left at one of the positions where its model is tried. -/
theorem penalised_only_if_contacted_iff [FloatArith F] (env : ChatEnv F)
    (candidates : List Routed) (hstreaming : env.requiresStreaming = true) :
    PenalisesContacted (chatCompletions env candidates).2.flatten ↔
      ∀ a ∈ attempts env 0 candidates, ∃ b ∈ attempts env 0 candidates,
        b.candidate.id = a.candidate.id ∧ 0 < streamRemaining env b.idx := by
  have hintime : ∀ a : Attempt, ¬ a.late env ↔ 0 < streamRemaining env a.idx := by
    intro a
    unfold Attempt.late
    rw [hstreaming, and_iff_right rfl, Rat.not_le]
  have hcontacts : ∀ modelId, modelId ∈ contacts (chatCompletions env candidates).2.flatten ↔
      ∃ b ∈ attempts env 0 candidates,
        b.candidate.id = modelId ∧ 0 < streamRemaining env b.idx := by
    intro modelId
    rw [chatCompletions, chatLoop_effects, project_flatten contacts_append, List.flatMap_map,
      List.mem_flatMap]
    constructor
    · rintro ⟨b, hb, hmem⟩
      obtain ⟨rfl, hlate⟩ := mem_contacts_effects_iff.mp hmem
      exact ⟨b, hb, rfl, (hintime b).mp hlate⟩
    · rintro ⟨b, hb, rfl, htime⟩
      exact ⟨b, hb, mem_contacts_effects_iff.mpr ⟨rfl, (hintime b).mpr htime⟩⟩
  -- every other effect of the request belongs to an attempt at the same model
  have hattempt : ∀ effect ∈ (chatCompletions env candidates).2.flatten, ∀ modelId,
      effect.subject = some modelId →
      ∃ a ∈ attempts env 0 candidates, a.candidate.id = modelId := by
    intro effect heffect modelId hsubject
    rw [chatCompletions, chatLoop_effects, List.mem_flatten] at heffect
    obtain ⟨_, hmem, heffect⟩ := heffect
    obtain ⟨a, ha, rfl⟩ := List.mem_map.mp hmem
    refine ⟨a, ha, ?_⟩
    rcases subject_effects heffect with ⟨rfl, -⟩ | ⟨hnone | hsome, -⟩
    · exact Option.some.inj hsubject
    · rw [hsubject] at hnone
      cases hnone
    · rw [hsubject] at hsome
      exact (Option.some.inj hsome).symm
  constructor
  · intro h a ha
    rw [← hcontacts]
    by_cases hlate : a.late env
    · apply h.marked
      rw [chatCompletions, chatLoop_effects, project_flatten failureMarks_append,
        List.flatMap_map, List.mem_flatMap]
      exact ⟨a, ha, mem_failureMarks_of_late hlate⟩
    · exact (hcontacts _).mpr ⟨a, ha, rfl, (hintime a).mp hlate⟩
  · intro htime
    have hcontacted : ∀ effect ∈ (chatCompletions env candidates).2.flatten, ∀ modelId,
        effect.subject = some modelId →
        modelId ∈ contacts (chatCompletions env candidates).2.flatten := by
      intro effect heffect modelId hsubject
      obtain ⟨a, ha, rfl⟩ := hattempt effect heffect modelId hsubject
      exact (hcontacts _).mpr (htime a ha)
    refine ⟨?_, ?_, ?_⟩
    · intro modelId hmark
      obtain ⟨error, hmem⟩ := mem_failureMarks_iff.mp hmark
      exact hcontacted _ hmem modelId rfl
    · intro entry hlog _
      exact hcontacted _ (mem_requestLogs_iff.mp hlog) _ rfl
    · intro modelId hnot clock table
      unfold healthColumns
      rw [row?_applyEffects_of_unmarked clock table]
      · intro hmark
        obtain ⟨_, _, hmem⟩ := mem_successMarks_iff.mp hmark
        exact hnot (hcontacted _ hmem modelId rfl)
      · intro hmark
        obtain ⟨_, hmem⟩ := mem_failureMarks_iff.mp hmark
        exact hnot (hcontacted _ hmem modelId rfl)

/-- With the deadline passed after the first candidate, the second one is marked as
failed although nobody contacted it. -/
theorem late_candidate_penalised :
    failureMarks (chatCompletions (sampleEnv true fun idx => if idx = 0 then 0 else 601)
        sampleCandidates).2.flatten = ["a", "b", "c", "d"] ∧
      contacts (chatCompletions (sampleEnv true fun idx => if idx = 0 then 0 else 601)
        sampleCandidates).2.flatten = ["a"] ∧
      ¬ PenalisesContacted (chatCompletions
        (sampleEnv true fun idx => if idx = 0 then 0 else 601) sampleCandidates).2.flatten := by
  have hmarks : failureMarks (chatCompletions
      (sampleEnv true fun idx => if idx = 0 then 0 else 601) sampleCandidates).2.flatten =
      ["a", "b", "c", "d"] := by
    decide +kernel
  have hcontacts : contacts (chatCompletions
      (sampleEnv true fun idx => if idx = 0 then 0 else 601) sampleCandidates).2.flatten =
      ["a"] := by
    decide +kernel
  refine ⟨hmarks, hcontacts, fun h => ?_⟩
  have hb := h.marked "b" (by rw [hmarks]; decide)
  rw [hcontacts] at hb
  exact absurd hb (by decide)

/-- With time left throughout, the sample request penalises contacted models only. -/
theorem penalised_only_if_contacted_sample :
    PenalisesContacted (chatCompletions (sampleEnv true fun _ => 0)
      sampleCandidates).2.flatten := by
  refine (penalised_only_if_contacted_iff (sampleEnv true fun _ => 0) sampleCandidates
    rfl).mpr fun a ha => ⟨a, ha, rfl, ?_⟩
  change (0 : Rat) < 600 - (0 - 0)
  decide +kernel

/-! ## Context errors -/

/-- An attempt logged with a context error leaves the health columns of its model alone,
whatever the table and the clock. -/
def SparesContextErrors [FloatArith F] (effects : List (Effect F)) : Prop :=
  ∀ entry ∈ requestLogs effects, entry.gatewayErrorCategory = some .contextExceeded →
    ∀ clock table, healthColumns (applyEffects clock table effects) entry.selectedModelId =
      healthColumns table entry.selectedModelId

/-- No relayed stream of the attempt ends in a context error that is retryable. -/
def EndsInNoRetryableContextError (env : ChatEnv F) (a : Attempt) : Prop :=
  ∀ firstEvent upstream,
    (attempt env a.idx a.candidate).2 = .ok (.stream firstEvent upstream) →
    FirstEventReadable F (a.context env) firstEvent →
    ∀ error : ProviderError, error.category = .contextExceeded →
      EndsIn F (a.context env) (env.clock.relay a.idx) env.client 0 upstream
        (eventError F (a.context env) firstEvent) error →
      error.retryable = false

/-- A model stored for the first time. -/
def freshRow [FloatArith F] (modelId : String) : ModelRow F :=
  DiscoveredModel.newRow
    { id := modelId, name := "", providerId := "", providerModelId := ""
      providerBaseUrl := "", providerApiKeyEnv := "" } ""

/-- The table that holds it. -/
def freshTable [FloatArith F] (modelId : String) : ModelsTable F where
  rows := [freshRow modelId]
  ids_nodup := List.nodup_singleton _

omit [Runtime F] in
theorem row?_freshTable [FloatArith F] (modelId : String) :
    (freshTable (F := F) modelId).row? modelId = some (freshRow modelId) := by
  unfold ModelsTable.row? rowOf Tables.lookup freshTable
  simp [freshRow, DiscoveredModel.newRow]

/-- A health clock with default settings. -/
def sampleHealthClock : HealthClock where
  settings :=
    { healthCooldownMinutes := 5, healthMaxBackoffExponent := 6
      healthConsecutiveFailuresThreshold := 5 }
  now := "t0"
  isoAfterMinutes _ := .ok "t1"

omit [Runtime F] in
/-- A failure shows in the health columns of a model stored for the first time. -/
theorem healthColumns_markFailure_ne [FloatArith F] (modelId error : String) :
    healthColumns (applyEffect (F := F) sampleHealthClock (freshTable modelId)
      (.markFailure modelId error)) modelId ≠ healthColumns (freshTable (F := F) modelId)
      modelId := by
  have hrow := row?_freshTable (F := F) modelId
  obtain ⟨text, level, cooldownUntil, hmark⟩ : ∃ text level cooldownUntil,
      Health.markFailure sampleHealthClock.settings (freshTable (F := F) modelId) modelId
        { now := sampleHealthClock.now, error := error
          isoAfterMinutes := sampleHealthClock.isoAfterMinutes } =
      .ok (some (.failure modelId "t0" text level cooldownUntil 5)) := by
    unfold Health.markFailure readBackoff
    rw [hrow]
    exact ⟨_, _, _, rfl⟩
  have hafter : (applyEffect sampleHealthClock (freshTable (F := F) modelId)
      (.markFailure modelId error)).row? modelId =
      some (failureUpdate "t0" text level cooldownUntil 5 (freshRow modelId)) := by
    unfold applyEffect
    dsimp only
    rw [hmark]
    exact (rowOf_apply_failure modelId "t0" text level cooldownUntil 5 _).trans
      (congrArg _ hrow)
  unfold healthColumns
  rw [hafter, hrow]
  intro h
  have hcount := congrArg (Option.map HealthColumns.consecutiveFailures) h
  simp [failureUpdate, freshRow, DiscoveredModel.newRow] at hcount

omit [Runtime F] in
/-- A settlement spares context errors unless it is one that is retryable. -/
theorem sparesContextErrors_settlement [FloatArith F] {ctx : RelayContext} {clock : RelayClock}
    {client : DisconnectPattern} {st : RelayState F} {before : List (Effect F)}
    (hsuccess : successMarks before = []) (hfailure : failureMarks before = [])
    (hlogs : requestLogs before = []) :
    SparesContextErrors (before ++ settlementEffects ctx clock client st) ↔
      ∀ error, error.category = .contextExceeded → st.streamError = some error →
        error.retryable = false := by
  constructor
  · intro h error hcategory herror
    cases hretryable : error.retryable with
    | false => rfl
    | true =>
        exfalso
        have hsettled : settlementEffects ctx clock client st =
            [.markFailure ctx.modelId error.message, .logRequest (failureEntry ctx
              clock.timestamp (milliseconds ctx.start clock.finished) error true)] := by
          simp [settlementEffects, failureSettlement, herror, hretryable]
        rw [hsettled] at h
        have hlog : failureEntry ctx clock.timestamp (milliseconds ctx.start clock.finished)
            error true ∈ requestLogs (before ++ [.markFailure ctx.modelId error.message,
              .logRequest (failureEntry ctx clock.timestamp
                (milliseconds ctx.start clock.finished) error true)]) := by
          rw [requestLogs_append]
          exact List.mem_append_right _ List.mem_cons_self
        have hkept := h _ hlog (congrArg some hcategory) sampleHealthClock
          (freshTable ctx.modelId)
        rw [applyEffects_append, applyEffects_eq_self _ _ hsuccess hfailure] at hkept
        exact healthColumns_markFailure_ne ctx.modelId error.message hkept
  · intro h entry hentry hcategory clock' table
    rw [requestLogs_append, hlogs, List.nil_append] at hentry
    cases herror : st.streamError with
    | none =>
        unfold settlementEffects at hentry
        rw [herror] at hentry
        dsimp only at hentry
        split at hentry
        · cases hentry
        · obtain rfl := List.mem_singleton.mp hentry
          cases hcategory
    | some error =>
        have hsettled : settlementEffects ctx clock client st =
            failureSettlement ctx clock error := by
          rw [settlementEffects, herror]
        rw [hsettled] at hentry ⊢
        have hretryable : error.retryable = false := by
          apply h error _ herror
          unfold failureSettlement at hentry
          rw [requestLogs_append, List.mem_append] at hentry
          rcases hentry with hmark | hlog
          · split at hmark <;> cases hmark
          · obtain rfl := List.mem_singleton.mp hlog
            exact Option.some.inj hcategory
        rw [applyEffects_eq_self]
        · rw [successMarks_append, hsuccess, successMarks_failureSettlement]
          rfl
        · rw [failureMarks_append, hfailure, failureSettlement, hretryable]
          rfl

omit [Runtime F] in
/-- Invoking the provider is neither a health update nor a log entry. -/
theorem attempt_quiet (env : ChatEnv F) (idx : Nat) (candidate : Routed) :
    successMarks (attempt env idx candidate).1 = [] ∧
      failureMarks (attempt env idx candidate).1 = [] ∧
      requestLogs (attempt env idx candidate).1 = [] := by
  unfold attempt
  split <;> exact ⟨rfl, rfl, rfl⟩

omit [Runtime F] in
theorem requestLogs_map_emit (events : List (List UInt8)) :
    requestLogs (events.map (Effect.emit (F := F))) = [] := by
  induction events with
  | nil => rfl
  | cons event rest ih => exact ih

omit [Runtime F] in
theorem failureMarks_map_emit (events : List (List UInt8)) :
    failureMarks (events.map (Effect.emit (F := F))) = [] := by
  induction events with
  | nil => rfl
  | cons event rest ih => exact ih

omit [Runtime F] in
/-- An arm of the `try` spares context errors. -/
theorem sparesContextErrors_handle [FloatArith F] {env : ChatEnv F} {ctx : RelayContext}
    {st : LoopState} {raised : Raised} {before : List (Effect F)}
    (hsuccess : successMarks before = []) (hfailure : failureMarks before = [])
    (hlogs : requestLogs before = []) :
    SparesContextErrors (before ++ (handle env ctx st raised).1) := by
  intro entry hentry hcategory clock table
  rw [handle_effects] at hentry ⊢
  rw [requestLogs_append, hlogs, List.nil_append, requestLogs_append, List.mem_append]
    at hentry
  have hcontext : raised.contextExceeded = true := by
    rcases hentry with hmark | hlog
    · split at hmark <;> cases hmark
    · obtain rfl := List.mem_singleton.mp hlog
      have hlogged := Option.some.inj hcategory
      cases raised with
      | provider error => exact decide_eq_true hlogged
      | stopAsyncIteration => cases hlogged
      | timeout text => cases hlogged
      | other text => cases hlogged
  have hspared : (raised.failsOver && !raised.contextExceeded) = false := by
    rw [hcontext]
    exact Bool.and_false _
  rw [hspared, applyEffects_eq_self]
  · rw [successMarks_append, hsuccess]
    rfl
  · rw [failureMarks_append, hfailure]
    rfl

/-- An attempt spares context errors exactly when its stream ends in no retryable one. -/
theorem sparesContextErrors_effects_iff [FloatArith F] (env : ChatEnv F) (a : Attempt) :
    SparesContextErrors (a.effects env) ↔ EndsInNoRetryableContextError env a := by
  obtain ⟨hsuccess, hfailure, hlogs⟩ := attempt_quiet env a.idx a.candidate
  unfold Attempt.effects EndsInNoRetryableContextError
  cases houtcome : (attempt env a.idx a.candidate).2 with
  | error raised =>
      dsimp only
      refine iff_of_true (sparesContextErrors_handle hsuccess hfailure hlogs) ?_
      intro _ _ h
      cases h
  | ok answer =>
      cases answer with
      | result result =>
          dsimp only
          refine iff_of_true ?_ ?_
          · intro entry hentry hcategory
            rw [requestLogs_append, hlogs] at hentry
            obtain rfl := List.mem_singleton.mp hentry
            cases hcategory
          · intro _ _ h
            cases h
      | stream firstEvent upstream =>
          dsimp only
          cases hobserve : observe (a.context env) firstEvent (RelayState.initial (F := F)) with
          | error exc =>
              refine iff_of_true ?_ ?_
              · intro entry hentry
                rw [relayStream, hobserve, requestLogs_append, hlogs] at hentry
                cases hentry
              · intro _ _ h hreadable
                cases h
                obtain ⟨st', hst'⟩ := observe_of_readable hreadable
                  (RelayState.initial (F := F))
                rw [hobserve] at hst'
                cases hst'
          | ok st =>
              obtain ⟨events, heffects⟩ := relayStream_effects
                (env.clock.relay a.idx) env.client upstream hobserve
              rw [heffects, ← List.append_assoc, sparesContextErrors_settlement]
              · constructor
                · intro h _ _ heq _ error hcategory hends
                  cases heq
                  exact h error hcategory
                    ((endState_streamError_iff hcategory hobserve).mpr hends)
                · intro h error hcategory hstream
                  exact h firstEvent upstream rfl (observe_ok hobserve).2.2.2 error hcategory
                    ((endState_streamError_iff hcategory hobserve).mp hstream)
              · rw [successMarks_append, hsuccess, successMarks_map_emit]
                rfl
              · rw [failureMarks_append, hfailure, failureMarks_map_emit]
                rfl
              · rw [requestLogs_append, hlogs, requestLogs_map_emit]
                rfl

/-- Every attempt that fails with a context error spares the health columns of its
model, exactly when no relayed stream ends in a retryable context error. -/
theorem context_exceeded_unpenalised_iff [FloatArith F] (env : ChatEnv F)
    (candidates : List Routed) :
    (∀ effects ∈ (chatCompletions env candidates).2, SparesContextErrors effects) ↔
      ∀ a ∈ attempts env 0 candidates, EndsInNoRetryableContextError env a := by
  rw [chatCompletions, chatLoop_effects, List.forall_mem_map]
  constructor
  · intro h a ha
    exact (sparesContextErrors_effects_iff env a).mp (h a ha)
  · intro h a ha
    exact (sparesContextErrors_effects_iff env a).mpr (h a ha)

/-- An error event at the start of a stream. -/
def contextEvent : List UInt8 :=
  "data: \x7b\"error\": \x7b\"code\": \"context_length_exceeded\"\x7d\x7d\n\n".toList.map
    fun c => UInt8.ofNat c.toNat

/-- An adapter that knows one error code. -/
def contextCategorizer : CategorizeError := fun _ errorCode _ =>
  .ok (if errorCode = some "context_length_exceeded" then (.contextExceeded, true)
    else (.providerUnavailable, true))

/-- A streaming request whose candidates send the error event and nothing else. -/
def contextEnv : ChatEnv Exact :=
  { sampleEnv true fun _ => 0 with
    registry := fun _ => some contextCategorizer
    streamChatCompletions := fun _ => .ok [.ok contextEvent] }

/-- The analysis of an event returns and leaves a retryable context error behind. -/
def observesContextError (outcome : Except Exc (RelayState Exact)) : Bool :=
  match outcome with
  | .ok st =>
      match st.streamError with
      | some error => decide (error.category = .contextExceeded) && error.retryable
      | none => false
  | .error _ => false

/-- A context error in a relayed stream changes the health columns of the model. -/
theorem relayed_context_error_penalised :
    ¬ ∀ effects ∈ (chatCompletions contextEnv sampleCandidates).2,
      SparesContextErrors effects := by
  intro hspared
  let a : Attempt := ⟨0, sampleCandidate "a", contextCategorizer⟩
  have hintime : ¬ a.late contextEnv := by
    rintro ⟨-, hlate⟩
    exact absurd hlate (by decide +kernel)
  have hfirst : firstStreamEvent contextEnv.settings [.ok contextEvent] =
      .ok (contextEvent, []) := by
    have hsize : ¬ contextEnv.settings.gatewayMaxSseEventBytes < (contextEvent.length : Int) := by
      decide +kernel
    have hcomment : isCommentEvent contextEvent = false := by decide +kernel
    rw [firstStreamEvent, if_neg hsize, hcomment]
    rfl
  have hstream : (attempt contextEnv a.idx a.candidate).2 = .ok (.stream contextEvent []) := by
    rw [attempt_of_not_late hintime]
    have hstreaming : contextEnv.requiresStreaming = true := rfl
    have hupstream : contextEnv.streamChatCompletions a.candidate =
        .ok [.ok contextEvent] := rfl
    simp only [contactOutcome, hstreaming, hupstream, bind, Except.bind, hfirst, if_true]
    rfl
  have hattempt : a.effects contextEnv ∈
      (chatCompletions contextEnv sampleCandidates).2 := by
    rw [chatCompletions, chatLoop_effects]
    exact List.mem_map_of_mem List.mem_cons_self
  have hobserved : observesContextError
      (observe (a.context contextEnv) contextEvent .initial) = true := by
    decide +kernel
  have hends := (sparesContextErrors_effects_iff contextEnv a).mp (hspared _ hattempt)
  cases hobserve : observe (a.context contextEnv) contextEvent
      (RelayState.initial (F := Exact)) with
  | error exc =>
      rw [hobserve] at hobserved
      cases hobserved
  | ok st =>
      rw [hobserve, observesContextError] at hobserved
      cases herror : st.streamError with
      | none =>
          rw [herror] at hobserved
          cases hobserved
      | some error =>
          rw [herror] at hobserved
          simp only [Bool.and_eq_true, decide_eq_true_eq] at hobserved
          have hcarried := observe_streamError hobserve
          rw [herror] at hcarried
          have hkept := hends contextEvent [] hstream (observe_ok hobserve).2.2.2 error
            hobserved.1 (endsIn_nil_iff.mpr ⟨by decide +kernel, ?_⟩)
          · rw [hobserved.2] at hkept
            cases hkept
          · simpa [RelayState.initial] using hcarried.symm

end Penalties

end Gateway
end FreeLunch
