import FreeLunch.Python.Json
import Mathlib.Data.List.Sort
import Mathlib.Data.List.Dedup
import Mathlib.Logic.Function.Basic

/-!
# Settings

`src/config.py`: the effective settings with their accessors, and the keys an override may
have.  The scalar settings that can be overridden are an enumeration, so that a setting is
named by its constructor.

Main results:

- Theorem `stripped_of_providerBetween`: the provider an override key names is a name
  without outer whitespace.

Current gaps:

- Settings that neither an override nor a reload reads are left out.
-/

namespace FreeLunch
namespace Runtime

open Python

/-! ## The settings that can be overridden -/

/-- The integer settings with an override key. -/
inductive IntSetting where
  | discoveryIntervalMinutes
  | rankingIntervalMinutes
  | routingMaxAttempts
  | healthProbeIntervalMinutes
  | healthProbeTimeoutSeconds
  | healthProbeConcurrency
  | healthStartupProbeLimit
  | healthMaxProbesPerRun
  | healthStaleAfterMinutes
  | healthTopNStaleProbe
  | healthConsecutiveFailuresThreshold
  | healthCooldownMinutes
  | healthMaxBackoffExponent
  | healthProbeMaxTokens
  | loggingRequestLogRetentionDays
deriving DecidableEq, Repr

/-- The boolean settings with an override key of their own. -/
inductive BoolSetting where
  | routingEnableRequestPreferenceHeaders
  | loggingRuntimeEnabled
deriving DecidableEq, Repr

/-- The text settings with an override key. -/
inductive StrSetting where
  | rankingFallbackModel
  | loggingRuntimeVerbosity
deriving DecidableEq, Repr

/-- A scalar setting. -/
inductive Scalar where
  | int (setting : IntSetting)
  | bool (setting : BoolSetting)
  | str (setting : StrSetting)
deriving DecidableEq, Repr

/-- The override key of a scalar setting. -/
def Scalar.key : Scalar → String
  | .int .discoveryIntervalMinutes => "discovery.interval_minutes"
  | .int .rankingIntervalMinutes => "ranking.interval_minutes"
  | .int .routingMaxAttempts => "routing.max_attempts"
  | .bool .routingEnableRequestPreferenceHeaders =>
      "routing.enable_request_preference_headers"
  | .int .healthProbeIntervalMinutes => "health.probe_interval_minutes"
  | .int .healthProbeTimeoutSeconds => "health.probe_timeout_seconds"
  | .int .healthProbeConcurrency => "health.probe_concurrency"
  | .int .healthStartupProbeLimit => "health.startup_probe_limit"
  | .int .healthMaxProbesPerRun => "health.max_probes_per_run"
  | .int .healthStaleAfterMinutes => "health.stale_after_minutes"
  | .int .healthTopNStaleProbe => "health.top_n_stale_probe"
  | .int .healthConsecutiveFailuresThreshold => "health.consecutive_failures_threshold"
  | .int .healthCooldownMinutes => "health.cooldown_minutes"
  | .int .healthMaxBackoffExponent => "health.max_backoff_exponent"
  | .int .healthProbeMaxTokens => "health.probe_max_tokens"
  | .str .rankingFallbackModel => "ranking.fallback_model"
  | .int .loggingRequestLogRetentionDays => "logging.request_log_retention_days"
  | .bool .loggingRuntimeEnabled => "logging.runtime_enabled"
  | .str .loggingRuntimeVerbosity => "logging.runtime_verbosity"

/-- The scalar settings in the order in which `apply_overrides` reads them. -/
def Scalar.all : List Scalar :=
  [.int .discoveryIntervalMinutes, .int .rankingIntervalMinutes, .int .routingMaxAttempts,
    .bool .routingEnableRequestPreferenceHeaders, .int .healthProbeIntervalMinutes,
    .int .healthProbeTimeoutSeconds, .int .healthProbeConcurrency,
    .int .healthStartupProbeLimit, .int .healthMaxProbesPerRun,
    .int .healthStaleAfterMinutes, .int .healthTopNStaleProbe,
    .int .healthConsecutiveFailuresThreshold, .int .healthCooldownMinutes,
    .int .healthMaxBackoffExponent, .int .healthProbeMaxTokens, .str .rankingFallbackModel,
    .int .loggingRequestLogRetentionDays, .bool .loggingRuntimeEnabled,
    .str .loggingRuntimeVerbosity]

/-- `max(n, least)`, for the settings that are clamped. -/
def IntSetting.clamp (setting : IntSetting) (n : Int) : Int :=
  match setting with
  | .routingMaxAttempts | .healthStartupProbeLimit => n
  | .healthMaxProbesPerRun | .healthTopNStaleProbe | .healthMaxBackoffExponent => max n 0
  | _ => max n 1

/-- The names of `DEFAULT_RANKING_WEIGHTS`. -/
def rankingWeightNames : List String :=
  ["benchmark_score", "real_world_usage", "latency", "availability", "context_window",
    "feature_support"]

/-! ## Effective settings -/

/-- A dictionary of a configuration section. -/
abbrev Section (F : Type) := List (String × PyValue F)

/-- `Settings`. -/
structure Settings (F : Type) where
  int : IntSetting → Int
  bool : BoolSetting → Bool
  str : StrSetting → String
  rankingWeights : List (String × F)
  healthDailyRequestBudgetByProvider : List (String × Int)
  providerActiveProbeEnabled : List (String × Bool)
  openrouterActiveProbeEnabled : Bool
  openrouterApiKey : String
  gatewayApiKey : String
  appEnv : String
  providersEnabled : List String
  providerEnabled : List (String × Bool)
  providerDiscoveryEnabled : List (String × Bool)
  providerInferenceEnabled : List (String × Bool)
  providerBootstrapConfig : List (String × Section F)
  openrouterApiBase : String
  openrouterDevStubEnabled : Bool
  loggingRequestLogEnabled : Bool
  loggingLogQueueSize : Int

/-- `text.strip()`. -/
def stripped (text : String) : String :=
  String.ofList (strip text.toList)

section Config

variable {F : Type}

/-- `PROVIDER_DEFAULT_API_KEY_ENVS`, its keys. -/
def providersWithDefaultKey : List String :=
  ["openrouter", "openai", "together", "groq", "deepseek", "xai", "cerebras", "perplexity",
    "nvidia"]

/-- `sorted(set(ids))` without the empty name. -/
def sortedIds (ids : List String) : List String :=
  (ids.dedup.filter fun id => decide (id ≠ "")).insertionSort (· ≤ ·)

/-- `known_provider_ids`. -/
def Settings.knownProviderIds (settings : Settings F) : List String :=
  sortedIds (settings.providersEnabled ++ settings.providerEnabled.map Prod.fst ++
    settings.providerDiscoveryEnabled.map Prod.fst ++
    settings.providerInferenceEnabled.map Prod.fst ++
    settings.providerActiveProbeEnabled.map Prod.fst ++
    settings.providerBootstrapConfig.map Prod.fst ++
    settings.healthDailyRequestBudgetByProvider.map Prod.fst ++ ["openrouter"])

/-- `supported_provider_ids`. -/
def Settings.supportedProviderIds (settings : Settings F) : List String :=
  sortedIds (providersWithDefaultKey ++ settings.knownProviderIds)

/-- `is_provider_enabled`. -/
def Settings.isProviderEnabled (settings : Settings F) (providerId : String) : Bool :=
  let normalized := stripped providerId
  normalized != "" &&
    (dictGet settings.providerEnabled normalized).getD
      (settings.providersEnabled.contains normalized)

/-- `is_provider_discovery_enabled`. -/
def Settings.isProviderDiscoveryEnabled (settings : Settings F) (providerId : String) : Bool :=
  let normalized := stripped providerId
  let default := settings.isProviderEnabled normalized
  normalized != "" && default &&
    (dictGet settings.providerDiscoveryEnabled normalized).getD default

/-- `is_provider_inference_enabled`. -/
def Settings.isProviderInferenceEnabled (settings : Settings F) (providerId : String) : Bool :=
  let normalized := stripped providerId
  let default := settings.isProviderEnabled normalized
  normalized != "" && default &&
    (dictGet settings.providerInferenceEnabled normalized).getD default

/-- `is_provider_active_probe_enabled`. -/
def Settings.isProviderActiveProbeEnabled (settings : Settings F) (providerId : String) :
    Bool :=
  let normalized := stripped providerId
  normalized != "" &&
    (dictGet settings.providerActiveProbeEnabled normalized).getD
      (if normalized = "openrouter" then settings.openrouterActiveProbeEnabled else true)

/-- `get_provider_bootstrap_config`. -/
def Settings.getProviderBootstrapConfig (settings : Settings F) (providerId : String) :
    Section F :=
  let normalized := stripped providerId
  if normalized = "" then []
  else (dictGet settings.providerBootstrapConfig normalized).getD []

/-- `apply_managed_secrets`. -/
def Settings.applyManagedSecrets (settings : Settings F) (secrets : List (String × String)) :
    Settings F :=
  let settings :=
    match dictGet secrets "openrouter_api_key" with
    | some key => { settings with openrouterApiKey := key }
    | none => settings
  settings.supportedProviderIds.foldl (fun (current : Settings F) providerId =>
    if providerId = "openrouter" then current
    else
      match dictGet secrets ("providers." ++ providerId ++ ".api_key") with
      | none => current
      | some key =>
          let config := (dictGet current.providerBootstrapConfig providerId).getD []
          { current with
            providerBootstrapConfig := dictSet current.providerBootstrapConfig providerId
              (dictSet config "api_key" (.str key)) }) settings

/-! ## Override keys -/

/-- The text between a start and an ending, stripped; nothing when it is blank. -/
def providerBetween (start ending key : String) : Option String :=
  let text := key.toList
  if startsWith text start.toList && endsWith text ending.toList then
    let name := strip
      ((text.take (text.length - ending.toList.length)).drop start.toList.length)
    if name.isEmpty then none else some (String.ofList name)
  else none

/-- `_provider_from_active_probe_key`. -/
def providerFromActiveProbeKey (key : String) : Option String :=
  providerBetween "providers." ".active_probe_enabled" key

/-- `_provider_from_probe_budget_key`. -/
def providerFromProbeBudgetKey (key : String) : Option String :=
  providerBetween "health.daily_request_budget_by_provider." "" key

/-- `OVERRIDABLE_KEYS`. -/
def overridableKeys : List String :=
  "providers.openrouter.active_probe_enabled" ::
    "health.daily_request_budget_by_provider.openrouter" :: Scalar.all.map Scalar.key

/-- `is_overridable`. -/
def isOverridable (key : String) : Bool :=
  overridableKeys.contains key || startsWith key.toList "ranking.weights.".toList ||
    (providerFromActiveProbeKey key).isSome || (providerFromProbeBudgetKey key).isSome

end Config

/-! ## Provider names -/

theorem stripped_stripped (text : String) : stripped (stripped text) = stripped text := by
  unfold stripped
  rw [String.toList_ofList, strip_strip]

/-- A provider named by a key is a name without outer whitespace. -/
theorem stripped_of_providerBetween {start ending key providerId : String}
    (h : providerBetween start ending key = some providerId) :
    stripped providerId = providerId ∧ providerId ≠ "" := by
  unfold providerBetween at h
  dsimp only at h
  split at h
  · split at h
    · cases h
    · rename_i hname
      cases h
      refine ⟨?_, ?_⟩
      · unfold stripped
        rw [String.toList_ofList, strip_strip]
      · intro hempty
        apply hname
        have htext := congrArg String.toList hempty
        rw [String.toList_ofList] at htext
        rw [htext]
        rfl
  · cases h

end Runtime
end FreeLunch
