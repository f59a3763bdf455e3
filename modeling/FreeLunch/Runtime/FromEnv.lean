import FreeLunch.Runtime.Overrides

/-!
# Settings of the environment

`Settings.from_env`: the integer settings with their sections, environment variables,
defaults and clamps.  What `yaml.safe_load` answers is a parameter.  A value is admitted when
`from_env` gives it or a later `apply_overrides` leaves it.

Main results:

- Theorem `admitted_iff`: the admitted values of an integer setting are those that one of
  the two clamps leaves alone.
- Theorem `admitted_of_clamped`: where both clamps are a lower bound, the admitted values
  are those from that bound on.
-/

namespace FreeLunch
namespace Runtime

open Python Writes

/-! ## Where a setting is read -/

/-- The section of the configuration file that holds an integer setting. -/
def IntSetting.sectionName : IntSetting → String
  | .discoveryIntervalMinutes => "discovery"
  | .rankingIntervalMinutes => "ranking"
  | .routingMaxAttempts => "routing"
  | .loggingRequestLogRetentionDays => "logging"
  | _ => "health"

/-- The name of an integer setting in its section. -/
def IntSetting.name : IntSetting → String
  | .discoveryIntervalMinutes => "interval_minutes"
  | .rankingIntervalMinutes => "interval_minutes"
  | .routingMaxAttempts => "max_attempts"
  | .healthProbeIntervalMinutes => "probe_interval_minutes"
  | .healthProbeTimeoutSeconds => "probe_timeout_seconds"
  | .healthProbeConcurrency => "probe_concurrency"
  | .healthStartupProbeLimit => "startup_probe_limit"
  | .healthMaxProbesPerRun => "max_probes_per_run"
  | .healthStaleAfterMinutes => "stale_after_minutes"
  | .healthTopNStaleProbe => "top_n_stale_probe"
  | .healthConsecutiveFailuresThreshold => "consecutive_failures_threshold"
  | .healthCooldownMinutes => "cooldown_minutes"
  | .healthMaxBackoffExponent => "max_backoff_exponent"
  | .healthProbeMaxTokens => "probe_max_tokens"
  | .loggingRequestLogRetentionDays => "request_log_retention_days"

/-- The environment variable that goes before the file. -/
def IntSetting.variable : IntSetting → Option String
  | .routingMaxAttempts => some "ROUTING_MAX_ATTEMPTS"
  | .healthStartupProbeLimit => some "STARTUP_PROBE_LIMIT"
  | _ => none

/-- The value of an integer setting that the file does not name. -/
def IntSetting.default : IntSetting → Int
  | .discoveryIntervalMinutes => 30
  | .rankingIntervalMinutes => 15
  | .routingMaxAttempts => 3
  | .healthProbeIntervalMinutes => 180
  | .healthProbeTimeoutSeconds => 15
  | .healthProbeConcurrency => 1
  | .healthStartupProbeLimit => 2
  | .healthMaxProbesPerRun => 1
  | .healthStaleAfterMinutes => 360
  | .healthTopNStaleProbe => 3
  | .healthConsecutiveFailuresThreshold => 3
  | .healthCooldownMinutes => 30
  | .healthMaxBackoffExponent => 4
  | .healthProbeMaxTokens => 1
  | .loggingRequestLogRetentionDays => 30

/-- `max(n, least)` of `from_env`.  It leaves the probe interval and the probe timeout
alone and clamps the startup limit, unlike `apply_overrides`. -/
def IntSetting.clampFromEnv (setting : IntSetting) (n : Int) : Int :=
  match setting with
  | .routingMaxAttempts | .healthProbeIntervalMinutes | .healthProbeTimeoutSeconds => n
  | .healthMaxProbesPerRun | .healthTopNStaleProbe | .healthStartupProbeLimit
  | .healthMaxBackoffExponent => max n 0
  | _ => max n 1

section Config

variable {F : Type} [Runtime F]

/-- An integer setting of `from_env`, for an environment and the data of the file. -/
def intFromEnv (environ : String → Option String) (configData : PyValue F)
    (setting : IntSetting) : Except Exc Int := do
  let values ← configData.get setting.sectionName (.dict [])
  let fromFile ← values.get setting.name (.int setting.default)
  let raw : PyValue F :=
    match setting.variable.bind environ with
    | some text => .str text
    | none => fromFile
  let n ← raw.toInt
  pure (setting.clampFromEnv n)

/-- `_coerce_float_mapping`. -/
def coerceFloatMapping (value : PyValue F) : Except Exc (List (String × F)) :=
  match value with
  | .dict members =>
      members.foldlM (fun out member => do
        let x ← member.2.toFloat
        pure (dictSet out member.1 x)) []
  | _ => .ok []

/-- `ranking_weights` of `from_env`: the defaults, updated with the weights of the file. -/
def weightsFromEnv (defaults : List (String × F)) (configData : PyValue F) :
    Except Exc (List (String × F)) := do
  let ranking ← configData.get "ranking" (.dict [])
  let values ← ranking.get "weights" (.dict [])
  let weights ← coerceFloatMapping values
  pure (weights.foldl (fun out weight => dictSet out weight.1 weight.2) defaults)

/-! ## The admitted values -/

/-- The values of an integer setting that `from_env` gives and `apply_overrides` leaves. -/
inductive Admitted (F : Type) [Runtime F] (setting : IntSetting) : Int → Prop where
  | fromEnv {environ : String → Option String} {configData : PyValue F} {n : Int}
      (h : intFromEnv environ configData setting = .ok n) : Admitted F setting n
  | applyOverrides {settings settings' : Settings F} {overrides : List (String × PyValue F)}
      (hbefore : Admitted F setting (settings.int setting))
      (hnodup : (overrides.map Prod.fst).Nodup)
      (h : applyOverrides settings overrides = .ok settings') :
      Admitted F setting (settings'.int setting)

theorem clampFromEnv_clampFromEnv (setting : IntSetting) (n : Int) :
    setting.clampFromEnv (setting.clampFromEnv n) = setting.clampFromEnv n := by
  cases setting <;> simp [IntSetting.clampFromEnv]

theorem clamp_clamp (setting : IntSetting) (n : Int) :
    setting.clamp (setting.clamp n) = setting.clamp n := by
  cases setting <;> simp [IntSetting.clamp]

/-- `from_env` gives a clamped value. -/
theorem clampFromEnv_of_intFromEnv {environ : String → Option String}
    {configData : PyValue F} {setting : IntSetting} {n : Int}
    (h : intFromEnv environ configData setting = .ok n) : setting.clampFromEnv n = n := by
  unfold intFromEnv at h
  obtain ⟨values, -, h⟩ := bind_ok_iff.mp h
  obtain ⟨fromFile, -, h⟩ := bind_ok_iff.mp h
  obtain ⟨m, -, h⟩ := bind_ok_iff.mp h
  cases h
  exact clampFromEnv_clampFromEnv setting m

/-- Overrides leave an integer setting alone or clamp it. -/
theorem int_applyOverrides {settings settings' : Settings F}
    {overrides : List (String × PyValue F)} (hnodup : (overrides.map Prod.fst).Nodup)
    (h : applyOverrides settings overrides = .ok settings') (setting : IntSetting) :
    settings'.int setting = settings.int setting ∨
      setting.clamp (settings'.int setting) = settings'.int setting := by
  have hread := readSetting_applyOverrides hnodup h (.scalar (.int setting))
  cases hraw : lastNaming overrides (.scalar (.int setting)) with
  | none =>
      rw [hraw] at hread
      exact .inl (by simpa [readSetting] using hread)
  | some raw =>
      rw [hraw] at hread
      right
      cases hint : raw.toInt with
      | error exc => simp [readSetting, Setting.coerce, hint, Except.map, Except.toOption] at hread
      | ok m =>
          simp only [readSetting, Setting.coerce, hint, Except.map, Except.toOption,
            Option.some.injEq, SettingValue.int.injEq] at hread
          rw [hread]
          exact clamp_clamp setting m

/-- The file can give every value that the clamp of `from_env` leaves alone. -/
theorem intFromEnv_file {setting : IntSetting} {n : Int} (h : setting.clampFromEnv n = n) :
    intFromEnv (F := F) (fun _ => none)
      (.dict [(setting.sectionName, .dict [(setting.name, .int n)])]) setting = .ok n := by
  have hvariable : (setting.variable.bind fun _ => (none : Option String)) = none := by
    cases setting.variable <;> rfl
  unfold intFromEnv
  simp [PyValue.get, dictGet, hvariable, PyValue.toInt, h, bind, Except.bind, pure, Except.pure]

/-- One override of an integer setting leaves the clamped value. -/
theorem applyOverrides_single (settings : Settings F) (setting : IntSetting) (n : Int) :
    ∃ settings', applyOverrides settings [((Scalar.int setting).key, .int n)] =
        .ok settings' ∧
      settings'.int setting = setting.clamp n := by
  have hkey := settingOfKey_key (.int setting)
  have hnodup : (([((Scalar.int setting).key, .int n)] : List (String × PyValue F)).map
      Prod.fst).Nodup := List.nodup_singleton _
  obtain ⟨settings', h⟩ := (applyOverrides_ok_iff settings hnodup).mpr (by
    intro entry hentry other hother
    rw [List.mem_singleton] at hentry
    subst hentry
    rw [hkey, Option.some.injEq] at hother
    subst hother
    exact ⟨.int (setting.clamp n), rfl⟩)
  have hread := readSetting_applyOverrides hnodup h (.scalar (.int setting))
  refine ⟨settings', h, ?_⟩
  simpa [lastNaming, hkey, readSetting, Setting.coerce, PyValue.toInt, Except.map,
    Except.toOption] using hread

/-- The admitted values are those that one of the two clamps leaves alone. -/
theorem admitted_iff {setting : IntSetting} {n : Int} :
    Admitted F setting n ↔ setting.clampFromEnv n = n ∨ setting.clamp n = n := by
  constructor
  · intro h
    induction h with
    | fromEnv h => exact .inl (clampFromEnv_of_intFromEnv h)
    | applyOverrides _ hnodup h ih =>
        rcases int_applyOverrides hnodup h setting with hsame | hclamped
        · rw [hsame]
          exact ih
        · exact .inr hclamped
  · rintro (h | h)
    · exact .fromEnv (intFromEnv_file h)
    · -- any settings that hold an admitted value can be overridden
      let settings : Settings F :=
        { int := fun _ => setting.clampFromEnv n, bool := fun _ => true, str := fun _ => ""
          rankingWeights := [], healthDailyRequestBudgetByProvider := []
          providerActiveProbeEnabled := [], openrouterActiveProbeEnabled := true
          openrouterApiKey := "", gatewayApiKey := "", appEnv := "", providersEnabled := []
          providerEnabled := [], providerDiscoveryEnabled := []
          providerInferenceEnabled := [], providerBootstrapConfig := []
          openrouterApiBase := "", openrouterDevStubEnabled := false
          loggingRequestLogEnabled := true, loggingLogQueueSize := 1 }
      obtain ⟨settings', happly, hint⟩ := applyOverrides_single settings setting n
      rw [← h, ← hint]
      refine Admitted.applyOverrides ?_ ?_ happly
      · exact .fromEnv (intFromEnv_file (clampFromEnv_clampFromEnv setting n))
      · exact List.nodup_singleton _

/-- Where both clamps are the same lower bound, the admitted values are those from it on. -/
theorem admitted_of_clamped {setting : IntSetting} {least : Int}
    (hfromEnv : ∀ n, setting.clampFromEnv n = max n least)
    (hclamp : ∀ n, setting.clamp n = max n least) {n : Int} :
    Admitted F setting n ↔ least ≤ n := by
  rw [admitted_iff, hfromEnv, hclamp]
  omega

/-- Every integer is an admitted number of attempts. -/
theorem admitted_routingMaxAttempts (n : Int) : Admitted F .routingMaxAttempts n :=
  admitted_iff.mpr (.inl rfl)

end Config
end Runtime
end FreeLunch
