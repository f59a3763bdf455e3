import FreeLunch.Python.Exact
import FreeLunch.Runtime.FromEnv

/-!
# Settings of the file and overrides

`Settings.from_env` for all settings that an override can name, and what it reads next to what
`apply_overrides` assigns for the same value.

Main results:

- Theorem `readSetting_fromEnv`: a setting that the file gives takes the file's value, coerced
  and clamped by `from_env`.
- Theorem `readSetting_override`: the override of a setting takes its value, coerced and clamped
  by `apply_overrides`.
- Theorem `file_eq_override_iff`: both give one setting exactly where their lower bounds leave the
  value alone.

Current gaps:

- The settings that no override names, and the order in which two invalid values are noticed,
  are left out.
- The values are those of JSON.
-/

namespace FreeLunch
namespace Runtime

open Python Writes

/-! ## Where a setting is read -/

/-- The section of the configuration file that holds a scalar setting. -/
def Scalar.sectionName : Scalar → String
  | .int setting => setting.sectionName
  | .bool .routingEnableRequestPreferenceHeaders => "routing"
  | .bool .loggingRuntimeEnabled => "logging"
  | .str .rankingFallbackModel => "ranking"
  | .str .loggingRuntimeVerbosity => "logging"

/-- The name of a scalar setting in its section. -/
def Scalar.name : Scalar → String
  | .int setting => setting.name
  | .bool .routingEnableRequestPreferenceHeaders => "enable_request_preference_headers"
  | .bool .loggingRuntimeEnabled => "runtime_enabled"
  | .str .rankingFallbackModel => "fallback_model"
  | .str .loggingRuntimeVerbosity => "runtime_verbosity"

/-- The environment variable that goes before the file. -/
def BoolSetting.variable : BoolSetting → Option String
  | .routingEnableRequestPreferenceHeaders => some "ROUTING_ENABLE_REQUEST_PREFERENCE_HEADERS"
  | .loggingRuntimeEnabled => none

/-- The text of a setting that the file does not name. -/
def StrSetting.default : StrSetting → String
  | .rankingFallbackModel => "openrouter/openrouter/free"
  | .loggingRuntimeVerbosity => "concise"

/-- The scalar settings in the order in which `from_env` reads them. -/
def fromEnvOrder : List Scalar :=
  [.int .discoveryIntervalMinutes, .int .rankingIntervalMinutes, .int .routingMaxAttempts,
    .bool .routingEnableRequestPreferenceHeaders, .str .rankingFallbackModel,
    .int .healthProbeIntervalMinutes, .int .healthProbeTimeoutSeconds,
    .int .healthProbeConcurrency, .int .healthMaxProbesPerRun, .int .healthStaleAfterMinutes,
    .int .healthTopNStaleProbe, .int .healthStartupProbeLimit,
    .int .healthConsecutiveFailuresThreshold, .int .healthCooldownMinutes,
    .int .healthMaxBackoffExponent, .int .healthProbeMaxTokens,
    .int .loggingRequestLogRetentionDays, .bool .loggingRuntimeEnabled,
    .str .loggingRuntimeVerbosity]

/-- `DEFAULT_PROVIDER_PROBE_BUDGET`. -/
def defaultProviderProbeBudget : Int := 5

section File

variable {F : Type} [Runtime F]

/-! ## Reading the file -/

/-- `_env_bool`. -/
def envBool (raw : Option String) (default : PyValue F) : Bool :=
  match raw with
  | none => default.truthy
  | some text => ["1", "true", "yes", "on"].contains
      (String.ofList (lowerAscii (strip text.toList)))

/-- A scalar setting of `from_env`. -/
def scalarFromEnv (environ : String → Option String) (configData : PyValue F) (scalar : Scalar) :
    Except Exc (SettingValue F) :=
  match scalar with
  | .int setting => (intFromEnv environ configData setting).map .int
  | .bool setting => do
      let values ← configData.get scalar.sectionName (.dict [])
      let fromFile ← values.get scalar.name (.bool true)
      pure (.bool (envBool (setting.variable.bind environ) fromFile))
  | .str setting => do
      let values ← configData.get scalar.sectionName (.dict [])
      let fromFile ← values.get scalar.name (.str setting.default)
      pure (.str fromFile.toStr)

/-- A scalar argument of the constructor. -/
def assignScalar (environ : String → Option String) (configData : PyValue F)
    (settings : Settings F) (scalar : Scalar) : Except Exc (Settings F) :=
  (scalarFromEnv environ configData scalar).map fun value =>
    match scalar, value with
    | .int setting, .int n => settings.setInt setting n
    | .bool setting, .bool b => settings.setBool setting b
    | .str setting, .str text => settings.setStr setting text
    | _, _ => settings

/-- `_coerce_string_list`. -/
def coerceStringList (value : PyValue F) : List String :=
  match value with
  | .list items => (items.map PyValue.toStr).filter fun text => !(strip text.toList).isEmpty
  | _ => []

omit [Runtime F] in
/-- `_coerce_provider_sections`. -/
def coerceProviderSections (providers : PyValue F) : List (String × Section F) :=
  match providers with
  | .dict members => members.filterMap fun member =>
      match member.2 with
      | .dict values => if member.1 = "enabled" then none else some (member.1, values)
      | _ => none
  | _ => []

/-- `_coerce_int_mapping`. -/
def coerceIntMapping (value : PyValue F) : Except Exc (List (String × Int)) :=
  match value with
  | .dict members =>
      members.foldlM (fun out member => do
        let n ← member.2.toInt
        pure (dictSet out member.1 n)) []
  | _ => .ok []

/-- `enabled_providers`. -/
def enabledProviders (providers : PyValue F) : List String :=
  match providers with
  | .dict members => coerceStringList ((dictGet members "enabled").getD (.list [.str "openrouter"]))
  | _ => coerceStringList (.list [.str "openrouter"] : PyValue F)

/-- `sorted(provider_ids)`. -/
def providerIdsFromEnv (providers : PyValue F) : List String :=
  ((coerceProviderSections providers).map Prod.fst ++ enabledProviders providers ++
    ["openrouter"]).dedup.insertionSort (· ≤ ·)

/-- A flag of a provider's section. -/
def providerFlag (providers : PyValue F) (providerId name : String) : PyValue F :=
  (dictGet ((dictGet (coerceProviderSections providers) providerId).getD []) name).getD
    (.bool true)

/-- `configured_enabled`. -/
def configuredEnabled (providers : PyValue F) (providerId : String) : Bool :=
  (enabledProviders providers).contains providerId &&
    (providerFlag providers providerId "enabled").truthy

/-- `provider_active_probe_enabled[provider_id]`. -/
def activeProbeFromEnv (environ : String → Option String) (providers : PyValue F)
    (providerId : String) : Bool :=
  let activeProbeDefault := providerFlag providers providerId "active_probe_enabled"
  if providerId = "openrouter" then
    envBool (environ "OPENROUTER_ACTIVE_PROBE_ENABLED") activeProbeDefault
  else activeProbeDefault.truthy

/-- `probe_budgets`. -/
def budgetsFromEnv (configData providers : PyValue F) : Except Exc (List (String × Int)) := do
  let health ← configData.get "health" (.dict [])
  let budgets ← coerceIntMapping (← health.get "daily_request_budget_by_provider" (.dict []))
  pure (budgets.foldl (fun out budget => dictSet out budget.1 budget.2)
    ((providerIdsFromEnv providers).map fun providerId =>
      (providerId, defaultProviderProbeBudget)))

/-- The arguments of the constructor that come from the providers, the weights and the budgets;
the settings that no override names are those of `others`. -/
def withProviders (others : Settings F) (environ : String → Option String)
    (providers : PyValue F) (weights : List (String × F)) (budgets : List (String × Int)) :
    Settings F :=
  let providerIds := providerIdsFromEnv providers
  { others with
    providersEnabled := enabledProviders providers
    providerEnabled := providerIds.map fun id => (id, configuredEnabled providers id)
    providerDiscoveryEnabled := providerIds.map fun id =>
      (id, configuredEnabled providers id && (providerFlag providers id
        "discovery_enabled").truthy)
    providerInferenceEnabled := providerIds.map fun id =>
      (id, configuredEnabled providers id && (providerFlag providers id
        "inference_enabled").truthy)
    providerActiveProbeEnabled := providerIds.map fun id =>
      (id, activeProbeFromEnv environ providers id)
    openrouterActiveProbeEnabled := activeProbeFromEnv environ providers "openrouter"
    providerBootstrapConfig := (providerIds.filter fun id => id ≠ "").map fun id =>
      (id, (dictGet (coerceProviderSections providers) id).getD [])
    rankingWeights := weights
    healthDailyRequestBudgetByProvider := budgets }

/-- `from_env`, for an environment, the data of the file and the default weights. -/
def fromEnv (others : Settings F) (defaults : List (String × F))
    (environ : String → Option String) (configData : PyValue F) : Except Exc (Settings F) := do
  let providers ← configData.get "providers" (.dict [])
  let weights ← weightsFromEnv defaults configData
  let budgets ← budgetsFromEnv configData providers
  fromEnvOrder.foldlM (assignScalar environ configData)
    (withProviders others environ providers weights budgets)

/-! ## Values in the file -/

/-- The file gives a setting a value; a dictionary has a key once. -/
def Gives (configData : PyValue F) (setting : Setting) (raw : PyValue F) : Prop :=
  ∃ members, configData = .dict members ∧
    match setting with
    | .scalar scalar => ∃ values, dictGet members scalar.sectionName = some (.dict values) ∧
        dictGet values scalar.name = some raw
    | .weight name => ∃ values weights, dictGet members "ranking" = some (.dict values) ∧
        dictGet values "weights" = some (.dict weights) ∧ (weights.map Prod.fst).Nodup ∧
        dictGet weights name = some raw
    | .activeProbe providerId => ∃ providers values, providerId ≠ "enabled" ∧
        dictGet members "providers" = some (.dict providers) ∧
        dictGet providers providerId = some (.dict values) ∧
        dictGet values "active_probe_enabled" = some raw
    | .probeBudget providerId => ∃ values budgets,
        dictGet members "health" = some (.dict values) ∧
        dictGet values "daily_request_budget_by_provider" = some (.dict budgets) ∧
        (budgets.map Prod.fst).Nodup ∧ dictGet budgets providerId = some raw

/-- The environment variables that go before the file are not set. -/
def Unset (environ : String → Option String) : Prop :=
  ∀ name ∈ ["ROUTING_MAX_ATTEMPTS", "STARTUP_PROBE_LIMIT",
    "ROUTING_ENABLE_REQUEST_PREFERENCE_HEADERS", "OPENROUTER_ACTIVE_PROBE_ENABLED"],
    environ name = none

/-- The conversion of a setting in `from_env`, with its clamp. -/
def Setting.coerceFromEnv (setting : Setting) (raw : PyValue F) : Except Exc (SettingValue F) :=
  match setting with
  | .scalar (.int field) => raw.toInt.map fun n => .int (field.clampFromEnv n)
  | .scalar (.bool _) => .ok (.bool raw.truthy)
  | .scalar (.str _) => .ok (.str raw.toStr)
  | .weight _ => raw.toFloat.map .float
  | .activeProbe _ => .ok (.bool raw.truthy)
  | .probeBudget _ => raw.toInt.map .int

/-! ## What `from_env` reads -/

/-- A scalar argument writes its setting. -/
theorem step_assignScalar (environ : String → Option String) (configData : PyValue F) :
    Step readSetting (fun scalar => some (.scalar scalar, scalarFromEnv environ configData scalar))
      (assignScalar environ configData) where
  ok_iff settings scalar := by
    unfold assignScalar
    cases scalarFromEnv environ configData scalar <;> simp [Except.map]
  read_step settings scalar settings' other h := by
    obtain ⟨value, hvalue, rfl⟩ := map_ok_iff.mp h
    rw [hvalue]
    rcases scalar with setting | setting | setting
    · obtain ⟨n, -, rfl⟩ := map_ok_iff.mp hvalue
      simp
    · obtain ⟨values, -, hrest⟩ := bind_ok_iff.mp hvalue
      obtain ⟨fromFile, -, hrest⟩ := bind_ok_iff.mp hrest
      cases hrest
      simp
    · obtain ⟨values, -, hrest⟩ := bind_ok_iff.mp hvalue
      obtain ⟨fromFile, -, hrest⟩ := bind_ok_iff.mp hrest
      cases hrest
      simp

theorem mem_fromEnvOrder (scalar : Scalar) : scalar ∈ fromEnvOrder := by
  rcases scalar with setting | setting | setting <;> cases setting <;> decide

omit [Runtime F] in
/-- The file has its dictionary of a section. -/
theorem get_section {configData : PyValue F} {members : List (String × PyValue F)}
    (hdata : configData = .dict members) {name : String} {value : PyValue F}
    (hvalue : dictGet members name = some value) (default : PyValue F) :
    configData.get name default = .ok value := by
  rw [hdata, PyValue.get, hvalue]
  rfl

/-- A dictionary that is updated with another one answers with the other one's values. -/
theorem dictGet_foldl_dictSet {α : Type} (updates start : List (String × α))
    (hnodup : (updates.map Prod.fst).Nodup) (key : String) :
    dictGet (updates.foldl (fun out entry => dictSet out entry.1 entry.2) start) key =
      (dictGet updates key).or (dictGet start key) := by
  induction updates generalizing start with
  | nil => rfl
  | cons entry rest ih =>
      rw [List.map_cons, List.nodup_cons] at hnodup
      rw [List.foldl_cons, ih _ hnodup.2, dictGet_dictSet, dictGet_cons]
      by_cases hkey : entry.1 = key
      · have hnone : dictGet rest key = none := by
          cases hget : dictGet rest key with
          | none => rfl
          | some value =>
              exact absurd (List.mem_map_of_mem (mem_of_dictGet hget)) (hkey ▸ hnodup.1)
        rw [if_pos hkey, if_pos hkey, hnone]
        rfl
      · rw [if_neg hkey, if_neg hkey]

omit [Runtime F] in
/-- A loop over a dictionary that converts each value writes each key. -/
theorem step_dictSet {α : Type} (f : PyValue F → Except Exc α) :
    Step (fun (out : List (String × α)) key => dictGet out key)
      (fun (member : String × PyValue F) => some (member.1, f member.2))
      (fun out member => do
        let x ← f member.2
        pure (dictSet out member.1 x)) where
  ok_iff out member := by
    cases f member.2 <;> simp [bind, Except.bind, pure, Except.pure]
  read_step out member out' key h := by
    obtain ⟨x, hx, hout⟩ := bind_ok_iff.mp h
    cases hout
    rw [hx, dictGet_dictSet]

omit [Runtime F] in
/-- The values of a dictionary, converted one by one. -/
theorem dictGet_foldlM_dictSet {α : Type} {f : PyValue F → Except Exc α}
    {members : List (String × PyValue F)} {start out : List (String × α)}
    (hnodup : (members.map Prod.fst).Nodup)
    (h : members.foldlM (fun out member => do
      let x ← f member.2
      pure (dictSet out member.1 x)) start = .ok out) {key : String} {raw : PyValue F}
    (hraw : dictGet members key = some raw) : ∃ x, f raw = .ok x ∧ dictGet out key = some x := by
  have hmem := mem_of_dictGet hraw
  obtain ⟨x, hx⟩ := (foldlM_ok_iff (step_dictSet f).ok_iff members start).mp ⟨out, h⟩ _ hmem
    key (f raw) rfl
  refine ⟨x, hx, ?_⟩
  rw [read_foldlM (step_dictSet f) h key,
    filterMap_of_unique (List.Nodup.of_map _ hnodup) hmem]
  · dsimp only
    rw [written_self, hx]
    rfl
  · intro other hother hne
    apply written_of_ne
    intro v hv
    rw [Option.some.injEq, Prod.mk.injEq] at hv
    apply hne
    -- a key stands once in the dictionary
    have hsame := (dictGet_eq_some_iff hnodup).mpr hother
    rw [hv.1, hraw, Option.some.injEq] at hsame
    exact Prod.ext hv.1 hsame.symm

omit [Runtime F] in
/-- The converted dictionary has a key once. -/
theorem nodup_foldlM_dictSet {α : Type} {f : PyValue F → Except Exc α}
    {members : List (String × PyValue F)} {start out : List (String × α)}
    (hstart : (start.map Prod.fst).Nodup)
    (h : members.foldlM (fun out member => do
      let x ← f member.2
      pure (dictSet out member.1 x)) start = .ok out) : (out.map Prod.fst).Nodup := by
  induction members generalizing start with
  | nil =>
      cases h
      exact hstart
  | cons member rest ih =>
      rw [List.foldlM_cons] at h
      obtain ⟨first, hfirst, hrest⟩ := bind_ok_iff.mp h
      obtain ⟨x, -, hx⟩ := bind_ok_iff.mp hfirst
      cases hx
      exact ih (dictSet_keys_nodup hstart member.1 x) hrest

omit [Runtime F] in
/-- A dictionary that is converted and then updates another one. -/
theorem dictGet_updated {α : Type} {f : PyValue F → Except Exc α}
    {members : List (String × PyValue F)} (start : List (String × α)) {out : List (String × α)}
    (hnodup : (members.map Prod.fst).Nodup)
    (h : members.foldlM (fun out member => do
      let x ← f member.2
      pure (dictSet out member.1 x)) [] = .ok out) {key : String} {raw : PyValue F}
    (hraw : dictGet members key = some raw) :
    ∃ x, f raw = .ok x ∧
      dictGet (out.foldl (fun out entry => dictSet out entry.1 entry.2) start) key = some x := by
  obtain ⟨x, hx, hget⟩ := dictGet_foldlM_dictSet hnodup h hraw
  refine ⟨x, hx, ?_⟩
  have hkeys : (([] : List (String × α)).map Prod.fst).Nodup := List.nodup_nil
  rw [dictGet_foldl_dictSet _ _ (nodup_foldlM_dictSet hkeys h), hget]
  rfl

omit [Runtime F] in
theorem dictGet_map_mk {α : Type} (f : String → α) (ids : List String) {id : String}
    (hid : id ∈ ids) : dictGet (ids.map fun id => (id, f id)) id = some (f id) := by
  induction ids with
  | nil => cases hid
  | cons first rest ih =>
      rw [List.map_cons, dictGet_cons]
      by_cases hfirst : first = id
      · rw [if_pos hfirst, hfirst]
      · rw [if_neg hfirst]
        exact ih ((List.mem_cons.mp hid).resolve_left (Ne.symm hfirst))

omit [Runtime F] in
/-- A section of a provider is what the file has under its name. -/
theorem dictGet_coerceProviderSections {providers : List (String × PyValue F)}
    {providerId : String} {values : Section F} (hname : providerId ≠ "enabled")
    (h : dictGet providers providerId = some (.dict values)) :
    dictGet (coerceProviderSections (.dict providers)) providerId = some values := by
  unfold coerceProviderSections
  dsimp only
  induction providers with
  | nil => cases h
  | cons member rest ih =>
      obtain ⟨name, value⟩ := member
      rw [dictGet_cons] at h
      by_cases hkey : name = providerId
      · rw [if_pos hkey, Option.some.injEq] at h
        dsimp only at h
        subst h hkey
        rw [List.filterMap_cons_some (b := (name, values)) (by simp [hname]), dictGet_cons,
          if_pos rfl]
      · rw [if_neg hkey] at h
        rw [List.filterMap_cons]
        split
        · exact ih h
        · rename_i entry hentry
          have hfst : entry.1 = name := by
            cases value with
            | dict values =>
                dsimp only at hentry
                split at hentry
                · cases hentry
                · cases hentry
                  rfl
            | _ => cases hentry
          rw [dictGet_cons, if_neg (hfst ▸ hkey)]
          exact ih h

/-- A scalar setting of the file is the file's value, converted. -/
theorem scalarFromEnv_of_gives {environ : String → Option String} {configData raw : PyValue F}
    {scalar : Scalar} (hunset : Unset environ) (hgives : Gives configData (.scalar scalar) raw) :
    scalarFromEnv environ configData scalar = (Setting.scalar scalar).coerceFromEnv raw := by
  obtain ⟨members, rfl, values, hsection, hraw⟩ := hgives
  have hvalues := fun default => get_section rfl hsection default
  have hvalue := fun default => get_section rfl hraw default
  rcases scalar with setting | setting | setting
  · have hvariable : setting.variable.bind environ = none := by
      cases setting with
      | routingMaxAttempts => exact hunset _ (by simp)
      | healthStartupProbeLimit => exact hunset _ (by simp)
      | _ => rfl
    unfold scalarFromEnv
    dsimp only [Scalar.sectionName, Scalar.name] at hvalues hvalue ⊢
    unfold intFromEnv
    rw [hvalues, ok_bind, hvalue, ok_bind, hvariable]
    unfold Setting.coerceFromEnv
    dsimp only
    cases raw.toInt <;> rfl
  · have hvariable : setting.variable.bind environ = none := by
      cases setting with
      | routingEnableRequestPreferenceHeaders => exact hunset _ (by simp)
      | loggingRuntimeEnabled => rfl
    unfold scalarFromEnv
    dsimp only
    rw [hvalues, ok_bind, hvalue, ok_bind, hvariable]
    rfl
  · unfold scalarFromEnv
    dsimp only
    rw [hvalues, ok_bind, hvalue, ok_bind]
    rfl

/-- The phases of `from_env`: providers, weights, budgets and the scalar arguments. -/
theorem fromEnv_eq_ok_iff {others settings : Settings F} {defaults : List (String × F)}
    {environ : String → Option String} {configData : PyValue F} :
    fromEnv others defaults environ configData = .ok settings ↔
      ∃ providers weights budgets, configData.get "providers" (.dict []) = .ok providers ∧
        weightsFromEnv defaults configData = .ok weights ∧
        budgetsFromEnv configData providers = .ok budgets ∧
        fromEnvOrder.foldlM (assignScalar environ configData)
          (withProviders others environ providers weights budgets) = .ok settings := by
  unfold fromEnv
  simp only [bind_ok_iff]
  constructor
  · rintro ⟨providers, hproviders, weights, hweights, budgets, hbudgets, h⟩
    exact ⟨providers, weights, budgets, hproviders, hweights, hbudgets, h⟩
  · rintro ⟨providers, weights, budgets, hproviders, hweights, hbudgets, h⟩
    exact ⟨providers, hproviders, weights, hweights, budgets, hbudgets, h⟩

/-- The scalar arguments leave the settings of providers and weights alone. -/
theorem readSetting_foldlM_assignScalar {environ : String → Option String}
    {configData : PyValue F} {before settings : Settings F}
    (h : fromEnvOrder.foldlM (assignScalar environ configData) before = .ok settings)
    {setting : Setting} (hsetting : ∀ scalar, setting ≠ .scalar scalar) :
    readSetting settings setting = readSetting before setting := by
  rw [read_foldlM (step_assignScalar environ configData) h setting, filterMap_written_of_ne]
  · rfl
  · intro scalar _ v hv
    rw [Option.some.injEq, Prod.mk.injEq] at hv
    exact hsetting scalar hv.1.symm

/-- A setting that the file gives takes the file's value. -/
theorem readSetting_fromEnv {others settings : Settings F} {defaults : List (String × F)}
    {environ : String → Option String} {configData raw : PyValue F} {setting : Setting}
    (hunset : Unset environ) (hgives : Gives configData setting raw)
    (h : fromEnv others defaults environ configData = .ok settings) :
    ∃ value, setting.coerceFromEnv raw = .ok value ∧ readSetting settings setting = some value := by
  obtain ⟨providers, weights, budgets, hproviders, hweights, hbudgets, hscalars⟩ :=
    fromEnv_eq_ok_iff.mp h
  cases setting with
  | scalar scalar =>
      have hstep := step_assignScalar environ configData
      obtain ⟨value, hvalue⟩ := (foldlM_ok_iff hstep.ok_iff _ _).mp ⟨settings, hscalars⟩ scalar
        (mem_fromEnvOrder scalar) _ _ rfl
      refine ⟨value, by rw [← scalarFromEnv_of_gives hunset hgives, hvalue], ?_⟩
      rw [read_foldlM hstep hscalars, filterMap_of_unique (by decide) (mem_fromEnvOrder scalar)]
      · rw [written_self, hvalue]
        rfl
      · intro other _ hne
        apply written_of_ne
        intro v hv
        rw [Option.some.injEq, Prod.mk.injEq, Setting.scalar.injEq] at hv
        exact hne hv.1
  | weight name =>
      obtain ⟨members, hdata, values, file, hsection, hfile, hnodup, hraw⟩ := hgives
      unfold weightsFromEnv at hweights
      rw [get_section hdata hsection, ok_bind, get_section rfl hfile, ok_bind] at hweights
      obtain ⟨converted, hconverted, hupdate⟩ := bind_ok_iff.mp hweights
      cases hupdate
      obtain ⟨x, hx, hget⟩ := dictGet_updated defaults hnodup hconverted hraw
      refine ⟨.float x, by rw [Setting.coerceFromEnv, hx]; rfl, ?_⟩
      rw [readSetting_foldlM_assignScalar hscalars (by simp)]
      exact congrArg (Option.map SettingValue.float) hget
  | activeProbe providerId =>
      obtain ⟨members, hdata, file, values, hname, hsection, hfile, hraw⟩ := hgives
      rw [get_section hdata hsection, Except.ok.injEq] at hproviders
      subst hproviders
      have hvalues := dictGet_coerceProviderSections hname hfile
      have hmem : providerId ∈ providerIdsFromEnv (.dict file) := by
        unfold providerIdsFromEnv
        rw [List.mem_insertionSort, List.mem_dedup, List.mem_append, List.mem_append]
        exact .inl (.inl (List.mem_map_of_mem (mem_of_dictGet hvalues)))
      have hflag : providerFlag (.dict file) providerId "active_probe_enabled" = raw := by
        unfold providerFlag
        rw [hvalues, Option.getD_some, hraw, Option.getD_some]
      refine ⟨.bool raw.truthy, rfl, ?_⟩
      rw [readSetting_foldlM_assignScalar hscalars (by simp)]
      unfold readSetting withProviders
      dsimp only
      rw [dictGet_map_mk _ _ hmem]
      unfold activeProbeFromEnv
      dsimp only
      rw [hflag, hunset "OPENROUTER_ACTIVE_PROBE_ENABLED" (by simp)]
      split <;> rfl
  | probeBudget providerId =>
      obtain ⟨members, hdata, values, file, hsection, hfile, hnodup, hraw⟩ := hgives
      unfold budgetsFromEnv at hbudgets
      rw [get_section hdata hsection, ok_bind, get_section rfl hfile, ok_bind] at hbudgets
      obtain ⟨converted, hconverted, hupdate⟩ := bind_ok_iff.mp hbudgets
      cases hupdate
      obtain ⟨n, hn, hget⟩ := dictGet_updated
        ((providerIdsFromEnv providers).map fun id => (id, defaultProviderProbeBudget)) hnodup
        hconverted hraw
      refine ⟨.int n, by rw [Setting.coerceFromEnv, hn]; rfl, ?_⟩
      rw [readSetting_foldlM_assignScalar hscalars (by simp)]
      exact congrArg (Option.map SettingValue.int) hget

/-! ## What the override assigns -/

/-- The override of a setting assigns its value. -/
theorem readSetting_override {before after : Settings F} {key : String} {raw : PyValue F}
    {setting : Setting} (hkey : settingOfKey key = some setting)
    (h : applyOverrides before [(key, raw)] = .ok after) :
    ∃ value, setting.coerce raw = .ok value ∧ readSetting after setting = some value := by
  have hnodup : (([(key, raw)] : List (String × PyValue F)).map Prod.fst).Nodup :=
    List.nodup_singleton _
  have hcoercible := (applyOverrides_ok_iff before hnodup).mp ⟨after, h⟩ _ List.mem_cons_self
  obtain ⟨value, hvalue⟩ := hcoercible setting hkey
  refine ⟨value, hvalue, ?_⟩
  rw [readSetting_applyOverrides hnodup h setting]
  have hnaming : lastNaming [(key, raw)] setting = some raw := by simp [lastNaming, hkey]
  rw [hnaming]
  dsimp only
  rw [hvalue]
  rfl

/-! ## Both in comparison -/

/-- The lower bounds of `from_env` and `apply_overrides` leave the value alone where they are
different. -/
def BoundsAgree (setting : Setting) (raw : PyValue F) : Prop :=
  match setting with
  | .scalar (.int .healthProbeIntervalMinutes) => ∀ n, raw.toInt = .ok n → 1 ≤ n
  | .scalar (.int .healthProbeTimeoutSeconds) => ∀ n, raw.toInt = .ok n → 1 ≤ n
  | .scalar (.int .healthStartupProbeLimit) => ∀ n, raw.toInt = .ok n → 0 ≤ n
  | .probeBudget _ => ∀ n, raw.toInt = .ok n → 0 ≤ n
  | _ => True

/-- An integer setting that both paths accept gets one value exactly where the bounds agree. -/
theorem int_eq_iff {raw : PyValue F} {n : Int} (hn : raw.toInt = .ok n) (setting : IntSetting) :
    setting.clampFromEnv n = setting.clamp n ↔ BoundsAgree (.scalar (.int setting)) raw := by
  have hall : ∀ least : Int, (∀ m, raw.toInt = .ok m → least ≤ m) ↔ least ≤ n := by
    intro least
    constructor
    · intro h
      exact h n hn
    · intro h m hm
      rw [hn, Except.ok.injEq] at hm
      exact hm ▸ h
  unfold BoundsAgree
  cases setting <;> simp only [IntSetting.clampFromEnv, IntSetting.clamp, hall] <;> omega

theorem coerce_eq_iff {setting : Setting} {raw : PyValue F} {file override : SettingValue F}
    (hfile : setting.coerceFromEnv raw = .ok file)
    (hoverride : setting.coerce raw = .ok override) :
    file = override ↔ BoundsAgree setting raw := by
  have hsame : setting.coerceFromEnv raw = setting.coerce raw → file = override := by
    intro h
    rw [hfile, hoverride] at h
    exact Except.ok.inj h
  rcases setting with (field | field | field) | name | providerId | providerId
  · obtain ⟨n, hn, rfl⟩ := map_ok_iff.mp hfile
    obtain ⟨m, hm, rfl⟩ := map_ok_iff.mp hoverride
    rw [hn, Except.ok.injEq] at hm
    subst hm
    rw [SettingValue.int.injEq]
    exact int_eq_iff hn field
  · exact iff_of_true (hsame rfl) trivial
  · exact iff_of_true (hsame rfl) trivial
  · exact iff_of_true (hsame rfl) trivial
  · exact iff_of_true (hsame rfl) trivial
  · obtain ⟨n, hn, rfl⟩ := map_ok_iff.mp hfile
    obtain ⟨m, hm, rfl⟩ := map_ok_iff.mp hoverride
    rw [hn, Except.ok.injEq] at hm
    subst hm
    rw [SettingValue.int.injEq]
    constructor
    · intro h k hk
      rw [hn, Except.ok.injEq] at hk
      omega
    · intro h
      have hle := h n hn
      omega

/-- A value in the file and the same value as an override give one effective setting exactly
where the lower bounds of both paths leave it alone. -/
theorem file_eq_override_iff {others fromFile before after : Settings F}
    {defaults : List (String × F)} {environ : String → Option String}
    {configData raw : PyValue F} {key : String} {setting : Setting}
    (hkey : settingOfKey key = some setting) (hunset : Unset environ)
    (hgives : Gives configData setting raw)
    (hfile : fromEnv others defaults environ configData = .ok fromFile)
    (hoverride : applyOverrides before [(key, raw)] = .ok after) :
    readSetting fromFile setting = readSetting after setting ↔ BoundsAgree setting raw := by
  obtain ⟨file, hcoerceFile, hreadFile⟩ := readSetting_fromEnv hunset hgives hfile
  obtain ⟨override, hcoerce, hread⟩ := readSetting_override hkey hoverride
  rw [hreadFile, hread, Option.some.injEq]
  exact coerce_eq_iff hcoerceFile hcoerce

end File

/-! ## Samples -/

/-- Settings ahead of `from_env`. -/
def blankSettings : Settings Exact where
  int := IntSetting.default
  bool := fun _ => true
  str := StrSetting.default
  rankingWeights := []
  healthDailyRequestBudgetByProvider := []
  providerActiveProbeEnabled := []
  openrouterActiveProbeEnabled := true
  openrouterApiKey := ""
  gatewayApiKey := ""
  appEnv := "dev"
  providersEnabled := []
  providerEnabled := []
  providerDiscoveryEnabled := []
  providerInferenceEnabled := []
  providerBootstrapConfig := []
  openrouterApiBase := ""
  openrouterDevStubEnabled := false
  loggingRequestLogEnabled := true
  loggingLogQueueSize := 5000

/-- A file with a probe timeout. -/
def timeoutFile (n : Int) : PyValue Exact :=
  .dict [("health", .dict [("probe_timeout_seconds", .int n)])]

theorem gives_timeoutFile (n : Int) :
    Gives (timeoutFile n) (.scalar (.int .healthProbeTimeoutSeconds)) (.int n) :=
  ⟨_, rfl, _, rfl, rfl⟩

/-- A timeout of twenty seconds is the same in the file and as an override. -/
theorem timeout_of_file_and_override : ∃ fromFile after : Settings Exact,
    fromEnv blankSettings [] (fun _ => none) (timeoutFile 20) = .ok fromFile ∧
      applyOverrides blankSettings [("health.probe_timeout_seconds", .int 20)] = .ok after ∧
      (readSetting fromFile (.scalar (.int .healthProbeTimeoutSeconds)) =
          readSetting after (.scalar (.int .healthProbeTimeoutSeconds)) ↔
        BoundsAgree (F := Exact) (.scalar (.int .healthProbeTimeoutSeconds)) (.int 20)) := by
  have hok : (fromEnv blankSettings [] (fun _ => none) (timeoutFile 20)).isOk = true := by
    decide +kernel
  obtain ⟨fromFile, hfile⟩ := isOk_iff.mp hok
  obtain ⟨after, hoverride, -⟩ := applyOverrides_single blankSettings .healthProbeTimeoutSeconds 20
  refine ⟨fromFile, after, hfile, hoverride, ?_⟩
  exact file_eq_override_iff (settingOfKey_key _) (fun _ _ => rfl) (gives_timeoutFile 20) hfile
    hoverride

/-- A timeout of zero in the file stays zero, and as an override it becomes one second. -/
theorem zero_timeout_differs : ∃ fromFile before after : Settings Exact,
    fromEnv blankSettings [] (fun _ => none) (timeoutFile 0) = .ok fromFile ∧
      fromEnv blankSettings [] (fun _ => none) (.dict []) = .ok before ∧
      applyOverrides before [("health.probe_timeout_seconds", .int 0)] = .ok after ∧
      readSetting fromFile (.scalar (.int .healthProbeTimeoutSeconds)) = some (.int 0) ∧
      readSetting after (.scalar (.int .healthProbeTimeoutSeconds)) = some (.int 1) := by
  have hok : (fromEnv blankSettings [] (fun _ => none) (timeoutFile 0)).isOk = true := by
    decide +kernel
  have hbefore : (fromEnv blankSettings [] (fun _ => none) (.dict [])).isOk = true := by
    decide +kernel
  obtain ⟨fromFile, hfile⟩ := isOk_iff.mp hok
  obtain ⟨before, hbefore⟩ := isOk_iff.mp hbefore
  obtain ⟨after, hoverride, hint⟩ := applyOverrides_single before .healthProbeTimeoutSeconds 0
  refine ⟨fromFile, before, after, hfile, hbefore, hoverride, ?_, ?_⟩
  · obtain ⟨value, hvalue, hread⟩ :=
      readSetting_fromEnv (fun _ _ => rfl) (gives_timeoutFile 0) hfile
    rw [hread]
    cases hvalue
    rfl
  · exact congrArg (fun n => some (SettingValue.int n)) hint

end Runtime
end FreeLunch
