import FreeLunch.Runtime.Registry
import FreeLunch.Runtime.Overrides
import FreeLunch.Store.Models
import FreeLunch.Python.Exact

/-!
# Reloading the settings

`reload_settings` of `src/main.py` on the state of the running application.  It reads the
new settings, rebuilds the provider registry in place, assigns the new values one after
another and then acts on them; a step that raises leaves what the earlier ones wrote.

Main results:

- Theorem `reloadSettings_returns_iff`: a reload returns exactly when the settings can be
  prepared, the registry can be rebuilt and what follows is answered.
- Theorem `reloadSettings_atomic_iff`: a reload leaves the live state alone when it raises
  exactly when it raises before the registry is touched, stops at once on an empty
  registry, or cannot raise afterwards.

Current gaps:

- `Settings.from_env` is the parameter `fromEnv`: any settings, or any exception.
- The handlers of the runtime logger are left out; configuring them can raise.
-/

namespace FreeLunch
namespace Runtime

open Python Store Transactions Writes

/-! ## The state of the application -/

/-- A row of `config_overrides`. -/
structure OverrideRow where
  key : String
  value : String
deriving DecidableEq, Repr

/-- The `config_overrides` table under its primary key. -/
structure OverridesTable where
  rows : List OverrideRow
  keys_nodup : (rows.map OverrideRow.key).Nodup

/-- `SecretVaultConfig`. -/
structure SecretVaultConfig where
  saltB64 : String
  verifierEncrypted : String
deriving DecidableEq, Repr

/-- What decrypting one value can do. -/
inductive Decrypted where
  | plaintext (text : String)
  | invalidToken
  | raised (exc : Exc)

/-- `ManagedSecretStore`. -/
structure ManagedSecretStore where
  decrypt : String → Decrypted

/-- The row of `gateway_auth_config`. -/
structure GatewayAuthRow where
  mode : Option String
  tokenSaltB64 : Option String
  tokenHashB64 : Option String
  updatedAt : Option String
deriving DecidableEq, Repr

/-- `GatewayAuthConfig`. -/
structure GatewayAuthConfig where
  tokenSaltB64 : String
  tokenHashB64 : String
deriving DecidableEq, Repr

/-- `app.state.gateway_auth`. -/
structure GatewayAuth where
  mode : String
  enabled : Bool
  source : String
  envConfigured : Bool
  updatedAt : Option String
  config : Option GatewayAuthConfig
  envKey : Option String
deriving DecidableEq, Repr

/-- `app.state.secret_management_status`. -/
structure SecretStatus where
  configured : Bool
  unlocked : Bool
  storedSecretCount : Nat
  loadedSecretCount : Nat
  decryptFailures : List String
deriving DecidableEq, Repr

/-- The policy of the writer for request logs. -/
structure RequestLogPolicy where
  enabled : Bool
  queueSize : Int
  queueSize_pos : 1 ≤ queueSize

/-- The jobs that a reload reschedules. -/
inductive Job where
  | discovery
  | ranking
  | health
deriving DecidableEq, Repr

/-- The tables of the database that a reload reads. -/
structure Database (F : Type) where
  overrides : OverridesTable
  secretVaultConfig : Option SecretVaultConfig
  gatewayAuthConfig : Option GatewayAuthRow
  managedSecrets : List (String × String)
  models : ModelsTable F

/-- The running application: the database, the registry, the policy of the writer, the
fields of `app.state`, and the interval of each job the scheduler has. -/
structure App (F : Type) where
  db : Database F
  registry : ProviderRegistry
  requestLogPolicy : RequestLogPolicy
  settings : Settings F
  secretVaultConfig : Option SecretVaultConfig
  secretStore : Option ManagedSecretStore
  secretManagementStatus : SecretStatus
  gatewayAuth : GatewayAuth
  jobs : Job → Option Int
  ready : Bool

/-- The accesses of a reload that can raise. -/
inductive Access where
  | overrides
  | secretVaultConfig
  | managedSecrets
  | runtimeLogger
  | gatewayAuthConfig
  | activeProviders
  | readinessProviders
  | routableModels
deriving DecidableEq, Repr

/-- What a reload meets outside the application. -/
structure Surroundings (F : Type) where
  /-- `Settings.from_env()`. -/
  fromEnv : Except Exc (Settings F)
  host : Host
  /-- The exception of an access that fails. -/
  access : Access → Except Exc Unit
  /-- `IntervalTrigger(minutes=n)` and `reschedule_job` with it. -/
  intervalTrigger : Int → Except Exc Unit

/-! ## Reading -/

section Reading

variable {F : Type} [Runtime F]

/-- The value of an override as `get_overrides` decodes it. -/
def decodeOverride (text : String) : Except Exc (PyValue F) :=
  match loads text.toList with
  | .ok value => .ok value
  | .error (.jsonDecodeError _) => .ok (.str text)
  | .error exc => .error exc

/-- An entry of the dictionary that `get_overrides` builds. -/
def decodeRow (row : OverrideRow) : Except Exc (String × PyValue F) :=
  (decodeOverride row.value).map fun value => (row.key, value)

/-- `get_overrides`.  The keys are unique, so the dictionary has the order of the rows. -/
def getOverrides (table : OverridesTable) : Except Exc (List (String × PyValue F)) :=
  table.rows.mapM decodeRow

/-- `decrypt_mapping`. -/
def ManagedSecretStore.decryptMapping (store : ManagedSecretStore) :
    List (String × String) → Except Exc (List (String × String) × List String)
  | [] => .ok ([], [])
  | (key, value) :: rest =>
      match store.decrypt value with
      | .raised exc => .error exc
      | .invalidToken => do
          let (decrypted, failures) ← store.decryptMapping rest
          return (decrypted, key :: failures)
      | .plaintext text => do
          let (decrypted, failures) ← store.decryptMapping rest
          return ((key, text) :: decrypted, failures)

/-- `_load_managed_secrets`, after the query. -/
def loadManagedSecrets (encrypted : List (String × String))
    (secretStore : Option ManagedSecretStore) (vaultConfig : Option SecretVaultConfig) :
    Except Exc (List (String × String) × SecretStatus) := do
  let status : SecretStatus :=
    { configured := vaultConfig.isSome, unlocked := secretStore.isSome
      storedSecretCount := encrypted.length, loadedSecretCount := 0, decryptFailures := [] }
  match secretStore with
  | none => return ([], status)
  | some store =>
      let (secrets, failures) ← store.decryptMapping encrypted
      return (secrets, { status with
        loadedSecretCount := secrets.length, decryptFailures := failures })

/-- `_get_gateway_auth_config`, after the query. -/
def getGatewayAuthConfig (row : Option GatewayAuthRow) : GatewayAuth :=
  match row with
  | none =>
      { mode := "inherit", enabled := false, source := "disabled", envConfigured := false
        updatedAt := none, config := none, envKey := none }
  | some row =>
      let mode := if row.mode.getD "" = "" then "inherit" else row.mode.getD ""
      let salt := row.tokenSaltB64.getD ""
      let hash := row.tokenHashB64.getD ""
      let config : Option GatewayAuthConfig :=
        if mode = "enabled" ∧ salt ≠ "" ∧ hash ≠ "" then some ⟨salt, hash⟩ else none
      let enabled := mode == "enabled" && config.isSome
      { mode := mode, enabled := enabled
        source := if enabled then "managed" else "disabled"
        envConfigured := false, updatedAt := row.updatedAt, config := config, envKey := none }

/-- `_resolve_gateway_auth_state`, after the query. -/
def resolveGatewayAuthState (settings : Settings F) (row : Option GatewayAuthRow) :
    GatewayAuth :=
  let envKey := stripped settings.gatewayApiKey
  let envConfigured := envKey != ""
  let managed := getGatewayAuthConfig row
  if managed.mode = "enabled" ∧ managed.config.isSome then
    { mode := managed.mode, enabled := true, source := "managed"
      envConfigured := envConfigured, updatedAt := managed.updatedAt
      config := managed.config, envKey := none }
  else if managed.mode = "disabled" then
    { mode := managed.mode, enabled := false, source := "disabled"
      envConfigured := envConfigured, updatedAt := managed.updatedAt
      config := none, envKey := none }
  else
    { mode := "inherit", enabled := envConfigured
      source := if envConfigured then "env" else "disabled"
      envConfigured := envConfigured, updatedAt := managed.updatedAt
      config := none, envKey := if envConfigured then some envKey else none }

/-- What a reload has read before it writes. -/
structure Prepared (F : Type) where
  settings : Settings F
  secretVaultConfig : Option SecretVaultConfig
  secretStore : Option ManagedSecretStore
  secretStatus : SecretStatus

/-- The statements of `reload_settings` before the registry is rebuilt. -/
def prepareReload (env : Surroundings F) (app : App F) : Except Exc (Prepared F) := do
  let settings ← env.fromEnv
  env.access .overrides
  let overrides ← getOverrides app.db.overrides
  let settings ← applyOverrides settings overrides
  env.access .secretVaultConfig
  env.access .managedSecrets
  let (secrets, status) ← loadManagedSecrets app.db.managedSecrets app.secretStore
    app.db.secretVaultConfig
  env.access .runtimeLogger
  return { settings := settings.applyManagedSecrets secrets
           secretVaultConfig := app.db.secretVaultConfig
           secretStore := app.secretStore, secretStatus := status }

theorem decodeRow_ok_iff {row : OverrideRow} {entry : String × PyValue F} :
    decodeRow row = .ok entry ↔
      row.key = entry.1 ∧ decodeOverride row.value = .ok entry.2 := by
  unfold decodeRow
  cases decodeOverride (F := F) row.value with
  | error exc => simp [Except.map]
  | ok value => simp [Except.map, Prod.ext_iff]

theorem keys_getOverrides {table : OverridesTable} {overrides : List (String × PyValue F)}
    (h : getOverrides table = .ok overrides) : (overrides.map Prod.fst).Nodup := by
  rw [map_of_mapM_ok (fun row entry hrow => (decodeRow_ok_iff.mp hrow).1.symm) h]
  exact table.keys_nodup

/-- Every prepared setting has the coerced value of the last stored override that names
it. -/
theorem readSetting_prepareReload {env : Surroundings F} {app : App F} {new : Prepared F}
    (h : prepareReload env app = .ok new) :
    ∃ start overrides, getOverrides app.db.overrides = .ok overrides ∧
      ∀ setting, readSetting new.settings setting =
        match lastNaming overrides setting with
        | some raw => (setting.coerce raw).toOption
        | none => readSetting start setting := by
  unfold prepareReload at h
  obtain ⟨start, -, h⟩ := bind_ok_iff.mp h
  obtain ⟨-, -, h⟩ := bind_ok_iff.mp h
  obtain ⟨overrides, hoverrides, h⟩ := bind_ok_iff.mp h
  obtain ⟨settings, happly, h⟩ := bind_ok_iff.mp h
  obtain ⟨-, -, h⟩ := bind_ok_iff.mp h
  obtain ⟨-, -, h⟩ := bind_ok_iff.mp h
  obtain ⟨⟨secrets, status⟩, -, h⟩ := bind_ok_iff.mp h
  obtain ⟨-, -, h⟩ := bind_ok_iff.mp h
  have hnew := Except.ok.inj h
  refine ⟨start, overrides, hoverrides, fun setting => ?_⟩
  rw [← hnew, readSetting_applyManagedSecrets]
  exact readSetting_applyOverrides (keys_getOverrides hoverrides) happly setting

end Reading

/-! ## Writing -/

section Writing

variable {F : Type} [FloatArith F]

/-- `_configure_database_logging`. -/
def configureDatabaseLogging (settings : Settings F) : RequestLogPolicy where
  enabled := settings.loggingRequestLogEnabled
  queueSize := max settings.loggingLogQueueSize 1
  queueSize_pos := Int.le_max_right _ _

/-- The providers whose models `apply_provider_runtime_state` deactivates. -/
def disabledProviderIds (settings : Settings F) (registry : ProviderRegistry)
    (models : ModelsTable F) : List String :=
  let runtimeEnabled := registry.providers.map fun entry =>
    (entry.2.name, entry.2.inferenceEnabled)
  let active := (models.rows.filter fun row => row.isActive == some 1).map ModelRow.providerId
  let providerIds := runtimeEnabled.map Prod.fst ++
    active.filter (fun providerId => stripped providerId != "") ++
    settings.knownProviderIds.filter settings.isProviderInferenceEnabled
  (providerIds.dedup.insertionSort (· ≤ ·)).filter fun providerId =>
    !(dictGet runtimeEnabled providerId).getD false

/-- `apply_provider_runtime_state`. -/
def applyProviderRuntimeState (env : Surroundings F) (read : Access) (settings : Settings F) :
    EStateM Exc (App F) Unit := do
  call (env.access read)
  modify fun app =>
    let disabled := disabledProviderIds settings app.registry app.db.models
    { app with
      db := { app.db with models := app.db.models.execAll (disabled.map .deactivateProvider) } }

/-- The interval of a job in the settings. -/
def Job.interval (job : Job) (settings : Settings F) : Int :=
  match job with
  | .discovery => settings.int .discoveryIntervalMinutes
  | .ranking => settings.int .rankingIntervalMinutes
  | .health => settings.int .healthProbeIntervalMinutes

/-- `if scheduler.get_job(job) is not None: scheduler.reschedule_job(job, …)`. -/
def rescheduleJob (env : Surroundings F) (settings : Settings F) (job : Job) :
    EStateM Exc (App F) Unit := do
  let app ← get
  match app.jobs job with
  | none => pure ()
  | some _ =>
      call (env.intervalTrigger (job.interval settings))
      modify fun app =>
        { app with jobs := Function.update app.jobs job (some (job.interval settings)) }

/-- `SELECT COUNT(*) FROM models WHERE is_healthy=1 AND is_active=1`. -/
def routableCount (models : ModelsTable F) : Nat :=
  models.rows.countP fun row => row.isHealthy == some 1 && row.isActive == some 1

/-- `recompute_readiness`. -/
def recomputeReadiness (env : Surroundings F) : EStateM Exc (App F) Unit := do
  let app ← get
  applyProviderRuntimeState env .readinessProviders app.settings
  call (env.access .routableModels)
  modify fun app => { app with ready := decide (0 < routableCount app.db.models) }

/-- The assignments of `reload_settings` that cannot raise. -/
def App.assign (new : Prepared F) (app : App F) : App F :=
  { app with
    requestLogPolicy := configureDatabaseLogging new.settings
    settings := new.settings
    secretVaultConfig := new.secretVaultConfig
    secretStore := new.secretStore
    secretManagementStatus := new.secretStatus }

/-- The statements of `reload_settings` that act on the new settings. -/
def followUp (env : Surroundings F) (settings : Settings F) : EStateM Exc (App F) Unit := do
  call (env.access .gatewayAuthConfig)
  modify fun app =>
    { app with gatewayAuth := resolveGatewayAuthState settings app.db.gatewayAuthConfig }
  applyProviderRuntimeState env .activeProviders settings
  rescheduleJob env settings .discovery
  rescheduleJob env settings .ranking
  rescheduleJob env settings .health
  recomputeReadiness env

/-- `reload_settings`. -/
def reloadSettings [Runtime F] (env : Surroundings F) : EStateM Exc (App F) (Settings F) := do
  let app ← get
  let new ← call (prepareReload env app)
  within App.registry (fun registry app => { app with registry := registry })
    (configureRegistry env.host new.settings)
  modify (App.assign new)
  followUp env new.settings
  return new.settings

/-! ## What follows the assignments -/

/-- Every access that follows the assignments is answered, and the trigger of every
scheduled job accepts its new interval. -/
structure Answered (env : Surroundings F) (settings : Settings F) (scheduled : Job → Bool) :
    Prop where
  gatewayAuthConfig : env.access .gatewayAuthConfig = .ok ()
  activeProviders : env.access .activeProviders = .ok ()
  triggers : ∀ job, scheduled job = true → env.intervalTrigger (job.interval settings) = .ok ()
  readinessProviders : env.access .readinessProviders = .ok ()
  routableModels : env.access .routableModels = .ok ()

/-- The jobs the scheduler has. -/
def App.scheduled (app : App F) (job : Job) : Bool :=
  (app.jobs job).isSome

theorem exists_ok_unit_iff {result : Except Exc Unit} :
    (∃ a, result = .ok a) ↔ result = .ok () := by
  constructor
  · rintro ⟨⟨⟩, h⟩
    exact h
  · intro h
    exact ⟨(), h⟩

/-- `apply_provider_runtime_state` changes the models alone. -/
theorem decidedBy_applyProviderRuntimeState {β : Type} (view : App F → β)
    (env : Surroundings F) (read : Access) (settings : Settings F)
    (h : ∀ (app : App F) models, view { app with db := { app.db with models := models } } =
      view app) :
    DecidedBy view (fun _ => (∃ a, env.access read = .ok a) ∧ True)
      (applyProviderRuntimeState env read settings) :=
  decidedBy_bind (decidedBy_call _ _) fun _ => decidedBy_modify fun app => h app _

omit [FloatArith F] in
theorem run_rescheduleJob (env : Surroundings F) (settings : Settings F) (job : Job)
    (app : App F) :
    (rescheduleJob env settings job).run app =
      match app.jobs job, env.intervalTrigger (job.interval settings) with
      | none, _ => .ok () app
      | some _, .error exc => .error exc app
      | some _, .ok () =>
          .ok () { app with
            jobs := Function.update app.jobs job (some (job.interval settings)) } := by
  have hget : (get : EStateM Exc (App F) (App F)).run app = .ok app app := rfl
  unfold rescheduleJob
  rw [run_bind_of_ok hget]
  cases app.jobs job with
  | none => rfl
  | some minutes => cases env.intervalTrigger (job.interval settings) <;> rfl

omit [FloatArith F] in
/-- Rescheduling changes the interval of a scheduled job alone. -/
theorem keeps_rescheduleJob {β : Type} {view : App F → β} (env : Surroundings F)
    (settings : Settings F) (job : Job)
    (h : ∀ (app : App F) minutes, (app.jobs job).isSome = true →
      view { app with jobs := Function.update app.jobs job (some minutes) } = view app) :
    Keeps view (rescheduleJob env settings job) := by
  intro app
  unfold finalState
  rw [run_rescheduleJob]
  cases hjob : app.jobs job with
  | none => rfl
  | some minutes =>
      cases env.intervalTrigger (job.interval settings) with
      | error exc => rfl
      | ok _ => exact h app _ (by rw [hjob]; rfl)

omit [FloatArith F] in
theorem decidedBy_rescheduleJob (env : Surroundings F) (settings : Settings F) (job : Job) :
    DecidedBy App.scheduled
      (fun scheduled => scheduled job = true →
        env.intervalTrigger (job.interval settings) = .ok ())
      (rescheduleJob env settings job) := by
  constructor
  · intro app
    unfold Returns App.scheduled
    rw [run_rescheduleJob]
    cases app.jobs job with
    | none => simp
    | some minutes => cases env.intervalTrigger (job.interval settings) <;> simp
  · apply keeps_rescheduleJob
    intro app minutes hjob
    funext other
    unfold App.scheduled
    dsimp only
    by_cases hother : other = job
    · subst hother
      rw [Function.update_self, hjob]
      rfl
    · rw [Function.update_of_ne hother]

/-- `recompute_readiness` changes the models and the readiness alone. -/
theorem decidedBy_recomputeReadiness {β : Type} (view : App F → β) (env : Surroundings F)
    (hmodels : ∀ (app : App F) models,
      view { app with db := { app.db with models := models } } = view app)
    (hready : ∀ (app : App F) ready, view { app with ready := ready } = view app) :
    DecidedBy view
      (fun _ => True ∧ ((∃ a, env.access .readinessProviders = .ok a) ∧ True) ∧
        (∃ a, env.access .routableModels = .ok a) ∧ True)
      (recomputeReadiness env) := by
  refine decidedBy_bind (decidedBy_get _) fun app => ?_
  refine decidedBy_bind (decidedBy_applyProviderRuntimeState view _ _ _ hmodels) fun _ => ?_
  exact decidedBy_bind (decidedBy_call _ _) fun _ => decidedBy_modify fun app => hready app _

/-- What follows the assignments keeps a view that reads neither the gateway
authentication, the models, the intervals nor the readiness. -/
theorem keeps_followUp {β : Type} {view : App F → β} {env : Surroundings F}
    {settings : Settings F}
    (hauth : ∀ (app : App F) auth, view { app with gatewayAuth := auth } = view app)
    (hmodels : ∀ (app : App F) models,
      view { app with db := { app.db with models := models } } = view app)
    (hjobs : ∀ (app : App F) jobs, view { app with jobs := jobs } = view app)
    (hready : ∀ (app : App F) ready, view { app with ready := ready } = view app) :
    Keeps view (followUp env settings) := by
  have hjob : ∀ job, Keeps view (rescheduleJob env settings job) := fun job =>
    keeps_rescheduleJob env settings job fun app _ _ => hjobs app _
  have hruntime := decidedBy_applyProviderRuntimeState view env .activeProviders settings hmodels
  have hreadiness := decidedBy_recomputeReadiness view env hmodels hready
  refine keeps_bind (keeps_call _ _) fun _ => ?_
  refine keeps_bind (keeps_modify fun app => hauth app _) fun _ => ?_
  refine keeps_bind hruntime.keeps fun _ => ?_
  exact keeps_bind (hjob _) fun _ => keeps_bind (hjob _) fun _ => keeps_bind (hjob _)
    fun _ => hreadiness.keeps

theorem returns_followUp_iff (env : Surroundings F) (settings : Settings F) (app : App F) :
    Returns (followUp env settings) app ↔ Answered env settings app.scheduled := by
  have hjob := decidedBy_rescheduleJob env settings
  have hruntime := decidedBy_applyProviderRuntimeState App.scheduled env
    .activeProviders settings fun _ _ => rfl
  have hreadiness := decidedBy_recomputeReadiness App.scheduled env
    (fun _ _ => rfl) fun _ _ => rfl
  have hparts := decidedBy_bind (decidedBy_call App.scheduled (env.access .gatewayAuthConfig))
    fun _ => decidedBy_bind (decidedBy_modify (f := fun app : App F => { app with
      gatewayAuth := resolveGatewayAuthState settings app.db.gatewayAuthConfig }) fun _ => rfl)
    fun _ => decidedBy_bind hruntime fun _ => decidedBy_bind (hjob .discovery)
    fun _ => decidedBy_bind (hjob .ranking) fun _ => decidedBy_bind (hjob .health)
    fun _ => hreadiness
  refine (hparts.returns_iff app).trans ?_
  simp only [exists_ok_unit_iff, true_and, and_true]
  constructor
  · rintro ⟨hauth, hactive, hdiscovery, hranking, hhealth, hreadiness, hroutable⟩
    refine ⟨hauth, hactive, fun job hjob => ?_, hreadiness, hroutable⟩
    cases job with
    | discovery => exact hdiscovery hjob
    | ranking => exact hranking hjob
    | health => exact hhealth hjob
  · intro h
    exact ⟨h.gatewayAuthConfig, h.activeProviders, h.triggers .discovery, h.triggers .ranking,
      h.triggers .health, h.readinessProviders, h.routableModels⟩

/-! ## The outcomes of a reload -/

section Outcomes

variable [Runtime F]

/-- The state of the registry after its rebuild. -/
def rebuilt (env : Surroundings F) (settings : Settings F) (app : App F) : ProviderRegistry :=
  finalState (configureRegistry env.host settings) app.registry

/-- The state of the application when the new settings are acted on. -/
def assigned (env : Surroundings F) (new : Prepared F) (app : App F) : App F :=
  App.assign new { app with registry := rebuilt env new.settings app }

/-- The settings cannot be prepared: nothing is written. -/
theorem run_reloadSettings_of_error {env : Surroundings F} {app : App F} {exc : Exc}
    (h : prepareReload env app = .error exc) :
    (reloadSettings env).run app = .error exc app := by
  have hget : (get : EStateM Exc (App F) (App F)).run app = .ok app app := rfl
  unfold reloadSettings
  rw [run_bind_of_ok hget, h]
  rfl

/-- The registry cannot be rebuilt: it is left as the exception found it. -/
theorem run_reloadSettings_of_unbuildable {env : Surroundings F} {app : App F}
    {new : Prepared F} (h : prepareReload env app = .ok new)
    (hbuild : ¬ Buildable env.host new.settings) :
    ∃ exc, (reloadSettings env).run app =
      .error exc { app with registry := rebuilt env new.settings app } := by
  have hget : (get : EStateM Exc (App F) (App F)).run app = .ok app app := rfl
  rw [← (configureRegistry_spec env.host new.settings app.registry).1] at hbuild
  unfold reloadSettings rebuilt
  cases hconfigure : (configureRegistry env.host new.settings).run app.registry with
  | ok result registry => exact absurd ⟨result, registry, hconfigure⟩ hbuild
  | error exc registry =>
      have hwithin := run_within_of_error
        (fun registry (app : App F) => { app with registry := registry }) hconfigure
      refine ⟨exc, ?_⟩
      rw [run_bind_of_ok hget, h, run_bind_of_ok (run_call_ok new app),
        run_bind_of_error hwithin, finalState_of_error hconfigure]

/-- The registry is rebuilt: the values are assigned, and the rest follows. -/
theorem run_reloadSettings_of_buildable {env : Surroundings F} {app : App F}
    {new : Prepared F} (h : prepareReload env app = .ok new)
    (hbuild : Buildable env.host new.settings) :
    (reloadSettings env).run app =
      (followUp env new.settings >>= fun _ => pure new.settings).run (assigned env new app) := by
  have hget : (get : EStateM Exc (App F) (App F)).run app = .ok app app := rfl
  rw [← (configureRegistry_spec env.host new.settings app.registry).1] at hbuild
  obtain ⟨result, registry, hconfigure⟩ := hbuild
  have hwithin := run_within_of_ok
    (fun registry (app : App F) => { app with registry := registry }) hconfigure
  unfold reloadSettings assigned rebuilt
  rw [run_bind_of_ok hget, h, run_bind_of_ok (run_call_ok new app), run_bind_of_ok hwithin,
    finalState_of_ok hconfigure]
  rfl

omit [Runtime F] in
/-- Returning the settings adds nothing to what follows the assignments. -/
theorem followUp_pure (env : Surroundings F) (settings : Settings F) (app : App F) :
    (Returns (followUp env settings >>= fun _ => pure settings) app ↔
        Answered env settings app.scheduled) ∧
      finalState (followUp env settings >>= fun _ => pure settings) app =
        finalState (followUp env settings) app := by
  rw [← returns_followUp_iff]
  cases h : (followUp env settings).run app with
  | ok result app' =>
      rw [returns_bind_of_ok h, finalState_bind_of_ok h, finalState_of_ok h]
      exact ⟨iff_of_true ⟨settings, app', rfl⟩ ⟨result, app', h⟩, rfl⟩
  | error exc app' =>
      have hboth := run_bind_of_error h fun _ => (pure settings : EStateM Exc (App F) _)
      rw [finalState_of_error h, finalState_of_error hboth]
      exact ⟨iff_of_false (not_returns_of_error hboth) (not_returns_of_error h), rfl⟩

/-- A reload returns exactly when the settings can be prepared, the registry can be rebuilt
and what follows is answered. -/
theorem reloadSettings_returns_iff (env : Surroundings F) (app : App F) :
    Returns (reloadSettings env) app ↔
      ∃ new, prepareReload env app = .ok new ∧ Buildable env.host new.settings ∧
        Answered env new.settings app.scheduled := by
  cases hprepare : prepareReload env app with
  | error exc =>
      refine iff_of_false (not_returns_of_error (run_reloadSettings_of_error hprepare)) ?_
      rintro ⟨new, h, -⟩
      cases h
  | ok new =>
      by_cases hbuild : Buildable env.host new.settings
      · have hrun := run_reloadSettings_of_buildable hprepare hbuild
        have hrest := (followUp_pure env new.settings (assigned env new app)).1
        unfold Returns at hrest ⊢
        rw [hrun, hrest]
        constructor
        · intro h
          exact ⟨new, rfl, hbuild, h⟩
        · rintro ⟨other, hother, -, h⟩
          cases hother
          exact h
      · obtain ⟨exc, hrun⟩ := run_reloadSettings_of_unbuildable hprepare hbuild
        refine iff_of_false (not_returns_of_error hrun) ?_
        rintro ⟨other, hother, h, -⟩
        cases hother
        exact hbuild h

/-- Where the registry is rebuilt, a view that the follow-up keeps shows the assigned
state. -/
theorem view_reloadSettings_of_buildable {β : Type} (view : App F → β) {env : Surroundings F}
    {app : App F} {new : Prepared F} (h : prepareReload env app = .ok new)
    (hbuild : Buildable env.host new.settings)
    (hkeeps : Keeps view (followUp env new.settings)) :
    view (finalState (reloadSettings env) app) = view (assigned env new app) := by
  have hfinal : finalState (reloadSettings env) app =
      finalState (followUp env new.settings) (assigned env new app) := by
    rw [← (followUp_pure env new.settings (assigned env new app)).2]
    unfold finalState
    rw [run_reloadSettings_of_buildable h hbuild]
  rw [hfinal]
  exact hkeeps _

/-- A reload never writes the stored overrides. -/
theorem keeps_overrides_reloadSettings (env : Surroundings F) :
    Keeps (fun app => app.db.overrides) (reloadSettings env) := by
  intro app
  cases hprepare : prepareReload env app with
  | error exc => rw [finalState_of_error (run_reloadSettings_of_error hprepare)]
  | ok new =>
      by_cases hbuild : Buildable env.host new.settings
      · exact view_reloadSettings_of_buildable (fun app => app.db.overrides) hprepare
          hbuild (keeps_followUp (fun _ _ => rfl) (fun _ _ => rfl) (fun _ _ => rfl)
            fun _ _ => rfl)
      · obtain ⟨exc, hrun⟩ := run_reloadSettings_of_unbuildable hprepare hbuild
        rw [finalState_of_error hrun]

/-- A reload assigns the prepared settings once the registry is rebuilt. -/
theorem settings_reloadSettings_of_buildable {env : Surroundings F} {app : App F}
    {new : Prepared F} (h : prepareReload env app = .ok new)
    (hbuild : Buildable env.host new.settings) :
    (finalState (reloadSettings env) app).settings = new.settings :=
  view_reloadSettings_of_buildable App.settings h hbuild
    (keeps_followUp (fun _ _ => rfl) (fun _ _ => rfl) (fun _ _ => rfl) fun _ _ => rfl)

/-- Before that, the settings stay. -/
theorem settings_reloadSettings_of_not {env : Surroundings F} {app : App F}
    (h : ∀ new, prepareReload env app = .ok new → ¬ Buildable env.host new.settings) :
    (finalState (reloadSettings env) app).settings = app.settings := by
  cases hprepare : prepareReload env app with
  | error exc => rw [finalState_of_error (run_reloadSettings_of_error hprepare)]
  | ok new =>
      obtain ⟨exc, hrun⟩ := run_reloadSettings_of_unbuildable hprepare (h new hprepare)
      rw [finalState_of_error hrun]

/-- The settings stay when they are not assigned, or when they are assigned again. -/
theorem settings_reloadSettings_eq_iff (env : Surroundings F) (app : App F) :
    (finalState (reloadSettings env) app).settings = app.settings ↔
      ∀ new, prepareReload env app = .ok new → Buildable env.host new.settings →
        new.settings = app.settings := by
  by_cases hassigned : ∃ new, prepareReload env app = .ok new ∧ Buildable env.host new.settings
  · obtain ⟨new, hprepare, hbuild⟩ := hassigned
    rw [settings_reloadSettings_of_buildable hprepare hbuild]
    constructor
    · intro h other hother _
      rw [hprepare] at hother
      cases hother
      exact h
    · intro h
      exact h new hprepare hbuild
  · rw [settings_reloadSettings_of_not fun new hprepare hbuild =>
      hassigned ⟨new, hprepare, hbuild⟩]
    exact iff_of_true rfl fun new hprepare hbuild => absurd ⟨new, hprepare, hbuild⟩ hassigned

/-! ## Atomicity -/

/-- What requests are served from: the registered providers with their adapter objects and
flags, the settings, the gateway authentication, the secret status and the policy for
request logs. -/
structure LiveState (F : Type) where
  providers : List (String × RegisteredProvider)
  settings : Settings F
  gatewayAuth : GatewayAuth
  secretManagementStatus : SecretStatus
  requestLogPolicy : RequestLogPolicy

/-- The live state of an application. -/
def App.live (app : App F) : LiveState F where
  providers := app.registry.providers
  settings := app.settings
  gatewayAuth := app.gatewayAuth
  secretManagementStatus := app.secretManagementStatus
  requestLogPolicy := app.requestLogPolicy

omit [FloatArith F] in
theorem not_buildable_of_stopsAtOnce {host : Host} {settings : Settings F}
    (h : StopsAtOnce host settings) : ¬ Buildable host settings := by
  rintro ⟨descriptors, hiter, hall⟩
  rcases h with ⟨exc, herror⟩ | ⟨first, rest, exc, hother, herror⟩
  · rw [hiter] at herror
    cases herror
  · rw [hiter] at hother
    cases hother
    obtain ⟨adapter, hok⟩ := hall first List.mem_cons_self
    rw [herror] at hok
    cases hok

/-- A reload leaves the live state alone when it raises exactly when it raises before the
registry is touched, stops at once on an empty registry, or cannot raise afterwards. -/
theorem reloadSettings_atomic_iff (env : Surroundings F) (app : App F) :
    AtomicAt App.live (reloadSettings env) app ↔
      ∀ new, prepareReload env app = .ok new →
        (app.registry.providers = [] ∧ StopsAtOnce env.host new.settings) ∨
          (Buildable env.host new.settings ∧ Answered env new.settings app.scheduled) := by
  cases hprepare : prepareReload env app with
  | error exc =>
      rw [atomicAt_of_error (run_reloadSettings_of_error hprepare)]
      refine iff_of_true rfl fun new h => ?_
      cases h
  | ok new =>
      have hproviders := providers_configureRegistry_eq_iff env.host new.settings app.registry
      have honly : (∀ other : Prepared F, (.ok new : Except Exc (Prepared F)) = .ok other →
          (app.registry.providers = [] ∧ StopsAtOnce env.host other.settings) ∨
            (Buildable env.host other.settings ∧ Answered env other.settings app.scheduled)) ↔
          (app.registry.providers = [] ∧ StopsAtOnce env.host new.settings) ∨
            (Buildable env.host new.settings ∧ Answered env new.settings app.scheduled) := by
        constructor
        · intro h
          exact h new rfl
        · rintro h other hother
          cases hother
          exact h
      rw [honly]
      by_cases hbuild : Buildable env.host new.settings
      · -- the rebuilt registry has new adapters, so only a return is atomic
        have hstop : ¬ (app.registry.providers = [] ∧ StopsAtOnce env.host new.settings) :=
          fun h => not_buildable_of_stopsAtOnce h.2 hbuild
        have hspoiled : (finalState (reloadSettings env) app).live ≠ app.live := by
          intro h
          have hregistry := view_reloadSettings_of_buildable App.registry hprepare
            hbuild (keeps_followUp (fun _ _ => rfl) (fun _ _ => rfl) (fun _ _ => rfl)
              fun _ _ => rfl)
          have hsame := congrArg LiveState.providers h
          change (finalState (reloadSettings env) app).registry.providers =
            app.registry.providers at hsame
          rw [hregistry] at hsame
          exact hstop (hproviders.mp hsame)
        rw [atomicAt_iff_returns_of_spoiled hspoiled, reloadSettings_returns_iff, hprepare,
          or_iff_right hstop]
        constructor
        · rintro ⟨other, hother, h⟩
          cases hother
          exact h
        · intro h
          exact ⟨new, rfl, h⟩
      · obtain ⟨exc, hrun⟩ := run_reloadSettings_of_unbuildable hprepare hbuild
        rw [atomicAt_of_error hrun, or_iff_left fun h => hbuild h.1, ← hproviders]
        constructor
        · intro h
          exact congrArg LiveState.providers h
        · intro h
          unfold App.live rebuilt
          rw [h]

end Outcomes

end Writing

/-! ## A configuration that a reload refuses -/

/-- The defaults of the integer settings. -/
def defaultInt : IntSetting → Int
  | .discoveryIntervalMinutes => 30
  | .rankingIntervalMinutes => 15
  | .routingMaxAttempts => 3
  | .healthProbeIntervalMinutes => 180
  | .healthProbeTimeoutSeconds => 15
  | .healthProbeConcurrency => 1
  | .healthStartupProbeLimit => 2
  | .healthMaxProbesPerRun => 1
  | .healthStaleAfterMinutes => 360
  | .healthTopNStaleProbe => 3
  | .healthConsecutiveFailuresThreshold => 3
  | .healthCooldownMinutes => 30
  | .healthMaxBackoffExponent => 4
  | .healthProbeMaxTokens => 1
  | .loggingRequestLogRetentionDays => 30

/-- What `from_env` makes of a configuration file with a section for `openrouter` alone. -/
def settingsWithOpenrouter (config : Section Exact) : Settings Exact where
  int := defaultInt
  bool _ := true
  str
    | .rankingFallbackModel => "openrouter/openrouter/free"
    | .loggingRuntimeVerbosity => "concise"
  rankingWeights := rankingWeightNames.zip
    [.finite 0.3, .finite 0.15, .finite 0.2, .finite 0.2, .finite 0.1, .finite 0.05]
  healthDailyRequestBudgetByProvider := [("openrouter", 5)]
  providerActiveProbeEnabled := [("openrouter", true)]
  openrouterActiveProbeEnabled := true
  openrouterApiKey := "key"
  gatewayApiKey := ""
  appEnv := "dev"
  providersEnabled := ["openrouter"]
  providerEnabled := [("openrouter", true)]
  providerDiscoveryEnabled := [("openrouter", true)]
  providerInferenceEnabled := [("openrouter", true)]
  providerBootstrapConfig := [("openrouter", config)]
  openrouterApiBase := "https://openrouter.ai/api/v1"
  openrouterDevStubEnabled := false
  loggingRequestLogEnabled := true
  loggingLogQueueSize := 5000

/-- `urlsplit` on a URL that has a scheme, a host and a path. -/
def plainUrlsplit (url : String) : Option SplitResult :=
  let (scheme, rest) := splitAtFirst (· == ':') url.toList
  let hostname := (rest.getD []).drop 2 |>.takeWhile (· != '/')
  some { scheme := String.ofList scheme, hostname := some (String.ofList hostname)
         port := none, username := none, password := none, query := "", fragment := "" }

/-- A process without environment variables and without further modules. -/
def plainHost : Host where
  urlsplit := plainUrlsplit
  isIpAddress _ := false
  lower text := String.ofList (lowerAscii text.toList)
  getenv _ := none
  importModule name := .error (.moduleNotFound ("src.providers." ++ name))

/-- Surroundings that answer everything. -/
def answering (config : Section Exact) : Surroundings Exact where
  fromEnv := .ok (settingsWithOpenrouter config)
  host := plainHost
  access _ := .ok ()
  intervalTrigger _ := .ok ()

/-- An application that serves `openrouter` with the default configuration. -/
def servingOpenrouter (overrides : OverridesTable) : App Exact where
  db :=
    { overrides := overrides, secretVaultConfig := none, gatewayAuthConfig := none
      managedSecrets := [], models := { rows := [], ids_nodup := List.nodup_nil } }
  registry := ProviderRegistry.empty.insert "openrouter"
    { name := "openrouter", apiKey := "key", apiBase := "https://openrouter.ai/api/v1" }
    true true
  requestLogPolicy := configureDatabaseLogging (settingsWithOpenrouter [])
  settings := settingsWithOpenrouter []
  secretVaultConfig := none
  secretStore := none
  secretManagementStatus :=
    { configured := false, unlocked := false, storedSecretCount := 0, loadedSecretCount := 0
      decryptFailures := [] }
  gatewayAuth := resolveGatewayAuthState (settingsWithOpenrouter []) none
  jobs := fun job => some (job.interval (settingsWithOpenrouter []))
  ready := false

/-- A reload that raised and left no provider registered. -/
def raisedWithoutProviders (result : EStateM.Result Exc (App Exact) (Settings Exact)) : Bool :=
  match result with
  | .ok _ _ => false
  | .error _ app => app.registry.providers.isEmpty

/-- The file now names an API base without HTTPS: the reload raises and the application
serves no provider any more. -/
theorem reloadSettings_not_atomic :
    ¬ AtomicAt App.live
      (reloadSettings (answering [("api_base", .str "http://openrouter.ai/api/v1")]))
      (servingOpenrouter ⟨[], List.nodup_nil⟩) := by
  have htest : raisedWithoutProviders
      ((reloadSettings (answering [("api_base", .str "http://openrouter.ai/api/v1")])).run
        (servingOpenrouter ⟨[], List.nodup_nil⟩)) = true := by
    decide +kernel
  cases hrun : (reloadSettings
      (answering [("api_base", .str "http://openrouter.ai/api/v1")])).run
      (servingOpenrouter ⟨[], List.nodup_nil⟩) with
  | ok settings app =>
      rw [hrun] at htest
      cases htest
  | error exc app =>
      rw [hrun] at htest
      rw [atomicAt_of_error hrun]
      intro hlive
      have hproviders := congrArg LiveState.providers hlive
      have hempty : app.registry.providers = [] := List.isEmpty_iff.mp htest
      change app.registry.providers = _ at hproviders
      rw [hempty] at hproviders
      exact dictSet_ne_nil _ _ _ hproviders.symm

end Runtime
end FreeLunch
