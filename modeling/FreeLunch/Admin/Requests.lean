import FreeLunch.Admin.Vault
import FreeLunch.Runtime.AdminConfig

/-!
# Requests of the admin interface

The calls of `src/proxy.py` that change the configuration, the gateway key, the vault and its
secrets, each behind `_check_gateway_auth`; the reload that `config_refresh_job` makes on its
own; and `lifespan` of `src/main.py`, which starts the application on the database that the
last process left.

Main results:

- Theorem `step_request_of_refused`: a request that the gate refuses changes nothing but the
  throttle of the gate.

Current gaps:

- A request runs as a whole, and so does a reload of the job.
- The throttles exist from the start on; the source creates them at their first use.
- Discovery at the start is a parameter: it leaves any models.
-/

namespace FreeLunch
namespace Admin

open FreeLunch.Runtime FreeLunch.Gateway Python Store Tables Transactions Writes

/-! ## State -/

/-- The application, the key inside its secret store, and the throttles for bearer tokens and
for vault passwords. -/
structure AdminState (F T : Type) where
  app : App F
  fernetKey : Option (List UInt8)
  gatewayThrottle : AuthState T
  vaultThrottle : AuthState T

/-- What a call meets outside the application. -/
structure Outside (F Draw : Type) extends Surroundings F where
  /-- The writer executes the statement; one that fails is dropped. -/
  executes : Bool
  /-- `list_managed_secrets`. -/
  listing : Except Exc Unit
  /-- `openrouter_api_key=os.getenv("OPENROUTER_API_KEY", "")` in `from_env`. -/
  readsEnv : ∀ settings, fromEnv = .ok settings →
    settings.openrouterApiKey = (host.getenv "OPENROUTER_API_KEY").getD ""
  /-- `os.urandom(16)`. -/
  salt : List UInt8
  draw : Draw
  /-- `utc_now_iso()`. -/
  now : String

/-- The surroundings of the calls on secrets, with the store of the application. -/
def Outside.secrets {F Draw : Type} (env : Outside F Draw) (fernet : Fernet Draw)
    (key : List UInt8) : SecretSurroundings F where
  toSurroundings := env.toSurroundings
  vault := fernet.secretVault key env.draw
  executes := env.executes
  listing := env.listing
  readsEnv := env.readsEnv

/-- What the start of a process meets. -/
structure Start (F T : Type) extends Surroundings F where
  /-- What the discovery pipeline leaves of the models. -/
  pipeline : ModelsTable F → ModelsTable F
  gatewayThrottle : FailureThrottle T
  vaultThrottle : FailureThrottle T

/-- The answer of the calls on the vault. -/
structure VaultResponse where
  status : String
  secretManagement : SecretStatus
  secrets : List SecretSlot

/-- An error of the calls on the configuration, as the gate would raise it. -/
def adminErrorToAuth : AdminError → AuthError
  | .http status detail => .httpException status detail none
  | .raised exc => .raised exc

/-- The calls behind the gate. -/
inductive AdminAction (F T Draw : Type) where
  /-- The calls that only read. -/
  | read
  | setConfig (env : AdminSurroundings F) (key : String) (payload : List (String × PyValue F))
  | deleteConfig (env : AdminSurroundings F) (key : String)
  | setGatewayAuth (env : Outside F Draw) (payload : List (String × PyValue F))
  | disableGatewayAuth (env : Outside F Draw)
  | inheritGatewayAuth (env : Outside F Draw)
  | setupVault (env : Outside F Draw) (payload : List (String × PyValue F))
  | unlockVault (env : Outside F Draw) (attempt : AuthRequest T)
      (payload : List (String × PyValue F))
  | lockVault (env : Outside F Draw)
  | setSecret (env : Outside F Draw) (secretKey : String) (payload : List (String × PyValue F))
  | deleteSecret (env : Outside F Draw) (secretKey : String)

/-- What happens to the application. -/
inductive AdminEvent (F T Draw : Type) where
  | request (auth : AuthRequest T) (action : AdminAction F T Draw)
  /-- `config_refresh_job`. -/
  | refresh (env : Surroundings F)
  /-- The process ends, and the next one starts on its database. -/
  | restart (env : Start F T)

section Requests

variable {F T Draw : Type} [Runtime F] [FloatArith F] [ClockArith T]

/-! ## The calls -/

/-- A computation on the application. -/
def onApp {ε α : Type} (toAuth : ε → AuthError) (x : EStateM ε (App F) α) :
    EStateM AuthError (AdminState F T) α :=
  within AdminState.app (fun app state => { state with app := app }) (x.adaptExcept toAuth)

omit [Runtime F] [FloatArith F] [ClockArith T] in
/-- A computation on the application ends in its final state. -/
theorem finalState_onApp {ε α : Type} (toAuth : ε → AuthError) (x : EStateM ε (App F) α)
    (state : AdminState F T) :
    finalState (onApp toAuth x) state = { state with app := finalState x state.app } := by
  cases h : x.run state.app with
  | ok a app =>
      rw [finalState_of_ok h]
      exact finalState_of_ok (run_within_of_ok _ (run_adaptExcept_of_ok h toAuth))
  | error exc app =>
      rw [finalState_of_error h]
      exact finalState_of_error (run_within_of_error _ (run_adaptExcept_of_error h toAuth))

omit [Runtime F] [FloatArith F] [ClockArith T] in
theorem run_onApp_ok_iff {ε α : Type} {toAuth : ε → AuthError} {x : EStateM ε (App F) α}
    {state after : AdminState F T} {a : α} :
    (onApp toAuth x).run state = .ok a after ↔
      x.run state.app = .ok a after.app ∧ after = { state with app := after.app } := by
  cases h : x.run state.app with
  | ok b app =>
      have hok : (onApp toAuth x).run state = .ok b { state with app := app } :=
        run_within_of_ok _ (run_adaptExcept_of_ok h toAuth)
      rw [hok]
      constructor
      · intro hsame
        cases hsame
        exact ⟨rfl, rfl⟩
      · rintro ⟨hsame, hafter⟩
        cases hsame
        rw [hafter]
  | error exc app =>
      have herror : (onApp toAuth x).run state = .error (toAuth exc) { state with app := app } :=
        run_within_of_error _ (run_adaptExcept_of_error h toAuth)
      rw [herror]
      refine iff_of_false (fun hsame => ?_) fun hsame => ?_
      · cases hsame
      · cases hsame.1

/-- `request.app.state.reload_settings()`. -/
def reload (env : Surroundings F) : EStateM AuthError (AdminState F T) (Settings F) :=
  onApp .raised (reloadSettings env)

/-- A computation on the throttle for vault passwords. -/
def onVaultThrottle {α : Type} (x : EStateM AuthError (AuthState T) α) :
    EStateM AuthError (AdminState F T) α :=
  within AdminState.vaultThrottle (fun throttle state => { state with vaultThrottle := throttle }) x

omit [Runtime F] [FloatArith F] [ClockArith T] in
/-- A computation on the throttle for passwords ends in its final state. -/
theorem finalState_onVaultThrottle {α : Type} (x : EStateM AuthError (AuthState T) α)
    (state : AdminState F T) :
    finalState (onVaultThrottle x) state =
      { state with vaultThrottle := finalState x state.vaultThrottle } := by
  cases h : x.run state.vaultThrottle with
  | ok a throttle =>
      rw [finalState_of_ok h]
      exact finalState_of_ok (run_within_of_ok _ h)
  | error exc throttle =>
      rw [finalState_of_error h]
      exact finalState_of_error (run_within_of_error _ h)

/-- `request.app.state.secret_store = …`. -/
def AdminState.withStore (state : AdminState F T) (fernet : Fernet Draw)
    (key : Option (List UInt8)) : AdminState F T :=
  { state with
    app := { state.app with secretStore := key.map fernet.store }
    fernetKey := key }

/-- The database after a statement that the writer may drop. -/
def AdminState.afterStatement (state : AdminState F T) (executes : Bool)
    (statement : Database F → Database F) : AdminState F T :=
  { state with
    app := { state.app with db := if executes then statement state.app.db else state.app.db } }

/-- The end of the calls on the vault: `_list_secret_slots` queries once more. -/
def answerVault (env : Outside F Draw) (status : String) :
    EStateM AuthError (AdminState F T) VaultResponse := do
  call (env.listing.mapError .raised)
  let state ← get
  return { status := status, secretManagement := state.app.secretManagementStatus
           secrets := listSecretSlots env.host state.app.settings state.app.db.managedSecrets }

/-- The end of the calls on a secret. -/
def answerSecret (env : Outside F Draw) (status key : String) :
    EStateM AuthError (AdminState F T) SecretResponse := do
  call (env.listing.mapError .raised)
  let state ← get
  return { status := status, key := key
           secrets := listSecretSlots env.host state.app.settings state.app.db.managedSecrets }

/-- `str(payload.get("password", "")).strip()`. -/
def passwordOf (payload : List (String × PyValue F)) : String :=
  stripped ((dictGet payload "password").getD (.str "")).toStr

/-- `_parse_secret_password`. -/
def parseSecretPassword (payload : List (String × PyValue F)) : Except AuthError String :=
  if passwordOf payload = "" then
    .error (.httpException 400 "vault password cannot be empty" none)
  else .ok (passwordOf payload)

/-- `except ValueError as exc` around `create_vault_config`. -/
def refuseValueError : Exc → AuthError
  | .valueError message => .httpException 400 message none
  | exc => .raised exc

/-- `admin_setup_secret_vault`. -/
def adminSetupSecretVault (pbkdf2 : Pbkdf2) (fernet : Fernet Draw) (env : Outside F Draw)
    (payload : List (String × PyValue F)) :
    EStateM AuthError (AdminState F T) VaultResponse := do
  let state ← get
  if state.app.secretVaultConfig.isSome then
    throw (.httpException 409 "secret vault is already configured" none)
  let password ← call (parseSecretPassword payload)
  let (config, key) ← call
    ((createVaultConfig fernet pbkdf2 env.salt env.draw password).mapError refuseValueError)
  modify fun state =>
    state.afterStatement env.executes fun db => { db with secretVaultConfig := some config }
  modify fun state => state.withStore fernet (some key)
  let _ ← reload env.toSurroundings
  answerVault env "configured"

/-- `admin_unlock_secret_vault`. -/
def adminUnlockSecretVault (pbkdf2 : Pbkdf2) (fernet : Fernet Draw) (env : Outside F Draw)
    (attempt : AuthRequest T) (payload : List (String × PyValue F)) :
    EStateM AuthError (AdminState F T) VaultResponse := do
  let state ← get
  match state.app.secretVaultConfig with
  | none => throw (.httpException 409 "secret vault is not configured" none)
  | some config =>
      onVaultThrottle (checkAuthThrottle attempt)
      let password ← call (parseSecretPassword payload)
      match Admin.unlockVault fernet pbkdf2 password config with
      | .error (.password detail) =>
          onVaultThrottle (recordAuthFailure attempt)
          throw (.httpException 401 detail none)
      | .error (.raised exc) => throw (.raised exc)
      | .ok key =>
          onVaultThrottle (resetThrottle attempt)
          modify fun state => state.withStore fernet (some key)
          let _ ← reload env.toSurroundings
          answerVault env "unlocked"

/-- `admin_lock_secret_vault`. -/
def adminLockSecretVault (fernet : Fernet Draw) (env : Outside F Draw) :
    EStateM AuthError (AdminState F T) VaultResponse := do
  let state ← get
  if state.app.secretVaultConfig.isNone then
    throw (.httpException 409 "secret vault is not configured" none)
  modify fun state => state.withStore fernet none
  let _ ← reload env.toSurroundings
  answerVault env "locked"

/-- `admin_delete_secret`. -/
def adminDeleteSecret (env : Outside F Draw) (secretKey : String) :
    EStateM AuthError (AdminState F T) SecretResponse := do
  let normalizedKey := stripped secretKey
  if isManagedSecretKey normalizedKey = false then
    throw (.httpException 400 "secret key not allowed" none)
  let state ← get
  let _ ← call ((requireSecretManagementUnlocked state.app).mapError adminErrorToAuth)
  modify fun state =>
    state.afterStatement env.executes fun db =>
      { db with managedSecrets := deleteKey Prod.fst normalizedKey db.managedSecrets }
  let _ ← reload env.toSurroundings
  answerSecret env "deleted" normalizedKey

/-- The statement of `set_gateway_auth_config`, and the reload behind it. -/
def storeGatewayAuth (env : Outside F Draw) (mode : String) (config : Option GatewayAuthConfig) :
    EStateM AuthError (AdminState F T) GatewayAuth := do
  modify fun state =>
    state.afterStatement env.executes fun db =>
      { db with
        gatewayAuthConfig := some
          { mode := some mode, tokenSaltB64 := config.map GatewayAuthConfig.tokenSaltB64
            tokenHashB64 := config.map GatewayAuthConfig.tokenHashB64
            updatedAt := some env.now } }
  let _ ← reload env.toSurroundings
  let state ← get
  return state.app.gatewayAuth

/-- `admin_set_gateway_auth`. -/
def adminSetGatewayAuth (pbkdf2 : Pbkdf2) (env : Outside F Draw)
    (payload : List (String × PyValue F)) : EStateM AuthError (AdminState F T) GatewayAuth := do
  let key := stripped ((dictGet payload "key").getD (.str "")).toStr
  if key = "" then throw (.httpException 400 "gateway auth key cannot be empty" none)
  let config ← call ((createGatewayAuthConfig pbkdf2 env.salt key).mapError .raised)
  storeGatewayAuth env "enabled" (some config)

/-- `admin_disable_gateway_auth`. -/
def adminDisableGatewayAuth (env : Outside F Draw) :
    EStateM AuthError (AdminState F T) GatewayAuth :=
  storeGatewayAuth env "disabled" none

/-- `admin_inherit_gateway_auth`. -/
def adminInheritGatewayAuth (env : Outside F Draw) :
    EStateM AuthError (AdminState F T) GatewayAuth :=
  storeGatewayAuth env "inherit" none

/-! ## Handling -/

/-- The body of a call, without its answer. -/
def AdminAction.body (pbkdf2 : Pbkdf2) (fernet : Fernet Draw) :
    AdminAction F T Draw → EStateM AuthError (AdminState F T) Unit
  | .read => pure ()
  | .setConfig env key payload =>
      onApp adminErrorToAuth (AdminCall.put env key payload).handle
  | .deleteConfig env key => onApp adminErrorToAuth (AdminCall.delete env key).handle
  | .setGatewayAuth env payload => do let _ ← adminSetGatewayAuth pbkdf2 env payload
  | .disableGatewayAuth env => do let _ ← adminDisableGatewayAuth env
  | .inheritGatewayAuth env => do let _ ← adminInheritGatewayAuth env
  | .setupVault env payload => do let _ ← adminSetupSecretVault pbkdf2 fernet env payload
  | .unlockVault env attempt payload => do
      let _ ← adminUnlockSecretVault pbkdf2 fernet env attempt payload
  | .lockVault env => do let _ ← adminLockSecretVault fernet env
  | .setSecret env secretKey payload => do
      let state ← get
      -- while the vault is locked the call is refused before it encrypts
      let _ ← onApp adminErrorToAuth
        (adminSetSecret (env.secrets fernet (state.fernetKey.getD [])) secretKey payload)
  | .deleteSecret env secretKey => do let _ ← adminDeleteSecret env secretKey

/-- `_check_gateway_auth(request, authorization)` at the head of every call. -/
def checkGate (pbkdf2 : Pbkdf2) (auth : AuthRequest T) :
    EStateM AuthError (AdminState F T) Unit := do
  let state ← get
  within AdminState.gatewayThrottle
    (fun throttle state => { state with gatewayThrottle := throttle })
    (checkGatewayAuth pbkdf2 state.app.gatewayAuth auth)

omit [FloatArith F] [Runtime F] in
/-- The gate writes its throttle alone. -/
theorem run_checkGate (pbkdf2 : Pbkdf2) (auth : AuthRequest T) (state : AdminState F T) :
    (Returns (checkGatewayAuth pbkdf2 state.app.gatewayAuth auth) state.gatewayThrottle ∧
      ∃ throttle, (checkGate pbkdf2 auth).run state =
        .ok () { state with gatewayThrottle := throttle }) ∨
    (¬ Returns (checkGatewayAuth pbkdf2 state.app.gatewayAuth auth) state.gatewayThrottle ∧
      ∃ exc throttle, (checkGate pbkdf2 auth).run state =
        .error exc { state with gatewayThrottle := throttle }) := by
  have hget : (get : EStateM AuthError (AdminState F T) (AdminState F T)).run state =
      .ok state state := rfl
  unfold checkGate
  rw [run_bind_of_ok hget]
  cases h : (checkGatewayAuth pbkdf2 state.app.gatewayAuth auth).run state.gatewayThrottle with
  | ok a throttle => exact .inl ⟨⟨a, throttle, h⟩, throttle, run_within_of_ok _ h⟩
  | error exc throttle =>
      exact .inr ⟨not_returns_of_error h, exc, throttle, run_within_of_error _ h⟩

/-- A call behind the gate. -/
def handle (pbkdf2 : Pbkdf2) (fernet : Fernet Draw) (auth : AuthRequest T)
    (action : AdminAction F T Draw) : EStateM AuthError (AdminState F T) Unit := do
  checkGate pbkdf2 auth
  action.body pbkdf2 fernet

/-! ## The start of a process -/

/-- The state a computation ends in when it returns. -/
def stateOf {ε σ α : Type} : EStateM.Result ε σ α → Except ε σ
  | .ok _ state => .ok state
  | .error exc _ => .error exc

/-- The discovery pipeline of `lifespan` and what stands around it. -/
def settleModels (env : Start F T) (settings : Settings F) : EStateM Exc (App F) Unit := do
  applyProviderRuntimeState env.toSurroundings .activeProviders settings
  modify fun app => { app with db := { app.db with models := env.pipeline app.db.models } }
  recomputeReadiness env.toSurroundings

/-- `lifespan`, up to the registered jobs: the application that starts on a database. -/
def lifespan (env : Start F T) (db : Database F) : Except Exc (App F) := do
  let settings ← env.fromEnv
  env.access .runtimeLogger
  env.access .overrides
  let overrides ← getOverrides db.overrides
  let settings ← applyOverrides settings overrides
  env.access .secretVaultConfig
  env.access .managedSecrets
  let (secrets, status) ← loadManagedSecrets db.managedSecrets none db.secretVaultConfig
  let settings := settings.applyManagedSecrets secrets
  env.access .gatewayAuthConfig
  let registry ← stateOf ((configureRegistry env.host settings).run .empty)
  let app ← stateOf ((settleModels env settings).run
    { db := db, registry := registry, requestLogPolicy := configureDatabaseLogging settings
      settings := settings, secretVaultConfig := db.secretVaultConfig, secretStore := none
      secretManagementStatus := status
      gatewayAuth := resolveGatewayAuthState settings db.gatewayAuthConfig
      jobs := fun _ => none, ready := false })
  env.intervalTrigger (Job.discovery.interval settings)
  env.intervalTrigger (Job.ranking.interval settings)
  env.intervalTrigger (Job.health.interval settings)
  return { app with jobs := fun job => some (job.interval settings) }

theorem stateOf_ok_iff {ε σ α : Type} {result : EStateM.Result ε σ α} {state : σ} :
    stateOf result = .ok state ↔ ∃ a, result = .ok a state := by
  cases result with
  | ok a s => simp [stateOf]
  | error exc s => simp [stateOf]

omit [ClockArith T] [Runtime F] in
/-- The discovery at the start changes the models and the readiness alone. -/
theorem keeps_settleModels {β : Type} {view : App F → β} (env : Start F T)
    (settings : Settings F)
    (hmodels : ∀ (app : App F) models,
      view { app with db := { app.db with models := models } } = view app)
    (hready : ∀ (app : App F) ready, view { app with ready := ready } = view app) :
    Keeps view (settleModels env settings) :=
  keeps_bind (decidedBy_applyProviderRuntimeState view _ _ _ hmodels).keeps fun _ =>
    keeps_bind (keeps_modify fun app => hmodels app _) fun _ =>
      (decidedBy_recomputeReadiness view _ hmodels hready).keeps

/-- What the database stores, the models apart. -/
def storedConfiguration (db : Database F) :
    OverridesTable × Option SecretVaultConfig × Option GatewayAuthRow × List (String × String) :=
  (db.overrides, db.secretVaultConfig, db.gatewayAuthConfig, db.managedSecrets)

omit [ClockArith T] in
/-- What a start leaves: the stored configuration as it was, the vault known and locked, and the
gate that the stored row asks for. -/
theorem lifespan_spec {env : Start F T} {db : Database F} {app : App F}
    (h : lifespan env db = .ok app) :
    ∃ settings : Settings F, storedConfiguration app.db = storedConfiguration db ∧
      app.secretVaultConfig = db.secretVaultConfig ∧ app.secretStore = none ∧
      app.gatewayAuth = resolveGatewayAuthState settings db.gatewayAuthConfig := by
  unfold lifespan at h
  obtain ⟨settings, -, h⟩ := bind_ok_iff.mp h
  obtain ⟨-, -, h⟩ := bind_ok_iff.mp h
  obtain ⟨-, -, h⟩ := bind_ok_iff.mp h
  obtain ⟨overrides, -, h⟩ := bind_ok_iff.mp h
  obtain ⟨settings, -, h⟩ := bind_ok_iff.mp h
  obtain ⟨-, -, h⟩ := bind_ok_iff.mp h
  obtain ⟨-, -, h⟩ := bind_ok_iff.mp h
  obtain ⟨⟨secrets, status⟩, -, h⟩ := bind_ok_iff.mp h
  obtain ⟨-, -, h⟩ := bind_ok_iff.mp h
  obtain ⟨registry, -, h⟩ := bind_ok_iff.mp h
  obtain ⟨started, hstarted, h⟩ := bind_ok_iff.mp h
  obtain ⟨-, -, h⟩ := bind_ok_iff.mp h
  obtain ⟨-, -, h⟩ := bind_ok_iff.mp h
  obtain ⟨-, -, h⟩ := bind_ok_iff.mp h
  obtain ⟨_, hsettled⟩ := stateOf_ok_iff.mp hstarted
  have hkeeps : Keeps (fun app : App F => (storedConfiguration app.db, app.secretVaultConfig,
      app.secretStore, app.gatewayAuth))
      (settleModels env (settings.applyManagedSecrets secrets)) :=
    keeps_settleModels env _ (fun _ _ => rfl) fun _ _ => rfl
  have hview := view_of_run_ok hkeeps hsettled
  simp only [Prod.mk.injEq] at hview
  obtain ⟨hdb, hconfig, hstore, hauth⟩ := hview
  rw [← Except.ok.inj h]
  exact ⟨_, hdb, hconfig, hstore, hauth⟩

omit [FloatArith F] in
/-- What a reload prepares about the vault. -/
theorem vault_prepareReload {env : Surroundings F} {app : App F} {new : Prepared F}
    (h : prepareReload env app = .ok new) :
    new.secretVaultConfig = app.db.secretVaultConfig ∧ new.secretStore = app.secretStore ∧
      ∃ base secrets, effectiveSettings env app = .ok base ∧
        loadManagedSecrets app.db.managedSecrets app.secretStore app.db.secretVaultConfig =
          .ok (secrets, new.secretStatus) ∧
        new.settings = base.applyManagedSecrets secrets := by
  unfold prepareReload at h
  obtain ⟨start, hstart, h⟩ := bind_ok_iff.mp h
  obtain ⟨-, -, h⟩ := bind_ok_iff.mp h
  obtain ⟨overrides, hoverrides, h⟩ := bind_ok_iff.mp h
  obtain ⟨base, hbase, h⟩ := bind_ok_iff.mp h
  obtain ⟨-, -, h⟩ := bind_ok_iff.mp h
  obtain ⟨-, -, h⟩ := bind_ok_iff.mp h
  obtain ⟨⟨secrets, status⟩, hloaded, h⟩ := bind_ok_iff.mp h
  obtain ⟨-, -, h⟩ := bind_ok_iff.mp h
  have hnew := Except.ok.inj h
  have heffective : effectiveSettings env app = .ok base := by
    unfold effectiveSettings
    rw [hstart, ok_bind, hoverrides, ok_bind, hbase]
  have hsettings : new.settings = base.applyManagedSecrets secrets := by
    rw [← hnew]
  rw [← hnew] at hsettings ⊢
  exact ⟨rfl, rfl, base, secrets, heffective, hloaded, hsettings⟩

omit [ClockArith T] in
/-- A reload keeps a view that reads nothing it writes. -/
theorem keeps_reloadSettings {β : Type} {view : App F → β} (env : Surroundings F)
    (hregistry : ∀ (app : App F) registry, view { app with registry := registry } = view app)
    (hassign : ∀ new (app : App F), new.secretStore = app.secretStore →
      view (App.assign new app) = view app)
    (hauth : ∀ (app : App F) auth, view { app with gatewayAuth := auth } = view app)
    (hmodels : ∀ (app : App F) models,
      view { app with db := { app.db with models := models } } = view app)
    (hjobs : ∀ (app : App F) jobs, view { app with jobs := jobs } = view app)
    (hready : ∀ (app : App F) ready, view { app with ready := ready } = view app) :
    Keeps view (reloadSettings env) := by
  intro app
  cases hprepare : prepareReload env app with
  | error exc => rw [finalState_of_error (run_reloadSettings_of_error hprepare)]
  | ok new =>
      by_cases hbuild : Buildable env.host new.settings
      · rw [view_reloadSettings_of_buildable view hprepare hbuild
          (keeps_followUp hauth hmodels hjobs hready)]
        exact (hassign new { app with registry := rebuilt env new.settings app }
          (vault_prepareReload hprepare).2.1).trans (hregistry app _)
      · obtain ⟨exc, hrun⟩ := run_reloadSettings_of_unbuildable hprepare hbuild
        rw [finalState_of_error hrun, hregistry]

/-- One event.  A process whose start raises is not there. -/
def step (pbkdf2 : Pbkdf2) (fernet : Fernet Draw) (state : AdminState F T) :
    AdminEvent F T Draw → Option (AdminState F T)
  | .request auth action => some (finalState (handle pbkdf2 fernet auth action) state)
  | .refresh env => some (finalState (reload env) state)
  | .restart env =>
      match lifespan env state.app.db with
      | .error _ => none
      | .ok app =>
          some { app := app, fernetKey := none
                 gatewayThrottle := { throttle := env.gatewayThrottle, failures := [] }
                 vaultThrottle := { throttle := env.vaultThrottle, failures := [] } }

/-- A request that the gate refuses changes nothing but the throttle of the gate. -/
theorem step_request_of_refused {pbkdf2 : Pbkdf2} {fernet : Fernet Draw} {auth : AuthRequest T}
    {state : AdminState F T}
    (h : ¬ Returns (checkGatewayAuth pbkdf2 state.app.gatewayAuth auth) state.gatewayThrottle)
    (action : AdminAction F T Draw) :
    ∃ throttle, step pbkdf2 fernet state (.request auth action) =
      some { state with gatewayThrottle := throttle } := by
  rcases run_checkGate pbkdf2 auth state with ⟨hreturns, -⟩ | ⟨-, exc, throttle, hrun⟩
  · exact absurd hreturns h
  · refine ⟨throttle, ?_⟩
    unfold step handle
    dsimp only
    rw [finalState_of_error (run_bind_of_error hrun _)]

end Requests

/-! ## A fresh application -/

/-- Surroundings that answer everything. -/
def answeringAdmin : Outside Exact Unit where
  fromEnv := .ok settingsWithGroq
  host := plainHost
  access _ := .ok ()
  intervalTrigger _ := .ok ()
  executes := true
  listing := .ok ()
  readsEnv := by
    intro settings h
    cases h
    rfl
  salt := [7, 11]
  draw := ()
  now := "2026-01-01T00:00:00Z"

/-- An application on an empty database. -/
def freshAdmin : AdminState Exact Rat where
  app := servingOpenrouter ⟨[], List.nodup_nil⟩
  fernetKey := none
  gatewayThrottle := freshState
  vaultThrottle := freshState

/-- A derivation that appends the salt. -/
def appendSalt : Pbkdf2 := fun password salt => 1 :: (password ++ salt)

end Admin
end FreeLunch
