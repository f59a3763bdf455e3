import FreeLunch.Admin.Requests

/-!
# The gateway key over whole runs

The key of the gateway is set, disabled and handed back to the environment by calls that pass
the gate themselves.  What such a call stored is in force until the next one, across reloads
that raise, changes of the settings and restarts; and without a key that the gate accepts no
sequence of requests changes what is stored or opens the vault.

Main results:

- Theorem `unauthorized_run`: requests that the gate has no reason to accept leave the stored
  configuration, the vault and its secrets as they are.
- Theorem `key_in_force`: after a key was set, in every later run without another call on the
  gateway key, the gate lets exactly the tokens with the same digest through.

Current gaps:

- A request runs as a whole.
-/

namespace FreeLunch
namespace Admin

open FreeLunch.Runtime FreeLunch.Gateway Python Runs Tables Transactions Writes

section Gate

variable {F T Draw : Type} [Runtime F] [FloatArith F] [ClockArith T]
variable {fernet : Fernet Draw} {pbkdf2 : Pbkdf2}

/-! ## Passing the gate -/

omit [Runtime F] [FloatArith F] [ClockArith T] in
/-- A token that the verdict accepts matches. -/
theorem matches_of_verdict {auth : GatewayAuth} {token : String}
    (h : verdict pbkdf2 auth token = .ok true) : Matches pbkdf2 auth token := by
  unfold verdict at h
  by_cases henv : auth.source = "env"
  · rw [if_pos henv] at h
    cases hkey : auth.envKey with
    | none =>
        rw [hkey] at h
        cases h
    | some key =>
        rw [hkey] at h
        have hsame := beq_iff_eq.mp (compareDigest_ok_iff.mp h).2
        exact .inl ⟨henv, hsame ▸ hkey⟩
  · rw [if_neg henv] at h
    cases hconfig : auth.config with
    | none =>
        rw [hconfig] at h
        cases h
    | some config =>
        rw [hconfig] at h
        dsimp only at h
        by_cases hmanaged : auth.source = "managed"
        · rw [if_pos hmanaged] at h
          exact .inr ⟨hmanaged, config, hconfig, verifyGatewayAuthToken_eq_true_iff.mp h⟩
        · rw [if_neg hmanaged] at h
          cases h

omit [Runtime F] [FloatArith F] in
/-- An enabled gate lets exactly the clients through that are not blocked and whose token gets
a positive verdict. -/
theorem returns_checkGatewayAuth_iff {auth : GatewayAuth} (henabled : auth.enabled = true)
    (request : AuthRequest T) (throttle : AuthState T) :
    Returns (checkGatewayAuth pbkdf2 auth request) throttle ↔
      ¬ BlockedAt request throttle ∧ ∃ token,
        bearerToken request.authorization = some token ∧ verdict pbkdf2 auth token = .ok true := by
  obtain ⟨hblocked, -⟩ | ⟨hfree, hcheck⟩ :=
    run_refuseBlocked request.checkedAt request.clientKey throttle
  · refine iff_of_false ?_ fun h => h.1 hblocked
    rw [(gateContract_of_blocked henabled hblocked).accepts]
    exact fun h => h.1 hblocked
  have hfree : ¬ BlockedAt request throttle := hfree
  rw [and_iff_right hfree]
  have hrefused : ∀ detail, ¬ Returns (do
      recordAuthFailure request
      throw (.httpException 401 detail none) : EStateM AuthError (AuthState T) Unit)
      (throttle.checked request.checkedAt request.clientKey) := by
    intro detail
    obtain ⟨_, _, _, herror, -⟩ := refused_recordAuthFailure request
      (throttle.checked request.checkedAt request.clientKey) detail
    exact not_returns_of_error herror
  cases htoken : bearerToken request.authorization with
  | none =>
      refine iff_of_false ?_ fun h => ?_
      · unfold Returns
        rw [run_checkGatewayAuth_of_none henabled hcheck htoken]
        exact hrefused _
      · obtain ⟨token, hsome, -⟩ := h
        cases hsome
  | some token =>
      have hgate : (checkGatewayAuth pbkdf2 auth request).run throttle = _ :=
        run_checkGatewayAuth_of_token henabled hcheck htoken
      simp only [Option.some.injEq, exists_eq_left']
      unfold Returns
      rw [hgate]
      cases hverdict : verdict pbkdf2 auth token with
      | error exc =>
          refine iff_of_false ?_ fun h => ?_
          · rintro ⟨a, state', h⟩
            cases h
          · cases h
      | ok accepted =>
          cases accepted with
          | false => exact iff_of_false (hrefused _) fun h => by cases h
          | true => exact iff_of_true ⟨_, _, rfl⟩ rfl

omit [Runtime F] [FloatArith F] in
/-- What an enabled gate lets through carries a matching token. -/
theorem accepted_of_returns {auth : GatewayAuth} (henabled : auth.enabled = true)
    {request : AuthRequest T} {throttle : AuthState T}
    (h : Returns (checkGatewayAuth pbkdf2 auth request) throttle) :
    Accepted pbkdf2 auth request.authorization := by
  obtain ⟨-, token, htoken, hverdict⟩ := (returns_checkGatewayAuth_iff henabled _ _).mp h
  exact ⟨token, bearerToken_eq_some_iff.mp htoken, matches_of_verdict hverdict⟩

/-- A request that the gate has no reason to accept. -/
def Unauthorized (pbkdf2 : Pbkdf2) (state : AdminState F T) : AdminEvent F T Draw → Prop
  | .request auth _ =>
      state.app.gatewayAuth.enabled = true ∧
        ¬ Accepted pbkdf2 state.app.gatewayAuth auth.authorization
  | _ => True

/-! ## Requests without a key -/

/-- What is stored, and whether the vault is open. -/
def AdminState.guarded (state : AdminState F T) :=
  (storedConfiguration state.app.db, state.fernetKey)

omit [ClockArith T] in
/-- A reload keeps what is stored and the key of the vault. -/
theorem keeps_guarded_reload (env : Surroundings F) :
    Keeps AdminState.guarded
      (reload env : EStateM AuthError (AdminState F T) (Settings F)) := by
  intro state
  unfold reload
  rw [finalState_onApp]
  have hkeeps : Keeps (fun app : App F => storedConfiguration app.db) (reloadSettings env) :=
    keeps_reloadSettings env (fun _ _ => rfl) (fun _ _ _ => rfl) (fun _ _ => rfl)
      (fun _ _ => rfl) (fun _ _ => rfl) fun _ _ => rfl
  have hsame : storedConfiguration (finalState (reloadSettings env) state.app).db =
      storedConfiguration state.app.db := hkeeps state.app
  unfold AdminState.guarded
  dsimp only
  rw [hsame]

/-- A step without an authorized request stores nothing and opens nothing. -/
theorem unauthorized_step {state state' : AdminState F T} {event : AdminEvent F T Draw}
    (hevent : Unauthorized pbkdf2 state event)
    (hstep : step pbkdf2 fernet state event = some state') :
    storedConfiguration state'.app.db = storedConfiguration state.app.db ∧
      (state'.fernetKey = state.fernetKey ∨ state'.fernetKey = none) := by
  cases event with
  | request auth action =>
      obtain ⟨henabled, hrefused⟩ := hevent
      obtain ⟨throttle, hrun⟩ := step_request_of_refused
        (fun hreturns => hrefused (accepted_of_returns henabled hreturns)) action
      rw [hrun] at hstep
      cases hstep
      exact ⟨rfl, .inl rfl⟩
  | refresh env =>
      cases hstep
      have hkept := keeps_guarded_reload env state
      simp only [AdminState.guarded, Prod.mk.injEq] at hkept
      exact ⟨hkept.1, .inl hkept.2⟩
  | restart env =>
      unfold step at hstep
      dsimp only at hstep
      cases hstart : lifespan env state.app.db with
      | error exc =>
          rw [hstart] at hstep
          cases hstep
      | ok app =>
          rw [hstart] at hstep
          cases hstep
          obtain ⟨settings, hdb, -⟩ := lifespan_spec hstart
          exact ⟨hdb, .inr rfl⟩

/-- In a run in which the gate has no reason to accept a request, the stored configuration
stays as it is, and the vault is not opened. -/
theorem unauthorized_run {start state : AdminState F T} {events : List (AdminEvent F T Draw)}
    (hguarded : Guarded (step pbkdf2 fernet) (Unauthorized pbkdf2) start events)
    (hrun : run (step pbkdf2 fernet) start events = some state) :
    storedConfiguration state.app.db = storedConfiguration start.app.db ∧
      (state.fernetKey = start.fernetKey ∨ state.fernetKey = none) := by
  refine run_guarded_invariant (fun state : AdminState F T =>
    storedConfiguration state.app.db = storedConfiguration start.app.db ∧
      (state.fernetKey = start.fernetKey ∨ state.fernetKey = none)) ?_ hrun hguarded
    ⟨rfl, .inl rfl⟩
  rintro between event next hstep hevent ⟨hdb, hkey⟩
  obtain ⟨hdb', hkey'⟩ := unauthorized_step hevent hstep
  refine ⟨hdb'.trans hdb, ?_⟩
  rcases hkey' with hsame | hnone
  · rw [hsame]
    exact hkey
  · exact .inr hnone

/-! ## What a call on the gateway key stored -/

/-- The row is stored, and the gate is what it asks for under some settings. -/
structure GateStored (row : GatewayAuthRow) (app : App F) : Prop where
  stored : app.db.gatewayAuthConfig = some row
  live : ∃ settings : Settings F, app.gatewayAuth = resolveGatewayAuthState settings (some row)

variable {row : GatewayAuthRow}

/-- The stored row and the gate. -/
def gatePart (app : App F) : Option GatewayAuthRow × GatewayAuth :=
  (app.db.gatewayAuthConfig, app.gatewayAuth)

omit [FloatArith F] [Runtime F] in
theorem gateStored_of_gatePart {app app' : App F} (hpart : gatePart app' = gatePart app)
    (h : GateStored row app) : GateStored row app' := by
  unfold gatePart at hpart
  rw [Prod.mk.injEq] at hpart
  exact ⟨hpart.1.trans h.stored, hpart.2 ▸ h.live⟩

omit [FloatArith F] [Runtime F] in
theorem preserves_of_gatePart {ε α : Type} {x : EStateM ε (App F) α} (h : Keeps gatePart x) :
    Preserves (GateStored row) x :=
  fun app hstored => gateStored_of_gatePart (h app) hstored

/-- `reload_settings` behind the assignment of the gate. -/
def afterGate (env : Surroundings F) (settings : Settings F) : EStateM Exc (App F) Unit := do
  applyProviderRuntimeState env .activeProviders settings
  rescheduleJob env settings .discovery
  rescheduleJob env settings .ranking
  rescheduleJob env settings .health
  recomputeReadiness env

omit [Runtime F] in
theorem preserves_afterGate (env : Surroundings F) (settings : Settings F) :
    Preserves (GateStored row) (afterGate env settings) := by
  have hjob : ∀ job, Preserves (GateStored row) (rescheduleJob env settings job) := fun job =>
    preserves_of_gatePart (keeps_rescheduleJob env settings job fun _ _ _ => rfl)
  have hruntime : Preserves (GateStored row)
      (applyProviderRuntimeState env .activeProviders settings) :=
    preserves_of_gatePart (decidedBy_applyProviderRuntimeState _ _ _ _ fun _ _ => rfl).keeps
  have hreadiness : Preserves (GateStored row) (recomputeReadiness (F := F) env) :=
    preserves_of_gatePart
      (decidedBy_recomputeReadiness _ _ (fun _ _ => rfl) fun _ _ => rfl).keeps
  exact preserves_bind hruntime fun _ => preserves_bind (hjob _) fun _ =>
    preserves_bind (hjob _) fun _ => preserves_bind (hjob _) fun _ => hreadiness

omit [Runtime F] in
/-- What acts on the new settings reads the stored row again. -/
theorem preserves_followUp (env : Surroundings F) (settings : Settings F) :
    Preserves (GateStored row) (followUp env settings) := by
  have hresolve : Preserves (GateStored row) (modify fun app : App F =>
      { app with gatewayAuth := resolveGatewayAuthState settings app.db.gatewayAuthConfig } :
      EStateM Exc (App F) PUnit) :=
    preserves_modify fun app h => ⟨h.stored, settings, by rw [h.stored]⟩
  exact preserves_bind (preserves_call _) fun _ => preserves_bind hresolve fun _ =>
    preserves_afterGate env settings

/-- So does a reload. -/
theorem preserves_reloadSettings (env : Surroundings F) :
    Preserves (GateStored row) (reloadSettings env) := by
  have hassign : ∀ new : Prepared F, Preserves (GateStored row)
      (modify (App.assign new) : EStateM Exc (App F) PUnit) := fun new =>
    preserves_of_gatePart (keeps_modify fun _ => rfl)
  have hregistry : ∀ settings : Settings F, Preserves (GateStored row)
      (within App.registry (fun registry (app : App F) => { app with registry := registry })
        (configureRegistry env.host settings)) := by
    intro settings app h
    cases hrun : (configureRegistry env.host settings).run app.registry with
    | ok a registry =>
        rw [finalState_of_ok (run_within_of_ok _ hrun)]
        exact ⟨h.stored, h.live⟩
    | error exc registry =>
        rw [finalState_of_error (run_within_of_error _ hrun)]
        exact ⟨h.stored, h.live⟩
  exact preserves_bind preserves_get fun _ => preserves_bind (preserves_call _) fun new =>
    preserves_bind (hregistry _) fun _ => preserves_bind (hassign _) fun _ =>
      preserves_bind (preserves_followUp env _) fun _ => preserves_pure _

/-! ## The other calls -/

/-- The gate of the application is what the row asks for. -/
def KeyHolds (row : GatewayAuthRow) (state : AdminState F T) : Prop :=
  GateStored row state.app

omit [FloatArith F] [Runtime F] [ClockArith T] in
theorem preserves_onApp {ε α : Type} {toAuth : ε → AuthError} {x : EStateM ε (App F) α}
    (h : Preserves (GateStored row) x) :
    Preserves (KeyHolds row) (onApp toAuth x : EStateM AuthError (AdminState F T) α) := by
  intro state hstate
  rw [finalState_onApp]
  exact h state.app hstate

omit [ClockArith T] in
theorem preserves_reload (env : Surroundings F) :
    Preserves (KeyHolds row) (reload env : EStateM AuthError (AdminState F T) (Settings F)) :=
  preserves_onApp (preserves_reloadSettings env)

omit [FloatArith F] [Runtime F] [ClockArith T] in
theorem preserves_onVaultThrottle {α : Type} (x : EStateM AuthError (AuthState T) α) :
    Preserves (KeyHolds row) (onVaultThrottle x : EStateM AuthError (AdminState F T) α) := by
  intro state hstate
  rw [finalState_onVaultThrottle]
  exact hstate

omit [FloatArith F] [Runtime F] [ClockArith T] in
/-- A statement on another table. -/
theorem preserves_afterStatement {executes : Bool} {statement : Database F → Database F}
    (h : ∀ db, (statement db).gatewayAuthConfig = db.gatewayAuthConfig) :
    Preserves (KeyHolds row) (modify fun state : AdminState F T =>
      state.afterStatement executes statement : EStateM AuthError (AdminState F T) PUnit) := by
  refine preserves_modify fun state hstate => gateStored_of_gatePart ?_ hstate
  unfold gatePart AdminState.afterStatement
  cases executes with
  | false => rfl
  | true => exact Prod.ext (h state.app.db) rfl

omit [FloatArith F] [Runtime F] [ClockArith T] in
theorem preserves_withStore (fernet : Fernet Draw) (key : Option (List UInt8)) :
    Preserves (KeyHolds row) (modify fun state : AdminState F T => state.withStore fernet key :
      EStateM AuthError (AdminState F T) PUnit) :=
  preserves_modify fun _ hstate => ⟨hstate.stored, hstate.live⟩

omit [FloatArith F] [ClockArith T] in
theorem preserves_answerVault (env : Outside F Draw) (status : String) :
    Preserves (KeyHolds row)
      (answerVault env status : EStateM AuthError (AdminState F T) VaultResponse) :=
  preserves_bind (preserves_call _) fun _ => preserves_bind preserves_get fun _ =>
    preserves_pure _

omit [FloatArith F] [ClockArith T] in
theorem preserves_answerSecret (env : Outside F Draw) (status key : String) :
    Preserves (KeyHolds row)
      (answerSecret env status key : EStateM AuthError (AdminState F T) SecretResponse) :=
  preserves_bind (preserves_call _) fun _ => preserves_bind preserves_get fun _ =>
    preserves_pure _

omit [ClockArith T] in
/-- The end of the calls on the vault. -/
theorem preserves_taking (env : Outside F Draw) (key : Option (List UInt8)) (status : String) :
    Preserves (KeyHolds row) (do
      modify fun state => state.withStore fernet key
      let _ ← reload env.toSurroundings
      answerVault env status : EStateM AuthError (AdminState F T) VaultResponse) :=
  preserves_bind (preserves_withStore fernet key) fun _ =>
    preserves_bind (preserves_reload _) fun _ => preserves_answerVault env status

omit [ClockArith T] in
theorem preserves_adminSetupSecretVault (env : Outside F Draw)
    (payload : List (String × PyValue F)) :
    Preserves (KeyHolds row) (adminSetupSecretVault pbkdf2 fernet env payload :
      EStateM AuthError (AdminState F T) VaultResponse) := by
  unfold adminSetupSecretVault
  refine preserves_bind preserves_get fun state => preserves_ite (fun _ _ h => h) fun _ => ?_
  refine preserves_bind (preserves_call _) fun password => ?_
  exact preserves_bind (preserves_call _) fun made =>
    preserves_bind (preserves_afterStatement fun _ => rfl) fun _ => preserves_taking env _ _

theorem preserves_adminUnlockSecretVault (env : Outside F Draw) (attempt : AuthRequest T)
    (payload : List (String × PyValue F)) :
    Preserves (KeyHolds row) (adminUnlockSecretVault pbkdf2 fernet env attempt payload :
      EStateM AuthError (AdminState F T) VaultResponse) := by
  unfold adminUnlockSecretVault
  refine preserves_bind preserves_get fun state => ?_
  cases state.app.secretVaultConfig with
  | none => exact preserves_throw _
  | some config =>
      refine preserves_bind (preserves_onVaultThrottle _) fun _ =>
        preserves_bind (preserves_call _) fun password => ?_
      cases Admin.unlockVault fernet pbkdf2 password config with
      | ok key =>
          exact preserves_bind (preserves_onVaultThrottle _) fun _ => preserves_taking env _ _
      | error exc =>
          cases exc with
          | password detail =>
              exact preserves_bind (preserves_onVaultThrottle _) fun _ => preserves_throw _
          | raised exc => exact preserves_throw _

omit [ClockArith T] in
theorem preserves_adminLockSecretVault (env : Outside F Draw) :
    Preserves (KeyHolds row) (adminLockSecretVault fernet env :
      EStateM AuthError (AdminState F T) VaultResponse) := by
  unfold adminLockSecretVault
  exact preserves_bind preserves_get fun state => preserves_ite (fun _ _ h => h) fun _ =>
    preserves_taking env _ _

omit [ClockArith T] in
theorem preserves_adminDeleteSecret (env : Outside F Draw) (secretKey : String) :
    Preserves (KeyHolds row) (adminDeleteSecret env secretKey :
      EStateM AuthError (AdminState F T) SecretResponse) := by
  unfold adminDeleteSecret
  refine preserves_ite (fun _ _ h => h) fun _ => preserves_bind preserves_get fun state => ?_
  exact preserves_bind (preserves_call _) fun _ =>
    preserves_bind (preserves_afterStatement fun _ => rfl) fun _ =>
      preserves_bind (preserves_reload _) fun _ => preserves_answerSecret env _ _

omit [ClockArith T] in
theorem preserves_adminSetSecret (env : SecretSurroundings F) (secretKey : String)
    (payload : List (String × PyValue F)) :
    Preserves (GateStored row) (adminSetSecret env secretKey payload) := by
  unfold adminSetSecret
  refine preserves_ite (fun _ _ h => h) fun _ => ?_
  cases dictGet payload "value" with
  | none => exact preserves_throw _
  | some raw =>
      have hset : ∀ key text, Preserves (GateStored row)
          (modify fun app : App F => app.withSecret env key text :
            EStateM AdminError (App F) PUnit) := fun key text =>
        preserves_modify fun app h => ⟨h.stored, h.live⟩
      refine preserves_ite (fun _ _ h => h) fun _ => preserves_bind preserves_get fun app => ?_
      exact preserves_bind (preserves_call _) fun _ => preserves_bind (hset _ _) fun _ =>
        preserves_bind (preserves_adaptExcept (preserves_reloadSettings _) _) fun _ =>
          preserves_bind (preserves_call _) fun _ => preserves_bind preserves_get fun _ =>
            preserves_pure _

omit [ClockArith T] in
theorem preserves_adminCall (request : AdminCall F) :
    Preserves (GateStored row) request.handle := by
  have hstore : ∀ (env : AdminSurroundings F) statement answer,
      Preserves (GateStored row) (storeAndReload env statement answer) := fun env statement _ =>
    preserves_bind (preserves_modify fun app h => ⟨h.stored, h.live⟩) fun _ =>
      preserves_bind (preserves_adaptExcept (preserves_reloadSettings _) _) fun _ =>
        preserves_bind preserves_get fun _ => preserves_pure _
  cases request with
  | delete env key => exact preserves_bind (hstore _ _ _) fun _ => preserves_call _
  | put env key payload =>
      refine preserves_bind ?_ fun _ => preserves_call _
      unfold adminSetConfig
      cases dictGet payload "value" with
      | none => exact preserves_throw _
      | some value => exact preserves_ite (fun _ => preserves_throw _) fun _ => hstore _ _ _

/-! ## After a call on the gateway key -/

/-- The call writes the row of the gateway key. -/
def AdminAction.WritesGatewayAuth : AdminAction F T Draw → Prop
  | .setGatewayAuth _ _ => True
  | .disableGatewayAuth _ => True
  | .inheritGatewayAuth _ => True
  | _ => False

/-- The event is no call on the gateway key that the gate lets through. -/
def LeavesGatewayAuth (pbkdf2 : Pbkdf2) (state : AdminState F T) : AdminEvent F T Draw → Prop
  | .request auth action =>
      action.WritesGatewayAuth →
        ¬ Returns (checkGatewayAuth pbkdf2 state.app.gatewayAuth auth) state.gatewayThrottle
  | _ => True

/-- The other calls leave the gate as the row asks for it. -/
theorem preserves_body {action : AdminAction F T Draw} (h : ¬ action.WritesGatewayAuth) :
    Preserves (KeyHolds row) (action.body pbkdf2 fernet) := by
  cases action with
  | setGatewayAuth env payload => exact absurd trivial h
  | disableGatewayAuth env => exact absurd trivial h
  | inheritGatewayAuth env => exact absurd trivial h
  | read => exact preserves_pure _
  | setConfig env key payload => exact preserves_onApp (preserves_adminCall _)
  | deleteConfig env key => exact preserves_onApp (preserves_adminCall _)
  | setupVault env payload =>
      exact preserves_bind (preserves_adminSetupSecretVault env payload) fun _ => preserves_pure _
  | unlockVault env attempt payload =>
      exact preserves_bind (preserves_adminUnlockSecretVault env attempt payload) fun _ =>
        preserves_pure _
  | lockVault env =>
      exact preserves_bind (preserves_adminLockSecretVault env) fun _ => preserves_pure _
  | setSecret env secretKey payload =>
      exact preserves_bind preserves_get fun _ => preserves_bind
        (preserves_onApp (preserves_adminSetSecret _ secretKey payload)) fun _ => preserves_pure _
  | deleteSecret env secretKey =>
      exact preserves_bind (preserves_adminDeleteSecret env secretKey) fun _ => preserves_pure _

/-- A step that is no call on the gateway key leaves the gate as the row asks for it. -/
theorem keyHolds_step {state state' : AdminState F T} {event : AdminEvent F T Draw}
    (hevent : LeavesGatewayAuth pbkdf2 state event)
    (hstep : step pbkdf2 fernet state event = some state') (h : KeyHolds row state) :
    KeyHolds row state' := by
  cases event with
  | request auth action =>
      by_cases hreturns :
          Returns (checkGatewayAuth pbkdf2 state.app.gatewayAuth auth) state.gatewayThrottle
      · cases hstep
        rcases run_checkGate pbkdf2 auth state with ⟨-, throttle, hrun⟩ | ⟨hnot, -⟩
        · unfold handle
          rw [finalState_bind_of_ok hrun]
          refine preserves_body (fun hwrites => hevent hwrites hreturns) _ ?_
          exact ⟨h.stored, h.live⟩
        · exact absurd hreturns hnot
      · obtain ⟨throttle, hrun⟩ := step_request_of_refused hreturns action
        rw [hrun] at hstep
        cases hstep
        exact ⟨h.stored, h.live⟩
  | refresh env =>
      cases hstep
      exact preserves_reload env state h
  | restart env =>
      unfold step at hstep
      dsimp only at hstep
      cases hstart : lifespan env state.app.db with
      | error exc =>
          rw [hstart] at hstep
          cases hstep
      | ok app =>
          rw [hstart] at hstep
          cases hstep
          obtain ⟨settings, hdb, -, -, hauth⟩ := lifespan_spec hstart
          simp only [storedConfiguration, Prod.mk.injEq] at hdb
          refine ⟨hdb.2.2.1.trans h.stored, settings, ?_⟩
          rw [← h.stored]
          exact hauth

/-- A reload that returns leaves the gate as the stored row asks for it. -/
theorem gateStored_of_run_reloadSettings {env : Surroundings F} {app after : App F}
    {settings : Settings F} (hstored : app.db.gatewayAuthConfig = some row)
    (hrun : (reloadSettings env).run app = .ok settings after) : GateStored row after := by
  obtain ⟨new, hprepare, hbuild, -⟩ :=
    (reloadSettings_returns_iff env app).mp ⟨settings, after, hrun⟩
  rw [run_reloadSettings_of_buildable hprepare hbuild] at hrun
  obtain ⟨_, between, hfollow, hpure⟩ := run_bind_ok_iff.mp hrun
  cases hpure
  obtain ⟨_, read, hread, hfollow⟩ := run_bind_ok_iff.mp hfollow
  obtain ⟨-, rfl⟩ := run_call_ok_iff.mp hread
  obtain ⟨_, resolved, hresolved, hrest⟩ := run_bind_ok_iff.mp hfollow
  cases hresolved
  have hgate : GateStored row ({ assigned env new app with
      gatewayAuth := resolveGatewayAuthState new.settings
        (assigned env new app).db.gatewayAuthConfig } : App F) :=
    ⟨hstored, new.settings, congrArg (resolveGatewayAuthState new.settings) hstored⟩
  have hafter := preserves_afterGate env new.settings _ hgate
  have hsame : (afterGate env new.settings).run _ = .ok _ after := hrest
  rw [finalState_of_ok hsame] at hafter
  exact hafter

/-- The row that a call on the gateway key writes. -/
def rowOf (mode : String) (config : Option GatewayAuthConfig) (now : String) : GatewayAuthRow where
  mode := some mode
  tokenSaltB64 := config.map GatewayAuthConfig.tokenSaltB64
  tokenHashB64 := config.map GatewayAuthConfig.tokenHashB64
  updatedAt := some now

omit [ClockArith T] in
/-- A call on the gateway key that returns has its row in force. -/
theorem keyHolds_of_run_storeGatewayAuth {env : Outside F Draw} (hexecutes : env.executes = true)
    {mode : String} {config : Option GatewayAuthConfig} {before after : AdminState F T}
    {answer : GatewayAuth}
    (hrun : (storeGatewayAuth env mode config).run before = .ok answer after) :
    KeyHolds (rowOf mode config env.now) after := by
  unfold storeGatewayAuth at hrun
  obtain ⟨_, stored, hstored, hrun⟩ := run_bind_ok_iff.mp hrun
  cases hstored
  obtain ⟨settings, reloaded, hreload, hrun⟩ := run_bind_ok_iff.mp hrun
  cases hrun
  have happ := (run_onApp_ok_iff.mp hreload).1
  refine gateStored_of_run_reloadSettings ?_ happ
  unfold AdminState.afterStatement
  dsimp only
  rw [hexecutes]
  rfl

/-! ## The key in force -/

/-- The token has the digest of the key. -/
def SameDigest (pbkdf2 : Pbkdf2) (salt : List UInt8) (key token : String) : Prop :=
  stripped token ≠ "" ∧
    pbkdf2 (encodeUtf8 (stripped token)) salt = pbkdf2 (encodeUtf8 (stripped key)) salt

/-- Bytes that are not empty are stored as a text that is not. -/
theorem storedText_ne {bytes : List UInt8} (h : bytes ≠ []) :
    decodeAscii (urlsafeB64encode bytes) ≠ "" := by
  intro hempty
  have hback : decodeStored (decodeAscii (urlsafeB64encode bytes)) = .ok bytes :=
    decode_encodeAscii_decodeAscii bytes
  rw [hempty] at hback
  cases hback
  exact h rfl

/-- A new configuration has the digest of its key, and neither text is empty. -/
theorem createGatewayAuthConfig_spec {salt : List UInt8} {key : String}
    {config : GatewayAuthConfig} (hsalt : salt ≠ [])
    (hdigest : ∀ password salt, pbkdf2 password salt ≠ [])
    (h : createGatewayAuthConfig pbkdf2 salt key = .ok config) :
    config.tokenSaltB64 ≠ "" ∧ config.tokenHashB64 ≠ "" ∧
      ∀ token, MatchesConfig pbkdf2 token config ↔ SameDigest pbkdf2 salt key token := by
  unfold createGatewayAuthConfig at h
  dsimp only at h
  by_cases hblank : stripped key = ""
  · rw [if_pos hblank] at h
    cases h
  rw [if_neg hblank, Except.ok.injEq] at h
  subst h
  refine ⟨storedText_ne hsalt, storedText_ne (hdigest _ _), fun token => ?_⟩
  have hstored : ∀ bytes, decodeStored (decodeAscii (urlsafeB64encode bytes)) = .ok bytes :=
    decode_encodeAscii_decodeAscii
  unfold MatchesConfig SameDigest
  simp only [hstored, Except.ok.injEq, exists_eq_left', and_congr_right_iff]
  exact fun _ => eq_comm

omit [Runtime F] [FloatArith F] [ClockArith T] in
/-- A row with a key enables the gate with its digest. -/
theorem resolveGatewayAuthState_rowOf (settings : Settings F) {config : GatewayAuthConfig}
    (hsalt : config.tokenSaltB64 ≠ "") (hhash : config.tokenHashB64 ≠ "") (now : String) :
    let auth := resolveGatewayAuthState settings (some (rowOf "enabled" (some config) now))
    auth.enabled = true ∧ auth.source = "managed" ∧ auth.config = some config := by
  unfold resolveGatewayAuthState getGatewayAuthConfig rowOf
  simp [hsalt, hhash]

/-- After a key was set, in every run without another call on the gateway key, the gate lets
exactly the tokens with the digest of the key through. -/
theorem key_in_force {env : Outside F Draw} {payload : List (String × PyValue F)}
    {before start : AdminState F T} {answer : GatewayAuth}
    (hput : (adminSetGatewayAuth pbkdf2 env payload).run before = .ok answer start)
    (hexecutes : env.executes = true) (hsalt : env.salt ≠ [])
    (hdigest : ∀ password salt, pbkdf2 password salt ≠ [])
    {events : List (AdminEvent F T Draw)} {state : AdminState F T}
    (hguarded : Guarded (step pbkdf2 fernet) (LeavesGatewayAuth pbkdf2) start events)
    (hrun : run (step pbkdf2 fernet) start events = some state) (auth : AuthRequest T) :
    Returns (checkGatewayAuth pbkdf2 state.app.gatewayAuth auth) state.gatewayThrottle ↔
      ¬ BlockedAt auth state.gatewayThrottle ∧ ∃ token,
        auth.authorization = some ("Bearer " ++ token) ∧
          SameDigest pbkdf2 env.salt (stripped ((dictGet payload "key").getD (.str "")).toStr)
            token := by
  unfold adminSetGatewayAuth at hput
  dsimp only at hput
  by_cases hblank : stripped ((dictGet payload "key").getD (.str "")).toStr = ""
  · rw [if_pos hblank] at hput
    obtain ⟨_, _, hthrown, -⟩ := run_bind_ok_iff.mp hput
    cases hthrown
  rw [if_neg hblank] at hput
  obtain ⟨config, between, hcreate, hstore⟩ := run_bind_ok_iff.mp hput
  obtain ⟨hcreate, rfl⟩ := run_call_ok_iff.mp hcreate
  have hmade : createGatewayAuthConfig pbkdf2 env.salt
      (stripped ((dictGet payload "key").getD (.str "")).toStr) = .ok config := by
    cases hconfig : createGatewayAuthConfig pbkdf2 env.salt
        (stripped ((dictGet payload "key").getD (.str "")).toStr) with
    | ok made =>
        rw [hconfig] at hcreate
        cases hcreate
        rfl
    | error exc =>
        rw [hconfig] at hcreate
        cases hcreate
  obtain ⟨hsaltText, hhashText, hmatches⟩ := createGatewayAuthConfig_spec hsalt hdigest hmade
  have hholds : KeyHolds (rowOf "enabled" (some config) env.now) state :=
    run_guarded_invariant (KeyHolds (rowOf "enabled" (some config) env.now))
      (fun _ _ _ hstep hevent h => keyHolds_step hevent hstep h) hrun hguarded
      (keyHolds_of_run_storeGatewayAuth hexecutes hstore)
  obtain ⟨settings, hauth⟩ := hholds.live
  obtain ⟨henabled, hsource, hconfig⟩ :=
    resolveGatewayAuthState_rowOf settings hsaltText hhashText env.now
  rw [← hauth] at henabled hsource hconfig
  rw [returns_checkGatewayAuth_iff henabled]
  refine and_congr_right fun _ => exists_congr fun token => ?_
  rw [bearerToken_eq_some_iff, verdict_of_managed hsource hconfig,
    verifyGatewayAuthToken_eq_true_iff, hmatches]

end Gate

/-! ## Two runs -/

/-- An application with a key from the environment. -/
def keyedAdmin : AdminState Exact Rat :=
  { freshAdmin with app := { freshAdmin.app with gatewayAuth := envAuth "sesame" } }

/-- A wrong token on the call that disables the gate, and a reload. -/
def intrudingEvents : List (AdminEvent Exact Rat Unit) :=
  [.request (requestWith (some "Bearer open")) (.disableGatewayAuth answeringAdmin),
    .refresh answeringAdmin.toSurroundings]

/-- The wrong token changes nothing that is stored. -/
theorem unauthorized_run_intruding :
    ∃ state, run (step appendSalt taggedFernet) keyedAdmin intrudingEvents = some state ∧
      storedConfiguration state.app.db = storedConfiguration keyedAdmin.app.db ∧
      (state.fernetKey = keyedAdmin.fernetKey ∨ state.fernetKey = none) := by
  have hrefused : ¬ Accepted appendSalt (envAuth "sesame") (some "Bearer open") := by
    rintro ⟨token, htoken, hmatches⟩
    have hread : bearerToken (some "Bearer open") = some token :=
      bearerToken_eq_some_iff.mpr htoken
    have hopen : bearerToken (some "Bearer open") = some "open" := by decide
    rw [hopen, Option.some.injEq] at hread
    rcases hmatches with ⟨-, hkey⟩ | ⟨hsource, -⟩
    · rw [← hread] at hkey
      exact absurd hkey (by decide)
    · exact absurd hsource (by decide)
  have hguarded : Guarded (step appendSalt taggedFernet) (Unauthorized appendSalt) keyedAdmin
      intrudingEvents :=
    ⟨⟨rfl, hrefused⟩, fun _ _ => ⟨trivial, fun _ _ => trivial⟩⟩
  exact ⟨_, rfl, unauthorized_run hguarded rfl⟩

/-- A key is set, and the application reloads. -/
theorem key_in_force_reloaded :
    ∃ answer start state, (adminSetGatewayAuth appendSalt answeringAdmin
        [("key", .str "sesame")]).run freshAdmin = .ok answer start ∧
      run (step appendSalt taggedFernet) start [.refresh answeringAdmin.toSurroundings] =
        some state ∧
      (Returns (checkGatewayAuth appendSalt state.app.gatewayAuth
          (requestWith (some "Bearer sesame"))) state.gatewayThrottle ↔
        ¬ BlockedAt (requestWith (some "Bearer sesame")) state.gatewayThrottle ∧ ∃ token,
          some "Bearer sesame" = some ("Bearer " ++ token) ∧
            SameDigest appendSalt answeringAdmin.salt (stripped ((dictGet
              [("key", PyValue.str (F := Exact) "sesame")] "key").getD (.str "")).toStr) token) := by
  have htest : (match (adminSetGatewayAuth appendSalt answeringAdmin
      [("key", .str "sesame")]).run freshAdmin with
    | .ok _ _ => true
    | .error _ _ => false) = true := by
    decide +kernel
  cases hput : (adminSetGatewayAuth appendSalt answeringAdmin
      [("key", .str "sesame")]).run freshAdmin with
  | error exc state =>
      rw [hput] at htest
      cases htest
  | ok answer start =>
      have hguarded : Guarded (step appendSalt taggedFernet) (LeavesGatewayAuth appendSalt) start
          [.refresh answeringAdmin.toSurroundings] :=
        ⟨trivial, fun _ _ => trivial⟩
      refine ⟨answer, start, _, rfl, rfl, ?_⟩
      exact key_in_force hput rfl (by decide) (fun _ _ => List.cons_ne_nil _ _) hguarded rfl _

end Admin
end FreeLunch
