import FreeLunch.Runtime.ProviderKeys
import FreeLunch.Runtime.AdminConfig

/-!
# Managed secrets

`PUT /admin/secrets/…` of `src/proxy.py` with the keys that `is_managed_secret_key` accepts
and the sources that `_secret_slot_status` reports.  The call encrypts the value, stores it
under the key as it is spelled, and reloads; the reload applies the stored secrets under the
canonical keys, and the adapters choose between them and the environment once more.

Main results:

- Theorem `adminSetSecret_iff`: after a `PUT` the adapter uses the secret and the reported
  sources are the true ones, whatever the value, exactly when the key is spelled as it is
  looked up, no variable of the environment stands in the way, and the other stored secrets
  can be read and are not overridden.

Current gaps:

- The authorization of the calls, the entry in the runtime log and the columns `created_at` and
  `updated_at` are left out.
-/

namespace FreeLunch
namespace Runtime

open Python Transactions Writes

/-! ## Secret keys -/

/-- `_provider_from_managed_secret_key`. -/
def providerFromManagedSecretKey (key : String) : Option String :=
  providerBetween "providers." ".api_key" key

/-- `is_managed_secret_key`. -/
def isManagedSecretKey (key : String) : Bool :=
  key == "openrouter_api_key" ||
    (providerFromManagedSecretKey key).any fun providerId =>
      (providerDefaultApiKeyEnvs.map Prod.fst).contains providerId

/-- The provider that a secret key names. -/
def providerOfSecretKey (key : String) : Option String :=
  if key = "openrouter_api_key" then some "openrouter" else providerFromManagedSecretKey key

/-- An accepted key names a provider that has an adapter. -/
theorem mem_of_isManagedSecretKey {key providerId : String} (h : isManagedSecretKey key = true)
    (hnames : providerOfSecretKey key = some providerId) :
    providerId ∈ providersWithDefaultKey := by
  unfold providerOfSecretKey at hnames
  unfold isManagedSecretKey at h
  by_cases hopenrouter : key = "openrouter_api_key"
  · rw [if_pos hopenrouter] at hnames
    rw [← Option.some.inj hnames]
    exact List.mem_cons_self
  · rw [if_neg hopenrouter] at hnames
    rw [beq_eq_false_iff_ne.mpr hopenrouter, Bool.false_or, hnames, Option.any_some,
      List.contains_iff_mem, keys_providerDefaultApiKeyEnvs] at h
    exact h

/-- Two providers do not share a secret key. -/
theorem secretKeyFor_injOn {providerId other : String} (h : providerId ∈ providersWithDefaultKey)
    (hother : other ∈ providersWithDefaultKey)
    (hsame : secretKeyFor providerId = secretKeyFor other) : providerId = other := by
  have hall : ∀ id ∈ providersWithDefaultKey, ∀ id' ∈ providersWithDefaultKey,
      secretKeyFor id = secretKeyFor id' → id = id' := by
    decide +kernel
  exact hall providerId h other hother hsame

/-! ## The vault -/

/-- The text of a stored value, where it can be read. -/
def ManagedSecretStore.opens (store : ManagedSecretStore) (stored : String) : Option String :=
  match store.decrypt stored with
  | .plaintext text => some text
  | _ => none

/-- A store with its encryption. -/
structure SecretVault where
  store : ManagedSecretStore
  encrypt : String → String
  decrypt_encrypt : ∀ text, store.decrypt (encrypt text) = .plaintext text

theorem SecretVault.opens_encrypt (vault : SecretVault) (text : String) :
    vault.store.opens (vault.encrypt text) = some text := by
  unfold ManagedSecretStore.opens
  rw [vault.decrypt_encrypt]

/-- A mapping is decrypted when no value in it raises. -/
theorem decryptMapping_returns_iff (store : ManagedSecretStore)
    (rows : List (String × String)) :
    (∃ result, store.decryptMapping rows = .ok result) ↔
      ∀ row ∈ rows, ∀ exc, store.decrypt row.2 ≠ .raised exc := by
  induction rows with
  | nil => exact iff_of_true ⟨_, rfl⟩ fun row hrow => by cases hrow
  | cons row rest ih =>
      unfold ManagedSecretStore.decryptMapping
      rw [List.forall_mem_cons, ← ih]
      cases hdecrypt : store.decrypt row.2 with
      | raised exc =>
          refine iff_of_false ?_ fun h => h.1 exc rfl
          rintro ⟨result, h⟩
          cases h
      | invalidToken =>
          rw [exists_bind_ok_iff, and_iff_right fun exc h => by cases h]
          constructor
          · rintro ⟨result, h, -⟩
            exact ⟨result, h⟩
          · rintro ⟨result, h⟩
            exact ⟨result, h, _, rfl⟩
      | plaintext text =>
          rw [exists_bind_ok_iff, and_iff_right fun exc h => by cases h]
          constructor
          · rintro ⟨result, h, -⟩
            exact ⟨result, h⟩
          · rintro ⟨result, h⟩
            exact ⟨result, h, _, rfl⟩

/-- The decrypted mapping has the values that can be read. -/
theorem dictGet_decryptMapping {store : ManagedSecretStore} {rows : List (String × String)}
    (hrows : (rows.map Prod.fst).Nodup) {result : List (String × String) × List String}
    (h : store.decryptMapping rows = .ok result) (key : String) :
    dictGet result.1 key = (dictGet rows key).bind store.opens := by
  induction rows generalizing result with
  | nil =>
      cases h
      rfl
  | cons row rest ih =>
      rw [List.map_cons, List.nodup_cons] at hrows
      have hrest : dictGet rest row.1 = none := by
        cases hfound : dictGet rest row.1 with
        | none => rfl
        | some value => exact absurd (List.mem_map_of_mem (mem_of_dictGet hfound)) hrows.1
      unfold ManagedSecretStore.decryptMapping at h
      rw [dictGet_cons]
      cases hdecrypt : store.decrypt row.2 with
      | raised exc =>
          rw [hdecrypt] at h
          cases h
      | invalidToken =>
          have hopens : store.opens row.2 = none := by
            unfold ManagedSecretStore.opens
            rw [hdecrypt]
          rw [hdecrypt] at h
          obtain ⟨others, hothers, h⟩ := bind_ok_iff.mp h
          rw [← Except.ok.inj h]
          dsimp only
          by_cases hkey : row.1 = key
          · rw [if_pos hkey, Option.bind_some, hopens, ih hrows.2 hothers, ← hkey, hrest]
            rfl
          · rw [if_neg hkey]
            exact ih hrows.2 hothers
      | plaintext text =>
          have hopens : store.opens row.2 = some text := by
            unfold ManagedSecretStore.opens
            rw [hdecrypt]
          rw [hdecrypt] at h
          obtain ⟨others, hothers, h⟩ := bind_ok_iff.mp h
          rw [← Except.ok.inj h]
          dsimp only
          rw [dictGet_cons]
          by_cases hkey : row.1 = key
          · rw [if_pos hkey, if_pos hkey, Option.bind_some, hopens]
          · rw [if_neg hkey, if_neg hkey]
            exact ih hrows.2 hothers

/-! ## The reported sources -/

/-- The sources of a secret. -/
inductive SecretSource where
  | managed
  | env
  | config
  | missing
deriving DecidableEq, Repr

/-- The status of a secret slot. -/
structure SecretSlot where
  key : String
  label : String
  kind : String
  envVar : String
  configured : Bool
  source : SecretSource
  managed : Bool
  providerId : String
  enabled : Bool
  discoveryEnabled : Bool
  inferenceEnabled : Bool
deriving DecidableEq, Repr

section Admin

variable {F : Type} [Runtime F]

/-- `_secret_slot_status`, for the slot of a provider. -/
def secretSlotStatus (host : Host) (settings : Settings F)
    (secretKey label kind envVar : String) (managedSecretRows : List (String × String))
    (configuredInConfig : Bool) (providerId : String) : SecretSlot :=
  let managed := (dictGet managedSecretRows secretKey).isSome
  let source : SecretSource :=
    if managed then .managed
    else if stripped ((host.getenv envVar).getD "") ≠ "" then .env
    else if configuredInConfig then .config
    else .missing
  { key := secretKey, label := label, kind := kind, envVar := envVar
    configured := source != .missing, source := source, managed := managed
    providerId := providerId
    enabled := settings.isProviderEnabled providerId
    discoveryEnabled := settings.isProviderDiscoveryEnabled providerId
    inferenceEnabled := settings.isProviderInferenceEnabled providerId }

/-- The slot of `openrouter` in `_list_secret_slots`. -/
def openrouterSlot (host : Host) (settings : Settings F) (rows : List (String × String)) :
    SecretSlot :=
  secretSlotStatus host settings "openrouter_api_key" "OpenRouter API key" "provider"
    "OPENROUTER_API_KEY" rows false "openrouter"

/-- The slot of another provider in `_list_secret_slots`. -/
def providerSlot (host : Host) (settings : Settings F) (rows : List (String × String))
    (providerId : String) : SecretSlot :=
  secretSlotStatus host settings ("providers." ++ providerId ++ ".api_key")
    (providerId ++ " API key") "provider" (settings.getProviderApiKeyEnv providerId) rows
    (decide (configKey settings providerId ≠ "")) providerId

/-- `_list_secret_slots`, after the query. -/
def listSecretSlots (host : Host) (settings : Settings F) (rows : List (String × String)) :
    List SecretSlot :=
  openrouterSlot host settings rows ::
    (settings.supportedProviderIds.filter fun providerId => decide (providerId ≠ "openrouter")).map
      (providerSlot host settings rows)

/-! ## Setting a secret -/

/-- The answer of the call. -/
structure SecretResponse where
  status : String
  key : String
  secrets : List SecretSlot

/-- What the call meets outside the application. -/
structure SecretSurroundings (F : Type) extends Surroundings F where
  /-- The vault whose store the application has while it is unlocked. -/
  vault : SecretVault
  /-- The writer executes the statement; one that fails is dropped. -/
  executes : Bool
  /-- `list_managed_secrets`. -/
  listing : Except Exc Unit
  /-- `openrouter_api_key=os.getenv("OPENROUTER_API_KEY", "")` in `from_env`. -/
  readsEnv : ∀ settings, fromEnv = .ok settings →
    settings.openrouterApiKey = (host.getenv "OPENROUTER_API_KEY").getD ""

/-- `_require_secret_management_unlocked`. -/
def requireSecretManagementUnlocked (app : App F) : Except AdminError ManagedSecretStore :=
  match app.secretVaultConfig with
  | none => .error (.http 409 "secret vault is not configured")
  | some _ =>
      match app.secretStore with
      | none => .error (.http 423 "secret vault is locked")
      | some store => .ok store

/-- The secrets after the statement of `set_managed_secret`. -/
def App.withSecret (app : App F) (env : SecretSurroundings F) (key value : String) : App F :=
  { app with
    db := { app.db with
      managedSecrets :=
        if env.executes then dictSet app.db.managedSecrets key (env.vault.encrypt value)
        else app.db.managedSecrets } }

/-- `admin_set_secret`. -/
def adminSetSecret [FloatArith F] (env : SecretSurroundings F) (secretKey : String)
    (payload : List (String × PyValue F)) : EStateM AdminError (App F) SecretResponse :=
  let normalizedKey := stripped secretKey
  if isManagedSecretKey normalizedKey = false then throw (.http 400 "secret key not allowed")
  else
    match dictGet payload "value" with
    | none => throw (.http 400 "missing value")
    | some raw => do
        let value := stripped raw.toStr
        if value = "" then throw (.http 400 "secret value cannot be empty")
        let app ← get
        let _ ← call (requireSecretManagementUnlocked app)
        modify fun app => app.withSecret env normalizedKey value
        let _ ← (reloadSettings env.toSurroundings).adaptExcept .raised
        call (env.listing.mapError .raised)
        let app ← get
        return { status := "updated", key := normalizedKey
                 secrets := listSecretSlots env.host app.settings app.db.managedSecrets }

/-! ## What a call does -/

section Calls

variable [FloatArith F]

/-- A call returns exactly when the value is not blank, the vault is unlocked, the reload after
the statement returns, and the secrets can be listed. -/
theorem run_adminSetSecret_iff {env : SecretSurroundings F} {secretKey : String}
    (hmanaged : isManagedSecretKey (stripped secretKey) = true)
    {payload : List (String × PyValue F)} {raw : PyValue F}
    (hpayload : dictGet payload "value" = some raw) {app after : App F}
    {response : SecretResponse} :
    (adminSetSecret env secretKey payload).run app = .ok response after ↔
      stripped raw.toStr ≠ "" ∧ (∃ store, requireSecretManagementUnlocked app = .ok store) ∧
        (∃ settings, (reloadSettings env.toSurroundings).run
          (app.withSecret env (stripped secretKey) (stripped raw.toStr)) = .ok settings after) ∧
        env.listing = .ok () ∧
        response = { status := "updated", key := stripped secretKey
                     secrets := listSecretSlots env.host after.settings
                       after.db.managedSecrets } := by
  have hget : (get : EStateM AdminError (App F) (App F)).run app = .ok app app := rfl
  unfold adminSetSecret
  dsimp only
  rw [if_neg (by rw [hmanaged]; exact Bool.noConfusion), hpayload]
  dsimp only
  by_cases hblank : stripped raw.toStr = ""
  · rw [if_pos hblank]
    refine iff_of_false (fun h => ?_) fun h => h.1 hblank
    cases h
  · rw [if_neg hblank, and_iff_right hblank]
    rw [run_bind_of_ok hget]
    constructor
    · intro h
      obtain ⟨store, s, hunlocked, hstoring⟩ := run_bind_ok_iff.mp h
      obtain ⟨hunlocked, hs⟩ := run_call_ok_iff.mp hunlocked
      rw [hs] at hstoring
      obtain ⟨_, stored, hstored, hreloading⟩ := run_bind_ok_iff.mp hstoring
      obtain ⟨settings, reloaded, hreload, hanswering⟩ := run_bind_ok_iff.mp hreloading
      obtain ⟨_, listed, hlisting, hanswer⟩ := run_bind_ok_iff.mp hanswering
      obtain ⟨hlisting, hlisted⟩ := run_call_ok_iff.mp hlisting
      cases hstored
      cases hlisted
      cases hanswer
      refine ⟨⟨store, hunlocked⟩, ⟨settings, run_adaptExcept_ok_iff.mp hreload⟩, ?_, rfl⟩
      cases hok : env.listing with
      | ok answer => rfl
      | error exc =>
          rw [hok] at hlisting
          cases hlisting
    · rintro ⟨⟨store, hunlocked⟩, ⟨settings, hreload⟩, hlisting, rfl⟩
      have hstored : (modify fun app : App F =>
          app.withSecret env (stripped secretKey) (stripped raw.toStr) :
          EStateM AdminError (App F) PUnit).run app =
            .ok () (app.withSecret env (stripped secretKey) (stripped raw.toStr)) := rfl
      rw [hunlocked, run_bind_of_ok (run_call_ok store app), run_bind_of_ok hstored,
        run_bind_of_ok (run_adaptExcept_of_ok hreload _), hlisting]
      rfl

/-! ## The reload after a call -/

/-- The settings that a reload prepares, before it applies the secrets. -/
def effectiveSettings (env : Surroundings F) (app : App F) : Except Exc (Settings F) := do
  let settings ← env.fromEnv
  let overrides ← getOverrides app.db.overrides
  applyOverrides settings overrides

/-- The text under a key, where one is stored that can be read. -/
def storedSecret (store : ManagedSecretStore) (rows : List (String × String)) (key : String) :
    Option String :=
  (dictGet rows key).bind store.opens

theorem loadManagedSecrets_ok_iff {rows : List (String × String)} {store : ManagedSecretStore}
    {config : Option SecretVaultConfig} :
    (∃ loaded, loadManagedSecrets rows (some store) config = .ok loaded) ↔
      ∀ row ∈ rows, ∀ exc, store.decrypt row.2 ≠ .raised exc := by
  rw [← decryptMapping_returns_iff]
  unfold loadManagedSecrets
  dsimp only
  rw [exists_bind_ok_iff]
  constructor
  · rintro ⟨result, h, -⟩
    exact ⟨result, h⟩
  · rintro ⟨result, h⟩
    exact ⟨result, h, _, rfl⟩

omit [FloatArith F] in
/-- The prepared settings have the stored secrets. -/
theorem settings_prepareReload {env : Surroundings F} {app : App F} {new : Prepared F}
    (h : prepareReload env app = .ok new) {base : Settings F}
    (hbase : effectiveSettings env app = .ok base) {store : ManagedSecretStore}
    (hstore : app.secretStore = some store)
    (hrows : (app.db.managedSecrets.map Prod.fst).Nodup) :
    ∃ secrets, (∀ key, dictGet secrets key = storedSecret store app.db.managedSecrets key) ∧
      new.settings = base.applyManagedSecrets secrets := by
  obtain ⟨start, hstart, hbase⟩ := bind_ok_iff.mp hbase
  obtain ⟨overrides, hoverrides, hbase⟩ := bind_ok_iff.mp hbase
  unfold prepareReload at h
  rw [hstart, ok_bind] at h
  obtain ⟨-, -, h⟩ := bind_ok_iff.mp h
  rw [hoverrides, ok_bind, hbase, ok_bind] at h
  obtain ⟨-, -, h⟩ := bind_ok_iff.mp h
  obtain ⟨-, -, h⟩ := bind_ok_iff.mp h
  obtain ⟨loaded, hloaded, h⟩ := bind_ok_iff.mp h
  obtain ⟨-, -, h⟩ := bind_ok_iff.mp h
  rw [hstore] at hloaded
  unfold loadManagedSecrets at hloaded
  obtain ⟨result, hresult, hloaded⟩ := bind_ok_iff.mp hloaded
  refine ⟨result.1, dictGet_decryptMapping hrows hresult, ?_⟩
  rw [← Except.ok.inj h, ← Except.ok.inj hloaded]

/-- What a reload leaves: the settings with the stored secrets, and adapters with their keys. -/
structure ReloadedWith (env : Surroundings F) (store : ManagedSecretStore) (base : Settings F)
    (rows : List (String × String)) (after : App F) : Prop where
  rows_eq : after.db.managedSecrets = rows
  settings : ∃ secrets, (∀ key, dictGet secrets key = storedSecret store rows key) ∧
    after.settings = base.applyManagedSecrets secrets
  registered : ∀ name ∈ providersWithDefaultKey,
    base.Knows name ∨ (storedSecret store rows (secretKeyFor name)).isSome →
      (dictGet after.registry.providers name).isSome
  key_of_registered : ∀ name registered, dictGet after.registry.providers name = some registered →
    name ∈ providersWithDefaultKey ∧
      (base.Knows name ∨ (storedSecret store rows (secretKeyFor name)).isSome) ∧
      registered.adapter.adapter.apiKey =
        keyWith env.host base name (storedSecret store rows (secretKeyFor name))

theorem reloadedWith_of_run {env : Surroundings F} {app after : App F} {settings base : Settings F}
    (h : (reloadSettings env).run app = .ok settings after)
    (hbase : effectiveSettings env app = .ok base) {store : ManagedSecretStore}
    (hstore : app.secretStore = some store)
    (hrows : (app.db.managedSecrets.map Prod.fst).Nodup) :
    ReloadedWith env store base app.db.managedSecrets after := by
  obtain ⟨new, hprepare, hbuild, -⟩ :=
    (reloadSettings_returns_iff env app).mp ⟨settings, after, h⟩
  obtain ⟨secrets, hsecrets, hnew⟩ := settings_prepareReload hprepare hbase hstore hrows
  have hview : ∀ {β : Type} (view : App F → β), Keeps view (followUp env new.settings) →
      view after = view (assigned env new app) := by
    intro β view hkeeps
    rw [← view_reloadSettings_of_buildable view hprepare hbuild hkeeps, finalState_of_ok h]
  have hsettings : after.settings = new.settings :=
    hview App.settings (keeps_followUp (fun _ _ => rfl) (fun _ _ => rfl) (fun _ _ => rfl)
      fun _ _ => rfl)
  have hregistry : after.registry = rebuilt env new.settings app := by
    rw [hview App.registry (keeps_followUp (fun _ _ => rfl) (fun _ _ => rfl) (fun _ _ => rfl)
      fun _ _ => rfl)]
    unfold assigned App.assign
    dsimp only
  have hstored : after.db.managedSecrets = app.db.managedSecrets :=
    hview (fun app => app.db.managedSecrets) (keeps_followUp (fun _ _ => rfl) (fun _ _ => rfl)
      (fun _ _ => rfl) fun _ _ => rfl)
  obtain ⟨hkeys, hregistered⟩ := apiKey_configureRegistry hbuild app.registry
  change (∀ name registered, dictGet (rebuilt env new.settings app).providers name =
    some registered → _) at hkeys
  change (∀ name ∈ providersWithDefaultKey, new.settings.Knows name →
    (dictGet (rebuilt env new.settings app).providers name).isSome) at hregistered
  rw [← hregistry, hnew] at hkeys hregistered
  constructor
  · exact hstored
  · exact ⟨secrets, hsecrets, hsettings.trans hnew⟩
  · intro name hdefault hknown
    rw [← hsecrets, ← knows_applyManagedSecrets_iff hdefault] at hknown
    exact hregistered name hdefault hknown
  · intro name registered hget
    obtain ⟨hdefault, hknown, hkey⟩ := hkeys name registered hget
    rw [knows_applyManagedSecrets_iff hdefault, hsecrets] at hknown
    rw [providerKey_applyManagedSecrets env.host base secrets hdefault, hsecrets] at hkey
    exact ⟨hdefault, hknown, hkey⟩

/-! ## When the reported sources are true -/

/-- The key comes from the source that a slot reports.  An adapter keeps no trace of the origin
of its key, so the texts are compared, up to outer whitespace. -/
structure SecretSlot.Truthful (env : SecretSurroundings F) (base : Settings F)
    (rows : List (String × String)) (slot : SecretSlot) (apiKey : String) : Prop where
  managed : slot.source = .managed → ∃ text,
    storedSecret env.vault.store rows slot.key = some text ∧ stripped apiKey = stripped text
  env : slot.source = .env →
    stripped apiKey = stripped ((env.host.getenv slot.envVar).getD "")
  config : slot.source = .config → apiKey = configKey base slot.providerId

/-- The slot of a provider. -/
def slotOf (host : Host) (settings : Settings F) (rows : List (String × String))
    (providerId : String) : SecretSlot :=
  if providerId = "openrouter" then openrouterSlot host settings rows
  else providerSlot host settings rows providerId

/-- What is stored and configured for a provider agrees with what its adapter uses: a stored
secret can be read and is the text of the environment variable, if there is one, and a
configured key is not hidden by a blank variable. -/
structure SourceAgrees (env : SecretSurroundings F) (base : Settings F)
    (rows : List (String × String)) (providerId : String) : Prop where
  stored : (dictGet rows (secretKeyFor providerId)).isSome → ∃ text,
    storedSecret env.vault.store rows (secretKeyFor providerId) = some text ∧
      (providerId ≠ "openrouter" → environmentKey env.host base providerId = "" ∨
        stripped (environmentKey env.host base providerId) = stripped text)
  configured : dictGet rows (secretKeyFor providerId) = none → providerId ≠ "openrouter" →
    configKey base providerId ≠ "" → environmentKey env.host base providerId = "" ∨
      stripped (environmentKey env.host base providerId) ≠ ""

omit [FloatArith F] in
theorem mem_listSecretSlots {host : Host} {settings : Settings F} {rows : List (String × String)}
    {slot : SecretSlot} :
    slot ∈ listSecretSlots host settings rows ↔
      slot = slotOf host settings rows slot.providerId ∧
        (slot.providerId = "openrouter" ∨
          slot.providerId ∈ settings.supportedProviderIds) := by
  unfold listSecretSlots
  rw [List.mem_cons, List.mem_map]
  constructor
  · rintro (rfl | ⟨providerId, hmem, rfl⟩)
    · exact ⟨rfl, .inl rfl⟩
    · rw [List.mem_filter, decide_eq_true_eq] at hmem
      have hid : (providerSlot host settings rows providerId).providerId = providerId := rfl
      rw [hid]
      unfold slotOf
      rw [if_neg hmem.2]
      exact ⟨rfl, .inr hmem.1⟩
  · rintro ⟨hslot, hid⟩
    by_cases hopenrouter : slot.providerId = "openrouter"
    · left
      rw [hslot]
      unfold slotOf
      rw [if_pos hopenrouter]
    · right
      refine ⟨slot.providerId, ?_, ?_⟩
      · rw [List.mem_filter, decide_eq_true_eq]
        exact ⟨hid.resolve_left hopenrouter, hopenrouter⟩
      · unfold slotOf at hslot
        rw [if_neg hopenrouter] at hslot
        exact hslot.symm

omit [FloatArith F] [Runtime F] in
/-- Which source is reported. -/
theorem source_secretSlotStatus (host : Host) (settings : Settings F)
    (secretKey label kind envVar : String) (rows : List (String × String)) (configured : Bool)
    (providerId : String) :
    let slot := secretSlotStatus host settings secretKey label kind envVar rows configured
      providerId
    (slot.source = .managed ↔ (dictGet rows secretKey).isSome) ∧
      (slot.source = .env ↔
        dictGet rows secretKey = none ∧ stripped ((host.getenv envVar).getD "") ≠ "") ∧
      (slot.source = .config ↔ dictGet rows secretKey = none ∧
        stripped ((host.getenv envVar).getD "") = "" ∧ configured = true) := by
  unfold secretSlotStatus
  dsimp only
  cases dictGet rows secretKey with
  | some stored => simp
  | none =>
      by_cases henv : stripped ((host.getenv envVar).getD "") = ""
      · cases configured <;> simp [henv]
      · simp [henv]

omit [FloatArith F] in
/-- The slot of `openrouter` is truthful when a stored secret can be read. -/
theorem truthful_openrouterSlot_iff {env : SecretSurroundings F} {base : Settings F}
    (hbase : base.openrouterApiKey = (env.host.getenv "OPENROUTER_API_KEY").getD "")
    (settings : Settings F) (rows : List (String × String)) :
    (openrouterSlot env.host settings rows).Truthful env base rows
        (keyWith env.host base "openrouter"
          (storedSecret env.vault.store rows "openrouter_api_key")) ↔
      SourceAgrees env base rows "openrouter" := by
  obtain ⟨hmanaged, henv, hconfig⟩ := source_secretSlotStatus env.host settings
    "openrouter_api_key" "OpenRouter API key" "provider" "OPENROUTER_API_KEY" rows false
    "openrouter"
  unfold keyWith
  rw [if_pos rfl]
  constructor
  · intro h
    constructor
    · intro hstored
      obtain ⟨text, htext, -⟩ := h.managed (hmanaged.mpr hstored)
      exact ⟨text, htext, fun hother => absurd rfl hother⟩
    · intro _ hother
      exact absurd rfl hother
  · intro h
    constructor
    · intro hsource
      obtain ⟨text, htext, -⟩ := h.stored (hmanaged.mp hsource)
      refine ⟨text, htext, ?_⟩
      have hsecret : storedSecret env.vault.store rows "openrouter_api_key" = some text := htext
      rw [hsecret, Option.getD_some]
    · intro hsource
      have hsecret : storedSecret env.vault.store rows "openrouter_api_key" = none := by
        unfold storedSecret
        rw [(henv.mp hsource).1, Option.bind_none]
      rw [hsecret, Option.getD_none, hbase]
      rfl
    · intro hsource
      cases (hconfig.mp hsource).2.2

omit [FloatArith F] in
/-- Which source is reported for another provider. -/
theorem source_providerSlot (host : Host) (base : Settings F)
    (secrets rows : List (String × String)) {providerId : String}
    (hother : providerId ≠ "openrouter") :
    let slot := providerSlot host (base.applyManagedSecrets secrets) rows providerId
    (slot.source = .managed ↔ (dictGet rows (secretKeyFor providerId)).isSome) ∧
      (slot.source = .env ↔ dictGet rows (secretKeyFor providerId) = none ∧
        stripped (environmentKey host base providerId) ≠ "") ∧
      (slot.source = .config ↔ dictGet rows (secretKeyFor providerId) = none ∧
        stripped (environmentKey host base providerId) = "" ∧
          configKey (base.applyManagedSecrets secrets) providerId ≠ "") := by
  have hkey : "providers." ++ providerId ++ ".api_key" = secretKeyFor providerId :=
    (if_neg hother).symm
  have henvironment : environmentKey host base providerId =
      (host.getenv ((base.applyManagedSecrets secrets).getProviderApiKeyEnv providerId)).getD "" :=
    (environmentKey_applyManagedSecrets host base secrets providerId).symm
  rw [← hkey, henvironment, ← decide_eq_true_eq (p :=
    configKey (base.applyManagedSecrets secrets) providerId ≠ "")]
  exact source_secretSlotStatus host (base.applyManagedSecrets secrets) _ _ _ _ rows _ providerId

omit [FloatArith F] in
/-- The slot of another provider is truthful when the stored secret or the configured key is
what its adapter uses. -/
theorem truthful_providerSlot_iff {env : SecretSurroundings F} {base : Settings F}
    {rows secrets : List (String × String)}
    (hsecrets : ∀ key, dictGet secrets key = storedSecret env.vault.store rows key)
    {providerId : String} (hdefault : providerId ∈ providersWithDefaultKey)
    (hother : providerId ≠ "openrouter") :
    (providerSlot env.host (base.applyManagedSecrets secrets) rows providerId).Truthful env base
        rows (keyWith env.host base providerId
          (storedSecret env.vault.store rows (secretKeyFor providerId))) ↔
      SourceAgrees env base rows providerId := by
  obtain ⟨hmanaged, henv, hconfig⟩ :=
    source_providerSlot env.host base secrets rows hother
  have hslot : (providerSlot env.host (base.applyManagedSecrets secrets) rows providerId).key =
      secretKeyFor providerId := by
    unfold providerSlot secretSlotStatus secretKeyFor
    rw [if_neg hother]
  have hvariable : (env.host.getenv (providerSlot env.host (base.applyManagedSecrets secrets) rows
      providerId).envVar).getD "" = environmentKey env.host base providerId := by
    unfold providerSlot secretSlotStatus
    rw [← environmentKey_applyManagedSecrets env.host base secrets providerId]
    unfold environmentKey
    dsimp only
  -- without a stored secret the configured key is the one of the settings before the secrets
  have hnone : dictGet rows (secretKeyFor providerId) = none →
      storedSecret env.vault.store rows (secretKeyFor providerId) = none ∧
        configKey (base.applyManagedSecrets secrets) providerId = configKey base providerId := by
    intro hmissing
    have hsecret : storedSecret env.vault.store rows (secretKeyFor providerId) = none := by
      unfold storedSecret
      rw [hmissing, Option.bind_none]
    refine ⟨hsecret, ?_⟩
    rw [configKey_applyManagedSecrets base secrets hdefault hother, hsecrets, hsecret]
    rfl
  have hstrippedKey : stripped (configKey base providerId) = configKey base providerId := by
    unfold configKey
    rw [stripped_stripped]
  unfold keyWith
  rw [if_neg hother]
  constructor
  · intro h
    constructor
    · intro hstored
      obtain ⟨text, htext, hsame⟩ := h.managed (hmanaged.mpr hstored)
      rw [hslot] at htext
      refine ⟨text, htext, fun _ => ?_⟩
      by_cases hempty : environmentKey env.host base providerId = ""
      · exact .inl hempty
      · rw [if_neg hempty] at hsame
        exact .inr hsame
    · intro hmissing _ hconfigured
      by_cases hempty : environmentKey env.host base providerId = ""
      · exact .inl hempty
      · right
        intro hblank
        have hsource := hconfig.mpr ⟨hmissing, hblank, by
          rw [(hnone hmissing).2]
          exact hconfigured⟩
        have hsame := h.config hsource
        rw [if_neg hempty] at hsame
        rw [hsame] at hblank
        exact hconfigured (hstrippedKey.symm.trans hblank)
  · intro h
    constructor
    · intro hsource
      obtain ⟨text, htext, hagrees⟩ := h.stored (hmanaged.mp hsource)
      refine ⟨text, ?_, ?_⟩
      · rw [hslot]
        exact htext
      · rw [htext]
        by_cases hempty : environmentKey env.host base providerId = ""
        · rw [if_pos hempty]
          exact stripped_stripped text
        · rw [if_neg hempty]
          exact (hagrees hother).resolve_left hempty
    · intro hsource
      obtain ⟨-, hfilled⟩ := henv.mp hsource
      have hempty : environmentKey env.host base providerId ≠ "" := by
        intro hempty
        rw [hempty] at hfilled
        exact hfilled rfl
      rw [if_neg hempty, hvariable]
    · intro hsource
      obtain ⟨hmissing, hblank, hconfigured⟩ := hconfig.mp hsource
      rw [(hnone hmissing).2] at hconfigured
      have hempty := (h.configured hmissing hother hconfigured).resolve_right
        fun hfilled => hfilled hblank
      rw [if_pos hempty, (hnone hmissing).1]
      rfl

omit [FloatArith F] in
theorem providerId_slotOf (host : Host) (settings : Settings F) (rows : List (String × String))
    (providerId : String) : (slotOf host settings rows providerId).providerId = providerId := by
  unfold slotOf
  split
  · rename_i hopenrouter
    rw [hopenrouter]
    rfl
  · rfl

omit [FloatArith F] in
/-- The slot of a provider is truthful about the key in force exactly when its sources agree. -/
theorem truthful_slotOf_iff {env : SecretSurroundings F} {base : Settings F}
    (hbase : base.openrouterApiKey = (env.host.getenv "OPENROUTER_API_KEY").getD "")
    {rows secrets : List (String × String)}
    (hsecrets : ∀ key, dictGet secrets key = storedSecret env.vault.store rows key)
    {providerId : String} (hdefault : providerId ∈ providersWithDefaultKey) :
    (slotOf env.host (base.applyManagedSecrets secrets) rows providerId).Truthful env base rows
        (keyWith env.host base providerId
          (storedSecret env.vault.store rows (secretKeyFor providerId))) ↔
      SourceAgrees env base rows providerId := by
  unfold slotOf
  by_cases hopenrouter : providerId = "openrouter"
  · rw [if_pos hopenrouter, hopenrouter]
    exact truthful_openrouterSlot_iff hbase _ rows
  · rw [if_neg hopenrouter]
    exact truthful_providerSlot_iff hsecrets hdefault hopenrouter

/-! ## One call -/

/-- The stored secrets after the statement of a call. -/
def rowsAfter (env : SecretSurroundings F) (app : App F) (key value : String) :
    List (String × String) :=
  (app.withSecret env key value).db.managedSecrets

/-- After a call the adapter of a provider has a key, and the slots of the answer are truthful
about the adapters. -/
structure InForce (env : SecretSurroundings F) (base : Settings F) (providerId value : String)
    (response : SecretResponse) (after : App F) : Prop where
  used : ∃ registered, dictGet after.registry.providers providerId = some registered ∧
    registered.adapter.adapter.apiKey = value
  truthful : ∀ slot ∈ response.secrets, ∀ registered,
    dictGet after.registry.providers slot.providerId = some registered →
      slot.Truthful env base after.db.managedSecrets registered.adapter.adapter.apiKey

omit [FloatArith F] [Runtime F] in
theorem rowsAfter_keys_nodup {app : App F} (hrows : (app.db.managedSecrets.map Prod.fst).Nodup)
    (env : SecretSurroundings F) (key value : String) :
    ((rowsAfter env app key value).map Prod.fst).Nodup := by
  unfold rowsAfter App.withSecret
  dsimp only
  split
  · exact dictSet_keys_nodup hrows _ _
  · exact hrows

omit [FloatArith F] in
theorem openrouterApiKey_of_effectiveSettings {env : SecretSurroundings F} {app : App F}
    {base : Settings F} (h : effectiveSettings env.toSurroundings app = .ok base) :
    base.openrouterApiKey = (env.host.getenv "OPENROUTER_API_KEY").getD "" := by
  obtain ⟨start, hstart, h⟩ := bind_ok_iff.mp h
  obtain ⟨overrides, -, h⟩ := bind_ok_iff.mp h
  rw [openrouterApiKey_applyOverrides h]
  exact env.readsEnv start hstart

omit [FloatArith F] [Runtime F] in
/-- An enabled provider is known. -/
theorem knows_of_isProviderEnabled {settings : Settings F} {providerId : String}
    (hstripped : stripped providerId = providerId)
    (h : settings.isProviderEnabled providerId = true) : settings.Knows providerId := by
  unfold Settings.isProviderEnabled at h
  dsimp only at h
  rw [hstripped, Bool.and_eq_true, bne_iff_ne] at h
  obtain ⟨hne, hflag⟩ := h
  refine ⟨providerId, mem_knownProviderIds.mpr ⟨.inl ?_, hne⟩, hstripped⟩
  unfold Settings.namedIds
  simp only [List.mem_append]
  cases hfound : dictGet settings.providerEnabled providerId with
  | none =>
      rw [hfound, Option.getD_none, List.contains_iff_mem] at hflag
      simp [hflag]
  | some flag =>
      have hmem := List.mem_map_of_mem (mem_of_dictGet hfound) (f := Prod.fst)
      simp only [hmem, true_or, or_true]

/-- A call that returns puts the secret in force exactly when the key it leads to is the value
and the sources of the registered providers agree. -/
theorem inForce_iff {env : SecretSurroundings F} {app after : App F} {base : Settings F}
    {secretKey providerId : String} {payload : List (String × PyValue F)} {raw : PyValue F}
    {response : SecretResponse}
    (hmanaged : isManagedSecretKey (stripped secretKey) = true)
    (hdefault : providerId ∈ providersWithDefaultKey)
    (hrows : (app.db.managedSecrets.map Prod.fst).Nodup)
    (hstore : app.secretStore = some env.vault.store)
    (hbase : effectiveSettings env.toSurroundings app = .ok base)
    (hknown : base.Knows providerId)
    (hpayload : dictGet payload "value" = some raw)
    (hrun : (adminSetSecret env secretKey payload).run app = .ok response after)
    {rows : List (String × String)}
    (hafter : rowsAfter env app (stripped secretKey) (stripped raw.toStr) = rows) :
    InForce env base providerId (stripped raw.toStr) response after ↔
      keyWith env.host base providerId
          (storedSecret env.vault.store rows (secretKeyFor providerId)) = stripped raw.toStr ∧
        ∀ other ∈ providersWithDefaultKey,
          base.Knows other ∨ (storedSecret env.vault.store rows (secretKeyFor other)).isSome →
            SourceAgrees env base rows other := by
  obtain ⟨-, -, ⟨settings, hreload⟩, -, hresponse⟩ :=
    (run_adminSetSecret_iff hmanaged hpayload).mp hrun
  have hreloaded := reloadedWith_of_run hreload hbase hstore (rowsAfter_keys_nodup hrows env _ _)
  change ReloadedWith env.toSurroundings env.vault.store base
    (rowsAfter env app (stripped secretKey) (stripped raw.toStr)) after at hreloaded
  rw [hafter] at hreloaded
  obtain ⟨secrets, hsecrets, hsettings⟩ := hreloaded.settings
  have htruthful : ∀ other ∈ providersWithDefaultKey,
      (slotOf env.host after.settings rows other).Truthful env base rows
          (keyWith env.host base other
            (storedSecret env.vault.store rows (secretKeyFor other))) ↔
        SourceAgrees env base rows other := by
    intro other hother
    rw [hsettings]
    exact truthful_slotOf_iff (openrouterApiKey_of_effectiveSettings hbase) hsecrets hother
  have hslot := providerId_slotOf env.host after.settings rows
  constructor
  · rintro ⟨⟨registered, hget, hkey⟩, hslots⟩
    refine ⟨?_, fun other hother hregisters => ?_⟩
    · rw [← hkey, (hreloaded.key_of_registered providerId registered hget).2.2]
    · obtain ⟨registered, hget⟩ :=
        Option.isSome_iff_exists.mp (hreloaded.registered other hother hregisters)
      have hlisted : slotOf env.host after.settings rows other ∈ response.secrets := by
        rw [hresponse]
        dsimp only
        rw [hreloaded.rows_eq, mem_listSecretSlots, hslot]
        exact ⟨rfl, .inr (mem_supportedProviderIds.mpr ⟨.inl hother, (exists_class hother).2.1⟩)⟩
      have htrue := hslots _ hlisted registered (by rw [hslot]; exact hget)
      rw [hreloaded.rows_eq, (hreloaded.key_of_registered other registered hget).2.2] at htrue
      exact (htruthful other hother).mp htrue
  · rintro ⟨hkey, hagree⟩
    constructor
    · obtain ⟨registered, hget⟩ :=
        Option.isSome_iff_exists.mp (hreloaded.registered providerId hdefault (.inl hknown))
      exact ⟨registered, hget,
        (hreloaded.key_of_registered providerId registered hget).2.2.trans hkey⟩
    · intro slot hmem registered hget
      obtain ⟨hother, hregisters, hused⟩ := hreloaded.key_of_registered _ registered hget
      rw [hresponse] at hmem
      dsimp only at hmem
      rw [hreloaded.rows_eq, mem_listSecretSlots] at hmem
      rw [hreloaded.rows_eq, hused]
      have htrue := (htruthful _ hother).mpr (hagree _ hother hregisters)
      rw [← hmem.1] at htrue
      exact htrue

/-! ## Calls with other values -/

omit [FloatArith F] [Runtime F] in
/-- The stored text under a key after a call. -/
theorem dictGet_rowsAfter (env : SecretSurroundings F) (app : App F) (key value other : String) :
    dictGet (rowsAfter env app key value) other =
      if env.executes = true ∧ key = other then some (env.vault.encrypt value)
      else dictGet app.db.managedSecrets other := by
  unfold rowsAfter App.withSecret
  dsimp only
  by_cases hexecutes : env.executes = true
  · rw [if_pos hexecutes, dictGet_dictSet]
    simp only [hexecutes, true_and]
  · rw [if_neg hexecutes, if_neg fun h => hexecutes h.1]

omit [FloatArith F] [Runtime F] in
/-- The secret under a key after a call. -/
theorem storedSecret_rowsAfter (env : SecretSurroundings F) (app : App F)
    (key value other : String) :
    storedSecret env.vault.store (rowsAfter env app key value) other =
      if env.executes = true ∧ key = other then some value
      else storedSecret env.vault.store app.db.managedSecrets other := by
  unfold storedSecret
  rw [dictGet_rowsAfter]
  split
  · rw [Option.bind_some, env.vault.opens_encrypt]
  · rfl

omit [FloatArith F] [Runtime F] in
/-- Whether the stored values can be read after a call does not depend on the value. -/
theorem readable_rowsAfter {env : SecretSurroundings F} {app : App F}
    (hrows : (app.db.managedSecrets.map Prod.fst).Nodup) {key value : String}
    (h : ∀ row ∈ rowsAfter env app key value, ∀ exc,
      env.vault.store.decrypt row.2 ≠ .raised exc) (other : String) :
    ∀ row ∈ rowsAfter env app key other, ∀ exc,
      env.vault.store.decrypt row.2 ≠ .raised exc := by
  intro row hrow exc hraised
  have hget := (dictGet_eq_some_iff (rowsAfter_keys_nodup hrows env key other)).mpr hrow
  rw [dictGet_rowsAfter] at hget
  by_cases hstored : env.executes = true ∧ key = row.1
  · rw [if_pos hstored] at hget
    rw [← Option.some.inj hget, env.vault.decrypt_encrypt] at hraised
    cases hraised
  · rw [if_neg hstored] at hget
    have hold : dictGet (rowsAfter env app key value) row.1 = some row.2 := by
      rw [dictGet_rowsAfter, if_neg hstored]
      exact hget
    exact h row ((dictGet_eq_some_iff (rowsAfter_keys_nodup hrows env key value)).mp hold) exc
      hraised

/-- Whether the reload after the statement returns does not depend on the value. -/
theorem returns_reload_of_other_value {env : SecretSurroundings F} {app : App F}
    {base : Settings F} (hrows : (app.db.managedSecrets.map Prod.fst).Nodup)
    (hstore : app.secretStore = some env.vault.store)
    (hbase : effectiveSettings env.toSurroundings app = .ok base) {key value other : String}
    (h : Returns (reloadSettings env.toSurroundings) (app.withSecret env key value)) :
    Returns (reloadSettings env.toSurroundings) (app.withSecret env key other) := by
  rw [reloadSettings_returns_iff] at h ⊢
  obtain ⟨new, hprepare, hbuild, hanswered⟩ := h
  have hprepared : ∃ new, prepareReload env.toSurroundings (app.withSecret env key other) =
      .ok new := by
    obtain ⟨hstart, hread, hoverrides, hvault, hmanaged, hloaded, hlogger⟩ :=
      (prepareReload_ok_iff _ _).mp ⟨new, hprepare⟩
    refine (prepareReload_ok_iff _ _).mpr
      ⟨hstart, hread, hoverrides, hvault, hmanaged, ?_, hlogger⟩
    change ∃ secrets, loadManagedSecrets (rowsAfter env app key value) app.secretStore _ =
      .ok secrets at hloaded
    change ∃ secrets, loadManagedSecrets (rowsAfter env app key other) app.secretStore _ =
      .ok secrets
    rw [hstore, loadManagedSecrets_ok_iff] at hloaded ⊢
    exact readable_rowsAfter hrows hloaded other
  obtain ⟨new', hprepare'⟩ := hprepared
  obtain ⟨secrets, hsecrets, hnew⟩ := settings_prepareReload hprepare hbase hstore
    (rowsAfter_keys_nodup hrows env key value)
  obtain ⟨secrets', hsecrets', hnew'⟩ := settings_prepareReload hprepare' hbase hstore
    (rowsAfter_keys_nodup hrows env key other)
  have hsame : SameButKeys new.settings new'.settings := by
    rw [hnew, hnew']
    apply sameButKeys_applyManagedSecrets
    intro slot
    rw [hsecrets, hsecrets']
    change (storedSecret env.vault.store (rowsAfter env app key value) slot).isSome =
      (storedSecret env.vault.store (rowsAfter env app key other) slot).isSome
    rw [storedSecret_rowsAfter, storedSecret_rowsAfter]
    split <;> rfl
  have hint : new'.settings.int = new.settings.int := by
    rw [hnew, hnew', view_applyManagedSecrets Settings.int (fun _ _ => rfl) fun _ _ => rfl,
      view_applyManagedSecrets Settings.int (fun _ _ => rfl) fun _ _ => rfl]
  refine ⟨new', hprepare', buildable_of_sameButKeys hsame hbuild, ?_⟩
  constructor
  · exact hanswered.gatewayAuthConfig
  · exact hanswered.activeProviders
  · intro job hjob
    have hinterval : job.interval new'.settings = job.interval new.settings := by
      unfold Job.interval
      rw [hint]
    rw [hinterval]
    exact hanswered.triggers job hjob
  · exact hanswered.readinessProviders
  · exact hanswered.routableModels

/-- Where one value can be set, every other value that is not blank can. -/
theorem returns_with_other_value {env : SecretSurroundings F} {app after : App F}
    {base : Settings F} (hrows : (app.db.managedSecrets.map Prod.fst).Nodup)
    (hstore : app.secretStore = some env.vault.store)
    (hbase : effectiveSettings env.toSurroundings app = .ok base) {secretKey : String}
    (hmanaged : isManagedSecretKey (stripped secretKey) = true)
    {payload : List (String × PyValue F)} {response : SecretResponse}
    (hrun : (adminSetSecret env secretKey payload).run app = .ok response after)
    {text : String} (htext : stripped text ≠ "") :
    Returns (adminSetSecret env secretKey [("value", .str text)]) app := by
  have hpayload : ∃ raw, dictGet payload "value" = some raw := by
    cases hfound : dictGet payload "value" with
    | some raw => exact ⟨raw, rfl⟩
    | none =>
        unfold adminSetSecret at hrun
        dsimp only at hrun
        rw [if_neg (by rw [hmanaged]; exact Bool.noConfusion), hfound] at hrun
        cases hrun
  obtain ⟨raw, hraw⟩ := hpayload
  obtain ⟨-, hunlocked, ⟨settings, hreload⟩, hlisting, -⟩ :=
    (run_adminSetSecret_iff hmanaged hraw).mp hrun
  obtain ⟨settings', after', hreload'⟩ := returns_reload_of_other_value hrows hstore hbase
    ⟨settings, after, hreload⟩
  have hvalue : dictGet [("value", PyValue.str (F := F) text)] "value" = some (.str text) := rfl
  exact ⟨_, after', (run_adminSetSecret_iff hmanaged hvalue).mpr
    ⟨htext, hunlocked, ⟨settings', hreload'⟩, hlisting, rfl⟩⟩

/-! ## When a secret takes effect -/

/-- Whatever value is set under a key, once the call has returned the adapter of the provider
uses it and the reported sources are true. -/
def TakesEffectFor (env : SecretSurroundings F) (app : App F) (base : Settings F)
    (secretKey providerId : String) : Prop :=
  ∀ payload raw response after, dictGet payload "value" = some raw →
    (adminSetSecret env secretKey payload).run app = .ok response after →
      InForce env base providerId (stripped raw.toStr) response after

/-- The statement is executed, the key is spelled as it is looked up, no environment variable
stands before the secret, and the sources of the other registered providers agree. -/
structure KeysAgree (env : SecretSurroundings F) (app : App F) (base : Settings F)
    (secretKey providerId : String) : Prop where
  executes : env.executes = true
  spelled : stripped secretKey = secretKeyFor providerId
  unshadowed : providerId = "openrouter" ∨ environmentKey env.host base providerId = ""
  others : ∀ other ∈ providersWithDefaultKey, other ≠ providerId →
    base.Knows other ∨
      (storedSecret env.vault.store app.db.managedSecrets (secretKeyFor other)).isSome →
      SourceAgrees env base app.db.managedSecrets other

omit [FloatArith F] in
/-- The sources of a provider agree after a call under the key of another one when they agreed
before. -/
theorem sourceAgrees_rowsAfter_iff {env : SecretSurroundings F} {app : App F} {base : Settings F}
    {key value other : String} (h : key ≠ secretKeyFor other) :
    SourceAgrees env base (rowsAfter env app key value) other ↔
      SourceAgrees env base app.db.managedSecrets other := by
  have hrow : dictGet (rowsAfter env app key value) (secretKeyFor other) =
      dictGet app.db.managedSecrets (secretKeyFor other) := by
    rw [dictGet_rowsAfter, if_neg fun hboth => h hboth.2]
  have hsecret : storedSecret env.vault.store (rowsAfter env app key value)
      (secretKeyFor other) =
      storedSecret env.vault.store app.db.managedSecrets (secretKeyFor other) := by
    unfold storedSecret
    rw [hrow]
  constructor
  · intro hagrees
    exact ⟨fun hstored => hsecret ▸ hagrees.stored (hrow ▸ hstored),
      fun hnone => hagrees.configured (hrow.trans hnone)⟩
  · intro hagrees
    exact ⟨fun hstored => hsecret ▸ hagrees.stored (hrow ▸ hstored),
      fun hnone => hagrees.configured (hrow.symm.trans hnone)⟩

omit [FloatArith F] in
/-- Unless the secret is stored where it is looked up and nothing stands before it, the key in
force does not depend on the value. -/
theorem keyWith_rowsAfter_of_not {env : SecretSurroundings F} {app : App F} {base : Settings F}
    {key providerId : String}
    (h : ¬ (env.executes = true ∧ key = secretKeyFor providerId ∧
      (providerId = "openrouter" ∨ environmentKey env.host base providerId = "")))
    (value other : String) :
    keyWith env.host base providerId
        (storedSecret env.vault.store (rowsAfter env app key value) (secretKeyFor providerId)) =
      keyWith env.host base providerId
        (storedSecret env.vault.store (rowsAfter env app key other) (secretKeyFor providerId)) := by
  rw [storedSecret_rowsAfter, storedSecret_rowsAfter]
  by_cases hstored : env.executes = true ∧ key = secretKeyFor providerId
  · have hshadowed : ¬ (providerId = "openrouter" ∨
        environmentKey env.host base providerId = "") := fun hfree =>
      h ⟨hstored.1, hstored.2, hfree⟩
    rw [not_or] at hshadowed
    unfold keyWith
    rw [if_neg hshadowed.1, if_neg hshadowed.1, if_neg hshadowed.2, if_neg hshadowed.2]
  · rw [if_neg hstored, if_neg hstored]

omit [FloatArith F] in
/-- A secret that is stored where it is looked up and has nothing before it is the key in
force. -/
theorem keyWith_rowsAfter {env : SecretSurroundings F} {app : App F} {base : Settings F}
    {secretKey providerId : String} (h : KeysAgree env app base secretKey providerId)
    {value : String} (hvalue : stripped value = value) :
    keyWith env.host base providerId (storedSecret env.vault.store
        (rowsAfter env app (stripped secretKey) value) (secretKeyFor providerId)) = value := by
  rw [storedSecret_rowsAfter, if_pos ⟨h.executes, h.spelled⟩]
  unfold keyWith
  by_cases hopenrouter : providerId = "openrouter"
  · rw [if_pos hopenrouter]
    rfl
  · rw [if_neg hopenrouter, if_pos (h.unshadowed.resolve_left hopenrouter)]
    exact hvalue

end Calls

end Admin

/-! ## A variable of the environment before a stored secret -/

/-- A vault whose tokens begin with a mark. -/
def markedVault : SecretVault where
  store :=
    { decrypt := fun stored =>
        if startsWith stored.toList "token:".toList then
          .plaintext (String.ofList (stored.toList.drop 6))
        else .invalidToken }
  encrypt text := "token:" ++ text
  decrypt_encrypt := by
    intro text
    dsimp only
    rw [String.toList_append]
    have hstart : startsWith ("token:".toList ++ text.toList) "token:".toList = true := by
      unfold startsWith
      rw [List.isPrefixOf_iff_prefix]
      exact List.prefix_append _ _
    have hrest : ("token:".toList ++ text.toList).drop 6 = text.toList :=
      List.drop_left' (by decide)
    rw [if_pos hstart, hrest, String.ofList_toList]

/-- What `from_env` makes of a configuration file that enables `openrouter` and `groq`, with no
key for `openrouter` in the environment. -/
def settingsWithGroq : Settings Exact :=
  { settingsWithOpenrouter [] with
    openrouterApiKey := ""
    providersEnabled := ["openrouter", "groq"] }

/-- Surroundings that answer everything; `GROQ_API_KEY` is the one variable that can be set. -/
def answeringWithGroq (groqApiKey : Option String) : SecretSurroundings Exact where
  fromEnv := .ok settingsWithGroq
  host := { plainHost with
    getenv := fun name => if name = "GROQ_API_KEY" then groqApiKey else none }
  access _ := .ok ()
  intervalTrigger _ := .ok ()
  vault := markedVault
  executes := true
  listing := .ok ()
  readsEnv := by
    intro settings h
    cases h
    rfl

/-- An application with an unlocked vault that stores nothing yet. -/
def servingUnlocked : App Exact :=
  let app := servingOpenrouter ⟨[], List.nodup_nil⟩
  { app with
    db := { app.db with secretVaultConfig := some ⟨"salt", "verifier"⟩ }
    secretVaultConfig := some ⟨"salt", "verifier"⟩
    secretStore := some markedVault.store }

theorem managedSecrets_servingUnlocked :
    (servingUnlocked.db.managedSecrets.map Prod.fst).Nodup :=
  List.nodup_nil

/-- The key of the adapter of a provider after a call that returned. -/
def keyInUse (result : EStateM.Result AdminError (App Exact) SecretResponse)
    (providerId : String) : Option String :=
  match result with
  | .ok _ after =>
      (dictGet after.registry.providers providerId).map fun registered =>
        registered.adapter.adapter.apiKey
  | .error _ _ => none

theorem exists_of_keyInUse {result : EStateM.Result AdminError (App Exact) SecretResponse}
    {providerId key : String} (h : keyInUse result providerId = some key) :
    ∃ response after registered, result = .ok response after ∧
      dictGet after.registry.providers providerId = some registered ∧
      registered.adapter.adapter.apiKey = key := by
  cases result with
  | ok response after =>
      obtain ⟨registered, hget, hkey⟩ := Option.map_eq_some_iff.mp h
      exact ⟨response, after, registered, rfl, hget, hkey⟩
  | error exc after => cases h

theorem effectiveSettings_servingUnlocked (groqApiKey : Option String) :
    effectiveSettings (answeringWithGroq groqApiKey).toSurroundings servingUnlocked =
      .ok settingsWithGroq :=
  rfl

end Runtime
end FreeLunch
