import FreeLunch.Runtime.Reload
import Mathlib.Data.String.Basic

/-!
# The keys of the registered adapters

Where an adapter takes its API key from.  `resolve_openai_compatible_credentials` prefers the
environment to the configuration, `_openrouter_adapter_factory` uses the key of the settings,
and `apply_managed_secrets` writes the stored secrets into both before the registry is built.

Main results:

- Theorem `apiKey_configureRegistry`: after a rebuild every registered adapter has the key of
  its provider, and every known provider with an adapter is registered.
- Theorem `providerKey_applyManagedSecrets`: which key a stored secret replaces.
- Theorem `buildable_of_sameButKeys`: whether a rebuild returns does not depend on the keys.
-/

namespace FreeLunch
namespace Runtime

open Python Transactions Writes

section ProviderKeys

variable {F : Type} [Runtime F]

/-! ## The key of a provider -/

/-- `PROVIDER_DEFAULT_API_KEY_ENVS`. -/
def providerDefaultApiKeyEnvs : List (String × String) :=
  [("openrouter", "OPENROUTER_API_KEY"), ("openai", "OPENAI_API_KEY"),
    ("together", "TOGETHER_API_KEY"), ("groq", "GROQ_API_KEY"), ("deepseek", "DEEPSEEK_API_KEY"),
    ("xai", "XAI_API_KEY"), ("cerebras", "CEREBRAS_API_KEY"),
    ("perplexity", "PERPLEXITY_API_KEY"), ("nvidia", "NVIDIA_API_KEY")]

/-- `get_provider_api_key_env`. -/
def Settings.getProviderApiKeyEnv (settings : Settings F) (providerId : String) : String :=
  let normalized := stripped providerId
  if normalized = "" then "API_KEY"
  else
    configText (settings.getProviderBootstrapConfig normalized) "api_key_env"
      ((dictGet providerDefaultApiKeyEnvs normalized).getD "API_KEY")

/-- `str(provider_config.get("api_key", "")).strip()`. -/
def configKey (settings : Settings F) (providerId : String) : String :=
  stripped ((dictGet (settings.getProviderBootstrapConfig providerId) "api_key").getD
    (.str "")).toStr

/-- The text of the environment variable for the key of a provider. -/
def environmentKey (host : Host) (settings : Settings F) (providerId : String) : String :=
  (host.getenv (settings.getProviderApiKeyEnv providerId)).getD ""

/-- The key of the adapter of a provider. -/
def providerKey (host : Host) (settings : Settings F) (providerId : String) : String :=
  if providerId = "openrouter" then settings.openrouterApiKey
  else if environmentKey host settings providerId = "" then configKey settings providerId
  else environmentKey host settings providerId

theorem keys_providerDefaultApiKeyEnvs :
    providerDefaultApiKeyEnvs.map Prod.fst = providersWithDefaultKey :=
  rfl

/-- Each adapter class names the variable that the table has for its provider. -/
theorem defaultApiKeyEnv_of_mem {cls : AdapterClass} (h : cls ∈ adapterModules) :
    dictGet providerDefaultApiKeyEnvs cls.name = some cls.providerApiKeyEnv ∧
      stripped cls.name = cls.name ∧ cls.name ≠ "" ∧ cls.name ≠ "openrouter" := by
  have hall : ∀ cls ∈ adapterModules,
      dictGet providerDefaultApiKeyEnvs cls.name = some cls.providerApiKeyEnv ∧
        stripped cls.name = cls.name ∧ cls.name ≠ "" ∧ cls.name ≠ "openrouter" := by
    decide +kernel
  exact hall cls h

/-! ## The key of an adapter -/

/-- What the factory of a provider is called with. -/
def contextFor (settings : Settings F) (providerId : String) : BootstrapContext F where
  settings := settings
  providerId := providerId
  providerConfig := settings.getProviderBootstrapConfig providerId

omit [Runtime F] in
theorem contextFor_providerConfig (settings : Settings F) (providerId : String) :
    (contextFor settings providerId).providerConfig =
      settings.getProviderBootstrapConfig providerId := by
  unfold contextFor
  dsimp only

omit [Runtime F] in
theorem contextFor_settings (settings : Settings F) (providerId : String) :
    (contextFor settings providerId).settings = settings := by
  unfold contextFor
  dsimp only

/-- An adapter is configured when the configured API base, if there is one, and the API base
of the built adapter are valid. -/
theorem configuredAdapter_ok_iff {host : Host} {settings : Settings F}
    {descriptor : BootstrapDescriptor} {adapter : Adapter} :
    configuredAdapter host settings descriptor = .ok adapter ↔
      (∀ apiBase, dictGet (settings.getProviderBootstrapConfig descriptor.providerId)
          "api_base" = some apiBase → apiBase ≠ .none →
        ∃ base, validateProviderApiBase F host descriptor.providerId apiBase.toStr
          (allowsCustomApiBase (settings.getProviderBootstrapConfig descriptor.providerId)) =
            .ok base) ∧
      descriptor.factory.build host (contextFor settings descriptor.providerId) = .ok adapter ∧
      ∃ base, validateProviderApiBase F host descriptor.providerId adapter.apiBase
        (allowsCustomApiBase (settings.getProviderBootstrapConfig descriptor.providerId)) =
          .ok base := by
  have hbuilt : ∀ allowed,
      (descriptor.factory.build host (contextFor settings descriptor.providerId) >>= fun built =>
        validateProviderApiBase F host descriptor.providerId built.apiBase allowed >>= fun _ =>
          pure built) = .ok adapter ↔
        descriptor.factory.build host (contextFor settings descriptor.providerId) = .ok adapter ∧
          ∃ base, validateProviderApiBase F host descriptor.providerId adapter.apiBase allowed =
            .ok base := by
    intro allowed
    constructor
    · intro h
      obtain ⟨built, hbuild, h⟩ := bind_ok_iff.mp h
      obtain ⟨base, hbase, h⟩ := bind_ok_iff.mp h
      cases h
      exact ⟨hbuild, base, hbase⟩
    · rintro ⟨hbuild, base, hbase⟩
      exact bind_ok_iff.mpr ⟨adapter, hbuild, bind_ok_iff.mpr ⟨base, hbase, rfl⟩⟩
  rw [← hbuilt]
  unfold configuredAdapter
  dsimp only
  split
  · rename_i hnone
    constructor
    · intro h
      refine ⟨fun apiBase hsome => ?_, h⟩
      rw [hnone] at hsome
      cases hsome
    · rintro ⟨-, h⟩
      exact h
  · rename_i hnone
    constructor
    · intro h
      refine ⟨fun apiBase hsome hne => ?_, h⟩
      rw [hnone] at hsome
      cases hsome
      exact absurd rfl hne
    · rintro ⟨-, h⟩
      exact h
  · rename_i apiBase hne hsome
    constructor
    · intro h
      obtain ⟨base, hbase, h⟩ := bind_ok_iff.mp h
      refine ⟨fun other hother _ => ?_, h⟩
      rw [hsome] at hother
      cases hother
      exact ⟨base, hbase⟩
    · rintro ⟨hconfigured, h⟩
      obtain ⟨base, hbase⟩ := hconfigured apiBase hsome hne
      exact bind_ok_iff.mpr ⟨base, hbase, h⟩

/-- A configured adapter has the key of its provider. -/
theorem apiKey_configuredAdapter {host : Host} {settings : Settings F}
    {descriptor : BootstrapDescriptor}
    (hfactory : FactoryOf descriptor.providerId descriptor.factory) {adapter : Adapter}
    (h : configuredAdapter host settings descriptor = .ok adapter) :
    adapter.apiKey = providerKey host settings descriptor.providerId := by
  obtain ⟨-, hbuild, -⟩ := configuredAdapter_ok_iff.mp h
  unfold providerKey
  rcases hfactory with ⟨hid, hfactory⟩ | ⟨cls, hmem, hid, hfactory⟩
  · rw [if_pos hid]
    rw [hfactory] at hbuild
    obtain ⟨apiBase, -, hbuild⟩ := bind_ok_iff.mp hbuild
    cases hbuild
    rfl
  · obtain ⟨hdefault, hstripped, hname, hother⟩ := defaultApiKeyEnv_of_mem hmem
    rw [← hid, if_neg hother]
    rw [hfactory, ← hid] at hbuild
    obtain ⟨credentials, hcredentials, hbuild⟩ := bind_ok_iff.mp hbuild
    obtain ⟨validated, -, hcredentials⟩ := bind_ok_iff.mp hcredentials
    rw [← Except.ok.inj hbuild]
    change credentials.1 = _
    have henv : (host.getenv (configText (contextFor settings cls.name).providerConfig
        "api_key_env" cls.providerApiKeyEnv)).getD "" = environmentKey host settings cls.name := by
      unfold contextFor environmentKey Settings.getProviderApiKeyEnv
      rw [hstripped, if_neg hname, hdefault, Option.getD_some]
    dsimp only at hcredentials
    rw [henv] at hcredentials
    by_cases hempty : environmentKey host settings cls.name = ""
    · rw [if_pos hempty] at hcredentials ⊢
      rw [← Except.ok.inj hcredentials, contextFor_providerConfig]
      unfold configKey
      rfl
    · rw [if_neg hempty] at hcredentials ⊢
      rw [← Except.ok.inj hcredentials]

/-! ## The registered adapters -/

/-- After the loop every descriptor is registered, and a provider that was registered before
still is; its adapter is the old one or the one configured for a descriptor. -/
theorem registered_registerEach {host : Host} {settings : Settings F}
    {descriptors : List BootstrapDescriptor} (hnamed : ∀ d ∈ descriptors, d.Named)
    {registry after : ProviderRegistry}
    (h : (registerEach host settings descriptors).run registry = .ok () after) :
    (∀ d ∈ descriptors, (dictGet after.providers d.providerId).isSome) ∧
      (∀ name, (dictGet registry.providers name).isSome →
        (dictGet after.providers name).isSome) ∧
      ∀ name registered, dictGet after.providers name = some registered →
        dictGet registry.providers name = some registered ∨
          ∃ d ∈ descriptors, d.providerId = name ∧
            configuredAdapter host settings d = .ok registered.adapter.adapter := by
  induction descriptors generalizing registry with
  | nil =>
      cases h
      refine ⟨fun d hd => ?_, fun name hname => hname, fun name registered hget => .inl hget⟩
      cases hd
  | cons d rest ih =>
      rw [List.forall_mem_cons] at hnamed
      rw [registerEach] at h
      cases hadapter : configuredAdapter host settings d with
      | error exc =>
          rw [hadapter, run_bind_of_error (run_call_error exc registry)] at h
          cases h
      | ok adapter =>
          rw [hadapter, run_bind_of_ok (run_call_ok adapter registry),
            run_bind_of_ok (run_register hnamed.1 adapter _ _ registry)] at h
          obtain ⟨hdescriptors, hkept, honly⟩ := ih hnamed.2 h
          have hinserted : ∀ name, (dictGet registry.providers name).isSome ∨
              d.providerId = name →
              (dictGet (registry.insert d.providerId adapter
                (settings.isProviderDiscoveryEnabled d.providerId)
                (settings.isProviderInferenceEnabled d.providerId)).providers name).isSome := by
            intro name hname
            unfold ProviderRegistry.insert
            rw [dictGet_dictSet]
            by_cases hid : d.providerId = name
            · rw [if_pos hid]
              rfl
            · rw [if_neg hid]
              exact hname.resolve_right hid
          refine ⟨?_, fun name hname => hkept name (hinserted name (.inl hname)), ?_⟩
          · rw [List.forall_mem_cons]
            exact ⟨hkept _ (hinserted _ (.inr rfl)), hdescriptors⟩
          · intro name registered hget
            rcases honly name registered hget with hold | ⟨other, hother, hname, hok⟩
            · unfold ProviderRegistry.insert at hold
              rw [dictGet_dictSet] at hold
              by_cases hid : d.providerId = name
              · rw [if_pos hid] at hold
                cases hold
                exact .inr ⟨d, List.mem_cons_self, hid, hadapter⟩
              · rw [if_neg hid] at hold
                exact .inl hold
            · exact .inr ⟨other, List.mem_cons_of_mem _ hother, hname, hok⟩

/-- Assigning the flags keeps the adapters. -/
theorem dictGet_gate (registry : ProviderRegistry) (flags : RegisteredProvider → Bool × Bool)
    (name : String) :
    dictGet (registry.gate flags).providers name =
      (dictGet registry.providers name).map fun registered => { registered with
        discoveryEnabled := (flags registered).1, inferenceEnabled := (flags registered).2 } := by
  unfold ProviderRegistry.gate
  dsimp only
  induction registry.providers with
  | nil => rfl
  | cons entry rest ih =>
      rw [List.map_cons, dictGet_cons, dictGet_cons, ih]
      dsimp only
      by_cases hname : entry.1 = name
      · rw [if_pos hname, if_pos hname]
        rfl
      · rw [if_neg hname, if_neg hname]

/-- A provider is known under some spelling of its name. -/
def Settings.Knows (settings : Settings F) (providerId : String) : Prop :=
  ∃ id ∈ settings.knownProviderIds, stripped id = providerId

/-- After a rebuild every registered adapter has the key of its provider, and the registered
providers are the known ones that have an adapter. -/
theorem apiKey_configureRegistry {host : Host} {settings : Settings F}
    (hbuild : Buildable host settings) (registry : ProviderRegistry) :
    (∀ name registered, dictGet (finalState (configureRegistry host settings)
        registry).providers name = some registered →
      name ∈ providersWithDefaultKey ∧ settings.Knows name ∧
        registered.adapter.adapter.apiKey = providerKey host settings name) ∧
      ∀ name ∈ providersWithDefaultKey, settings.Knows name →
        (dictGet (finalState (configureRegistry host settings) registry).providers
          name).isSome := by
  obtain ⟨_, after, hrun⟩ := (registerConfigured_spec host settings registry).1.mpr hbuild
  have hfinal : finalState (configureRegistry host settings) registry =
      syncRegistryRuntimeGating settings after := by
    unfold configureRegistry
    rw [finalState_bind_of_ok hrun]
    rfl
  have hclear : (modify ProviderRegistry.clear :
      EStateM Exc ProviderRegistry PUnit).run registry = .ok () registry.clear := rfl
  unfold registerConfigured at hrun
  rw [run_bind_of_ok hclear] at hrun
  obtain ⟨descriptors, hiter, -⟩ := hbuild
  rw [hiter, run_bind_of_ok (run_call_ok descriptors registry.clear)] at hrun
  obtain ⟨hmem, hfound⟩ := mem_collectDescriptors hiter
  obtain ⟨hdescriptors, -, honly⟩ :=
    registered_registerEach (collectDescriptors_spec hiter).1 hrun
  rw [hfinal]
  unfold syncRegistryRuntimeGating
  refine ⟨fun name registered hget => ?_, fun name hdefault hknown => ?_⟩
  · rw [dictGet_gate] at hget
    obtain ⟨ungated, hungated, hflags⟩ := Option.map_eq_some_iff.mp hget
    rcases honly name ungated hungated with hold | ⟨d, hd, hname, hok⟩
    · cases hold
    · obtain ⟨hfactory, id, hid, hstripped⟩ := hmem d hd
      have hkey := apiKey_configuredAdapter hfactory hok
      rw [← hflags, ← hname]
      exact ⟨mem_providersWithDefaultKey_of_factoryOf hfactory, ⟨id, hid, hstripped⟩, hkey⟩
  · obtain ⟨d, hd, hname⟩ := hfound name hdefault (List.not_mem_nil) hknown
    have hsome := hdescriptors d hd
    rw [hname] at hsome
    rw [dictGet_gate, Option.isSome_map]
    exact hsome

end ProviderKeys

section Secrets

variable {F : Type}

/-! ## Applying the managed secrets -/

/-- The key under which the secret of a provider is stored. -/
def secretKeyFor (providerId : String) : String :=
  if providerId = "openrouter" then "openrouter_api_key"
  else "providers." ++ providerId ++ ".api_key"

/-- The body of the loop of `apply_managed_secrets`. -/
def setSecret (secrets : List (String × String)) (current : Settings F) (providerId : String) :
    Settings F :=
  if providerId = "openrouter" then current
  else
    match dictGet secrets ("providers." ++ providerId ++ ".api_key") with
    | none => current
    | some key =>
        let config := (dictGet current.providerBootstrapConfig providerId).getD []
        { current with
          providerBootstrapConfig := dictSet current.providerBootstrapConfig providerId
            (dictSet config "api_key" (.str key)) }

theorem applyManagedSecrets_eq (settings : Settings F) (secrets : List (String × String)) :
    settings.applyManagedSecrets secrets =
      settings.supportedProviderIds.foldl (setSecret secrets)
        { settings with
          openrouterApiKey :=
            (dictGet secrets "openrouter_api_key").getD settings.openrouterApiKey } := by
  unfold Settings.applyManagedSecrets
  cases dictGet secrets "openrouter_api_key" <;> rfl

/-- Secrets change the key for `openrouter` and the sections of the providers alone. -/
theorem view_applyManagedSecrets {β : Type} (view : Settings F → β)
    (hkey : ∀ (settings : Settings F) key,
      view { settings with openrouterApiKey := key } = view settings)
    (hconfig : ∀ (settings : Settings F) config,
      view { settings with providerBootstrapConfig := config } = view settings)
    (settings : Settings F) (secrets : List (String × String)) :
    view (settings.applyManagedSecrets secrets) = view settings := by
  rw [applyManagedSecrets_eq]
  refine List.foldlRecOn (motive := fun current => view current = view settings) _ _ ?_ ?_
  · exact hkey settings _
  · intro current hcurrent providerId _
    unfold setSecret
    split
    · exact hcurrent
    · split
      · exact hcurrent
      · rw [← hcurrent]
        exact hconfig current _

/-- A value in the section of a provider. -/
def Settings.configValue (settings : Settings F) (providerId key : String) :
    Option (PyValue F) :=
  dictGet ((dictGet settings.providerBootstrapConfig providerId).getD []) key

/-- The value that the secrets have for a section. -/
def secretValue (F : Type) (secrets : List (String × String)) (providerId key : String) :
    Option (PyValue F) :=
  if providerId ≠ "openrouter" ∧ key = "api_key" then
    (dictGet secrets (secretKeyFor providerId)).map .str
  else none

theorem dictGet_getProviderBootstrapConfig (settings : Settings F) (providerId key : String) :
    dictGet (settings.getProviderBootstrapConfig providerId) key =
      if stripped providerId = "" then none
      else settings.configValue (stripped providerId) key := by
  unfold Settings.getProviderBootstrapConfig Settings.configValue
  dsimp only
  split <;> rfl

theorem configValue_setSecret (secrets : List (String × String)) (current : Settings F)
    (id providerId key : String) :
    (setSecret secrets current id).configValue providerId key =
      if id = providerId then
        (secretValue F secrets providerId key).or (current.configValue providerId key)
      else current.configValue providerId key := by
  unfold setSecret secretValue secretKeyFor
  by_cases hid : id = providerId
  · subst hid
    rw [if_pos rfl]
    by_cases hopenrouter : id = "openrouter"
    · simp [hopenrouter]
    · rw [if_neg hopenrouter, if_neg hopenrouter]
      cases hsecret : dictGet secrets ("providers." ++ id ++ ".api_key") with
      | none => simp
      | some text =>
          unfold Settings.configValue
          dsimp only
          rw [dictGet_dictSet, if_pos rfl, Option.getD_some, dictGet_dictSet]
          by_cases hkey : key = "api_key"
          · simp [hkey, hopenrouter]
          · rw [if_neg (Ne.symm hkey), if_neg fun h => hkey h.2, Option.none_or]
  · rw [if_neg hid]
    split
    · rfl
    · split
      · rfl
      · unfold Settings.configValue
        dsimp only
        rw [dictGet_dictSet, if_neg hid]

theorem configValue_foldl (secrets : List (String × String)) (ids : List String)
    (current : Settings F) (providerId key : String) :
    (ids.foldl (setSecret secrets) current).configValue providerId key =
      if providerId ∈ ids then
        (secretValue F secrets providerId key).or (current.configValue providerId key)
      else current.configValue providerId key := by
  induction ids generalizing current with
  | nil => simp
  | cons id rest ih =>
      rw [List.foldl_cons, ih, configValue_setSecret]
      by_cases hid : id = providerId
      · have hmem : providerId ∈ id :: rest := by
          rw [hid]
          exact List.mem_cons_self
        rw [if_pos hid, if_pos hmem]
        by_cases hrest : providerId ∈ rest
        · rw [if_pos hrest]
          cases secretValue F secrets providerId key <;> rfl
        · rw [if_neg hrest]
      · have hmem : providerId ∈ id :: rest ↔ providerId ∈ rest := by
          rw [List.mem_cons]
          exact or_iff_right (Ne.symm hid)
        rw [if_neg hid]
        simp only [hmem]

/-- A secret replaces the key in the section of its provider. -/
theorem configValue_applyManagedSecrets (settings : Settings F)
    (secrets : List (String × String)) (providerId key : String) :
    (settings.applyManagedSecrets secrets).configValue providerId key =
      if providerId ∈ settings.supportedProviderIds then
        (secretValue F secrets providerId key).or (settings.configValue providerId key)
      else settings.configValue providerId key := by
  rw [applyManagedSecrets_eq, configValue_foldl]
  rfl

/-- Every other value of the sections stays. -/
theorem dictGet_config_applyManagedSecrets (settings : Settings F)
    (secrets : List (String × String)) (providerId : String) {key : String}
    (h : key ≠ "api_key") :
    dictGet ((settings.applyManagedSecrets secrets).getProviderBootstrapConfig providerId) key =
      dictGet (settings.getProviderBootstrapConfig providerId) key := by
  have hsecret : secretValue F secrets (stripped providerId) key = none := by
    unfold secretValue
    rw [if_neg fun hboth => h hboth.2]
  rw [dictGet_getProviderBootstrapConfig, dictGet_getProviderBootstrapConfig,
    configValue_applyManagedSecrets, hsecret, Option.none_or, ite_self]

/-! ## The known providers -/

theorem mem_sortedIds {ids : List String} {id : String} :
    id ∈ sortedIds ids ↔ id ∈ ids ∧ id ≠ "" := by
  unfold sortedIds
  rw [List.mem_insertionSort, List.mem_filter, List.mem_dedup, decide_eq_true_eq]

theorem sortedIds_congr {ids others : List String}
    (h : ∀ id, id ≠ "" → (id ∈ ids ↔ id ∈ others)) : sortedIds ids = sortedIds others := by
  unfold sortedIds
  have hperm : (ids.dedup.filter fun id => decide (id ≠ "")).Perm
      (others.dedup.filter fun id => decide (id ≠ "")) := by
    rw [List.perm_ext_iff_of_nodup ((List.nodup_dedup ids).filter _)
      ((List.nodup_dedup others).filter _)]
    intro id
    rw [List.mem_filter, List.mem_filter, List.mem_dedup, List.mem_dedup, decide_eq_true_eq]
    exact and_congr_left (h id)
  exact List.Perm.eq_of_sortedLE List.sortedLE_insertionSort List.sortedLE_insertionSort
    (((List.perm_insertionSort _ _).trans hperm).trans (List.perm_insertionSort _ _).symm)

/-- The sections after the loop. -/
theorem mem_keys_foldl (secrets : List (String × String)) (ids : List String)
    (current : Settings F) (providerId : String) :
    providerId ∈ (ids.foldl (setSecret secrets) current).providerBootstrapConfig.map Prod.fst ↔
      providerId ∈ current.providerBootstrapConfig.map Prod.fst ∨
        providerId ∈ ids ∧ providerId ≠ "openrouter" ∧
          (dictGet secrets (secretKeyFor providerId)).isSome := by
  induction ids generalizing current with
  | nil => simp
  | cons id rest ih =>
      have hstep : providerId ∈
            (setSecret secrets current id).providerBootstrapConfig.map Prod.fst ↔
          providerId ∈ current.providerBootstrapConfig.map Prod.fst ∨
            providerId = id ∧ providerId ≠ "openrouter" ∧
              (dictGet secrets (secretKeyFor providerId)).isSome := by
        unfold setSecret
        by_cases hopenrouter : id = "openrouter"
        · rw [if_pos hopenrouter]
          constructor
          · exact .inl
          · rintro (hold | ⟨rfl, hother, -⟩)
            · exact hold
            · exact absurd hopenrouter hother
        · have hslot : secretKeyFor id = "providers." ++ id ++ ".api_key" := if_neg hopenrouter
          rw [if_neg hopenrouter, ← hslot]
          cases hsecret : dictGet secrets (secretKeyFor id) with
          | none =>
              constructor
              · exact .inl
              · rintro (hold | ⟨rfl, -, hsome⟩)
                · exact hold
                · rw [hsecret] at hsome
                  cases hsome
          | some text =>
              dsimp only
              rw [mem_keys_dictSet]
              constructor
              · rintro (rfl | hold)
                · exact .inr ⟨rfl, hopenrouter, by rw [hsecret]; rfl⟩
                · exact .inl hold
              · rintro (hold | ⟨rfl, -, -⟩)
                · exact .inr hold
                · exact .inl rfl
      rw [List.foldl_cons, ih, hstep, List.mem_cons, or_assoc, or_and_right]

/-- The ids that `known_provider_ids` does not take from the sections. -/
def Settings.namedIds (settings : Settings F) : List String :=
  settings.providersEnabled ++ settings.providerEnabled.map Prod.fst ++
    settings.providerDiscoveryEnabled.map Prod.fst ++
    settings.providerInferenceEnabled.map Prod.fst ++
    settings.providerActiveProbeEnabled.map Prod.fst ++
    settings.healthDailyRequestBudgetByProvider.map Prod.fst ++ ["openrouter"]

theorem mem_knownProviderIds {settings : Settings F} {id : String} :
    id ∈ settings.knownProviderIds ↔
      (id ∈ settings.namedIds ∨ id ∈ settings.providerBootstrapConfig.map Prod.fst) ∧
        id ≠ "" := by
  unfold Settings.knownProviderIds Settings.namedIds
  rw [mem_sortedIds]
  simp only [List.mem_append, or_assoc, or_comm, or_left_comm]

theorem mem_knownProviderIds_applyManagedSecrets {settings : Settings F}
    {secrets : List (String × String)} {id : String} :
    id ∈ (settings.applyManagedSecrets secrets).knownProviderIds ↔
      id ∈ settings.knownProviderIds ∨
        id ∈ settings.supportedProviderIds ∧ id ≠ "openrouter" ∧
          (dictGet secrets (secretKeyFor id)).isSome := by
  have hkeys := mem_keys_foldl secrets settings.supportedProviderIds
    { settings with
      openrouterApiKey := (dictGet secrets "openrouter_api_key").getD settings.openrouterApiKey }
    id
  rw [← applyManagedSecrets_eq] at hkeys
  have hne : id ∈ settings.supportedProviderIds → id ≠ "" := fun h => (mem_sortedIds.mp h).2
  have hnamed := view_applyManagedSecrets Settings.namedIds (fun _ _ => rfl) (fun _ _ => rfl)
    settings secrets
  rw [mem_knownProviderIds, mem_knownProviderIds, hnamed, hkeys, ← or_assoc, or_and_right]
  exact or_congr_right (and_iff_left_of_imp fun h => hne h.1)

theorem mem_supportedProviderIds {settings : Settings F} {id : String} :
    id ∈ settings.supportedProviderIds ↔
      (id ∈ providersWithDefaultKey ∨ id ∈ settings.knownProviderIds) ∧ id ≠ "" := by
  unfold Settings.supportedProviderIds
  rw [mem_sortedIds, List.mem_append]

/-- A secret makes its provider known. -/
theorem knows_applyManagedSecrets_iff {settings : Settings F} {secrets : List (String × String)}
    {providerId : String} (h : providerId ∈ providersWithDefaultKey) :
    (settings.applyManagedSecrets secrets).Knows providerId ↔
      settings.Knows providerId ∨ (dictGet secrets (secretKeyFor providerId)).isSome := by
  obtain ⟨hstripped, hne, -⟩ := exists_class h
  unfold Settings.Knows
  constructor
  · rintro ⟨id, hid, hname⟩
    rcases mem_knownProviderIds_applyManagedSecrets.mp hid with hold | ⟨hsupported, -, hsecret⟩
    · exact .inl ⟨id, hold, hname⟩
    · rcases (mem_supportedProviderIds.mp hsupported).1 with hdefault | hold
      · rw [← hname, (exists_class hdefault).1]
        exact .inr hsecret
      · exact .inl ⟨id, hold, hname⟩
  · rintro (⟨id, hid, hname⟩ | hsecret)
    · exact ⟨id, mem_knownProviderIds_applyManagedSecrets.mpr (.inl hid), hname⟩
    · refine ⟨providerId, mem_knownProviderIds_applyManagedSecrets.mpr ?_, hstripped⟩
      by_cases hopenrouter : providerId = "openrouter"
      · rw [hopenrouter]
        exact .inl (openrouter_mem_knownProviderIds settings)
      · exact .inr ⟨mem_supportedProviderIds.mpr ⟨.inl h, hne⟩, hopenrouter, hsecret⟩

/-- Secrets under the same keys make the same providers known. -/
theorem knownProviderIds_congr (settings : Settings F) {secrets others : List (String × String)}
    (h : ∀ key, (dictGet secrets key).isSome = (dictGet others key).isSome) :
    (settings.applyManagedSecrets secrets).knownProviderIds =
      (settings.applyManagedSecrets others).knownProviderIds := by
  have hmem : ∀ id, id ∈ (settings.applyManagedSecrets secrets).knownProviderIds ↔
      id ∈ (settings.applyManagedSecrets others).knownProviderIds := by
    intro id
    rw [mem_knownProviderIds_applyManagedSecrets, mem_knownProviderIds_applyManagedSecrets, h]
  unfold Settings.knownProviderIds at hmem ⊢
  refine sortedIds_congr fun id hne => ?_
  have hid := hmem id
  rw [mem_sortedIds, mem_sortedIds, and_iff_left hne, and_iff_left hne] at hid
  exact hid

end Secrets

/-! ## The key after the secrets -/

section Keys

variable {F : Type} [Runtime F]

theorem configText_congr {config other : Section F} {key : String}
    (h : dictGet config key = dictGet other key) (default : String) :
    configText config key default = configText other key default := by
  unfold configText
  rw [h]

omit [Runtime F] in
theorem allowsCustomApiBase_congr {config other : Section F}
    (h : dictGet config "allow_custom_api_base" = dictGet other "allow_custom_api_base") :
    allowsCustomApiBase config = allowsCustomApiBase other := by
  unfold allowsCustomApiBase
  rw [h]

theorem getProviderApiKeyEnv_applyManagedSecrets (settings : Settings F)
    (secrets : List (String × String)) (providerId : String) :
    (settings.applyManagedSecrets secrets).getProviderApiKeyEnv providerId =
      settings.getProviderApiKeyEnv providerId := by
  have hconfig := dictGet_config_applyManagedSecrets settings secrets (stripped providerId)
    (by decide : "api_key_env" ≠ "api_key")
  unfold Settings.getProviderApiKeyEnv
  dsimp only
  rw [configText_congr hconfig]

theorem environmentKey_applyManagedSecrets (host : Host) (settings : Settings F)
    (secrets : List (String × String)) (providerId : String) :
    environmentKey host (settings.applyManagedSecrets secrets) providerId =
      environmentKey host settings providerId := by
  unfold environmentKey
  rw [getProviderApiKeyEnv_applyManagedSecrets]

/-- The key of a provider with a stored secret, or without one. -/
def keyWith (host : Host) (settings : Settings F) (providerId : String)
    (secret : Option String) : String :=
  if providerId = "openrouter" then secret.getD settings.openrouterApiKey
  else if environmentKey host settings providerId = "" then
    (secret.map stripped).getD (configKey settings providerId)
  else environmentKey host settings providerId

omit [Runtime F] in
theorem openrouterApiKey_applyManagedSecrets (settings : Settings F)
    (secrets : List (String × String)) :
    (settings.applyManagedSecrets secrets).openrouterApiKey =
      (dictGet secrets "openrouter_api_key").getD settings.openrouterApiKey := by
  rw [applyManagedSecrets_eq]
  refine List.foldlRecOn (motive := fun current : Settings F => current.openrouterApiKey =
    (dictGet secrets "openrouter_api_key").getD settings.openrouterApiKey) _ _ rfl ?_
  intro current hcurrent providerId _
  unfold setSecret
  split
  · exact hcurrent
  · split
    · exact hcurrent
    · exact hcurrent

/-- A secret replaces the configured key of its provider. -/
theorem configKey_applyManagedSecrets (settings : Settings F)
    (secrets : List (String × String)) {providerId : String}
    (h : providerId ∈ providersWithDefaultKey) (hother : providerId ≠ "openrouter") :
    configKey (settings.applyManagedSecrets secrets) providerId =
      ((dictGet secrets (secretKeyFor providerId)).map stripped).getD
        (configKey settings providerId) := by
  obtain ⟨hstripped, hne, -⟩ := exists_class h
  have hsupported : providerId ∈ settings.supportedProviderIds :=
    mem_supportedProviderIds.mpr ⟨.inl h, hne⟩
  have hsecret : secretValue F secrets providerId "api_key" =
      (dictGet secrets (secretKeyFor providerId)).map .str := by
    unfold secretValue
    rw [if_pos ⟨hother, rfl⟩]
  unfold configKey
  rw [dictGet_getProviderBootstrapConfig, dictGet_getProviderBootstrapConfig, hstripped,
    if_neg hne, if_neg hne, configValue_applyManagedSecrets, if_pos hsupported, hsecret]
  cases dictGet secrets (secretKeyFor providerId) with
  | none => rfl
  | some text => rfl

/-- Which key a stored secret replaces. -/
theorem providerKey_applyManagedSecrets (host : Host) (settings : Settings F)
    (secrets : List (String × String)) {providerId : String}
    (h : providerId ∈ providersWithDefaultKey) :
    providerKey host (settings.applyManagedSecrets secrets) providerId =
      keyWith host settings providerId (dictGet secrets (secretKeyFor providerId)) := by
  unfold providerKey keyWith
  rw [environmentKey_applyManagedSecrets]
  by_cases hopenrouter : providerId = "openrouter"
  · rw [if_pos hopenrouter, if_pos hopenrouter, openrouterApiKey_applyManagedSecrets, hopenrouter]
    rfl
  · rw [if_neg hopenrouter, if_neg hopenrouter, configKey_applyManagedSecrets settings secrets h
      hopenrouter]

/-! ## Building adapters with other keys -/

/-- Settings that differ in keys at most. -/
structure SameButKeys (settings other : Settings F) : Prop where
  known : settings.knownProviderIds = other.knownProviderIds
  sections : ∀ providerId key, key ≠ "api_key" →
    dictGet (settings.getProviderBootstrapConfig providerId) key =
      dictGet (other.getProviderBootstrapConfig providerId) key
  apiBase : settings.openrouterApiBase = other.openrouterApiBase
  devStub : settings.openrouterDevStubEnabled = other.openrouterDevStubEnabled
  appEnv : settings.appEnv = other.appEnv

omit [Runtime F] in
/-- Secrets under the same keys lead to settings that differ in keys at most. -/
theorem sameButKeys_applyManagedSecrets (settings : Settings F)
    {secrets others : List (String × String)}
    (h : ∀ key, (dictGet secrets key).isSome = (dictGet others key).isSome) :
    SameButKeys (settings.applyManagedSecrets secrets) (settings.applyManagedSecrets others) := by
  have hview : ∀ {β : Type} (view : Settings F → β),
      (∀ (settings : Settings F) key,
        view { settings with openrouterApiKey := key } = view settings) →
      (∀ (settings : Settings F) config,
        view { settings with providerBootstrapConfig := config } = view settings) →
      view (settings.applyManagedSecrets secrets) = view (settings.applyManagedSecrets others) := by
    intro β view hkey hconfig
    rw [view_applyManagedSecrets view hkey hconfig, view_applyManagedSecrets view hkey hconfig]
  constructor
  · exact knownProviderIds_congr settings h
  · intro providerId key hkey
    rw [dictGet_config_applyManagedSecrets settings secrets providerId hkey,
      dictGet_config_applyManagedSecrets settings others providerId hkey]
  · exact hview Settings.openrouterApiBase (fun _ _ => rfl) fun _ _ => rfl
  · exact hview Settings.openrouterDevStubEnabled (fun _ _ => rfl) fun _ _ => rfl
  · exact hview Settings.appEnv (fun _ _ => rfl) fun _ _ => rfl

/-- Credentials are found exactly when the API base is valid. -/
theorem exists_credentials_iff {host : Host} {config : Section F}
    {providerId defaultApiBase defaultApiKeyEnv apiBase : String} :
    (∃ credentials, resolveOpenaiCompatibleCredentials host config providerId defaultApiBase
        defaultApiKeyEnv = .ok credentials ∧ credentials.2.1 = apiBase) ↔
      validateProviderApiBase F host providerId (configText config "api_base" defaultApiBase)
        (allowsCustomApiBase config) = .ok apiBase := by
  unfold resolveOpenaiCompatibleCredentials
  cases hbase : validateProviderApiBase F host providerId
      (configText config "api_base" defaultApiBase) (allowsCustomApiBase config) with
  | error exc =>
      constructor
      · rintro ⟨credentials, h, -⟩
        cases h
      · intro h
        cases h
  | ok base =>
      rw [ok_bind]
      dsimp only
      split
      · constructor
        · rintro ⟨credentials, h, rfl⟩
          rw [← Except.ok.inj h]
        · intro h
          exact ⟨_, rfl, Except.ok.inj h⟩
      · constructor
        · rintro ⟨credentials, h, rfl⟩
          rw [← Except.ok.inj h]
        · intro h
          exact ⟨_, rfl, Except.ok.inj h⟩

/-- Other keys do not stop a factory. -/
theorem build_of_sameButKeys {host : Host} {settings other : Settings F}
    (h : SameButKeys settings other) {factory : AdapterFactory} {providerId : String}
    {adapter : Adapter}
    (hbuild : factory.build host (contextFor settings providerId) = .ok adapter) :
    ∃ built, factory.build host (contextFor other providerId) = .ok built ∧
      built.apiBase = adapter.apiBase := by
  have hsection : ∀ key, key ≠ "api_key" →
      dictGet (contextFor settings providerId).providerConfig key =
        dictGet (contextFor other providerId).providerConfig key := by
    intro key hkey
    rw [contextFor_providerConfig, contextFor_providerConfig]
    exact h.sections providerId key hkey
  have hallows := allowsCustomApiBase_congr (hsection _ (by decide))
  have hconfigured := hsection "api_base" (by decide)
  cases factory with
  | openrouter =>
      obtain ⟨apiBase, hbase, hbuild⟩ := bind_ok_iff.mp hbuild
      have hdefault : (contextFor settings providerId).settings.openrouterApiBase =
          (contextFor other providerId).settings.openrouterApiBase := by
        rw [contextFor_settings, contextFor_settings]
        exact h.apiBase
      rw [hallows, hconfigured, hdefault] at hbase
      refine ⟨_, bind_ok_iff.mpr ⟨apiBase, hbase, rfl⟩, ?_⟩
      rw [← Except.ok.inj hbuild]
  | openaiCompatible cls =>
      obtain ⟨credentials, hcredentials, hbuild⟩ := bind_ok_iff.mp hbuild
      have hbase := exists_credentials_iff.mp ⟨credentials, hcredentials, rfl⟩
      rw [hallows, configText_congr hconfigured] at hbase
      obtain ⟨found, hfound, hsame⟩ := exists_credentials_iff.mpr hbase
      refine ⟨_, bind_ok_iff.mpr ⟨found, hfound, rfl⟩, ?_⟩
      rw [← Except.ok.inj hbuild]
      dsimp only
      rw [hsame]

/-- Other keys do not stop a rebuild. -/
theorem buildable_of_sameButKeys {host : Host} {settings other : Settings F}
    (h : SameButKeys settings other) (hbuild : Buildable host settings) :
    Buildable host other := by
  obtain ⟨descriptors, hiter, hall⟩ := hbuild
  unfold iterProviderBootstrapDescriptors at hiter
  rw [h.known] at hiter
  refine ⟨descriptors, hiter, fun d hd => ?_⟩
  obtain ⟨adapter, hadapter⟩ := hall d hd
  obtain ⟨hconfigured, hbuilt, base, hbase⟩ := configuredAdapter_ok_iff.mp hadapter
  obtain ⟨built, hbuilt, hsame⟩ := build_of_sameButKeys h hbuilt
  have hallows := allowsCustomApiBase_congr
    (h.sections d.providerId "allow_custom_api_base" (by decide))
  rw [h.sections d.providerId "api_base" (by decide), hallows] at hconfigured
  rw [hallows, ← hsame] at hbase
  exact ⟨built, configuredAdapter_ok_iff.mpr ⟨hconfigured, hbuilt, base, hbase⟩⟩

end Keys

end Runtime
end FreeLunch
