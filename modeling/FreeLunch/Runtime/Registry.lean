import FreeLunch.Runtime.Settings
import FreeLunch.Foundations.Transactions
import FreeLunch.Foundations.Writes

/-!
# The provider registry

`src/providers/registry.py` with the adapter factories and the checks of
`src/providers/openai_compatible.py`.  `register_configured` empties the registry and
fills it again provider by provider; an exception in between leaves it partly filled.
Adapters are objects: two adapters with the same fields can be different objects.

Main results:

- Theorem `configureRegistry_spec`: a rebuild returns exactly when every descriptor can be
  found and every adapter can be built, and makes new adapters only.
- Theorem `providers_configureRegistry_eq_iff`: after a rebuild, complete or not, the
  registered providers are those of before only when there were none and it raised at once.

Current gaps:

- An adapter keeps what its construction and `runtime_state` use; its HTTP client is left
  out.
-/

namespace FreeLunch
namespace Runtime

open Python Transactions Writes

/-! ## The process -/

/-- The parts of a split URL that the validation reads. -/
structure SplitResult where
  scheme : String
  hostname : Option String
  port : Option Nat
  username : Option String
  password : Option String
  query : String
  fragment : String
deriving DecidableEq, Repr

/-- Why a module does not import. -/
inductive ImportFailure where
  | moduleNotFound (name : String)
  | raised (exc : Exc)

/-- The process in which a registry is built. -/
structure Host where
  /-- `urlsplit` with `hostname` and `port`; nothing where one of them raises
  `ValueError`. -/
  urlsplit : String → Option SplitResult
  /-- `ipaddress.ip_address` accepts the text. -/
  isIpAddress : String → Bool
  /-- `str.lower`. -/
  lower : String → String
  /-- `os.getenv`. -/
  getenv : String → Option String
  /-- The import of `src.providers.…` under a name that is none of the adapter modules;
  the other modules there define no factory. -/
  importModule : String → Except ImportFailure Unit

/-- `text.rstrip(c)`. -/
def rstripChar (c : Char) (text : String) : String :=
  String.ofList (text.toList.reverse.dropWhile (· == c)).reverse

/-! ## Checking an API base -/

/-- `KNOWN_PROVIDER_API_HOSTS`. -/
def knownProviderApiHosts : List (String × List String) :=
  [("openai", ["api.openai.com"]), ("together", ["api.together.xyz"]),
    ("groq", ["api.groq.com"]), ("deepseek", ["api.deepseek.com"]), ("xai", ["api.x.ai"]),
    ("cerebras", ["api.cerebras.ai"]), ("perplexity", ["api.perplexity.ai"]),
    ("nvidia", ["integrate.api.nvidia.com"]), ("openrouter", ["openrouter.ai"])]

/-- The control characters the validation refuses. -/
def isControl (c : Char) : Bool :=
  c.toNat < 32 || (0x7f ≤ c.toNat && c.toNat ≤ 0x9f)

section Build

variable (F : Type) [Runtime F]

/-- `validate_provider_api_base`. -/
def validateProviderApiBase (host : Host) (providerId apiBase : String)
    (allowCustomApiBase : Bool) : Except Exc String :=
  let value := stripped apiBase
  let provider := "provider " ++ reprStr F providerId
  match host.urlsplit value with
  | none =>
      .error (.valueError ("invalid API base URL for " ++ provider))
  | some parsed =>
      let hostname := parsed.hostname.getD ""
      if host.lower parsed.scheme ≠ "https" ∨ hostname = "" then
        .error (.valueError (provider ++ " API base must use HTTPS and include a host"))
      else if parsed.username.isSome ∨ parsed.password.isSome then
        .error (.valueError (provider ++ " API base must not contain credentials"))
      else if parsed.fragment ≠ "" ∨ parsed.query ≠ "" ∨ '#' ∈ value.toList ∨
          '?' ∈ value.toList then
        .error (.valueError (provider ++ " API base must not contain a query or fragment"))
      else if parsed.port ≠ none ∧ parsed.port ≠ some 443 then
        .error (.valueError (provider ++ " API base must use port 443"))
      else if '\\' ∈ value.toList ∨ value.toList.any isControl then
        .error (.valueError (provider ++ " API base contains invalid URL characters"))
      else
        let normalizedHost := rstripChar '.' (host.lower hostname)
        if host.isIpAddress normalizedHost then
          .error (.valueError (provider ++ " API base must use a DNS hostname"))
        else if normalizedHost = "localhost" ∨
            [".localhost", ".local", ".internal"].any fun ending =>
              endsWith normalizedHost.toList ending.toList then
          .error (.valueError (provider ++ " API base must not use a local hostname"))
        else if ¬ normalizedHost ∈
            (dictGet knownProviderApiHosts (host.lower providerId)).getD [] ∧
            allowCustomApiBase = false then
          .error (.valueError (provider ++ " API base host " ++ reprStr F normalizedHost ++
            " is not approved; set allow_custom_api_base: true to opt in"))
        else .ok value

end Build

section Registry

variable {F : Type} [Runtime F]

/-! ## Adapters -/

/-- `ProviderRuntimeState`. -/
structure ProviderRuntimeState where
  discoveryAvailable : Bool
  inferenceAvailable : Bool
deriving DecidableEq, Repr

/-- The fields of an adapter. -/
structure Adapter where
  name : String
  apiKey : String
  apiBase : String
  providerApiKeyEnv : Option String := none
  devStubEnabled : Bool := false
deriving DecidableEq, Repr

/-- `runtime_state`. -/
def Adapter.runtimeState (adapter : Adapter) : ProviderRuntimeState :=
  let runtimeAvailable := adapter.apiKey != "" || adapter.devStubEnabled
  { discoveryAvailable := runtimeAvailable, inferenceAvailable := runtimeAvailable }

/-- The class attributes of a subclass of `OpenAICompatibleAdapter`. -/
structure AdapterClass where
  name : String
  defaultApiBase : String
  providerApiKeyEnv : String
deriving DecidableEq, Repr

/-- `OpenAIAdapter`. -/
def openAIAdapter : AdapterClass :=
  ⟨"openai", "https://api.openai.com/v1", "OPENAI_API_KEY"⟩

/-- `TogetherAdapter`. -/
def togetherAdapter : AdapterClass :=
  ⟨"together", "https://api.together.xyz/v1", "TOGETHER_API_KEY"⟩

/-- `GroqAdapter`. -/
def groqAdapter : AdapterClass :=
  ⟨"groq", "https://api.groq.com/openai/v1", "GROQ_API_KEY"⟩

/-- `DeepSeekAdapter`. -/
def deepSeekAdapter : AdapterClass :=
  ⟨"deepseek", "https://api.deepseek.com/v1", "DEEPSEEK_API_KEY"⟩

/-- `XAIAdapter`. -/
def xaiAdapter : AdapterClass :=
  ⟨"xai", "https://api.x.ai/v1", "XAI_API_KEY"⟩

/-- `CerebrasAdapter`. -/
def cerebrasAdapter : AdapterClass :=
  ⟨"cerebras", "https://api.cerebras.ai/v1", "CEREBRAS_API_KEY"⟩

/-- `PerplexityAdapter`. -/
def perplexityAdapter : AdapterClass :=
  ⟨"perplexity", "https://api.perplexity.ai", "PERPLEXITY_API_KEY"⟩

/-- `NvidiaAdapter`. -/
def nvidiaAdapter : AdapterClass :=
  ⟨"nvidia", "https://integrate.api.nvidia.com/v1", "NVIDIA_API_KEY"⟩

/-- The modules of `src.providers` that define `build_provider_adapter`. -/
def adapterModules : List AdapterClass :=
  [openAIAdapter, togetherAdapter, groqAdapter, deepSeekAdapter, xaiAdapter, cerebrasAdapter,
    perplexityAdapter, nvidiaAdapter]

/-! ## Factories -/

/-- `ProviderBootstrapContext`. -/
structure BootstrapContext (F : Type) where
  settings : Settings F
  providerId : String
  providerConfig : Section F

/-- `config.get("allow_custom_api_base") is True`. -/
def allowsCustomApiBase (config : Section F) : Bool :=
  match dictGet config "allow_custom_api_base" with
  | some (.bool true) => true
  | _ => false

/-- `str(config.get(key, default)).strip() or default`. -/
def configText (config : Section F) (key default : String) : String :=
  let text := stripped ((dictGet config key).getD (.str default)).toStr
  if text = "" then default else text

/-- `resolve_openai_compatible_credentials`. -/
def resolveOpenaiCompatibleCredentials (host : Host) (config : Section F)
    (providerId defaultApiBase defaultApiKeyEnv : String) :
    Except Exc (String × String × String) := do
  let apiBase ← validateProviderApiBase F host providerId
    (configText config "api_base" defaultApiBase) (allowsCustomApiBase config)
  let apiKeyEnv := configText config "api_key_env" defaultApiKeyEnv
  let apiKey := (host.getenv apiKeyEnv).getD ""
  if apiKey = "" then
    return (stripped ((dictGet config "api_key").getD (.str "")).toStr, apiBase, apiKeyEnv)
  return (apiKey, apiBase, apiKeyEnv)

/-- `build_provider_adapter` of the modules in `adapterModules`. -/
def AdapterClass.buildProviderAdapter (cls : AdapterClass) (host : Host)
    (context : BootstrapContext F) : Except Exc Adapter := do
  let (apiKey, apiBase, apiKeyEnv) ← resolveOpenaiCompatibleCredentials host
    context.providerConfig cls.name cls.defaultApiBase cls.providerApiKeyEnv
  let base := if apiBase = "" then cls.defaultApiBase else apiBase
  return { name := cls.name, apiKey := apiKey, apiBase := rstripChar '/' base,
           providerApiKeyEnv := some apiKeyEnv }

/-- `_openrouter_adapter_factory`. -/
def openrouterAdapterFactory (host : Host) (context : BootstrapContext F) :
    Except Exc Adapter := do
  let settings := context.settings
  let config := context.providerConfig
  let configured := stripped
    ((dictGet config "api_base").getD (.str settings.openrouterApiBase)).toStr
  let configured := if configured = "" then settings.openrouterApiBase else configured
  let apiBase ← validateProviderApiBase F host "openrouter" configured
    (allowsCustomApiBase config)
  let devStub :=
    ((dictGet config "dev_stub_enabled").getD (.bool settings.openrouterDevStubEnabled)).truthy
  return { name := "openrouter", apiKey := settings.openrouterApiKey
           apiBase := rstripChar '/' apiBase
           devStubEnabled := settings.appEnv == "dev" && devStub }

/-- `ProviderAdapterFactory`: the functions of this type in the repository. -/
inductive AdapterFactory where
  | openrouter
  | openaiCompatible (cls : AdapterClass)
deriving DecidableEq, Repr

/-- Call a factory. -/
def AdapterFactory.build (factory : AdapterFactory) (host : Host)
    (context : BootstrapContext F) : Except Exc Adapter :=
  match factory with
  | .openrouter => openrouterAdapterFactory host context
  | .openaiCompatible cls => cls.buildProviderAdapter host context

/-! ## Descriptors -/

/-- `ProviderBootstrapDescriptor`. -/
structure BootstrapDescriptor where
  providerId : String
  factory : AdapterFactory
deriving DecidableEq, Repr

/-- `_load_module_bootstrap_descriptor`. -/
def loadModuleBootstrapDescriptor (F : Type) [Runtime F] (host : Host)
    (providerId : String) : Except Exc (Option BootstrapDescriptor) :=
  let normalized := stripped providerId
  if normalized = "" then .ok none
  else
    match adapterModules.find? fun cls => decide (cls.name = normalized) with
    | some cls => .ok (some ⟨normalized, .openaiCompatible cls⟩)
    | none =>
        match host.importModule normalized with
        | .ok () => .ok none
        | .error (.raised exc) => .error exc
        | .error (.moduleNotFound name) =>
            if name = "src.providers." ++ normalized then .ok none
            else .error (.other ("No module named " ++ reprStr F name))

/-- `_BUILTIN_BOOTSTRAP_DESCRIPTORS.get(provider_id)`, else the module's descriptor. -/
def findBootstrapDescriptor (F : Type) [Runtime F] (host : Host) (normalized : String) :
    Except Exc (Option BootstrapDescriptor) :=
  if normalized = "openrouter" then .ok (some ⟨normalized, .openrouter⟩)
  else loadModuleBootstrapDescriptor F host normalized

/-- The loop of `iter_provider_bootstrap_descriptors`. -/
def collectDescriptors (F : Type) [Runtime F] (host : Host) :
    (seen providerIds : List String) → Except Exc (List BootstrapDescriptor)
  | _, [] => .ok []
  | seen, providerId :: rest =>
      let normalized := stripped providerId
      if normalized = "" ∨ normalized ∈ seen then collectDescriptors F host seen rest
      else do
        let descriptor ← findBootstrapDescriptor F host normalized
        let descriptors ← collectDescriptors F host (normalized :: seen) rest
        return descriptor.toList ++ descriptors

/-- `iter_provider_bootstrap_descriptors`. -/
def iterProviderBootstrapDescriptors (host : Host) (settings : Settings F) :
    Except Exc (List BootstrapDescriptor) :=
  collectDescriptors F host [] settings.knownProviderIds

/-- The checks around the factory call of `register_configured`. -/
def configuredAdapter (host : Host) (settings : Settings F) (descriptor : BootstrapDescriptor) :
    Except Exc Adapter := do
  let providerId := descriptor.providerId
  let config := settings.getProviderBootstrapConfig providerId
  match dictGet config "api_base" with
  | none | some .none => pure ()
  | some apiBase =>
      let _ ← validateProviderApiBase F host providerId apiBase.toStr
        (allowsCustomApiBase config)
  let adapter ← descriptor.factory.build host
    { settings := settings, providerId := providerId, providerConfig := config }
  let _ ← validateProviderApiBase F host providerId adapter.apiBase (allowsCustomApiBase config)
  return adapter

/-! ## The registry -/

/-- An adapter as an object: the number tells it from every other one. -/
structure AdapterObject where
  object : Nat
  adapter : Adapter
deriving DecidableEq, Repr

/-- `RegisteredProvider`. -/
structure RegisteredProvider where
  name : String
  adapter : AdapterObject
  discoveryEnabled : Bool
  inferenceEnabled : Bool
deriving DecidableEq, Repr

/-- `ProviderRegistry`: the registered providers, and the number of the next object. -/
structure ProviderRegistry where
  providers : List (String × RegisteredProvider)
  objects : Nat
  older : ∀ entry ∈ providers, entry.2.adapter.object < objects

/-- `ProviderRegistry()`. -/
def ProviderRegistry.empty : ProviderRegistry where
  providers := []
  objects := 0
  older := by simp

/-- `self._providers = {}`. -/
def ProviderRegistry.clear (registry : ProviderRegistry) : ProviderRegistry where
  providers := []
  objects := registry.objects
  older := by simp

/-- `self._providers[name] = RegisteredProvider(…)` with a new adapter object. -/
def ProviderRegistry.insert (registry : ProviderRegistry) (name : String) (adapter : Adapter)
    (discoveryEnabled inferenceEnabled : Bool) : ProviderRegistry where
  providers := dictSet registry.providers name
    { name := name, adapter := ⟨registry.objects, adapter⟩
      discoveryEnabled := discoveryEnabled, inferenceEnabled := inferenceEnabled }
  objects := registry.objects + 1
  older := by
    intro entry hentry
    rcases mem_dictSet hentry with hold | rfl
    · exact Nat.lt_succ_of_lt (registry.older entry hold)
    · exact Nat.lt_succ_self _

/-- Assign the flags of every registered provider. -/
def ProviderRegistry.gate (registry : ProviderRegistry)
    (flags : RegisteredProvider → Bool × Bool) : ProviderRegistry where
  providers := registry.providers.map fun entry =>
    (entry.1, { entry.2 with
      discoveryEnabled := (flags entry.2).1, inferenceEnabled := (flags entry.2).2 })
  objects := registry.objects
  older := by
    intro entry hentry
    obtain ⟨old, hold, rfl⟩ := List.mem_map.mp hentry
    exact registry.older old hold

/-- `register`. -/
def register (adapter : Adapter) (name : String) (discoveryEnabled inferenceEnabled : Bool) :
    EStateM Exc ProviderRegistry Unit :=
  let providerName := stripped (if name = "" then adapter.name else name)
  if providerName = "" then throw (.valueError "provider name cannot be empty")
  else modify fun registry =>
    registry.insert providerName adapter discoveryEnabled inferenceEnabled

/-- The loop of `register_configured`. -/
def registerEach (host : Host) (settings : Settings F) :
    List BootstrapDescriptor → EStateM Exc ProviderRegistry Unit
  | [] => pure ()
  | descriptor :: rest => do
      let providerId := descriptor.providerId
      let adapter ← call (configuredAdapter host settings descriptor)
      register adapter providerId (settings.isProviderDiscoveryEnabled providerId)
        (settings.isProviderInferenceEnabled providerId)
      registerEach host settings rest

/-- `register_configured`. -/
def registerConfigured (host : Host) (settings : Settings F) :
    EStateM Exc ProviderRegistry Unit := do
  modify ProviderRegistry.clear
  let descriptors ← call (iterProviderBootstrapDescriptors host settings)
  registerEach host settings descriptors

/-- `_sync_registry_runtime_gating`. -/
def syncRegistryRuntimeGating (settings : Settings F) (registry : ProviderRegistry) :
    ProviderRegistry :=
  registry.gate fun registered =>
    let runtimeState := registered.adapter.adapter.runtimeState
    (settings.isProviderDiscoveryEnabled registered.name && runtimeState.discoveryAvailable,
      settings.isProviderInferenceEnabled registered.name && runtimeState.inferenceAvailable)

/-- `_configure_registry`. -/
def configureRegistry (host : Host) (settings : Settings F) :
    EStateM Exc ProviderRegistry Unit := do
  registerConfigured host settings
  modify (syncRegistryRuntimeGating settings)

/-! ## Looking providers up -/

/-- `get_registered`. -/
def ProviderRegistry.getRegistered (F : Type) [Runtime F] (registry : ProviderRegistry)
    (name : String) : Except Exc RegisteredProvider :=
  let providerName := stripped name
  if providerName = "" then .error (.keyError (reprStr F name))
  else
    match dictGet registry.providers providerName with
    | some registered => .ok registered
    | none => .error (.keyError (reprStr F providerName))

/-- `get`: the adapter of an inference-enabled provider. -/
def ProviderRegistry.get (F : Type) [Runtime F] (registry : ProviderRegistry) (name : String) :
    Except Exc AdapterObject := do
  let provider ← registry.getRegistered F name
  if provider.inferenceEnabled then return provider.adapter
  throw (.keyError (reprStr F name))

/-- `all`: the adapters of the discovery-enabled providers. -/
def ProviderRegistry.all (registry : ProviderRegistry) : List AdapterObject :=
  ((registry.providers.map Prod.snd).filter RegisteredProvider.discoveryEnabled).map
    RegisteredProvider.adapter

/-! ## When a rebuild returns -/

/-- Every descriptor is found and every adapter can be built. -/
def Buildable (host : Host) (settings : Settings F) : Prop :=
  ∃ descriptors, iterProviderBootstrapDescriptors host settings = .ok descriptors ∧
    ∀ descriptor ∈ descriptors, ∃ adapter,
      configuredAdapter host settings descriptor = .ok adapter

/-- Finding the descriptors or building the first adapter raises. -/
def StopsAtOnce (host : Host) (settings : Settings F) : Prop :=
  (∃ exc, iterProviderBootstrapDescriptors host settings = .error exc) ∨
    ∃ first rest exc, iterProviderBootstrapDescriptors host settings = .ok (first :: rest) ∧
      configuredAdapter host settings first = .error exc

/-- A provider id under which `register` can register. -/
def BootstrapDescriptor.Named (descriptor : BootstrapDescriptor) : Prop :=
  stripped descriptor.providerId = descriptor.providerId ∧ descriptor.providerId ≠ ""

/-- Every adapter was made after the object `n`. -/
structure Fresh (n : Nat) (registry : ProviderRegistry) : Prop where
  counter : n ≤ registry.objects
  adapters : ∀ entry ∈ registry.providers, n ≤ entry.2.adapter.object

theorem fresh_clear (registry : ProviderRegistry) :
    Fresh registry.objects registry.clear := by
  constructor
  · exact Nat.le_refl _
  · intro entry hentry
    cases hentry

theorem fresh_insert {n : Nat} {registry : ProviderRegistry} (h : Fresh n registry)
    (name : String) (adapter : Adapter) (discoveryEnabled inferenceEnabled : Bool) :
    Fresh n (registry.insert name adapter discoveryEnabled inferenceEnabled) := by
  constructor
  · exact Nat.le_succ_of_le h.counter
  · intro entry hentry
    rcases mem_dictSet hentry with hold | rfl
    · exact h.adapters entry hold
    · exact h.counter

theorem fresh_gate {n : Nat} {registry : ProviderRegistry} (h : Fresh n registry)
    (flags : RegisteredProvider → Bool × Bool) : Fresh n (registry.gate flags) := by
  constructor
  · exact h.counter
  · intro entry hentry
    obtain ⟨old, hold, rfl⟩ := List.mem_map.mp hentry
    exact h.adapters old hold

/-- Fresh providers are the old ones only when there are none. -/
theorem eq_providers_iff_of_fresh {registry after : ProviderRegistry}
    (h : Fresh registry.objects after) :
    after.providers = registry.providers ↔
      registry.providers = [] ∧ after.providers = [] := by
  constructor
  · intro heq
    have hempty : after.providers = [] := by
      rw [List.eq_nil_iff_forall_not_mem]
      intro entry hentry
      have hnew := h.adapters entry hentry
      have hold := registry.older entry (heq ▸ hentry)
      omega
    exact ⟨heq ▸ hempty, hempty⟩
  · rintro ⟨hbefore, hafter⟩
    rw [hbefore, hafter]

/-- A named provider is registered under its name. -/
theorem run_register {descriptor : BootstrapDescriptor} (h : descriptor.Named)
    (adapter : Adapter) (discoveryEnabled inferenceEnabled : Bool) (registry : ProviderRegistry) :
    (register adapter descriptor.providerId discoveryEnabled inferenceEnabled).run registry =
      .ok () (registry.insert descriptor.providerId adapter discoveryEnabled
        inferenceEnabled) := by
  unfold register
  rw [if_neg h.2, h.1, if_neg h.2]
  rfl

theorem ne_nil_insert (registry : ProviderRegistry) (name : String) (adapter : Adapter)
    (discoveryEnabled inferenceEnabled : Bool) :
    (registry.insert name adapter discoveryEnabled inferenceEnabled).providers ≠ [] :=
  dictSet_ne_nil _ _ _

/-- What the loop does from a registry: it returns when every adapter can be built, makes
new objects only, and leaves no provider when it began with none and raised at once. -/
theorem registerEach_spec (host : Host) (settings : Settings F)
    {descriptors : List BootstrapDescriptor} (hnamed : ∀ d ∈ descriptors, d.Named) {n : Nat}
    {registry : ProviderRegistry} (hfresh : Fresh n registry) :
    (Returns (registerEach host settings descriptors) registry ↔
        ∀ d ∈ descriptors, ∃ adapter, configuredAdapter host settings d = .ok adapter) ∧
      Fresh n (finalState (registerEach host settings descriptors) registry) ∧
      ((finalState (registerEach host settings descriptors) registry).providers = [] ↔
        registry.providers = [] ∧
          ∀ d ∈ descriptors.head?, ∃ exc, configuredAdapter host settings d = .error exc) := by
  induction descriptors generalizing registry with
  | nil =>
      refine ⟨?_, hfresh, ?_⟩
      · constructor
        · intro _ d hd
          cases hd
        · intro _
          exact ⟨(), registry, rfl⟩
      · constructor
        · intro h
          refine ⟨h, fun d hd => ?_⟩
          cases hd
        · rintro ⟨h, -⟩
          exact h
  | cons d rest ih =>
      rw [List.forall_mem_cons] at hnamed ⊢
      rw [List.head?_cons]
      cases hadapter : configuredAdapter host settings d with
      | error exc =>
          -- the loop stops here, with the registry as it found it
          have hrun : (registerEach host settings (d :: rest)).run registry =
              .error exc registry := by
            rw [registerEach]
            apply run_bind_of_error
            rw [hadapter]
            rfl
          refine ⟨?_, ?_, ?_⟩
          · constructor
            · intro h
              exact absurd h (not_returns_of_error hrun)
            · rintro ⟨⟨adapter, hok⟩, -⟩
              cases hok
          · rw [finalState_of_error hrun]
            exact hfresh
          · rw [finalState_of_error hrun]
            constructor
            · intro h
              refine ⟨h, fun other hother => ?_⟩
              cases hother
              exact ⟨exc, hadapter⟩
            · rintro ⟨h, -⟩
              exact h
      | ok adapter =>
          have hcall : (call (configuredAdapter host settings d)).run registry =
              .ok adapter registry := by
            rw [hadapter]
            rfl
          have hregister := run_register hnamed.1 adapter
            (settings.isProviderDiscoveryEnabled d.providerId)
            (settings.isProviderInferenceEnabled d.providerId) registry
          obtain ⟨hreturns, hrest, hempty⟩ := ih hnamed.2 (fresh_insert hfresh d.providerId
            adapter (settings.isProviderDiscoveryEnabled d.providerId)
            (settings.isProviderInferenceEnabled d.providerId))
          rw [registerEach, returns_bind_of_ok hcall, returns_bind_of_ok hregister,
            finalState_bind_of_ok hcall, finalState_bind_of_ok hregister]
          refine ⟨?_, hrest, ?_⟩
          · rw [hreturns]
            constructor
            · intro h
              exact ⟨⟨adapter, rfl⟩, h⟩
            · rintro ⟨-, h⟩
              exact h
          · rw [hempty]
            constructor
            · rintro ⟨h, -⟩
              exact absurd h (ne_nil_insert _ _ _ _ _)
            · rintro ⟨-, h⟩
              obtain ⟨exc, herror⟩ := h d rfl
              rw [hadapter] at herror
              cases herror

/-! ## The descriptors -/

/-- The factory that a descriptor of this provider has. -/
def FactoryOf (providerId : String) (factory : AdapterFactory) : Prop :=
  providerId = "openrouter" ∧ factory = .openrouter ∨
    ∃ cls ∈ adapterModules, cls.name = providerId ∧ factory = .openaiCompatible cls

/-- The descriptor that is found for a provider is one of this provider. -/
theorem factoryOf_findBootstrapDescriptor {host : Host} {normalized : String}
    {descriptor : BootstrapDescriptor} (hstripped : stripped normalized = normalized)
    (h : findBootstrapDescriptor F host normalized = .ok (some descriptor)) :
    descriptor.providerId = normalized ∧ FactoryOf normalized descriptor.factory := by
  unfold findBootstrapDescriptor loadModuleBootstrapDescriptor at h
  simp only [hstripped] at h
  split at h
  · rename_i hopenrouter
    cases h
    exact ⟨rfl, .inl ⟨hopenrouter, rfl⟩⟩
  · split at h
    · cases h
    · split at h
      · rename_i cls hfind
        cases h
        have hname := List.find?_some hfind
        exact ⟨rfl, .inr ⟨cls, List.mem_of_find?_eq_some hfind, of_decide_eq_true hname, rfl⟩⟩
      · split at h
        · cases h
        · cases h
        · split at h <;> cases h

/-- A provider with an adapter class of its own. -/
theorem exists_class {providerId : String} (h : providerId ∈ providersWithDefaultKey) :
    stripped providerId = providerId ∧ providerId ≠ "" ∧
      (providerId ≠ "openrouter" →
        ∃ cls, (adapterModules.find? fun cls => decide (cls.name = providerId)) = some cls) := by
  have hall : ∀ id ∈ providersWithDefaultKey, stripped id = id ∧ id ≠ "" ∧
      (id ≠ "openrouter" →
        (adapterModules.find? fun cls => decide (cls.name = id)).isSome = true) := by
    decide +kernel
  obtain ⟨hstripped, hne, hclass⟩ := hall providerId h
  exact ⟨hstripped, hne, fun hother => Option.isSome_iff_exists.mp (hclass hother)⟩

theorem mem_providersWithDefaultKey_of_factoryOf {providerId : String} {factory : AdapterFactory}
    (h : FactoryOf providerId factory) : providerId ∈ providersWithDefaultKey := by
  have hall : ∀ cls ∈ adapterModules, cls.name ∈ providersWithDefaultKey := by
    decide +kernel
  rcases h with ⟨rfl, -⟩ | ⟨cls, hmem, rfl, -⟩
  · exact List.mem_cons_self
  · exact hall cls hmem

/-- A provider with an adapter has a descriptor. -/
theorem findBootstrapDescriptor_of_mem (host : Host) {providerId : String}
    (h : providerId ∈ providersWithDefaultKey) :
    ∃ descriptor, findBootstrapDescriptor F host providerId = .ok (some descriptor) ∧
      descriptor.providerId = providerId := by
  obtain ⟨hstripped, hne, hclass⟩ := exists_class h
  unfold findBootstrapDescriptor loadModuleBootstrapDescriptor
  by_cases hopenrouter : providerId = "openrouter"
  · exact ⟨_, by rw [if_pos hopenrouter], rfl⟩
  · obtain ⟨cls, hfind⟩ := hclass hopenrouter
    refine ⟨⟨providerId, .openaiCompatible cls⟩, ?_, rfl⟩
    rw [if_neg hopenrouter]
    dsimp only
    rw [hstripped, if_neg hne, hfind]

/-- Which descriptors are collected. -/
theorem mem_collectDescriptors {host : Host} {seen providerIds : List String}
    {descriptors : List BootstrapDescriptor}
    (h : collectDescriptors F host seen providerIds = .ok descriptors) :
    (∀ d ∈ descriptors, FactoryOf d.providerId d.factory ∧
        ∃ id ∈ providerIds, stripped id = d.providerId) ∧
      ∀ providerId ∈ providersWithDefaultKey, providerId ∉ seen →
        (∃ id ∈ providerIds, stripped id = providerId) →
        ∃ d ∈ descriptors, d.providerId = providerId := by
  induction providerIds generalizing seen descriptors with
  | nil =>
      cases h
      refine ⟨fun d hd => ?_, fun providerId _ _ hid => ?_⟩
      · cases hd
      · obtain ⟨id, hid, -⟩ := hid
        cases hid
  | cons first rest ih =>
      rw [collectDescriptors] at h
      split at h
      · rename_i hskip
        obtain ⟨hmem, hfound⟩ := ih h
        refine ⟨fun d hd => ?_, fun providerId hdefault hseen hid => ?_⟩
        · obtain ⟨hfactory, id, hid, hname⟩ := hmem d hd
          exact ⟨hfactory, id, List.mem_cons_of_mem _ hid, hname⟩
        · obtain ⟨id, hid, hname⟩ := hid
          rcases List.mem_cons.mp hid with rfl | hrest
          · rw [hname] at hskip
            rcases hskip with hempty | hold
            · exact absurd hempty (exists_class hdefault).2.1
            · exact absurd hold hseen
          · exact hfound providerId hdefault hseen ⟨id, hrest, hname⟩
      · obtain ⟨descriptor, hfind, h⟩ := bind_ok_iff.mp h
        obtain ⟨others, hothers, h⟩ := bind_ok_iff.mp h
        rw [← Except.ok.inj h]
        obtain ⟨hmem, hfound⟩ := ih hothers
        refine ⟨fun d hd => ?_, fun providerId hdefault hseen hid => ?_⟩
        · rcases List.mem_append.mp hd with hfirst | hother
          · rw [Option.mem_toList] at hfirst
            rw [Option.mem_def.mp hfirst] at hfind
            obtain ⟨hname, hfactory⟩ :=
              factoryOf_findBootstrapDescriptor (stripped_stripped first) hfind
            rw [hname]
            exact ⟨hfactory, first, List.mem_cons_self, rfl⟩
          · obtain ⟨hfactory, id, hid, hname⟩ := hmem d hother
            exact ⟨hfactory, id, List.mem_cons_of_mem _ hid, hname⟩
        · by_cases hfirst : stripped first = providerId
          · rw [hfirst] at hfind
            obtain ⟨found, hok, hname⟩ := findBootstrapDescriptor_of_mem (F := F) host hdefault
            rw [hok] at hfind
            cases hfind
            exact ⟨found, List.mem_append_left _ List.mem_cons_self, hname⟩
          · obtain ⟨id, hid, hname⟩ := hid
            have hrest : id ∈ rest := by
              rcases List.mem_cons.mp hid with rfl | hrest
              · exact absurd hname hfirst
              · exact hrest
            have hunseen : providerId ∉ stripped first :: seen := by
              rw [List.mem_cons, not_or]
              exact ⟨Ne.symm hfirst, hseen⟩
            obtain ⟨d, hd, hid⟩ := hfound providerId hdefault hunseen ⟨id, hrest, hname⟩
            exact ⟨d, List.mem_append_right _ hd, hid⟩

/-- A collected descriptor has a name, and the built-in provider is never missing. -/
theorem collectDescriptors_spec {host : Host} {seen providerIds : List String}
    {descriptors : List BootstrapDescriptor}
    (h : collectDescriptors F host seen providerIds = .ok descriptors) :
    (∀ d ∈ descriptors, d.Named) ∧
      ("openrouter" ∈ providerIds → "openrouter" ∉ seen → descriptors ≠ []) := by
  obtain ⟨hmem, hfound⟩ := mem_collectDescriptors h
  constructor
  · intro d hd
    obtain ⟨hstripped, hne, -⟩ :=
      exists_class (mem_providersWithDefaultKey_of_factoryOf (hmem d hd).1)
    exact ⟨hstripped, hne⟩
  · intro hopenrouter hseen
    obtain ⟨d, hd, -⟩ := hfound "openrouter" List.mem_cons_self hseen
      ⟨"openrouter", hopenrouter, by decide⟩
    exact List.ne_nil_of_mem hd

omit [Runtime F] in
theorem openrouter_mem_knownProviderIds (settings : Settings F) :
    "openrouter" ∈ settings.knownProviderIds := by
  unfold Settings.knownProviderIds sortedIds
  rw [List.mem_insertionSort]
  simp

/-! ## The rebuilt registry -/

/-- A rebuild returns exactly when the configuration is buildable. -/
theorem registerConfigured_spec (host : Host) (settings : Settings F)
    (registry : ProviderRegistry) :
    (Returns (registerConfigured host settings) registry ↔ Buildable host settings) ∧
      Fresh registry.objects (finalState (registerConfigured host settings) registry) ∧
      ((finalState (registerConfigured host settings) registry).providers = [] ↔
        StopsAtOnce host settings) := by
  have hclear : (modify ProviderRegistry.clear :
      EStateM Exc ProviderRegistry PUnit).run registry = .ok () registry.clear := rfl
  have hfresh := fresh_clear registry
  unfold registerConfigured
  rw [returns_bind_of_ok hclear, finalState_bind_of_ok hclear]
  unfold Buildable StopsAtOnce
  cases hiter : iterProviderBootstrapDescriptors host settings with
  | error exc =>
      have hrun : ((call (.error exc : Except Exc (List BootstrapDescriptor))) >>=
          registerEach host settings).run registry.clear = .error exc registry.clear :=
        rfl
      rw [finalState_of_error hrun]
      refine ⟨?_, hfresh, ?_⟩
      · constructor
        · intro h
          exact absurd h (not_returns_of_error hrun)
        · rintro ⟨descriptors, h, -⟩
          cases h
      · constructor
        · intro _
          exact .inl ⟨exc, rfl⟩
        · intro _
          rfl
  | ok descriptors =>
      obtain ⟨hnamed, hne⟩ := collectDescriptors_spec hiter
      have hne := hne (openrouter_mem_knownProviderIds settings) (by simp)
      obtain ⟨hreturns, hafter, hempty⟩ := registerEach_spec host settings hnamed hfresh
      have hcall := run_call_ok (ε := Exc) descriptors registry.clear
      rw [returns_bind_of_ok hcall, finalState_bind_of_ok hcall]
      refine ⟨?_, hafter, ?_⟩
      · rw [hreturns]
        constructor
        · intro h
          exact ⟨descriptors, rfl, h⟩
        · rintro ⟨others, heq, h⟩
          cases heq
          exact h
      · rw [hempty]
        constructor
        · rintro ⟨-, h⟩
          cases descriptors with
          | nil => exact absurd rfl hne
          | cons first rest =>
              obtain ⟨exc, herror⟩ := h first rfl
              exact .inr ⟨first, rest, exc, rfl, herror⟩
        · rintro (⟨exc, h⟩ | ⟨first, rest, exc, h, herror⟩)
          · cases h
          · cases h
            refine ⟨rfl, fun d hd => ?_⟩
            cases hd
            exact ⟨exc, herror⟩

/-- Gating the rebuilt registry changes flags only. -/
theorem configureRegistry_spec (host : Host) (settings : Settings F)
    (registry : ProviderRegistry) :
    (Returns (configureRegistry host settings) registry ↔ Buildable host settings) ∧
      Fresh registry.objects (finalState (configureRegistry host settings) registry) ∧
      ((finalState (configureRegistry host settings) registry).providers = [] ↔
        StopsAtOnce host settings) := by
  obtain ⟨hreturns, hfresh, hempty⟩ := registerConfigured_spec host settings registry
  rw [← hreturns, ← hempty]
  unfold configureRegistry
  cases hrun : (registerConfigured host settings).run registry with
  | error exc after =>
      have hconfigure := run_bind_of_error hrun
        (fun _ => modify (syncRegistryRuntimeGating settings))
      rw [finalState_of_error hrun] at hfresh ⊢
      rw [finalState_of_error hconfigure]
      exact ⟨iff_of_false (not_returns_of_error hconfigure) (not_returns_of_error hrun),
        hfresh, Iff.rfl⟩
  | ok result after =>
      have hgated : finalState (modify (syncRegistryRuntimeGating settings) :
          EStateM Exc ProviderRegistry PUnit) after = syncRegistryRuntimeGating settings after :=
        rfl
      rw [finalState_of_ok hrun] at hfresh ⊢
      rw [returns_bind_of_ok hrun, finalState_bind_of_ok hrun, hgated]
      refine ⟨iff_of_true ⟨(), _, rfl⟩ ⟨result, after, hrun⟩, fresh_gate hfresh _, ?_⟩
      exact List.map_eq_nil_iff

/-- A rebuild that ends with the providers of before found none and left none. -/
theorem providers_configureRegistry_eq_iff (host : Host) (settings : Settings F)
    (registry : ProviderRegistry) :
    (finalState (configureRegistry host settings) registry).providers = registry.providers ↔
      registry.providers = [] ∧ StopsAtOnce host settings := by
  obtain ⟨-, hfresh, hempty⟩ := configureRegistry_spec host settings registry
  rw [eq_providers_iff_of_fresh hfresh, hempty]

end Registry
end Runtime
end FreeLunch
