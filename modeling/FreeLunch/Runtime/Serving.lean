import FreeLunch.Inventory.Activity
import FreeLunch.Runtime.ProviderKeys
import FreeLunch.Runtime.Readiness

/-!
# Serving while the inventory changes

The candidate loop of `chat_completions` looks a candidate's provider up with
`registry.get`, which raises for a provider that is not registered or not
inference-enabled.  Between two attempts other coroutines run: discovery and the other
writers of the `models` table, a reload, which rebuilds the registry in place, and the
calls that recompute the readiness.  The writer thread applies the queue in between.

Main results:

- Theorem `wellNamed_configureRegistry`: a rebuild registers every provider under the name
  of its adapter.
- Theorem `active_applyRuntimeState`: after the gating every active model has a provider
  that serves.
- Theorem `candidates_served`: a run in which no statement activates a model of a provider
  that does not serve, and no reload takes a provider from the candidates and the active
  models, has no request that ends in a `KeyError` of the lookup.

Current gaps:

- `config_refresh_job` reloads the settings on a thread of its own, beside the event loop;
  a reload is an event between two awaits here.
- A selection that raises ends its request without a lookup, whatever it raises.
-/

namespace FreeLunch
namespace Runtime

open Runs Python Store Transactions Routing

section Serving

variable {F : Type} [FloatArith F] [Runtime F]

/-! ## Provider names -/

/-- The name of the adapters a factory builds. -/
def AdapterFactory.name : AdapterFactory → String
  | .openrouter => "openrouter"
  | .openaiCompatible cls => cls.name

/-- A provider registered under a name without outer whitespace, which is the name of its
adapter. -/
structure RegisteredUnderName (entry : String × RegisteredProvider) : Prop where
  key : entry.1 = entry.2.name
  trimmed : stripped entry.1 = entry.1
  nonempty : entry.1 ≠ ""
  adapter : entry.2.adapter.adapter.name = entry.2.name

/-- Every provider is registered under its name. -/
def WellNamed (registry : ProviderRegistry) : Prop :=
  ∀ entry ∈ registry.providers, RegisteredUnderName entry

theorem wellNamed_clear (registry : ProviderRegistry) : WellNamed registry.clear := by
  intro entry hentry
  cases hentry

theorem wellNamed_insert {registry : ProviderRegistry} (h : WellNamed registry)
    {name : String} (htrimmed : stripped name = name) (hne : name ≠ "") {adapter : Adapter}
    (hadapter : adapter.name = name) (discoveryEnabled inferenceEnabled : Bool) :
    WellNamed (registry.insert name adapter discoveryEnabled inferenceEnabled) := by
  intro entry hentry
  rcases mem_dictSet hentry with hold | rfl
  · exact h entry hold
  · exact ⟨rfl, htrimmed, hne, hadapter⟩

theorem wellNamed_gate {registry : ProviderRegistry} (h : WellNamed registry)
    (flags : RegisteredProvider → Bool × Bool) : WellNamed (registry.gate flags) := by
  intro entry hentry
  obtain ⟨old, hold, rfl⟩ := List.mem_map.mp hentry
  obtain ⟨hkey, htrimmed, hne, hadapter⟩ := h old hold
  exact ⟨hkey, htrimmed, hne, hadapter⟩

omit [FloatArith F] in
/-- A factory builds adapters of its name. -/
theorem name_of_build {factory : AdapterFactory} {host : Host} {context : BootstrapContext F}
    {adapter : Adapter} (h : factory.build host context = .ok adapter) :
    adapter.name = factory.name := by
  cases factory with
  | openrouter =>
      obtain ⟨apiBase, -, h⟩ := Writes.bind_ok_iff.mp h
      rw [← Except.ok.inj h]
      rfl
  | openaiCompatible cls =>
      obtain ⟨credentials, -, h⟩ := Writes.bind_ok_iff.mp h
      rw [← Except.ok.inj h]
      rfl

omit [FloatArith F] in
theorem name_of_configuredAdapter {host : Host} {settings : Settings F}
    {descriptor : BootstrapDescriptor} {adapter : Adapter}
    (h : configuredAdapter host settings descriptor = .ok adapter) :
    adapter.name = descriptor.factory.name := by
  obtain ⟨-, hbuild, -⟩ := configuredAdapter_ok_iff.mp h
  exact name_of_build hbuild

omit [FloatArith F] in
/-- The descriptors collected for the providers build adapters of their names. -/
theorem factoryName_of_collectDescriptors {host : Host} {seen providerIds : List String}
    {descriptors : List BootstrapDescriptor}
    (h : collectDescriptors F host seen providerIds = .ok descriptors) :
    ∀ d ∈ descriptors, d.factory.name = d.providerId := by
  intro d hd
  obtain ⟨hfactory, -⟩ := (mem_collectDescriptors h).1 d hd
  rcases hfactory with ⟨hid, hfactory⟩ | ⟨cls, -, hid, hfactory⟩
  · rw [hfactory, hid]
    rfl
  · rw [hfactory]
    exact hid

omit [FloatArith F] in
theorem preserves_registerEach (host : Host) (settings : Settings F)
    {descriptors : List BootstrapDescriptor} (hnamed : ∀ d ∈ descriptors, d.Named)
    (hfactory : ∀ d ∈ descriptors, d.factory.name = d.providerId) :
    Preserves WellNamed (registerEach host settings descriptors) := by
  induction descriptors with
  | nil => exact fun registry h => h
  | cons d rest ih =>
      rw [List.forall_mem_cons] at hnamed hfactory
      intro registry h
      rw [registerEach]
      cases hadapter : configuredAdapter host settings d with
      | error exc => exact h
      | ok adapter =>
          have hcall := run_call_ok (ε := Exc) adapter registry
          have hregister := run_register hnamed.1 adapter
            (settings.isProviderDiscoveryEnabled d.providerId)
            (settings.isProviderInferenceEnabled d.providerId) registry
          rw [finalState_bind_of_ok hcall, finalState_bind_of_ok hregister]
          refine ih hnamed.2 hfactory.2 _ ?_
          refine wellNamed_insert h hnamed.1.1 hnamed.1.2 ?_ _ _
          rw [name_of_configuredAdapter hadapter, hfactory.1]

omit [FloatArith F] in
/-- A rebuild, whether it returns or raises, leaves every provider under its name. -/
theorem wellNamed_configureRegistry (host : Host) (settings : Settings F)
    (registry : ProviderRegistry) :
    WellNamed (finalState (configureRegistry host settings) registry) := by
  have hclear : (modify ProviderRegistry.clear :
      EStateM Exc ProviderRegistry PUnit).run registry = .ok () registry.clear := rfl
  have hregister : WellNamed (finalState (registerConfigured host settings) registry) := by
    unfold registerConfigured
    rw [finalState_bind_of_ok hclear]
    cases hiter : iterProviderBootstrapDescriptors host settings with
    | error exc => exact wellNamed_clear registry
    | ok descriptors =>
        rw [finalState_bind_of_ok (run_call_ok (ε := Exc) descriptors registry.clear)]
        exact preserves_registerEach host settings (collectDescriptors_spec hiter).1
          (factoryName_of_collectDescriptors hiter) _ (wellNamed_clear registry)
  unfold configureRegistry
  cases hrun : (registerConfigured host settings).run registry with
  | error exc after =>
      rw [finalState_of_error hrun] at hregister
      rw [finalState_of_error (run_bind_of_error hrun _)]
      exact hregister
  | ok result after =>
      rw [finalState_of_ok hrun] at hregister
      have hgated : WellNamed (syncRegistryRuntimeGating settings after) := by
        unfold syncRegistryRuntimeGating
        exact wellNamed_gate hregister _
      rw [finalState_bind_of_ok hrun]
      exact hgated

omit [FloatArith F] [Runtime F] in
theorem inferenceEnabled_iff {registry : ProviderRegistry} (h : WellNamed registry)
    {providerId : String} :
    InferenceEnabled registry providerId ↔
      ∃ registered, dictGet registry.providers providerId = some registered ∧
        registered.inferenceEnabled = true := by
  unfold InferenceEnabled WellNamed at *
  generalize registry.providers = providers at h
  induction providers with
  | nil => simp
  | cons entry rest ih =>
      rw [List.forall_mem_cons] at h
      rw [List.map_cons, dictGet_cons, dictGet_cons]
      simp only [← h.1.key]
      by_cases hkey : entry.1 = providerId
      · simp [hkey]
      · rw [if_neg hkey, if_neg hkey]
        exact ih h.2

omit [FloatArith F] [Runtime F] in
theorem trimmed_of_inferenceEnabled {registry : ProviderRegistry} (h : WellNamed registry)
    {providerId : String} (henabled : InferenceEnabled registry providerId) :
    stripped providerId = providerId ∧ providerId ≠ "" := by
  obtain ⟨registered, hget, -⟩ := (inferenceEnabled_iff h).mp henabled
  have hentry := h _ (mem_of_dictGet hget)
  exact ⟨hentry.trimmed, hentry.nonempty⟩

omit [FloatArith F] in
/-- The lookup finds an inference-enabled provider. -/
theorem get_of_inferenceEnabled {registry : ProviderRegistry} (h : WellNamed registry)
    {providerId : String} (henabled : InferenceEnabled registry providerId) :
    ∃ adapter, registry.get F providerId = .ok adapter := by
  obtain ⟨htrimmed, hne⟩ := trimmed_of_inferenceEnabled h henabled
  obtain ⟨registered, hget, hinference⟩ := (inferenceEnabled_iff h).mp henabled
  refine ⟨registered.adapter, ?_⟩
  unfold ProviderRegistry.get ProviderRegistry.getRegistered
  simp only [htrimmed, if_neg hne, hget]
  rw [Writes.ok_bind, if_pos hinference]
  rfl

/-! ## The system -/

/-- The registry, the settings, the `models` table and the queue of the writer, with the
statements that operations in progress have still to enqueue, the number of requests whose
body is being read and the candidates that the others have still to try.  `unhandled`
records the exceptions of the lookup, which end a request. -/
structure Serving (F : Type) where
  registry : ProviderRegistry
  settings : Settings F
  ready : Bool
  models : ModelsTable F
  queue : List (ModelWrite F)
  inProgress : List (List (ModelWrite F))
  reading : Nat
  requests : List (List Routed)
  unhandled : List Exc

/-- `flush`. -/
def Serving.flush (s : Serving F) : Serving F :=
  { s with models := s.models.execAll s.queue, queue := [] }

/-- `apply_provider_runtime_state`: it waits for the queue when it enqueued something. -/
def Serving.applyRuntimeState (settings : Settings F) (s : Serving F) : Serving F :=
  let disabled := disabledProviderIds settings s.registry s.models
  if disabled = [] then s
  else Serving.flush { s with queue := s.queue ++ disabled.map .deactivateProvider }

/-- `recompute_readiness`. -/
def Serving.recompute (env : Surroundings F) (s : Serving F) : Serving F :=
  match env.access .readinessProviders, env.access .routableModels with
  | .error _, _ => s
  | .ok (), .error _ => s.applyRuntimeState s.settings
  | .ok (), .ok () =>
      let s := s.applyRuntimeState s.settings
      { s with ready := decide (0 < routableCount s.models) }

/-- `admin_enable_model` and `admin_disable_model`. -/
def Serving.setModelActive (env : Surroundings F) (id : String) (isActive : Bool)
    (s : Serving F) : Serving F :=
  if (s.models.row? id).isNone then s
  else
    Serving.recompute env (Serving.flush { s with queue := s.queue ++ [.setActive id isActive] })

/-- The calls of `reschedule_job` in `reload_settings`. -/
def rescheduleJobs (env : Surroundings F) (settings : Settings F) : Except Exc Unit := do
  env.intervalTrigger (Job.discovery.interval settings)
  env.intervalTrigger (Job.ranking.interval settings)
  env.intervalTrigger (Job.health.interval settings)

/-- A reload gets to the gating: the registry is rebuilt, and the reads before it are
answered. -/
def ReachesGating (env : Surroundings F) (settings : Settings F) (registry : ProviderRegistry) :
    Prop :=
  Returns (configureRegistry env.host settings) registry ∧
    env.access .gatewayAuthConfig = .ok () ∧ env.access .activeProviders = .ok ()

/-- `reload_settings` from the gating on. -/
def Serving.actOn (env : Surroundings F) (settings : Settings F) (s : Serving F) :
    Serving F :=
  let gated := s.applyRuntimeState settings
  match rescheduleJobs env settings with
  | .error _ => gated
  | .ok () => gated.recompute env

/-- `reload_settings` from the rebuild of the registry on, with the settings prepared. -/
def Serving.reload (env : Surroundings F) (settings : Settings F) (s : Serving F) :
    Serving F :=
  match (configureRegistry env.host settings).run s.registry with
  | .error _ registry => { s with registry := registry }
  | .ok _ registry =>
      let s := { s with registry := registry, settings := settings }
      match env.access .gatewayAuthConfig, env.access .activeProviders with
      | .ok (), .ok () => s.actOn env settings
      | _, _ => s

/-- The head of the candidate loop: `registry.get` for the next candidate, and the
candidates left. -/
def Serving.lookUp (s : Serving F) : List Routed → Serving F × List Routed
  | [] => (s, [])
  | candidate :: rest =>
      match s.registry.get F candidate.providerId with
      | .ok _ => (s, rest)
      | .error exc => ({ s with unhandled := s.unhandled ++ [exc] }, [])

/-- The operations that run across awaits, as the registry allows them: discovery asks the
discovery-enabled providers, which report models of their own name. -/
def Started (registry : ProviderRegistry) : Inventory.Operation F → Prop
  | .enable _ | .disable _ | .runtimeState _ => False
  | .discovery _ providers => ∀ provider ∈ providers,
      (∃ object ∈ registry.all, object.adapter.name = provider.name) ∧
        ∀ model ∈ provider.models, model.providerId = provider.name
  | .ranking _ _ | .unroutableProbe _ | .markFailure _ _ _ | .markSuccess _ _ => True

instance (registry : ProviderRegistry) :
    (op : Inventory.Operation F) → Decidable (Started registry op)
  | .enable _ | .disable _ | .runtimeState _ => inferInstanceAs (Decidable False)
  | .discovery _ providers => inferInstanceAs (Decidable (∀ provider ∈ providers,
      (∃ object ∈ registry.all, object.adapter.name = provider.name) ∧
        ∀ model ∈ provider.models, model.providerId = provider.name))
  | .ranking _ _ | .unroutableProbe _ | .markFailure _ _ _ | .markSuccess _ _ =>
      inferInstanceAs (Decidable True)

/-- What happens between two awaits, or on the writer thread. -/
inductive ServingEvent (F : Type) where
  /-- An operation across awaits starts. -/
  | start (op : Inventory.Operation F)
  /-- An operation in progress enqueues its next statement. -/
  | emit (task : Nat)
  /-- The writer thread applies the next statement. -/
  | drain
  /-- `POST /admin/models/{id}/enable` and `…/disable`. -/
  | setModelActive (env : Surroundings F) (id : String) (isActive : Bool)
  /-- The end of a discovery pipeline or of the health job. -/
  | recompute (env : Surroundings F)
  /-- A reload that has prepared its settings. -/
  | reload (env : Surroundings F) (settings : Settings F)
  /-- A chat request passes the readiness guard, or is refused. -/
  | arrive
  /-- The body has been read: the request is routed and looks its first candidate up. -/
  | chat (estimate : EstimateRequiredTokens F) (now : String) (req : RoutingRequirements F)
      (preferences : Option RoutingPreferences)
  /-- An attempt failed, and the request goes on to its next candidate. -/
  | next (request : Nat)
  /-- A request answers. -/
  | answer (request : Nat)

/-- One event. -/
def serve (s : Serving F) : ServingEvent F → Option (Serving F)
  | .start op =>
      if Started s.registry op then
        some { s with inProgress := s.inProgress ++ [op.writes s.models] }
      else none
  | .emit task =>
      match s.inProgress[task]? with
      | some (w :: rest) =>
          some { s with queue := s.queue ++ [w], inProgress := s.inProgress.set task rest }
      | _ => none
  | .drain =>
      match s.queue with
      | [] => none
      | w :: rest => some { s with models := s.models.exec w, queue := rest }
  | .setModelActive env id isActive => some (s.setModelActive env id isActive)
  | .recompute env => some (s.flush.recompute env)
  | .reload env settings => some (s.reload env settings)
  | .arrive => some (if s.ready then { s with reading := s.reading + 1 } else s)
  | .chat estimate now req preferences =>
      if 0 < s.reading then
        let s := { s with reading := s.reading - 1 }
        match pickCandidates estimate s.models now req preferences
            (some (s.settings.str .rankingFallbackModel))
            (s.settings.int .routingMaxAttempts) with
        | .error _ => some s
        | .ok candidates =>
            let (s, rest) := s.lookUp candidates
            some { s with requests := s.requests ++ [rest] }
      else none
  | .next request =>
      s.requests[request]?.map fun candidates =>
        let (s, rest) := s.lookUp candidates
        { s with requests := s.requests.set request rest }
  | .answer request => some { s with requests := s.requests.set request [] }

/-! ## What may become active -/

/-- The provider whose model a statement activates. -/
def activates (models : ModelsTable F) : ModelWrite F → Option String
  | .upsert model _ => some model.providerId
  | .setActive id true => (models.row? id).map ModelRow.providerId
  | _ => none

/-- Executed one after another, the statements activate models of these providers only. -/
def ActivateOnly (P : String → Prop) : ModelsTable F → List (ModelWrite F) → Prop
  | _, [] => True
  | models, w :: ws =>
      (∀ providerId, activates models w = some providerId → P providerId) ∧
        ActivateOnly P (models.exec w) ws

/-- Every active model is of one of these providers. -/
def ActiveOnly (P : String → Prop) (models : ModelsTable F) : Prop :=
  ∀ row ∈ models.rows, row.isActive = some 1 → P row.providerId

/-- The candidates still to be tried are of these providers. -/
def CandidatesOnly (P : String → Prop) (s : Serving F) : Prop :=
  ∀ candidates ∈ s.requests, ∀ candidate ∈ candidates, P candidate.providerId

/-- The statements that the gating flushes activate only what serves or what it
deactivates after them. -/
def FlushesGated (settings : Settings F) (s : Serving F) : Prop :=
  let disabled := disabledProviderIds settings s.registry s.models
  disabled ≠ [] → ActivateOnly
    (fun providerId => InferenceEnabled s.registry providerId ∨ providerId ∈ disabled)
    s.models s.queue

/-- No step activates a model of a provider that does not serve without deactivating it
again, and a reload keeps the providers of the candidates and of the models that stay
active. -/
def KeepsServed (s : Serving F) : ServingEvent F → Prop
  | .drain => ∀ w ∈ s.queue.head?, ActivateOnly (InferenceEnabled s.registry) s.models [w]
  | .setModelActive env id isActive =>
      env.access .readinessProviders = .ok () ∨
        ActivateOnly (InferenceEnabled s.registry) s.models
          (s.queue ++ [.setActive id isActive])
  | .recompute env =>
      env.access .readinessProviders = .ok () ∨
        ActivateOnly (InferenceEnabled s.registry) s.models s.queue
  | .reload env settings =>
      let registry := finalState (configureRegistry env.host settings) s.registry
      CandidatesOnly (InferenceEnabled registry) s ∧
        ((ReachesGating env settings s.registry ∧
            FlushesGated settings { s with registry := registry }) ∨
          (¬ ReachesGating env settings s.registry ∧
            ActiveOnly (InferenceEnabled registry) s.models))
  | _ => True

/-- Every model is of a named provider, in the table and in the statements on their way. -/
structure Named (s : Serving F) : Prop where
  stored : ∀ row ∈ s.models.rows, stripped row.providerId ≠ ""
  queued : ∀ model now, .upsert model now ∈ s.queue → stripped model.providerId ≠ ""
  inProgress : ∀ writes ∈ s.inProgress, ∀ model now, .upsert model now ∈ writes →
    stripped model.providerId ≠ ""

/-- What holds of a gateway that serves: every active model and every candidate still to be
tried is of a provider that the lookup finds, and no request has ended in an exception. -/
structure Served (s : Serving F) : Prop where
  wellNamed : WellNamed s.registry
  named : Named s
  active : ActiveOnly (InferenceEnabled s.registry) s.models
  candidates : CandidatesOnly (InferenceEnabled s.registry) s
  handled : s.unhandled = []

/-! ## Statements -/

omit [Runtime F] in
/-- A statement activates the model it says it activates, and no other. -/
theorem activeOnly_exec {P : String → Prop} {models : ModelsTable F} {w : ModelWrite F}
    (h : ActiveOnly P models)
    (hw : ∀ providerId, activates models w = some providerId → P providerId) :
    ActiveOnly P (models.exec w) := by
  change ∀ row ∈ w.apply models.rows, row.isActive = some 1 → P row.providerId
  rcases apply_cases w models.rows with happly | ⟨model, now, rfl, -, happly⟩
  · rw [happly]
    intro row hrow hactive
    obtain ⟨old, hold, hset⟩ := Tables.mem_updateWhere.mp hrow
    by_cases hselects : w.selects old = true
    · rw [if_pos hselects] at hset
      rw [← hset] at hactive ⊢
      cases w with
      | upsert model now => exact hw model.providerId rfl
      | setActive id isActive =>
          cases isActive with
          | false => cases hactive
          | true =>
              refine hw old.providerId ?_
              rw [activates, row?_eq_some_iff.mpr ⟨hold, of_decide_eq_true hselects⟩]
              rfl
      | markNotSeen providerId seenIds => cases hactive
      | deactivateProvider providerId => cases hactive
      | setScore id compositeScore scoreUpdatedAt => exact h old hold hactive
      | failure id now error nextBackoff cooldownUntil threshold => exact h old hold hactive
      | success id now latencyMs ttfbMs probedAt => exact h old hold hactive
    · rw [if_neg hselects] at hset
      rw [← hset] at hactive ⊢
      exact h old hold hactive
  · rw [happly]
    intro row hrow hactive
    rcases List.mem_append.mp hrow with hold | hnew
    · exact h row hold hactive
    · rw [List.mem_singleton.mp hnew]
      exact hw model.providerId rfl

omit [Runtime F] in
theorem activeOnly_execAll {P : String → Prop} {models : ModelsTable F}
    {ws : List (ModelWrite F)} (h : ActiveOnly P models) (hws : ActivateOnly P models ws) :
    ActiveOnly P (models.execAll ws) := by
  induction ws generalizing models with
  | nil => exact h
  | cons w ws ih => exact ih (activeOnly_exec h hws.1) hws.2

omit [Runtime F] in
/-- A statement stores provider ids that were stored or that it upserts. -/
theorem providerId_exec {P : String → Prop} {models : ModelsTable F} {w : ModelWrite F}
    (h : ∀ row ∈ models.rows, P row.providerId)
    (hw : ∀ model now, w = .upsert model now → P model.providerId) :
    ∀ row ∈ (models.exec w).rows, P row.providerId := by
  change ∀ row ∈ w.apply models.rows, P row.providerId
  rcases apply_cases w models.rows with happly | ⟨model, now, rfl, -, happly⟩
  · rw [happly]
    refine Tables.forall_mem_updateWhere h ?_
    intro row hrow _
    cases w with
    | upsert model now => exact hw model now rfl
    | _ => exact hrow
  · rw [happly]
    intro row hrow
    rcases List.mem_append.mp hrow with hold | hnew
    · exact h row hold
    · rw [List.mem_singleton.mp hnew]
      exact hw model now rfl

omit [Runtime F] in
theorem providerId_execAll {P : String → Prop} {models : ModelsTable F}
    {ws : List (ModelWrite F)} (h : ∀ row ∈ models.rows, P row.providerId)
    (hws : ∀ model now, .upsert model now ∈ ws → P model.providerId) :
    ∀ row ∈ (models.execAll ws).rows, P row.providerId := by
  induction ws generalizing models with
  | nil => exact h
  | cons w ws ih =>
      refine ih (providerId_exec h fun model now hw => ?_) fun model now hmem => ?_
      · exact hws model now (hw ▸ List.mem_cons_self)
      · exact hws model now (List.mem_cons_of_mem _ hmem)

omit [Runtime F] in
theorem Named.flush {s : Serving F} (h : Named s) : Named s.flush := by
  refine ⟨providerId_execAll (P := fun id => stripped id ≠ "") h.stored h.queued, ?_,
    h.inProgress⟩
  intro model now hmem
  cases hmem

omit [FloatArith F] [Runtime F] in
/-- More statements that upsert nothing keep every provider named. -/
theorem Named.enqueue {s : Serving F} (h : Named s) {ws : List (ModelWrite F)}
    (hws : ∀ model now, .upsert model now ∉ ws) : Named { s with queue := s.queue ++ ws } := by
  refine ⟨h.stored, ?_, h.inProgress⟩
  intro model now hmem
  rcases List.mem_append.mp hmem with hold | hnew
  · exact h.queued model now hold
  · exact absurd hnew (hws model now)

/-! ## The gating -/

omit [Runtime F] in
/-- The gating keeps the registry, the settings, the requests and the operations in
progress. -/
theorem applyRuntimeState_frame (settings : Settings F) (s : Serving F) :
    (s.applyRuntimeState settings).registry = s.registry ∧
      (s.applyRuntimeState settings).settings = s.settings ∧
      (s.applyRuntimeState settings).requests = s.requests ∧
      (s.applyRuntimeState settings).unhandled = s.unhandled := by
  unfold Serving.applyRuntimeState Serving.flush
  by_cases hnone : disabledProviderIds settings s.registry s.models = []
  · simp only [if_pos hnone, and_self]
  · simp only [if_neg hnone, and_self]

omit [Runtime F] in
theorem named_applyRuntimeState {s : Serving F} (h : Named s) (settings : Settings F) :
    Named (s.applyRuntimeState settings) := by
  unfold Serving.applyRuntimeState
  by_cases hnone : disabledProviderIds settings s.registry s.models = []
  · simp only [if_pos hnone]
    exact h
  · simp only [if_neg hnone]
    refine (h.enqueue ?_).flush
    intro model now hmem
    obtain ⟨providerId, -, hw⟩ := List.mem_map.mp hmem
    cases hw

omit [Runtime F] in
/-- After the gating every active model is of a provider that serves. -/
theorem active_applyRuntimeState {s : Serving F} {settings : Settings F} (hnamed : Named s)
    (hflushes : FlushesGated settings s) :
    ActiveOnly (InferenceEnabled s.registry) (s.applyRuntimeState settings).models := by
  have hbefore : ActiveOnly (fun providerId => InferenceEnabled s.registry providerId ∨
      providerId ∈ disabledProviderIds settings s.registry s.models) s.models := by
    intro row hrow hactive
    by_cases henabled : InferenceEnabled s.registry row.providerId
    · exact .inl henabled
    · refine .inr (mem_disabledProviderIds_iff.mpr ⟨.inr (.inl ?_), henabled⟩)
      exact ⟨hnamed.stored row hrow, row, hrow, hactive, rfl⟩
  unfold Serving.applyRuntimeState
  by_cases hnone : disabledProviderIds settings s.registry s.models = []
  · simp only [if_pos hnone]
    intro row hrow hactive
    rcases hbefore row hrow hactive with henabled | hdisabled
    · exact henabled
    · rw [hnone] at hdisabled
      cases hdisabled
  · simp only [if_neg hnone, Serving.flush]
    have hqueue := activeOnly_execAll hbefore (hflushes hnone)
    rw [execAll_append]
    intro row hrow hactive
    rw [rows_execAll_deactivateProvider] at hrow
    obtain ⟨old, hold, rfl⟩ := List.mem_map.mp hrow
    obtain ⟨hactive, hnot⟩ := isActive_deactivateOf_iff.mp hactive
    rw [deactivateOf_of_not_mem hnot]
    exact (hqueue old hold hactive).resolve_right hnot

omit [FloatArith F] [Runtime F] in
theorem flushesGated_of_queue {s : Serving F} [FloatArith F] (h : s.queue = [])
    (settings : Settings F) : FlushesGated settings s := by
  intro _
  rw [h]
  trivial

omit [Runtime F] in
/-- What a gating has gated, the next one has nothing to add to. -/
theorem flushesGated_applyRuntimeState (settings : Settings F) (s : Serving F) :
    FlushesGated settings (s.applyRuntimeState settings) := by
  unfold Serving.applyRuntimeState
  by_cases hnone : disabledProviderIds settings s.registry s.models = []
  · simp only [if_pos hnone]
    intro hsome
    exact absurd hnone hsome
  · simp only [if_neg hnone]
    exact flushesGated_of_queue rfl settings

omit [Runtime F] in
theorem recompute_frame (env : Surroundings F) (s : Serving F) :
    (s.recompute env).registry = s.registry ∧ (s.recompute env).requests = s.requests ∧
      (s.recompute env).unhandled = s.unhandled := by
  obtain ⟨hregistry, -, hrequests, hunhandled⟩ := applyRuntimeState_frame s.settings s
  unfold Serving.recompute
  cases env.access .readinessProviders with
  | error exc => exact ⟨rfl, rfl, rfl⟩
  | ok u => cases env.access .routableModels <;> exact ⟨hregistry, hrequests, hunhandled⟩

omit [Runtime F] in
theorem named_recompute {s : Serving F} (h : Named s) (env : Surroundings F) :
    Named (s.recompute env) := by
  have hgated := named_applyRuntimeState h s.settings
  unfold Serving.recompute
  cases env.access .readinessProviders with
  | error exc => exact h
  | ok u =>
      cases env.access .routableModels with
      | error exc => exact hgated
      | ok v => exact ⟨hgated.stored, hgated.queued, hgated.inProgress⟩

omit [Runtime F] in
/-- A recomputation gates the models when it can read them. -/
theorem active_recompute {s : Serving F} (hnamed : Named s)
    (hflushes : FlushesGated s.settings s) {env : Surroundings F}
    (h : env.access .readinessProviders = .ok () ∨
      ActiveOnly (InferenceEnabled s.registry) s.models) :
    ActiveOnly (InferenceEnabled s.registry) (s.recompute env).models := by
  have hgated := active_applyRuntimeState hnamed hflushes
  unfold Serving.recompute
  cases hread : env.access .readinessProviders with
  | error exc =>
      rcases h with hok | hactive
      · rw [hread] at hok
        cases hok
      · exact hactive
  | ok u => cases env.access .routableModels <;> exact hgated

/-! ## The lookup -/

omit [FloatArith F] in
/-- Candidates of providers that serve are looked up without an exception. -/
theorem lookUp_of_enabled {s : Serving F} (hnamed : WellNamed s.registry)
    {candidates : List Routed}
    (h : ∀ candidate ∈ candidates, InferenceEnabled s.registry candidate.providerId) :
    s.lookUp candidates = (s, candidates.tail) := by
  cases candidates with
  | nil => rfl
  | cons candidate rest =>
      obtain ⟨adapter, hget⟩ := get_of_inferenceEnabled (F := F) hnamed
        (h candidate List.mem_cons_self)
      simp only [Serving.lookUp, hget, List.tail_cons]

/-- Candidates are picked among the active models. -/
theorem enabled_of_mem_pickCandidates {P : String → Prop} {models : ModelsTable F}
    (hactive : ActiveOnly P models) {estimate : EstimateRequiredTokens F} {now : String}
    {req : RoutingRequirements F} {preferences : Option RoutingPreferences}
    {fallbackModelId : Option String} {limit : Int} {candidates : List Routed}
    (h : pickCandidates estimate models now req preferences fallbackModelId limit =
      .ok candidates) : ∀ candidate ∈ candidates, P candidate.providerId := by
  intro candidate hcandidate
  obtain ⟨row, hrow, hrouted, hsatisfies⟩ := satisfies_of_mem_pickCandidates h hcandidate
  rw [← hrouted]
  exact hactive row hrow hsatisfies.active

/-! ## Every step -/

omit [FloatArith F] [Runtime F] in
/-- Only discovery upserts models. -/
theorem discovery_of_upsert_mem_writes {op : Inventory.Operation F} {models : ModelsTable F}
    {model : DiscoveredModel F} {now : String} (h : .upsert model now ∈ op.writes models) :
    ∃ seenAt providers, op = .discovery seenAt providers ∧
      ∃ provider ∈ providers, model ∈ provider.models := by
  cases Inventory.enqueues_of_mem_writes h with
  | upsert hprovider hmodel => exact ⟨_, _, rfl, _, hprovider, hmodel⟩

omit [FloatArith F] [Runtime F] in
/-- Discovery reports models of registered providers, which have names. -/
theorem named_of_started {registry : ProviderRegistry} (hnamed : WellNamed registry)
    {op : Inventory.Operation F} (h : Started registry op) (models : ModelsTable F) :
    ∀ model now, .upsert model now ∈ op.writes models → stripped model.providerId ≠ "" := by
  intro model now hmem
  obtain ⟨seenAt, providers, rfl, provider, hprovider, hmodel⟩ :=
    discovery_of_upsert_mem_writes hmem
  obtain ⟨⟨object, hobject, hname⟩, hmodels⟩ := h provider hprovider
  obtain ⟨registered, hregistered, rfl⟩ := List.mem_map.mp hobject
  obtain ⟨entry, hentry, rfl⟩ := List.mem_map.mp (List.mem_filter.mp hregistered).1
  obtain ⟨hkey, htrimmed, hne, hadapter⟩ := hnamed entry hentry
  rw [hmodels model hmodel, ← hname, hadapter, ← hkey, htrimmed]
  exact hne

omit [Runtime F] in
/-- A recomputation serves when what is active was gated or is served already. -/
theorem served_recompute {s : Serving F} {env : Surroundings F}
    (hwell : WellNamed s.registry) (hnamed : Named s) (hflushes : FlushesGated s.settings s)
    (hactive : env.access .readinessProviders = .ok () ∨
      ActiveOnly (InferenceEnabled s.registry) s.models)
    (hcandidates : CandidatesOnly (InferenceEnabled s.registry) s)
    (hhandled : s.unhandled = []) : Served (s.recompute env) := by
  obtain ⟨hregistry, hrequests, hunhandled⟩ := recompute_frame env s
  refine ⟨?_, named_recompute hnamed env, ?_, ?_, ?_⟩
  · rw [hregistry]
    exact hwell
  · rw [hregistry]
    exact active_recompute hnamed hflushes hactive
  · unfold CandidatesOnly
    rw [hregistry, hrequests]
    exact hcandidates
  · rw [hunhandled]
    exact hhandled

omit [Runtime F] in
/-- The end of a reload, from the gating on. -/
theorem served_actOn {s : Serving F} {env : Surroundings F} (hwell : WellNamed s.registry)
    (hnamed : Named s) (hflushes : FlushesGated s.settings s)
    (hcandidates : CandidatesOnly (InferenceEnabled s.registry) s)
    (hhandled : s.unhandled = []) :
    Served (s.actOn env s.settings) := by
  obtain ⟨hregistry, hsettings, hrequests, hunhandled⟩ :=
    applyRuntimeState_frame s.settings s
  have hgated : Served (s.applyRuntimeState s.settings) := by
    refine ⟨?_, named_applyRuntimeState hnamed s.settings, ?_, ?_, ?_⟩
    · rw [hregistry]
      exact hwell
    · rw [hregistry]
      exact active_applyRuntimeState hnamed hflushes
    · unfold CandidatesOnly
      rw [hregistry, hrequests]
      exact hcandidates
    · rw [hunhandled]
      exact hhandled
  unfold Serving.actOn
  cases rescheduleJobs env s.settings with
  | error exc => exact hgated
  | ok u =>
      refine served_recompute hgated.wellNamed hgated.named ?_ (.inr hgated.active)
        hgated.candidates hgated.handled
      rw [hsettings]
      exact flushesGated_applyRuntimeState s.settings s

/-- The registry after a rebuild serves what the gating leaves active. -/
theorem served_reload {s : Serving F} {env : Surroundings F} {settings : Settings F}
    (hguard : KeepsServed s (.reload env settings)) (h : Served s) :
    Served (s.reload env settings) := by
  obtain ⟨hcandidates, hcases⟩ := hguard
  have hnamed := wellNamed_configureRegistry env.host settings s.registry
  have hrest := h.named
  unfold ReachesGating at hcases
  unfold Serving.reload
  cases hrun : (configureRegistry env.host settings).run s.registry with
  | error exc registry =>
      rw [finalState_of_error hrun] at hnamed hcandidates hcases
      rcases hcases with ⟨⟨hreturns, -, -⟩, -⟩ | ⟨-, hactive⟩
      · exact absurd hreturns (not_returns_of_error hrun)
      · exact ⟨hnamed, ⟨hrest.stored, hrest.queued, hrest.inProgress⟩, hactive, hcandidates,
          h.handled⟩
  | ok u registry =>
      rw [finalState_of_ok hrun] at hnamed hcandidates hcases
      have hunread : ¬ (env.access .gatewayAuthConfig = .ok () ∧
          env.access .activeProviders = .ok ()) →
          Served { s with registry := registry, settings := settings } := by
        intro hnot
        rcases hcases with ⟨⟨-, hread⟩, -⟩ | ⟨-, hactive⟩
        · exact absurd hread hnot
        · exact ⟨hnamed, ⟨hrest.stored, hrest.queued, hrest.inProgress⟩, hactive, hcandidates,
            h.handled⟩
      cases hauth : env.access .gatewayAuthConfig with
      | error exc =>
          refine hunread fun hread => ?_
          rw [hauth] at hread
          cases hread.1
      | ok v =>
          cases hproviders : env.access .activeProviders with
          | error exc =>
              refine hunread fun hread => ?_
              rw [hproviders] at hread
              cases hread.2
          | ok w =>
              have hflushes : FlushesGated settings { s with registry := registry } := by
                rcases hcases with ⟨-, hflushes⟩ | ⟨hnot, -⟩
                · exact hflushes
                · exact absurd ⟨⟨u, registry, hrun⟩, hauth, hproviders⟩ hnot
              exact served_actOn (s := { s with registry := registry, settings := settings })
                hnamed ⟨hrest.stored, hrest.queued, hrest.inProgress⟩ hflushes hcandidates
                h.handled

omit [FloatArith F] [Runtime F] in
/-- Requests that go on change who reads and which candidates are left. -/
theorem Served.requested {s : Serving F} (h : Served s) (reading : Nat)
    {requests : List (List Routed)}
    (hrequests : ∀ candidates ∈ requests, ∀ candidate ∈ candidates,
      InferenceEnabled s.registry candidate.providerId) :
    Served { s with reading := reading, requests := requests } :=
  ⟨h.wellNamed, ⟨h.named.stored, h.named.queued, h.named.inProgress⟩, h.active, hrequests,
    h.handled⟩

omit [FloatArith F] [Runtime F] in
/-- A request is left with some of its candidates. -/
theorem CandidatesOnly.set {P : String → Prop} {s : Serving F} (h : CandidatesOnly P s)
    (request : Nat) {rest : List Routed} (hrest : ∀ candidate ∈ rest, P candidate.providerId) :
    ∀ candidates ∈ s.requests.set request rest, ∀ candidate ∈ candidates,
      P candidate.providerId := by
  intro candidates hmem
  rcases List.mem_or_eq_of_mem_set hmem with hold | rfl
  · exact h candidates hold
  · exact hrest

/-- A step that keeps the active models and the candidates served keeps the gateway
serving. -/
theorem served_step {s s' : Serving F} {event : ServingEvent F}
    (hstep : serve s event = some s') (hguard : KeepsServed s event) (h : Served s) :
    Served s' := by
  cases event with
  | start op =>
      simp only [serve] at hstep
      split at hstep
      · rename_i hstarted
        cases hstep
        refine ⟨h.wellNamed, ⟨h.named.stored, h.named.queued, ?_⟩, h.active, h.candidates,
          h.handled⟩
        intro writes hwrites
        rcases List.mem_append.mp hwrites with hold | hnew
        · exact h.named.inProgress writes hold
        · rw [List.mem_singleton.mp hnew]
          exact named_of_started h.wellNamed hstarted s.models
      · cases hstep
  | emit task =>
      simp only [serve] at hstep
      split at hstep
      · rename_i w rest htask
        cases hstep
        have hwrites := h.named.inProgress _ (List.mem_of_getElem? htask)
        refine ⟨h.wellNamed, ⟨h.named.stored, ?_, ?_⟩, h.active, h.candidates, h.handled⟩
        · intro model now hmem
          rcases List.mem_append.mp hmem with hold | hnew
          · exact h.named.queued model now hold
          · exact hwrites model now (List.mem_singleton.mp hnew ▸ List.mem_cons_self)
        · intro writes hmem
          rcases List.mem_or_eq_of_mem_set hmem with hold | rfl
          · exact h.named.inProgress writes hold
          · exact fun model now hw => hwrites model now (List.mem_cons_of_mem _ hw)
      · cases hstep
  | drain =>
      simp only [serve] at hstep
      split at hstep
      · cases hstep
      · rename_i w rest hqueue
        cases hstep
        have hhead : w ∈ s.queue.head? := by
          rw [hqueue]
          rfl
        have hqueued := h.named.queued
        rw [hqueue] at hqueued
        refine ⟨h.wellNamed, ⟨?_, ?_, h.named.inProgress⟩, ?_, h.candidates, h.handled⟩
        · refine providerId_exec (P := fun id => stripped id ≠ "") h.named.stored ?_
          intro model now hw
          exact hqueued model now (hw ▸ List.mem_cons_self)
        · intro model now hmem
          exact hqueued model now (List.mem_cons_of_mem _ hmem)
        · exact activeOnly_exec h.active (hguard w hhead).1
  | setModelActive env id isActive =>
      obtain rfl := Option.some.inj hstep
      unfold Serving.setModelActive
      split
      · exact h
      · have hnamed : Named { s with queue := s.queue ++ [.setActive id isActive] } :=
          h.named.enqueue fun model now hmem => by cases List.mem_singleton.mp hmem
        refine served_recompute h.wellNamed hnamed.flush (flushesGated_of_queue rfl _) ?_
          h.candidates h.handled
        rcases hguard with hread | hqueue
        · exact .inl hread
        · exact .inr (activeOnly_execAll h.active hqueue)
  | recompute env =>
      obtain rfl := Option.some.inj hstep
      refine served_recompute h.wellNamed h.named.flush (flushesGated_of_queue rfl _) ?_
        h.candidates h.handled
      rcases hguard with hread | hqueue
      · exact .inl hread
      · exact .inr (activeOnly_execAll h.active hqueue)
  | reload env settings =>
      obtain rfl := Option.some.inj hstep
      exact served_reload hguard h
  | arrive =>
      obtain rfl := Option.some.inj hstep
      split
      · exact h.requested _ h.candidates
      · exact h
  | chat estimate now req preferences =>
      have hread : Served { s with reading := s.reading - 1 } := h.requested _ h.candidates
      simp only [serve] at hstep
      split at hstep
      · split at hstep
        · cases hstep
          exact hread
        · rename_i candidates hpick
          have henabled := enabled_of_mem_pickCandidates h.active hpick
          rw [lookUp_of_enabled hread.wellNamed henabled] at hstep
          cases hstep
          refine h.requested _ fun rest hrest => ?_
          rcases List.mem_append.mp hrest with hold | hnew
          · exact h.candidates rest hold
          · rw [List.mem_singleton.mp hnew]
            exact fun candidate hmem => henabled candidate (List.mem_of_mem_tail hmem)
      · cases hstep
  | next request =>
      obtain ⟨candidates, hcandidates, rfl⟩ := Option.map_eq_some_iff.mp hstep
      have henabled := h.candidates candidates (List.mem_of_getElem? hcandidates)
      rw [lookUp_of_enabled h.wellNamed henabled]
      exact h.requested _ <| h.candidates.set request fun candidate hmem =>
        henabled candidate (List.mem_of_mem_tail hmem)
  | answer request =>
      obtain rfl := Option.some.inj hstep
      exact h.requested _ <| h.candidates.set request fun candidate hmem => nomatch hmem

/-! ## Runs -/

/-- After the startup: nothing is pending, every model has a named provider, and every
active model is of a provider that serves. -/
structure StartedUp (s : Serving F) : Prop where
  wellNamed : WellNamed s.registry
  named : ∀ row ∈ s.models.rows, stripped row.providerId ≠ ""
  active : ActiveOnly (InferenceEnabled s.registry) s.models
  queue : s.queue = []
  inProgress : s.inProgress = []
  requests : s.requests = []
  unhandled : s.unhandled = []

omit [FloatArith F] [Runtime F] in
theorem StartedUp.served {s : Serving F} (h : StartedUp s) : Served s := by
  refine ⟨h.wellNamed, ⟨h.named, ?_, ?_⟩, h.active, ?_, h.unhandled⟩
  · intro model now hmem
    rw [h.queue] at hmem
    cases hmem
  · intro writes hwrites
    rw [h.inProgress] at hwrites
    cases hwrites
  · intro candidates hcandidates
    rw [h.requests] at hcandidates
    cases hcandidates

/-- In every run from the startup whose steps keep the active models and the candidates
served, every lookup of the candidate loop finds its provider: no request ends in a
`KeyError`. -/
theorem candidates_served {s t : Serving F} {events : List (ServingEvent F)}
    (hstart : StartedUp s) (hguard : Guarded serve KeepsServed s events)
    (hrun : run serve s events = some t) :
    t.unhandled = [] ∧ CandidatesOnly (InferenceEnabled t.registry) t ∧
      ActiveOnly (InferenceEnabled t.registry) t.models := by
  have hserved : Served t :=
    run_guarded_invariant Served (fun _ _ _ => served_step) hrun hguard hstart.served
  exact ⟨hserved.handled, hserved.candidates, hserved.active⟩

end Serving

/-! ## A provider for discovery only -/

/-- A model as a provider reports it. -/
def reported (providerId : String) : DiscoveredModel Exact where
  id := providerId ++ "/a"
  name := "a"
  providerId := providerId
  providerModelId := "a"
  providerBaseUrl := "https://example.com/v1"
  providerApiKeyEnv := "API_KEY"

/-- A gateway that serves a model of `groq`, with `openrouter` registered as well. -/
def servingGroq (openrouterInference : Bool) : Serving Exact where
  registry :=
    (ProviderRegistry.empty.insert "groq"
      { name := "groq", apiKey := "key", apiBase := "https://api.groq.com/openai/v1" }
      true true).insert "openrouter"
      { name := "openrouter", apiKey := "key", apiBase := "https://openrouter.ai/api/v1" }
      true openrouterInference
  settings := settingsWithOpenrouter []
  ready := true
  models := ⟨[(reported "groq").newRow "2024-01-01T00:00:00Z"], List.nodup_singleton _⟩
  queue := []
  inProgress := []
  reading := 0
  requests := []
  unhandled := []

theorem startedUp_servingGroq (openrouterInference : Bool) :
    StartedUp (servingGroq openrouterInference) := by
  refine ⟨?_, ?_, ?_, rfl, rfl, rfl, rfl⟩
  · have hempty : WellNamed ProviderRegistry.empty := by
      intro entry hentry
      cases hentry
    refine wellNamed_insert (wellNamed_insert hempty ?_ ?_ ?_ true true) ?_ ?_ ?_ true
      openrouterInference <;> decide
  · intro row hrow
    rw [List.mem_singleton.mp hrow]
    decide
  · intro row hrow _
    rw [List.mem_singleton.mp hrow]
    rfl

/-- Discovery stores a model of `openrouter`, and a request that arrives before the
readiness is recomputed tries both models. -/
def discoveryThenChat : List (ServingEvent Exact) :=
  [.start (.discovery "2024-01-02T00:00:00Z" [⟨"openrouter", [reported "openrouter"], true⟩]),
    .emit 0, .drain, .arrive,
    .chat (fun _ _ _ _ _ _ => .ok 0) "2024-01-02T00:00:00Z" defaultRequirements none, .next 0]

/-- The number of requests that end in an exception. -/
def failuresAfter (s : Serving Exact) (events : List (ServingEvent Exact)) : Option Nat :=
  (run serve s events).map fun t => t.unhandled.length

theorem guarded_discoveryThenChat :
    Guarded serve KeepsServed (servingGroq true) discoveryThenChat := by
  refine ⟨trivial, ?_⟩
  rintro _ ⟨⟩
  refine ⟨trivial, ?_⟩
  rintro _ ⟨⟩
  refine ⟨?_, ?_⟩
  · rintro w ⟨⟩
    refine ⟨?_, trivial⟩
    rintro providerId ⟨⟩
    rfl
  · rintro _ ⟨⟩
    refine ⟨trivial, ?_⟩
    rintro _ ⟨⟩
    refine ⟨trivial, ?_⟩
    intro t _
    refine ⟨trivial, ?_⟩
    intro u _
    trivial

/-- Where `openrouter` serves as well, the request tries both models. -/
theorem candidates_served_sample :
    ∃ t, run serve (servingGroq true) discoveryThenChat = some t ∧ t.unhandled = [] := by
  have hruns : failuresAfter (servingGroq true) discoveryThenChat = some 0 := by
    decide +kernel
  obtain ⟨t, ht, -⟩ := Option.map_eq_some_iff.mp hruns
  exact ⟨t, ht, (candidates_served (startedUp_servingGroq true) guarded_discoveryThenChat ht).1⟩

/-- Where `openrouter` is enabled for discovery only, the request ends in the `KeyError` of
the lookup. -/
theorem discovered_candidate_raises :
    ¬ ∀ (s t : Serving Exact) (events : List (ServingEvent Exact)),
      StartedUp s → run serve s events = some t → t.unhandled = [] := by
  intro h
  have hruns : failuresAfter (servingGroq false) discoveryThenChat = some 1 := by
    decide +kernel
  obtain ⟨t, ht, hone⟩ := Option.map_eq_some_iff.mp hruns
  have hnone := h (servingGroq false) t discoveryThenChat (startedUp_servingGroq false) ht
  rw [hnone] at hone
  cases hone

end Runtime
end FreeLunch
