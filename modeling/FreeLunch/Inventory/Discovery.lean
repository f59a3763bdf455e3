import FreeLunch.Inventory.Activity
import FreeLunch.Runtime.Registry

/-!
# Discovery runs

`run_discovery` asks the discovery-enabled providers one after the other and enqueues,
for each, an upsert of every reported model and one deactivation of what it no longer
reports.  `run_discovery_pipeline` runs ranking, bootstrap probing and the readiness
recomputation behind it.

Main results:

- Theorem `row_unreported`, `row_reported`: what a discovery run makes of one row.
- Theorem `discovery_reconciles`: the active models of each provider are the ones it
  reported, the other rows and columns are unchanged, and a repetition switches nothing.
- Theorem `discovery_isolated_iff`: providers are isolated from each other exactly when
  none of them raises.

Current gaps:

- A reported model carries its ranks and cached benchmarks already, and the refresh of the
  benchmark cache that precedes the loop is left out.
-/

namespace FreeLunch
namespace Inventory

open FreeLunch.Runtime Python Store Transactions Routing

/-! ## The pipeline -/

/-- The stages of `run_discovery_pipeline`. -/
inductive Stage where
  | discovery
  | ranking
  | bootstrapHealth
  | readiness
deriving DecidableEq, Repr

/-- What a pipeline works on: the table, the writer's queue and the stages entered. -/
structure Pipeline (F : Type) where
  table : ModelsTable F
  queue : List (ModelWrite F)
  stages : List Stage

/-- What a pipeline run meets: the times, what each adapter answers, the scores, what the
bootstrap probes enqueue with their number, and what the gating of providers reads. -/
structure PipelineEnv (F : Type) where
  now : String
  scoreUpdatedAt : String
  discoverModels : AdapterObject → Except Exc (List (DiscoveredModel F))
  score : List (ModelRow F) → ModelRow F → F
  bootstrapHealthCheck : ModelsTable F → Except Exc (List (ModelWrite F) × Nat)
  runtimeState : RuntimeState

/-- The dictionary `run_discovery_pipeline` returns. -/
structure PipelineOutcome where
  discovered : Nat
  rankingUpdates : Nat
  probedModels : Nat
  ready : Bool
deriving DecidableEq, Repr

section Pipeline

variable {F : Type} [FloatArith F]

/-- `db.writer.enqueue` of each statement. -/
def enqueue (writes : List (ModelWrite F)) : EStateM Exc (Pipeline F) Unit :=
  modify fun p => { p with queue := p.queue ++ writes }

/-- `db.writer.flush()`. -/
def flush : EStateM Exc (Pipeline F) Unit :=
  modify fun p => { p with table := p.table.execAll p.queue, queue := [] }

/-- A stage begins. -/
def enter (stage : Stage) : EStateM Exc (Pipeline F) Unit :=
  modify fun p => { p with stages := p.stages ++ [stage] }

/-- The loop of `run_discovery` over the adapters. -/
def discoverEach (env : PipelineEnv F) : List AdapterObject → EStateM Exc (Pipeline F) Nat
  | [] => pure 0
  | provider :: rest => do
      let models ← call (env.discoverModels provider)
      enqueue (models.map fun model => .upsert model env.now)
      enqueue [.markNotSeen provider.adapter.name (models.map DiscoveredModel.id)]
      let discovered ← discoverEach env rest
      return models.length + discovered

/-- `run_discovery`. -/
def runDiscovery (env : PipelineEnv F) (registry : ProviderRegistry) :
    EStateM Exc (Pipeline F) Nat :=
  discoverEach env registry.all

/-- The ranking stage. -/
def rankingStage (env : PipelineEnv F) : EStateM Exc (Pipeline F) Nat := do
  enter .ranking
  let scores := rankingWrites (← get).table env.scoreUpdatedAt env.score
  enqueue scores
  flush
  return scores.length

/-- The bootstrap stage, with the number of models probed. -/
def bootstrapStage (env : PipelineEnv F) : EStateM Exc (Pipeline F) Nat := do
  enter .bootstrapHealth
  let (writes, probed) ← call (env.bootstrapHealthCheck (← get).table)
  enqueue writes
  flush
  return probed

/-- The readiness stage. -/
def readinessStage (env : PipelineEnv F) : EStateM Exc (Pipeline F) Bool := do
  enter .readiness
  enqueue ((disabledProviderIds (← get).table env.runtimeState).map .deactivateProvider)
  flush
  let routable := (← get).table.rows.filter fun row =>
    row.isHealthy == some 1 && row.isActive == some 1
  return !routable.isEmpty

/-- `run_discovery_pipeline`. -/
def runDiscoveryPipeline (env : PipelineEnv F) (registry : ProviderRegistry) :
    EStateM Exc (Pipeline F) PipelineOutcome := do
  enter .discovery
  let discovered ← runDiscovery env registry
  flush
  let rankingUpdates ← rankingStage env
  let probedModels ← bootstrapStage env
  let ready ← readinessStage env
  return {
    discovered := discovered, rankingUpdates := rankingUpdates, probedModels := probedModels
    ready := ready }

/-- The table once the writer has drained the queue. -/
def Pipeline.drained (p : Pipeline F) : ModelsTable F :=
  p.table.execAll p.queue

/-- A pipeline about to start on a table. -/
def idle (table : ModelsTable F) : Pipeline F where
  table := table
  queue := []
  stages := []

/-- The table after one `run_discovery`, returned or not, and a drain of the queue. -/
def discovered (env : PipelineEnv F) (registry : ProviderRegistry) (table : ModelsTable F) :
    ModelsTable F :=
  (finalState (runDiscovery env registry) (idle table)).drained

/-- What an adapter reports; nothing when it raises. -/
def PipelineEnv.reported (env : PipelineEnv F) (provider : AdapterObject) :
    List (DiscoveredModel F) :=
  (env.discoverModels provider).toOption.getD []

/-- A provider's turn. -/
def PipelineEnv.turn (env : PipelineEnv F) (provider : AdapterObject) :
    ProviderDiscovery F where
  name := provider.adapter.name
  models := env.reported provider
  completed := (env.discoverModels provider).toBool

/-- `discover_models` of an adapter returns. -/
def PipelineEnv.Answers (env : PipelineEnv F) (provider : AdapterObject) : Prop :=
  ∃ models, env.discoverModels provider = .ok models

omit [FloatArith F] in
theorem completed_turn_iff (env : PipelineEnv F) (provider : AdapterObject) :
    (env.turn provider).completed = true ↔ env.Answers provider := by
  unfold PipelineEnv.turn PipelineEnv.Answers
  cases env.discoverModels provider with
  | ok models => simp [Except.toBool]
  | error exc => simp [Except.toBool]

/-! ## What a run enqueues -/

omit [FloatArith F] in
theorem turn_of_ok {env : PipelineEnv F} {provider : AdapterObject}
    {models : List (DiscoveredModel F)} (h : env.discoverModels provider = .ok models) :
    env.turn provider = ⟨provider.adapter.name, models, true⟩ := by
  simp [PipelineEnv.turn, PipelineEnv.reported, h, Except.toBool, Except.toOption]

omit [FloatArith F] in
theorem turn_of_error {env : PipelineEnv F} {provider : AdapterObject} {exc : Exc}
    (h : env.discoverModels provider = .error exc) :
    env.turn provider = ⟨provider.adapter.name, [], false⟩ := by
  simp [PipelineEnv.turn, PipelineEnv.reported, h, Except.toBool, Except.toOption]

/-- The pipeline behind the turn of a provider that answered. -/
def Pipeline.afterTurn (env : PipelineEnv F) (provider : AdapterObject)
    (models : List (DiscoveredModel F)) (p : Pipeline F) : Pipeline F :=
  { p with queue := (p.queue ++ models.map fun model => .upsert model env.now) ++
      [.markNotSeen provider.adapter.name (models.map DiscoveredModel.id)] }

omit [FloatArith F] in
/-- The turn of a provider that answers, and the turns behind it. -/
theorem run_discoverEach_cons {env : PipelineEnv F} {provider : AdapterObject}
    {models : List (DiscoveredModel F)} (h : env.discoverModels provider = .ok models)
    (rest : List AdapterObject) (p : Pipeline F) :
    (discoverEach env (provider :: rest)).run p =
      (discoverEach env rest >>= fun n => pure (models.length + n)).run
        (p.afterTurn env provider models) := by
  have hcall : (call (env.discoverModels provider)).run p = .ok models p := by
    rw [h]
    rfl
  exact run_bind_of_ok hcall _

omit [FloatArith F] in
/-- The turn of a provider that raises. -/
theorem run_discoverEach_cons_error {env : PipelineEnv F} {provider : AdapterObject}
    {exc : Exc} (h : env.discoverModels provider = .error exc) (rest : List AdapterObject)
    (p : Pipeline F) : (discoverEach env (provider :: rest)).run p = .error exc p := by
  have hcall : (call (env.discoverModels provider)).run p = .error exc p := by
    rw [h]
    rfl
  exact run_bind_of_error hcall _

omit [FloatArith F] in
/-- A run enqueues the statements of the turns up to the first exception. -/
theorem finalState_discoverEach (env : PipelineEnv F) (providers : List AdapterObject)
    (p : Pipeline F) :
    finalState (discoverEach env providers) p =
      { p with queue := p.queue ++ discoveryWrites env.now (providers.map env.turn) } := by
  induction providers generalizing p with
  | nil =>
      change p = _
      simp [discoveryWrites]
  | cons provider rest ih =>
      cases hmodels : env.discoverModels provider with
      | error exc =>
          rw [finalState_of_error (run_discoverEach_cons_error hmodels rest p), List.map_cons,
            turn_of_error hmodels]
          simp [discoveryWrites]
      | ok models =>
          rw [List.map_cons, turn_of_ok hmodels, finalState,
            run_discoverEach_cons hmodels rest p, ← finalState, finalState_bind_pure, ih]
          simp [discoveryWrites, Pipeline.afterTurn, List.append_assoc]

omit [FloatArith F] in
/-- A run returns exactly when every adapter answers. -/
theorem returns_discoverEach_iff (env : PipelineEnv F) (providers : List AdapterObject)
    (p : Pipeline F) :
    Returns (discoverEach env providers) p ↔ ∀ provider ∈ providers, env.Answers provider := by
  induction providers generalizing p with
  | nil =>
      refine iff_of_true ⟨0, p, rfl⟩ ?_
      intro provider hprovider
      cases hprovider
  | cons provider rest ih =>
      rw [List.forall_mem_cons]
      cases hmodels : env.discoverModels provider with
      | error exc =>
          refine iff_of_false
            (not_returns_of_error (run_discoverEach_cons_error hmodels rest p)) ?_
          rintro ⟨⟨models, hok⟩, -⟩
          rw [hmodels] at hok
          cases hok
      | ok models =>
          rw [and_iff_right ⟨models, hmodels⟩, Returns, run_discoverEach_cons hmodels rest p,
            ← Returns, returns_bind_pure_iff]
          exact ih _

/-- The table after a run. -/
theorem discovered_eq (env : PipelineEnv F) (registry : ProviderRegistry)
    (table : ModelsTable F) :
    discovered env registry table =
      table.execAll (discoveryWrites env.now (registry.all.map env.turn)) := by
  unfold discovered runDiscovery
  rw [finalState_discoverEach]
  rfl

/-! ## What a run makes of one row -/

/-- The columns the upsert of `run_discovery` does not name. -/
structure Untouched (before after : ModelRow F) : Prop where
  lastHealthCheck : after.lastHealthCheck = before.lastHealthCheck
  avgLatencyMs : after.avgLatencyMs = before.avgLatencyMs
  avgTtfbMs : after.avgTtfbMs = before.avgTtfbMs
  consecutiveFailures : after.consecutiveFailures = before.consecutiveFailures
  backoffLevel : after.backoffLevel = before.backoffLevel
  cooldownUntil : after.cooldownUntil = before.cooldownUntil
  lastError : after.lastError = before.lastError
  lastProbeAt : after.lastProbeAt = before.lastProbeAt
  lastSuccessAt : after.lastSuccessAt = before.lastSuccessAt
  lastFailureAt : after.lastFailureAt = before.lastFailureAt
  lastRoutedAt : after.lastRoutedAt = before.lastRoutedAt
  compositeScore : after.compositeScore = before.compositeScore
  scoreUpdatedAt : after.scoreUpdatedAt = before.scoreUpdatedAt
  discoveredAt : after.discoveredAt = before.discoveredAt

omit [FloatArith F] in
theorem Untouched.refl (row : ModelRow F) : Untouched row row := by
  constructor <;> rfl

omit [FloatArith F] in
theorem untouched_refresh (model : DiscoveredModel F) (now : String) (row : ModelRow F) :
    Untouched row (model.refresh now row) := by
  constructor <;> rfl

omit [FloatArith F] in
theorem untouched_setActive (row : ModelRow F) (isActive : Bool) :
    Untouched row (row.setActive isActive) := by
  constructor <;> rfl

omit [FloatArith F] in
theorem Untouched.trans {a b c : ModelRow F} (hab : Untouched a b) (hbc : Untouched b c) :
    Untouched a c where
  lastHealthCheck := hbc.lastHealthCheck.trans hab.lastHealthCheck
  avgLatencyMs := hbc.avgLatencyMs.trans hab.avgLatencyMs
  avgTtfbMs := hbc.avgTtfbMs.trans hab.avgTtfbMs
  consecutiveFailures := hbc.consecutiveFailures.trans hab.consecutiveFailures
  backoffLevel := hbc.backoffLevel.trans hab.backoffLevel
  cooldownUntil := hbc.cooldownUntil.trans hab.cooldownUntil
  lastError := hbc.lastError.trans hab.lastError
  lastProbeAt := hbc.lastProbeAt.trans hab.lastProbeAt
  lastSuccessAt := hbc.lastSuccessAt.trans hab.lastSuccessAt
  lastFailureAt := hbc.lastFailureAt.trans hab.lastFailureAt
  lastRoutedAt := hbc.lastRoutedAt.trans hab.lastRoutedAt
  compositeScore := hbc.compositeScore.trans hab.compositeScore
  scoreUpdatedAt := hbc.scoreUpdatedAt.trans hab.scoreUpdatedAt
  discoveredAt := hbc.discoveredAt.trans hab.discoveredAt

/-- The row of a model after a queue of statements, from its row before. -/
def afterWrites (id : String) (ws : List (ModelWrite F)) (row : Option (ModelRow F)) :
    Option (ModelRow F) :=
  ws.foldl (fun row w => w.onRow id row) row

theorem afterWrites_cons (id : String) (w : ModelWrite F) (ws : List (ModelWrite F))
    (row : Option (ModelRow F)) :
    afterWrites id (w :: ws) row = afterWrites id ws (w.onRow id row) :=
  rfl

theorem afterWrites_append (id : String) (ws vs : List (ModelWrite F))
    (row : Option (ModelRow F)) :
    afterWrites id (ws ++ vs) row = afterWrites id vs (afterWrites id ws row) :=
  List.foldl_append

/-- An upsert acts on the row of its model. -/
theorem onRow_upsert (model : DiscoveredModel F) (now id : String)
    (row : Option (ModelRow F)) :
    (ModelWrite.upsert model now).onRow id row =
      if id = model.id then some (row.elim (model.newRow now) (model.refresh now)) else row :=
  rfl

/-- The row of a model has its id throughout. -/
theorem id_afterWrites {id : String} {ws : List (ModelWrite F)} {row : Option (ModelRow F)}
    (hid : ∀ r ∈ row, r.id = id) : ∀ r ∈ afterWrites id ws row, r.id = id := by
  induction ws generalizing row with
  | nil => exact hid
  | cons w ws ih =>
      rw [afterWrites_cons]
      apply ih
      cases w with
      | upsert model now =>
          rw [onRow_upsert]
          by_cases hmodel : id = model.id
          · rw [if_pos hmodel]
            intro r hr
            rw [Option.mem_some_iff] at hr
            rw [← hr]
            cases row with
            | none => exact hmodel.symm
            | some old => exact hid old rfl
          · rw [if_neg hmodel]
            exact hid
      | _ =>
          intro r hr
          obtain ⟨old, hold, rfl⟩ := Option.mem_map.mp hr
          split
          · exact (id_set _ old).trans (hid old hold)
          · exact hid old hold

/-- An active row of a provider that keeps the history of the stored row, if any. -/
structure RefreshedFrom (providerId : String) (before : Option (ModelRow F))
    (after : ModelRow F) : Prop where
  provider : after.providerId = providerId
  active : after.isActive = some 1
  kept : ∀ old ∈ before, Untouched old after

omit [FloatArith F] in
theorem refreshedFrom_upsert [OfScientific F] {model : DiscoveredModel F} {name : String}
    (h : model.providerId = name) (now : String) (row : Option (ModelRow F)) :
    RefreshedFrom name row (row.elim (model.newRow now) (model.refresh now)) := by
  cases row with
  | none =>
      refine ⟨h, rfl, ?_⟩
      intro old hold
      cases hold
  | some row =>
      refine ⟨h, rfl, ?_⟩
      intro old hold
      rw [Option.mem_some_iff] at hold
      rw [← hold]
      exact untouched_refresh model now row

/-- The upserts of other models leave a row alone. -/
theorem afterWrites_upserts_of_not_mem {id : String} {models : List (DiscoveredModel F)}
    (h : id ∉ models.map DiscoveredModel.id) (now : String) (row : Option (ModelRow F)) :
    afterWrites id (models.map fun model => .upsert model now) row = row := by
  induction models generalizing row with
  | nil => rfl
  | cons model rest ih =>
      rw [List.map_cons, List.mem_cons, not_or] at h
      rw [List.map_cons, afterWrites_cons, onRow_upsert, if_neg h.1]
      exact ih h.2 row

/-- The last upsert of a model decides; all of them keep its history. -/
theorem afterWrites_upserts_of_mem {id name : String} {models : List (DiscoveredModel F)}
    (hmem : id ∈ models.map DiscoveredModel.id)
    (hown : ∀ model ∈ models, model.providerId = name) (now : String)
    (row : Option (ModelRow F)) :
    ∃ after, afterWrites id (models.map fun model => .upsert model now) row = some after ∧
      RefreshedFrom name row after := by
  induction models generalizing row with
  | nil => cases hmem
  | cons model rest ih =>
      rw [List.forall_mem_cons] at hown
      rw [List.map_cons, afterWrites_cons, onRow_upsert]
      by_cases hid : id = model.id
      · rw [if_pos hid]
        have hfirst := refreshedFrom_upsert hown.1 now row
        by_cases hagain : id ∈ rest.map DiscoveredModel.id
        · obtain ⟨after, hafter, hrefreshed⟩ := ih hagain hown.2
            (some (row.elim (model.newRow now) (model.refresh now)))
          refine ⟨after, hafter, hrefreshed.provider, hrefreshed.active, fun old hold => ?_⟩
          exact (hfirst.kept old hold).trans (hrefreshed.kept _ rfl)
        · exact ⟨_, afterWrites_upserts_of_not_mem hagain now _, hfirst⟩
      · rw [if_neg hid]
        rw [List.map_cons, List.mem_cons] at hmem
        exact ih (hmem.resolve_left hid) hown.2 row

/-- The provider reported the model. -/
def ProviderDiscovery.Reports (provider : ProviderDiscovery F) (id : String) : Prop :=
  id ∈ provider.models.map DiscoveredModel.id

/-- Switch a row off when its provider is among those that were discovered. -/
def switchOff (names : List String) (row : ModelRow F) : ModelRow F :=
  if row.providerId ∈ names then row.setActive false else row

omit [FloatArith F] in
@[simp]
theorem providerId_switchOff (names : List String) (row : ModelRow F) :
    (switchOff names row).providerId = row.providerId := by
  unfold switchOff
  split <;> rfl

omit [FloatArith F] in
@[simp]
theorem id_switchOff (names : List String) (row : ModelRow F) :
    (switchOff names row).id = row.id := by
  unfold switchOff
  split <;> rfl

omit [FloatArith F] in
theorem switchOff_switchOff (name : String) (names : List String) (row : ModelRow F) :
    switchOff names (switchOff [name] row) = switchOff (name :: names) row := by
  unfold switchOff
  by_cases hname : row.providerId = name
  · simp [hname, ModelRow.setActive]
  · simp [hname]

omit [FloatArith F] in
theorem untouched_switchOff (names : List String) (row : ModelRow F) :
    Untouched row (switchOff names row) := by
  unfold switchOff
  split
  · exact untouched_setActive row false
  · exact Untouched.refl row

/-- The deactivation of a provider's turn, on the row of a model. -/
theorem onRow_markNotSeen {name id : String} {seenIds : List String}
    {row : Option (ModelRow F)} (hid : ∀ r ∈ row, r.id = id) :
    (ModelWrite.markNotSeen name seenIds).onRow id row =
      if id ∈ seenIds then row else row.map (switchOff [name]) := by
  cases row with
  | none => simp [ModelWrite.onRow]
  | some row =>
      have hrow : row.id = id := hid row rfl
      have honRow : (ModelWrite.markNotSeen name seenIds).onRow id (some row) =
          some (if (row.providerId == name && !seenIds.contains row.id) = true then
            row.setActive false else row) := rfl
      rw [honRow, hrow]
      unfold switchOff
      by_cases hname : row.providerId = name <;> by_cases hseen : id ∈ seenIds <;>
        simp [hname, hseen]

omit [FloatArith F] in
/-- The statements of a turn that ended, and of the turns behind it. -/
theorem discoveryWrites_cons {provider : ProviderDiscovery F} (h : provider.completed = true)
    (now : String) (rest : List (ProviderDiscovery F)) :
    discoveryWrites now (provider :: rest) =
      (provider.models.map fun model => .upsert model now) ++
        (.markNotSeen provider.name (provider.models.map DiscoveredModel.id) ::
          discoveryWrites now rest) := by
  rw [discoveryWrites, if_pos h]

omit [FloatArith F] in
theorem discoveryWrites_append {providers : List (ProviderDiscovery F)}
    (h : ∀ provider ∈ providers, provider.completed = true) (now : String)
    (rest : List (ProviderDiscovery F)) :
    discoveryWrites now (providers ++ rest) =
      discoveryWrites now providers ++ discoveryWrites now rest := by
  induction providers with
  | nil => rfl
  | cons provider providers ih =>
      rw [List.forall_mem_cons] at h
      rw [List.cons_append, discoveryWrites_cons h.1, discoveryWrites_cons h.1, ih h.2,
        List.append_assoc, List.cons_append]

/-- A row nobody reports is switched off when its provider was discovered. -/
theorem row_unreported {providers : List (ProviderDiscovery F)} {id : String}
    (hcompleted : ∀ provider ∈ providers, provider.completed = true)
    (hunreported : ∀ provider ∈ providers, ¬ provider.Reports id) (now : String)
    {row : Option (ModelRow F)} (hid : ∀ r ∈ row, r.id = id) :
    afterWrites id (discoveryWrites now providers) row =
      row.map (switchOff (providers.map ProviderDiscovery.name)) := by
  induction providers generalizing row with
  | nil => cases row <;> simp [afterWrites, discoveryWrites, switchOff]
  | cons provider rest ih =>
      rw [List.forall_mem_cons] at hcompleted hunreported
      have hnot : id ∉ provider.models.map DiscoveredModel.id := hunreported.1
      rw [discoveryWrites_cons hcompleted.1, afterWrites_append,
        afterWrites_upserts_of_not_mem hnot, afterWrites_cons, onRow_markNotSeen hid,
        if_neg hnot, ih hcompleted.2 hunreported.2]
      · rw [Option.map_map]
        congr 1
        funext r
        exact switchOff_switchOff provider.name _ r
      · intro r hr
        obtain ⟨old, hold, rfl⟩ := Option.mem_map.mp hr
        rw [id_switchOff]
        exact hid old hold

/-- A row its provider reports is active and keeps its history; the turns of the other
providers leave it alone. -/
theorem row_reported {before after : List (ProviderDiscovery F)}
    {provider : ProviderDiscovery F} {id : String}
    (hcompleted : ∀ p ∈ before ++ provider :: after, p.completed = true)
    (hnames : ((before ++ provider :: after).map ProviderDiscovery.name).Nodup)
    (hreports : provider.Reports id)
    (hown : ∀ model ∈ provider.models, model.providerId = provider.name)
    (honce : ∀ p ∈ before ++ after, ¬ p.Reports id) (now : String)
    {row : Option (ModelRow F)}
    (hid : ∀ r ∈ row, r.id = id) (hprovider : ∀ r ∈ row, r.providerId = provider.name) :
    ∃ new, afterWrites id (discoveryWrites now (before ++ provider :: after)) row = some new ∧
      RefreshedFrom provider.name row new := by
  rw [List.map_append, List.map_cons, List.nodup_append] at hnames
  obtain ⟨-, hafterNames, hdisjoint⟩ := hnames
  have hbefore : provider.name ∉ before.map ProviderDiscovery.name := fun hmem =>
    hdisjoint _ hmem _ List.mem_cons_self rfl
  have hafter : provider.name ∉ after.map ProviderDiscovery.name :=
    (List.nodup_cons.mp hafterNames).1
  rw [List.forall_mem_append, List.forall_mem_cons] at hcompleted
  rw [List.forall_mem_append] at honce
  -- the turns before: the row is none of theirs
  have hstart : afterWrites id (discoveryWrites now before) row = row := by
    rw [row_unreported hcompleted.1 honce.1 now hid]
    cases row with
    | none => rfl
    | some r => simp [switchOff, hprovider r rfl, hbefore]
  obtain ⟨new, hnew, hrefreshed⟩ := afterWrites_upserts_of_mem hreports hown now row
  have hnewId : ∀ r ∈ some new, r.id = id := hnew ▸ id_afterWrites hid
  refine ⟨new, ?_, hrefreshed⟩
  have hseen : id ∈ provider.models.map DiscoveredModel.id := hreports
  rw [discoveryWrites_append hcompleted.1, afterWrites_append, hstart,
    discoveryWrites_cons hcompleted.2.1, afterWrites_append, hnew, afterWrites_cons,
    onRow_markNotSeen hnewId, if_pos hseen, row_unreported hcompleted.2.2 honce.2 now hnewId]
  simp [switchOff, hrefreshed.provider, hafter]

/-! ## Reconciliation -/

/-- An adapter reports a model. -/
def PipelineEnv.Reports (env : PipelineEnv F) (provider : AdapterObject) (id : String) : Prop :=
  id ∈ (env.reported provider).map DiscoveredModel.id

instance (env : PipelineEnv F) (provider : AdapterObject) (id : String) :
    Decidable (env.Reports provider id) :=
  inferInstanceAs (Decidable (id ∈ _))

/-- The names `run_discovery` uses for the discovery-enabled providers. -/
def discoveredNames (registry : ProviderRegistry) : List String :=
  registry.all.map fun provider => provider.adapter.name

/-- A model is stored as an active model of a provider. -/
def ActiveModel (table : ModelsTable F) (providerId id : String) : Prop :=
  ∃ row ∈ table.rows, row.id = id ∧ row.providerId = providerId ∧ row.isActive = some 1

/-- Every adapter answers, names are distinct, reported models carry the name of their
provider, and no reported id is reported by or stored for another provider. -/
structure WellReported (env : PipelineEnv F) (registry : ProviderRegistry)
    (table : ModelsTable F) : Prop where
  answers : ∀ provider ∈ registry.all, env.Answers provider
  names : (discoveredNames registry).Nodup
  own : ∀ provider ∈ registry.all, ∀ model ∈ env.reported provider,
    model.providerId = provider.adapter.name
  once : ∀ provider ∈ registry.all, ∀ other ∈ registry.all, ∀ id,
    env.Reports provider id → env.Reports other id → provider = other
  stored : ∀ provider ∈ registry.all, ∀ row ∈ table.rows,
    env.Reports provider row.id → row.providerId = provider.adapter.name

section Reconciliation

variable {env : PipelineEnv F} {registry : ProviderRegistry} {table : ModelsTable F}

theorem row?_discovered (id : String) :
    (discovered env registry table).row? id =
      afterWrites id (discoveryWrites env.now (registry.all.map env.turn)) (table.row? id) := by
  rw [discovered_eq, row?_execAll]
  rfl

omit [FloatArith F] in
theorem WellReported.completed (h : WellReported env registry table) :
    ∀ turn ∈ registry.all.map env.turn, turn.completed = true := by
  intro turn hturn
  obtain ⟨provider, hprovider, rfl⟩ := List.mem_map.mp hturn
  exact (completed_turn_iff env provider).mpr (h.answers provider hprovider)

omit [FloatArith F] in
theorem names_turns (env : PipelineEnv F) (registry : ProviderRegistry) :
    (registry.all.map env.turn).map ProviderDiscovery.name = discoveredNames registry := by
  rw [List.map_map]
  rfl

omit [FloatArith F] in
theorem id_of_row? {id : String} : ∀ row ∈ table.row? id, row.id = id := fun _ hrow =>
  (row?_eq_some_iff.mp hrow).2

/-- A model nobody reports is switched off when its provider was discovered. -/
theorem row?_discovered_of_unreported (h : WellReported env registry table) {id : String}
    (hunreported : ∀ provider ∈ registry.all, ¬ env.Reports provider id) :
    (discovered env registry table).row? id =
      (table.row? id).map (switchOff (discoveredNames registry)) := by
  rw [row?_discovered, row_unreported h.completed _ env.now id_of_row?, names_turns]
  intro turn hturn
  obtain ⟨provider, hprovider, rfl⟩ := List.mem_map.mp hturn
  exact hunreported provider hprovider

/-- A reported model is active for its provider and keeps its history. -/
theorem row?_discovered_of_reported (h : WellReported env registry table)
    {provider : AdapterObject} (hprovider : provider ∈ registry.all) {id : String}
    (hreports : env.Reports provider id) :
    ∃ row, (discovered env registry table).row? id = some row ∧
      RefreshedFrom provider.adapter.name (table.row? id) row := by
  obtain ⟨before, after, hsplit⟩ := List.append_of_mem hprovider
  have hnames := h.names
  have hcompleted := h.completed
  rw [row?_discovered]
  rw [← names_turns env registry] at hnames
  rw [hsplit, List.map_append, List.map_cons] at hnames hcompleted ⊢
  have hturn : (env.turn provider).Reports id := hreports
  refine row_reported hcompleted hnames hturn
    (h.own provider hprovider) ?_ env.now id_of_row? ?_
  · intro turn hturn hturnReports
    rw [← List.map_append] at hturn
    obtain ⟨other, hother, rfl⟩ := List.mem_map.mp hturn
    have hmem : other ∈ registry.all := by
      rw [hsplit]
      rcases List.mem_append.mp hother with hbefore | hafter
      · exact List.mem_append_left _ hbefore
      · exact List.mem_append_right _ (List.mem_cons_of_mem _ hafter)
    have heq := h.once provider hprovider other hmem id hreports hturnReports
    -- the names are distinct, so the provider occurs once
    rw [List.map_append, List.map_cons, List.nodup_append, List.nodup_cons] at hnames
    obtain ⟨-, ⟨hafterName, -⟩, hdisjoint⟩ := hnames
    have hname : (env.turn other).name = (env.turn provider).name := by rw [heq]
    rcases List.mem_append.mp hother with hbefore | hafter
    · exact hdisjoint _ (List.mem_map.mpr ⟨_, List.mem_map_of_mem hbefore, rfl⟩) _
        List.mem_cons_self hname
    · exact hafterName (List.mem_map.mpr ⟨_, List.mem_map_of_mem hafter, hname⟩)
  · intro row hrow
    obtain ⟨hmem, hid⟩ := row?_eq_some_iff.mp hrow
    exact h.stored provider hprovider row hmem (hid ▸ hreports)

omit [FloatArith F] in
/-- Every model either is reported by one of the providers or by none. -/
theorem reported_or_unreported (env : PipelineEnv F) (registry : ProviderRegistry)
    (id : String) :
    (∃ provider ∈ registry.all, env.Reports provider id) ∨
      ∀ provider ∈ registry.all, ¬ env.Reports provider id := by
  by_cases h : ∃ provider ∈ registry.all, env.Reports provider id
  · exact .inl h
  · refine .inr fun provider hprovider hreports => ?_
    exact h ⟨provider, hprovider, hreports⟩

omit [FloatArith F] in
theorem activeModel_iff_row? {providerId id : String} :
    ActiveModel table providerId id ↔
      ∃ row, table.row? id = some row ∧ row.providerId = providerId ∧
        row.isActive = some 1 := by
  constructor
  · rintro ⟨row, hmem, hid, hprovider, hactive⟩
    exact ⟨row, row?_eq_some_iff.mpr ⟨hmem, hid⟩, hprovider, hactive⟩
  · rintro ⟨row, hrow, hprovider, hactive⟩
    obtain ⟨hmem, hid⟩ := row?_eq_some_iff.mp hrow
    exact ⟨row, hmem, hid, hprovider, hactive⟩

/-- The active models of a discovered provider are the ones it reported. -/
theorem activeModel_discovered_iff (h : WellReported env registry table)
    {provider : AdapterObject} (hprovider : provider ∈ registry.all) (id : String) :
    ActiveModel (discovered env registry table) provider.adapter.name id ↔
      env.Reports provider id := by
  rw [activeModel_iff_row?]
  constructor
  · rintro ⟨row, hrow, hname, hactive⟩
    rcases reported_or_unreported env registry id with ⟨other, hother, hreports⟩ | hunreported
    · obtain ⟨row', hrow', hrefreshed⟩ := row?_discovered_of_reported h hother hreports
      rw [hrow, Option.some.injEq] at hrow'
      have hsame : other.adapter.name = provider.adapter.name := by
        rw [← hrefreshed.provider, ← hrow', hname]
      rw [← List.inj_on_of_nodup_map h.names hother hprovider hsame]
      exact hreports
    · rw [row?_discovered_of_unreported h hunreported, Option.map_eq_some_iff] at hrow
      obtain ⟨old, -, rfl⟩ := hrow
      rw [providerId_switchOff] at hname
      have hmem : old.providerId ∈ discoveredNames registry := by
        rw [hname]
        exact List.mem_map_of_mem hprovider
      rw [switchOff, if_pos hmem] at hactive
      cases hactive
  · intro hreports
    obtain ⟨row, hrow, hrefreshed⟩ := row?_discovered_of_reported h hprovider hreports
    exact ⟨row, hrow, hrefreshed.provider, hrefreshed.active⟩

/-- The rows of the providers that were not discovered are the same. -/
theorem mem_discovered_of_other (h : WellReported env registry table) {row : ModelRow F}
    (hother : row.providerId ∉ discoveredNames registry) :
    row ∈ (discovered env registry table).rows ↔ row ∈ table.rows := by
  have hself : ∀ t : ModelsTable F, row ∈ t.rows ↔ t.row? row.id = some row := fun t => by
    rw [row?_eq_some_iff, and_iff_left rfl]
  rw [hself, hself]
  rcases reported_or_unreported env registry row.id with
    ⟨provider, hprovider, hreports⟩ | hunreported
  · -- a reported id belongs to the provider that reported it
    obtain ⟨new, hnew, hrefreshed⟩ := row?_discovered_of_reported h hprovider hreports
    have hname : provider.adapter.name ∈ discoveredNames registry :=
      List.mem_map_of_mem hprovider
    constructor
    · intro hrow
      rw [hnew, Option.some.injEq] at hrow
      rw [← hrow, hrefreshed.provider] at hother
      exact absurd hname hother
    · intro hrow
      rw [h.stored provider hprovider row (row?_eq_some_iff.mp hrow).1 hreports] at hother
      exact absurd hname hother
  · rw [row?_discovered_of_unreported h hunreported, Option.map_eq_some_iff]
    constructor
    · rintro ⟨old, hold, heq⟩
      have hsame : old.providerId = row.providerId := by
        rw [← heq, providerId_switchOff]
      rw [switchOff, if_neg (hsame ▸ hother)] at heq
      rw [hold, heq]
    · intro hrow
      exact ⟨row, hrow, by rw [switchOff, if_neg hother]⟩

/-- A stored model survives a run and keeps its history. -/
theorem untouched_discovered (h : WellReported env registry table) {old : ModelRow F}
    (hold : old ∈ table.rows) :
    ∃ new ∈ (discovered env registry table).rows, new.id = old.id ∧ Untouched old new := by
  have hrow : table.row? old.id = some old := row?_eq_some_iff.mpr ⟨hold, rfl⟩
  rcases reported_or_unreported env registry old.id with
    ⟨provider, hprovider, hreports⟩ | hunreported
  · obtain ⟨new, hnew, hrefreshed⟩ := row?_discovered_of_reported h hprovider hreports
    obtain ⟨hmem, hid⟩ := row?_eq_some_iff.mp hnew
    exact ⟨new, hmem, hid, hrefreshed.kept old hrow⟩
  · have hnew := row?_discovered_of_unreported h hunreported
    rw [hrow, Option.map_some] at hnew
    obtain ⟨hmem, hid⟩ := row?_eq_some_iff.mp hnew
    exact ⟨_, hmem, hid, untouched_switchOff _ old⟩

/-- The same reports at a later time fit the reconciled table. -/
theorem WellReported.again (h : WellReported env registry table) (now : String) :
    WellReported { env with now := now } registry (discovered env registry table) where
  answers := h.answers
  names := h.names
  own := h.own
  once := h.once
  stored := by
    intro provider hprovider row hrow hreports
    obtain ⟨new, hnew, hrefreshed⟩ := row?_discovered_of_reported h hprovider hreports
    rw [row?_eq_some_iff.mpr ⟨hrow, rfl⟩, Option.some.injEq] at hnew
    rw [hnew]
    exact hrefreshed.provider

/-- Repeating a run switches no model on or off. -/
theorem isActive_discovered_again (h : WellReported env registry table) (now id : String) :
    ((discovered { env with now := now } registry (discovered env registry table)).row? id).map
        ModelRow.isActive =
      ((discovered env registry table).row? id).map ModelRow.isActive := by
  have hagain := h.again now
  rcases reported_or_unreported env registry id with ⟨provider, hprovider, hreports⟩ |
    hunreported
  · obtain ⟨first, hfirst, hrefreshed⟩ := row?_discovered_of_reported h hprovider hreports
    obtain ⟨second, hsecond, hrefreshed'⟩ :=
      row?_discovered_of_reported hagain hprovider hreports
    rw [hfirst, hsecond, Option.map_some, Option.map_some, hrefreshed.active,
      hrefreshed'.active]
  · rw [row?_discovered_of_unreported hagain hunreported,
      row?_discovered_of_unreported h hunreported]
    cases table.row? id with
    | none => rfl
    | some row =>
        unfold switchOff
        by_cases hname : row.providerId ∈ discoveredNames registry
        · simp [hname, ModelRow.setActive]
        · simp [hname]

/-- After a discovery run and a drain of the queue, the active models of each discovered
provider are the ones it reported, the rows of the other providers are the same, stored
models keep the columns the upsert does not name, and the same discovery again switches no
model on or off. -/
theorem discovery_reconciles (h : WellReported env registry table) :
    (∀ provider ∈ registry.all, ∀ id,
      ActiveModel (discovered env registry table) provider.adapter.name id ↔
        env.Reports provider id) ∧
    (∀ row, row.providerId ∉ discoveredNames registry →
      (row ∈ (discovered env registry table).rows ↔ row ∈ table.rows)) ∧
    (∀ old ∈ table.rows, ∃ new ∈ (discovered env registry table).rows,
      new.id = old.id ∧ Untouched old new) ∧
    ∀ now id,
      ((discovered { env with now := now } registry
        (discovered env registry table)).row? id).map ModelRow.isActive =
      ((discovered env registry table).row? id).map ModelRow.isActive := by
  refine ⟨?_, ?_, ?_, ?_⟩
  · intro provider hprovider id
    exact activeModel_discovered_iff h hprovider id
  · intro row hother
    exact mem_discovered_of_other h hother
  · intro old hold
    exact untouched_discovered h hold
  · intro now id
    exact isActive_discovered_again h now id

end Reconciliation

/-! ## Isolation -/

/-- The registry without the providers whose adapter raises. -/
def withoutRaising (env : PipelineEnv F) (registry : ProviderRegistry) : ProviderRegistry where
  providers := registry.providers.filter fun entry =>
    (env.discoverModels entry.2.adapter).toBool
  objects := registry.objects
  older := fun entry hentry => registry.older entry (List.mem_of_mem_filter hentry)

/-- The rows of a provider. -/
def rowsOf (table : ModelsTable F) (providerId : String) : List (ModelRow F) :=
  table.rows.filter fun row => row.providerId == providerId

/-- The stages a pipeline run enters. -/
def stagesOf (env : PipelineEnv F) (registry : ProviderRegistry) (table : ModelsTable F) :
    List Stage :=
  (finalState (runDiscoveryPipeline env registry) (idle table)).stages

/-- Raising providers do not show: the others have the rows they would have without them,
their own rows stay, and the pipeline enters the stages it would enter without them. -/
structure Isolated (env : PipelineEnv F) (registry : ProviderRegistry)
    (table : ModelsTable F) : Prop where
  rows : ∀ provider ∈ registry.all, env.Answers provider →
    rowsOf (discovered env registry table) provider.adapter.name =
      rowsOf (discovered env (withoutRaising env registry) table) provider.adapter.name
  kept : ∀ provider ∈ registry.all, ¬ env.Answers provider →
    rowsOf (discovered env registry table) provider.adapter.name =
      rowsOf table provider.adapter.name
  stages : stagesOf env registry table = stagesOf env (withoutRaising env registry) table

omit [FloatArith F] in
theorem all_withoutRaising (env : PipelineEnv F) (registry : ProviderRegistry) :
    (withoutRaising env registry).all =
      registry.all.filter fun provider => (env.discoverModels provider).toBool := by
  unfold ProviderRegistry.all withoutRaising
  simp only [List.filter_map, List.filter_filter, List.map_map, Function.comp_def]
  congr 1
  apply List.filter_congr
  intro entry _
  exact Bool.and_comm _ _

/-- A pipeline in which discovery raises enters no later stage. -/
theorem stagesOf_of_raise {env : PipelineEnv F} {registry : ProviderRegistry}
    (h : ¬ ∀ provider ∈ registry.all, env.Answers provider) (table : ModelsTable F) :
    stagesOf env registry table = [.discovery] := by
  have hstart : (enter .discovery).run (idle table) =
      .ok () { idle table with stages := [.discovery] } := rfl
  unfold stagesOf runDiscoveryPipeline
  rw [finalState_bind_of_ok hstart]
  cases hrun : (runDiscovery env registry).run { idle table with stages := [.discovery] } with
  | ok n p => exact absurd ((returns_discoverEach_iff env _ _).mp ⟨n, p, hrun⟩) h
  | error exc p =>
      have hfinal := finalState_discoverEach env registry.all
        { idle table with stages := [.discovery] }
      rw [finalState_of_error (run_bind_of_error hrun _)]
      rw [← runDiscovery, finalState_of_error hrun] at hfinal
      rw [hfinal]

/-- The ranking stage is entered. -/
theorem ranking_mem_rankingStage (env : PipelineEnv F) (p : Pipeline F) :
    ∃ scores q, (rankingStage env).run p = .ok scores q ∧ .ranking ∈ q.stages := by
  refine ⟨_, _, rfl, ?_⟩
  exact List.mem_append_right _ List.mem_cons_self

omit [FloatArith F] in
theorem preserves_enter (entered stage : Stage) :
    Preserves (fun p : Pipeline F => entered ∈ p.stages) (enter stage) :=
  preserves_modify fun _ h => List.mem_append_left _ h

/-- The bootstrap stage leaves the stages entered. -/
theorem preserves_bootstrapStage {entered : Stage} (env : PipelineEnv F) :
    Preserves (fun p : Pipeline F => entered ∈ p.stages) (bootstrapStage env) := by
  refine preserves_bind (preserves_enter entered _) fun _ => ?_
  refine preserves_bind (fun _ h => h) fun p => ?_
  refine preserves_bind (preserves_of_keeps (keeps_call Pipeline.stages _) _) fun result => ?_
  exact fun _ h => h

/-- The readiness stage leaves the stages entered. -/
theorem preserves_readinessStage {entered : Stage} (env : PipelineEnv F) :
    Preserves (fun p : Pipeline F => entered ∈ p.stages) (readinessStage env) := by
  refine preserves_bind (preserves_enter entered _) fun _ => ?_
  exact fun _ h => h

/-- A pipeline in which discovery returns enters the ranking. -/
theorem ranking_mem_stagesOf {env : PipelineEnv F} {registry : ProviderRegistry}
    (h : ∀ provider ∈ registry.all, env.Answers provider) (table : ModelsTable F) :
    .ranking ∈ stagesOf env registry table := by
  have hstart : (enter .discovery).run (idle table) =
      .ok () { idle table with stages := [.discovery] } := rfl
  obtain ⟨n, p, hrun⟩ := (returns_discoverEach_iff env registry.all
    { idle table with stages := [.discovery] }).mpr h
  rw [← runDiscovery] at hrun
  unfold stagesOf runDiscoveryPipeline
  rw [finalState_bind_of_ok hstart, finalState_bind_of_ok hrun]
  have hflush : flush.run p = .ok () { p with table := p.table.execAll p.queue, queue := [] } :=
    rfl
  obtain ⟨scores, q, hranking, hmem⟩ := ranking_mem_rankingStage env
    { p with table := p.table.execAll p.queue, queue := [] }
  rw [finalState_bind_of_ok hflush, finalState_bind_of_ok hranking]
  refine preserves_bind (preserves_bootstrapStage env) (fun probed => ?_) q hmem
  exact preserves_bind (preserves_readinessStage env) fun ready => fun s hs => hs

/-- Providers are isolated from each other exactly when none of them raises. -/
theorem discovery_isolated_iff (env : PipelineEnv F) (registry : ProviderRegistry)
    (table : ModelsTable F) :
    Isolated env registry table ↔ ∀ provider ∈ registry.all, env.Answers provider := by
  constructor
  · intro h
    by_contra hraises
    have hothers : ∀ provider ∈ (withoutRaising env registry).all, env.Answers provider := by
      intro provider hprovider
      rw [all_withoutRaising, List.mem_filter] at hprovider
      exact (completed_turn_iff env provider).mp hprovider.2
    have hranking := ranking_mem_stagesOf hothers table
    rw [← h.stages, stagesOf_of_raise hraises] at hranking
    cases hranking with
    | tail _ hmem => cases hmem
  · intro h
    have hall : (withoutRaising env registry).all = registry.all := by
      rw [all_withoutRaising, List.filter_eq_self]
      intro provider hprovider
      exact (completed_turn_iff env provider).mpr (h provider hprovider)
    refine ⟨?_, ?_, ?_⟩
    · intro provider hprovider _
      rw [discovered_eq, discovered_eq, hall]
    · intro provider hprovider hraises
      exact absurd (h provider hprovider) hraises
    · unfold stagesOf runDiscoveryPipeline runDiscovery
      rw [hall]

/-- A run stops at the first provider that raises: what the providers before it reported
is reconciled, and nothing of the providers behind it is. -/
theorem discovered_of_first_raise {env : PipelineEnv F} {registry : ProviderRegistry}
    {before after : List AdapterObject} {provider : AdapterObject}
    (hall : registry.all = before ++ provider :: after)
    (hbefore : ∀ earlier ∈ before, env.Answers earlier) (hraises : ¬ env.Answers provider)
    (table : ModelsTable F) :
    discovered env registry table =
      table.execAll (discoveryWrites env.now (before.map env.turn)) := by
  have hcompleted : ∀ turn ∈ before.map env.turn, turn.completed = true := by
    intro turn hturn
    obtain ⟨earlier, hearlier, rfl⟩ := List.mem_map.mp hturn
    exact (completed_turn_iff env earlier).mpr (hbefore earlier hearlier)
  have hstop : discoveryWrites env.now ((provider :: after).map env.turn) = [] := by
    cases hmodels : env.discoverModels provider with
    | ok models => exact absurd ⟨models, hmodels⟩ hraises
    | error exc =>
        rw [List.map_cons, turn_of_error hmodels]
        rfl
  rw [discovered_eq, hall, List.map_append, discoveryWrites_append hcompleted, hstop,
    List.append_nil]

end Pipeline

/-! ## A registry of two providers -/

/-- An adapter of a provider. -/
def sampleAdapter (object : Nat) (name : String) : AdapterObject where
  object := object
  adapter := { name := name, apiKey := "k", apiBase := "" }

/-- The provider `q`, and behind it the provider `p` of the stored models. -/
def sampleRegistry : ProviderRegistry where
  providers := [("q", ⟨"q", sampleAdapter 0 "q", true, true⟩),
    ("p", ⟨"p", sampleAdapter 1 "p", true, true⟩)]
  objects := 2
  older := by decide

/-- The provider `p` reports the model `a`; the provider `q` answers `answer`. -/
def sampleEnv (answer : Except Exc (List (DiscoveredModel Rat))) : PipelineEnv Rat where
  now := "t1"
  scoreUpdatedAt := "t1"
  discoverModels provider := if provider.adapter.name = "p" then .ok [reportedModel] else answer
  score _ _ := 0
  bootstrapHealthCheck _ := .ok ([], 0)
  runtimeState :=
    { registered := [("q", true), ("p", true)], knownProviderIds := []
      isProviderInferenceEnabled := fun _ => true }

/-- Where both providers answer, `p` keeps the one model it reported. -/
theorem discovery_reconciles_sample :
    WellReported (sampleEnv (.ok [])) sampleRegistry sampleTable ∧
      (ActiveModel (discovered (sampleEnv (.ok [])) sampleRegistry sampleTable) "p" "" ↔
        (sampleEnv (.ok [])).Reports (sampleAdapter 1 "p") "") := by
  have hall : sampleRegistry.all = [sampleAdapter 0 "q", sampleAdapter 1 "p"] := rfl
  have hnone : (sampleEnv (.ok [])).reported (sampleAdapter 0 "q") = [] := rfl
  have h : WellReported (sampleEnv (.ok [])) sampleRegistry sampleTable := by
    constructor
    · simp only [hall, List.forall_mem_cons, List.not_mem_nil, false_implies, implies_true,
        and_true]
      exact ⟨⟨[], rfl⟩, ⟨[reportedModel], rfl⟩⟩
    · decide
    · decide
    · simp [hall, PipelineEnv.Reports, hnone]
    · decide
  exact ⟨h, (discovery_reconciles h).1 (sampleAdapter 1 "p") (by simp [hall]) ""⟩

/-- Where `q` raises, the model that `p` no longer reports stays active. -/
theorem discovery_not_isolated :
    ¬ Isolated (sampleEnv (.error (.other "HTTP 500"))) sampleRegistry sampleTable := by
  intro h
  have hrows := h.rows (sampleAdapter 1 "p") (by decide) ⟨[reportedModel], rfl⟩
  clear h
  revert hrows
  decide +kernel

end Inventory
end FreeLunch
