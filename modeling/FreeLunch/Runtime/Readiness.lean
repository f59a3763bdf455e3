import FreeLunch.Routing.PickCandidates
import FreeLunch.Runtime.Reload

/-!
# Readiness

`recompute_readiness` deactivates the models of providers that cannot serve and counts the
rows that are active and healthy.  Routing asks more of a row: its cooldown has passed, it
accepts system messages, and its context window and output limit are large enough; and it
reads the windows of all of these rows, which raises on a text that is no integer.  This
module compares the two on every table and registry.

Main results:

- Theorem `mem_disabledProviderIds_iff`: the providers whose models are deactivated.
- Theorem `ready_iff`, `routable_iff`: both answers, read off the rows before the call.
- Theorem `ready_iff_routable_iff`: the two answers agree exactly when some counted row is
  also routable and the windows of these can be read, or none is counted.
-/

namespace FreeLunch
namespace Runtime

open Python Store Transactions Routing

section Readiness

variable {F : Type} [Runtime F] [FloatArith F]

/-! ## The gating -/

/-- The registered provider is inference-enabled. -/
def InferenceEnabled (registry : ProviderRegistry) (providerId : String) : Prop :=
  dictGet (registry.providers.map fun entry => (entry.2.name, entry.2.inferenceEnabled))
    providerId = some true

/-- The provider ids the gating looks at: the registered ones, those of active models
unless blank, and the known ones whose configuration enables inference. -/
def Considered (settings : Settings F) (registry : ProviderRegistry) (models : ModelsTable F)
    (providerId : String) : Prop :=
  (∃ entry ∈ registry.providers, entry.2.name = providerId) ∨
    (stripped providerId ≠ "" ∧
      ∃ row ∈ models.rows, row.isActive = some 1 ∧ row.providerId = providerId) ∨
    (providerId ∈ settings.knownProviderIds ∧
      settings.isProviderInferenceEnabled providerId = true)

omit [Runtime F] [FloatArith F] in
/-- The models of a considered provider that is not inference-enabled are deactivated. -/
theorem mem_disabledProviderIds_iff {settings : Settings F} {registry : ProviderRegistry}
    {models : ModelsTable F} {providerId : String} :
    providerId ∈ disabledProviderIds settings registry models ↔
      Considered settings registry models providerId ∧
        ¬ InferenceEnabled registry providerId := by
  have henabled : (!(dictGet (registry.providers.map fun entry =>
      (entry.2.name, entry.2.inferenceEnabled)) providerId).getD false) = true ↔
      ¬ InferenceEnabled registry providerId := by
    unfold InferenceEnabled
    cases dictGet (registry.providers.map fun entry =>
      (entry.2.name, entry.2.inferenceEnabled)) providerId with
    | none => simp
    | some flag => cases flag <;> simp
  have hconsidered : Considered settings registry models providerId ↔
      providerId ∈ (registry.providers.map fun entry =>
          (entry.2.name, entry.2.inferenceEnabled)).map Prod.fst ++
        ((models.rows.filter fun row => row.isActive == some 1).map ModelRow.providerId).filter
          (fun providerId => stripped providerId != "") ++
        settings.knownProviderIds.filter settings.isProviderInferenceEnabled := by
    have hregistered : (∃ entry ∈ registry.providers, entry.2.name = providerId) ↔
        providerId ∈ (registry.providers.map fun entry =>
          (entry.2.name, entry.2.inferenceEnabled)).map Prod.fst := by
      rw [List.map_map, List.mem_map]
      rfl
    have hactive : (stripped providerId ≠ "" ∧
        ∃ row ∈ models.rows, row.isActive = some 1 ∧ row.providerId = providerId) ↔
        providerId ∈ ((models.rows.filter fun row => row.isActive == some 1).map
          ModelRow.providerId).filter (fun providerId => stripped providerId != "") := by
      simp [List.mem_filter, and_comm, and_assoc]
    have hknown : (providerId ∈ settings.knownProviderIds ∧
        settings.isProviderInferenceEnabled providerId = true) ↔
        providerId ∈ settings.knownProviderIds.filter settings.isProviderInferenceEnabled := by
      rw [List.mem_filter]
    unfold Considered
    rw [hregistered, hactive, hknown, List.mem_append, List.mem_append, or_assoc]
  unfold disabledProviderIds
  rw [List.mem_filter, henabled, hconsidered, List.mem_insertionSort, List.mem_dedup]

/-- A row that is active after the gating. -/
def StaysActive (app : App F) (row : ModelRow F) : Prop :=
  row.isActive = some 1 ∧
    row.providerId ∉ disabledProviderIds app.settings app.registry app.db.models

/-- The models after the gating. -/
def gatedModels (app : App F) : ModelsTable F :=
  app.db.models.execAll
    ((disabledProviderIds app.settings app.registry app.db.models).map .deactivateProvider)

omit [Runtime F] in
/-- The active rows after the gating are the rows that stay active. -/
theorem exists_active_gated_iff (app : App F) (P : ModelRow F → Prop) :
    (∃ row ∈ (gatedModels app).rows, row.isActive = some 1 ∧ P row) ↔
      ∃ row ∈ app.db.models.rows, StaysActive app row ∧ P row := by
  unfold gatedModels
  rw [rows_execAll_deactivateProvider]
  constructor
  · rintro ⟨row, hrow, hactive, hP⟩
    obtain ⟨old, hold, rfl⟩ := List.mem_map.mp hrow
    have hstays := isActive_deactivateOf_iff.mp hactive
    rw [deactivateOf_of_not_mem hstays.2] at hP
    exact ⟨old, hold, hstays, hP⟩
  · rintro ⟨row, hrow, hstays, hP⟩
    refine ⟨_, List.mem_map_of_mem hrow, isActive_deactivateOf_iff.mpr hstays, ?_⟩
    rw [deactivateOf_of_not_mem hstays.2]
    exact hP

/-! ## The two answers -/

/-- `RoutingRequirements()`. -/
def defaultRequirements : RoutingRequirements F where
  tokenEstimationSafetyBuffer := 0.15

/-- What routing asks of an active and healthy row for a plain request. -/
structure PlainlyRoutable (now : String) (row : ModelRow F) : Prop where
  cooled : ∀ cooldown, row.cooldownUntil = some cooldown → cooldown < now
  systemMessages : row.supportsSystemMessages = some 1
  context : row.contextWindow.ge 0 = true
  output : row.maxOutputTokens.isNull = true ∨ row.maxOutputTokens.ge 0 = true

/-- `_load_eligible_candidates` returns a candidate for a plain request. -/
def PlainRequestRoutable (models : ModelsTable F) (now : String) : Prop :=
  ∃ candidates, loadEligibleCandidates models now defaultRequirements = .ok candidates ∧
    candidates ≠ []

omit [Runtime F] in
theorem eligible_defaultRequirements_iff {now : String} {row : ModelRow F} :
    eligible now defaultRequirements row = true ↔
      row.isActive = some 1 ∧ row.isHealthy = some 1 ∧ PlainlyRoutable now row := by
  rw [eligible_iff]
  simp only [defaultRequirements, Bool.false_eq_true, false_implies, true_and, true_implies]
  constructor
  · rintro ⟨hactive, hhealthy, hcooled, hsystem, hcontext, houtput⟩
    exact ⟨hactive, hhealthy, hcooled, hsystem, hcontext, houtput⟩
  · rintro ⟨hactive, hhealthy, h⟩
    exact ⟨hactive, hhealthy, h.cooled, h.systemMessages, h.context, h.output⟩

omit [Runtime F] [FloatArith F] in
theorem routableCount_pos_iff {models : ModelsTable F} :
    0 < routableCount models ↔
      ∃ row ∈ models.rows, row.isActive = some 1 ∧ row.isHealthy = some 1 := by
  unfold routableCount
  rw [List.countP_pos_iff]
  simp [and_comm]

/-- A plain request has a candidate when the query returns a row and the window of each row
that it returns can be read. -/
theorem plainRequestRoutable_iff {models : ModelsTable F} {now : String} :
    PlainRequestRoutable models now ↔
      (∃ row ∈ models.rows, eligible now defaultRequirements row = true) ∧
        WindowsReadable models now defaultRequirements := by
  have hbounds : FitsInt64 (defaultRequirements (F := F)).minContextWindow ∧
      FitsInt64 (defaultRequirements (F := F)).minOutputTokens :=
    ⟨fitsInt64_zero, fitsInt64_zero⟩
  have hrows : eligibleCandidates models now defaultRequirements ≠ [] ↔
      ∃ row ∈ models.rows, eligible now defaultRequirements row = true := by
    unfold eligibleCandidates
    rw [Ne, List.map_eq_nil_iff, List.eq_nil_iff_forall_not_mem]
    simp [mem_eligibleRows]
  unfold PlainRequestRoutable
  rw [← hrows]
  constructor
  · rintro ⟨candidates, hload, hne⟩
    have hreads := (loadEligibleCandidates_ok_iff _ _ _).mp ⟨candidates, hload⟩
    rw [loadEligibleCandidates_eq hreads] at hload
    cases hload
    exact ⟨hne, hreads.2.2⟩
  · rintro ⟨hne, hwindows⟩
    exact ⟨_, loadEligibleCandidates_eq ⟨hbounds.1, hbounds.2, hwindows⟩, hne⟩

omit [Runtime F] in
/-- What a call that returns leaves behind. -/
theorem run_recomputeReadiness {env : Surroundings F} {app app' : App F}
    (h : (recomputeReadiness env).run app = .ok () app') :
    app'.db.models = gatedModels app ∧
      app'.ready = decide (0 < routableCount (gatedModels app)) := by
  unfold recomputeReadiness applyProviderRuntimeState at h
  cases hread : env.access .readinessProviders with
  | error exc =>
      rw [hread] at h
      cases h
  | ok u =>
      cases hcount : env.access .routableModels with
      | error exc =>
          rw [hread, hcount] at h
          cases h
      | ok v =>
          rw [hread, hcount] at h
          cases h
          exact ⟨rfl, rfl⟩

omit [Runtime F] in
/-- The gateway is ready when some row stays active and is healthy. -/
theorem ready_iff {env : Surroundings F} {app app' : App F}
    (h : (recomputeReadiness env).run app = .ok () app') :
    app'.ready = true ↔
      ∃ row ∈ app.db.models.rows, StaysActive app row ∧ row.isHealthy = some 1 := by
  rw [(run_recomputeReadiness h).2, decide_eq_true_iff, routableCount_pos_iff]
  exact exists_active_gated_iff app fun row => row.isHealthy = some 1

/-- A row that the readiness counts and routing takes for a plain request. -/
def ServesPlainly (app : App F) (now : String) (row : ModelRow F) : Prop :=
  StaysActive app row ∧ row.isHealthy = some 1 ∧ PlainlyRoutable now row

omit [Runtime F] in
theorem exists_eligible_gated_iff (app : App F) (now : String) (P : ModelRow F → Prop) :
    (∃ row ∈ (gatedModels app).rows, eligible now defaultRequirements row = true ∧ P row) ↔
      ∃ row ∈ app.db.models.rows, ServesPlainly app now row ∧ P row := by
  simp only [eligible_defaultRequirements_iff, ServesPlainly, and_assoc]
  exact exists_active_gated_iff app fun row =>
    row.isHealthy = some 1 ∧ PlainlyRoutable now row ∧ P row

omit [Runtime F] in
theorem forall_eligible_gated_iff (app : App F) (now : String) (P : ModelRow F → Prop) :
    (∀ row ∈ (gatedModels app).rows, eligible now defaultRequirements row = true → P row) ↔
      ∀ row ∈ app.db.models.rows, ServesPlainly app now row → P row := by
  rw [← not_iff_not]
  simpa only [not_forall, exists_prop] using
    exists_eligible_gated_iff app now fun row => ¬ P row

/-- A plain request has a candidate when some row stays active, is healthy and meets what
routing asks beyond that, and the window of each such row can be read. -/
theorem routable_iff {env : Surroundings F} {app app' : App F}
    (h : (recomputeReadiness env).run app = .ok () app') (now : String) :
    PlainRequestRoutable app'.db.models now ↔
      (∃ row ∈ app.db.models.rows, ServesPlainly app now row) ∧
        ∀ row ∈ app.db.models.rows, ServesPlainly app now row →
          ∃ n, row.contextWindow.intOrZero = .ok n := by
  have hwindows : WindowsReadable (gatedModels app) now defaultRequirements ↔
      ∀ row ∈ app.db.models.rows, ServesPlainly app now row →
        ∃ n, row.contextWindow.intOrZero = .ok n :=
    forall_eligible_gated_iff app now fun row => ∃ n, row.contextWindow.intOrZero = .ok n
  have hrows := exists_eligible_gated_iff app now fun _ => True
  simp only [and_true] at hrows
  rw [(run_recomputeReadiness h).1, plainRequestRoutable_iff, hrows, hwindows]

/-- A plain request with a candidate finds the gateway ready. -/
theorem ready_of_routable {env : Surroundings F} {app app' : App F}
    (h : (recomputeReadiness env).run app = .ok () app') {now : String}
    (hroutable : PlainRequestRoutable app'.db.models now) : app'.ready = true := by
  obtain ⟨⟨row, hrow, hstays, hhealthy, -⟩, -⟩ := (routable_iff h now).mp hroutable
  exact (ready_iff h).mpr ⟨row, hrow, hstays, hhealthy⟩

/-- The gateway is ready exactly when a plain request has a candidate, if and only if one
of the rows that stay active and are healthy meets the rest of what routing asks and the
windows of those that do can be read, or there is no such row. -/
theorem ready_iff_routable_iff {env : Surroundings F} {app app' : App F}
    (h : (recomputeReadiness env).run app = .ok () app') (now : String) :
    (app'.ready = true ↔ PlainRequestRoutable app'.db.models now) ↔
      ((∃ row ∈ app.db.models.rows, StaysActive app row ∧ row.isHealthy = some 1) →
        (∃ row ∈ app.db.models.rows, ServesPlainly app now row) ∧
          ∀ row ∈ app.db.models.rows, ServesPlainly app now row →
            ∃ n, row.contextWindow.intOrZero = .ok n) := by
  rw [← ready_iff h, ← routable_iff h now]
  constructor
  · intro hiff
    exact hiff.mp
  · intro hroutable
    exact ⟨hroutable, ready_of_routable h⟩

end Readiness

/-! ## A model in its cooldown -/

/-- A model of `openrouter`, as discovery stores it. -/
def openrouterRow : ModelRow Exact :=
  DiscoveredModel.newRow
    { id := "openrouter/a", name := "a", providerId := "openrouter", providerModelId := "a"
      providerBaseUrl := "https://openrouter.ai/api/v1"
      providerApiKeyEnv := "OPENROUTER_API_KEY" }
    "2024-01-01T00:00:00Z"

/-- The model after one failure. -/
def coolingRow : ModelRow Exact :=
  failureUpdate "2024-01-01T00:00:00Z" "HTTP 500" 1 "2024-01-01T01:00:00Z" 3 openrouterRow

/-- An application that serves `openrouter` with one model. -/
def servingModel (row : ModelRow Exact) : App Exact :=
  let app := servingOpenrouter ⟨[], List.nodup_nil⟩
  { app with db := { app.db with models := ⟨[row], List.nodup_singleton _⟩ } }

/-- The model with a context window that is no integer. -/
def textWindowRow : ModelRow Exact :=
  { openrouterRow with contextWindow := .text "128k" }

/-- The answers after the readiness of an application was recomputed: of `/readyz`, and
whether a plain request has a candidate, `none` where it raises. -/
def answersAt (now : String) (app : App Exact) : Option (Bool × Option Bool) :=
  match (recomputeReadiness (answering [])).run app with
  | .ok _ app' =>
      some (app'.ready,
        (loadEligibleCandidates app'.db.models now defaultRequirements).toOption.map
          fun candidates => !candidates.isEmpty)
  | .error _ _ => none

/-- A plain request that is routable has the answer `true`. -/
theorem answersAt_of_routable {now : String} {app app' : App Exact}
    (h : (recomputeReadiness (answering [])).run app = .ok () app')
    (hroutable : PlainRequestRoutable app'.db.models now) :
    answersAt now app = some (app'.ready, some true) := by
  obtain ⟨candidates, hload, hne⟩ := hroutable
  unfold answersAt
  rw [h]
  simp [hload, Except.toOption, hne]

example : answersAt "2024-01-01T00:30:00Z" (servingModel openrouterRow) =
    some (true, some true) := by
  decide +kernel

example : answersAt "2024-01-01T00:30:00Z" (servingModel textWindowRow) =
    some (true, none) := by
  decide +kernel

/-- With a model that can be routed, both answers agree. -/
theorem ready_iff_routable_sample :
    ∃ app', (recomputeReadiness (answering [])).run (servingModel openrouterRow) =
        .ok () app' ∧
      ((app'.ready = true ↔
          PlainRequestRoutable app'.db.models "2024-01-01T00:30:00Z") ↔
        ((∃ row ∈ (servingModel openrouterRow).db.models.rows,
            StaysActive (servingModel openrouterRow) row ∧ row.isHealthy = some 1) →
          (∃ row ∈ (servingModel openrouterRow).db.models.rows,
            ServesPlainly (servingModel openrouterRow) "2024-01-01T00:30:00Z" row) ∧
            ∀ row ∈ (servingModel openrouterRow).db.models.rows,
              ServesPlainly (servingModel openrouterRow) "2024-01-01T00:30:00Z" row →
                ∃ n, row.contextWindow.intOrZero = .ok n)) := by
  have hrun : ∃ app', (recomputeReadiness (answering [])).run (servingModel openrouterRow) =
      .ok () app' := ⟨_, rfl⟩
  obtain ⟨app', happ'⟩ := hrun
  exact ⟨app', happ', ready_iff_routable_iff happ' _⟩

/-- The only model is in the cooldown of its first failure: the gateway is ready and a
plain request has no candidate. -/
theorem cooling_ready_not_routable :
    ¬ ∀ (env : Surroundings Exact) (app app' : App Exact) now,
      (recomputeReadiness env).run app = .ok () app' →
        (app'.ready = true ↔ PlainRequestRoutable app'.db.models now) := by
  intro h
  have hanswers : answersAt "2024-01-01T00:30:00Z" (servingModel coolingRow) =
      some (true, some false) := by
    decide +kernel
  cases hrun : (recomputeReadiness (answering [])).run (servingModel coolingRow) with
  | error exc app' =>
      unfold answersAt at hanswers
      rw [hrun] at hanswers
      cases hanswers
  | ok u app' =>
      have hready : app'.ready = true := by
        unfold answersAt at hanswers
        rw [hrun] at hanswers
        exact (Prod.mk.inj (Option.some.inj hanswers)).1
      have hroutable := (h _ _ app' "2024-01-01T00:30:00Z" hrun).mp hready
      rw [answersAt_of_routable hrun hroutable, hready] at hanswers
      cases hanswers

end Runtime
end FreeLunch
