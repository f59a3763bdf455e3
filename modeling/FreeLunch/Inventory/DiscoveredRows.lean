import FreeLunch.Routing.StoredReaders

/-!
# What a provider reports and the readers of the table

A models payload goes through an adapter, `run_discovery` and the writer into the models
table.  Routing and ranking read the table for every request and every reload, whatever the
provider has reported.

Main results:

- Theorem `undisturbed_iff`: the readers return exactly when every active row is sound.
- Theorem `discovered_rows_harmless_iff`: a payload is harmless exactly when its entries can
  be stored, one statement has room for their ids, and the context windows that last are
  numbers of float range.

Current gaps:

- The requests are those whose bounds fit a column.
-/

namespace FreeLunch
namespace Inventory

open FreeLunch.Runtime Python Store Routing Providers Writes

section Harmless

variable {F : Type} [Runtime F] [FloatArith F]

/-! ## The property -/

/-- Routing returns for every request whose bounds can be bound, and ranking for all settings
as they are loaded. -/
structure Undisturbed (table : StoredTable F) : Prop where
  loads : ∀ now (req : RoutingRequirements F), FitsInt64 req.minContextWindow →
    FitsInt64 req.minOutputTokens →
    ∃ candidates, loadStoredCandidates table now req = .ok candidates
  ranks : ∀ env (settings : Settings F), Clamped settings →
    ∃ scores, recomputeRanking env settings table = .ok scores

/-- The active rows of a table can be read. -/
def SoundTable (table : StoredTable F) : Prop :=
  ∀ row ∈ table.rows, row.isActive = some (sqlBool true) →
    row.contextWindow.Sound ∧ Featured row

/-- Whatever entries an adapter reads from a payload, the writer stores all of them, and the
readers of the table return. -/
def HarmlessPayload (lower : String → String) (adapter : Adapter) (payload : PyValue F)
    (env : DiscoveryEnv F) (table : StoredTable F) : Prop :=
  ∀ models, discoverModels lower adapter payload = .ok models →
    ∃ table', (discoveryTurn env adapter.name models >>= fun writes =>
      drain env writes table) = .ok table' ∧ Undisturbed table'

/-! ## Sound tables -/

/-- Settings at their lower bounds. -/
def leastSettings (F : Type) : Settings F where
  int setting := setting.clamp 0
  bool _ := false
  str _ := ""
  rankingWeights := []
  healthDailyRequestBudgetByProvider := []
  providerActiveProbeEnabled := []
  openrouterActiveProbeEnabled := false
  openrouterApiKey := ""
  gatewayApiKey := ""
  appEnv := ""
  providersEnabled := []
  providerEnabled := []
  providerDiscoveryEnabled := []
  providerInferenceEnabled := []
  providerBootstrapConfig := []
  openrouterApiBase := ""
  openrouterDevStubEnabled := false
  loggingRequestLogEnabled := false
  loggingLogQueueSize := 0

omit [Runtime F] [FloatArith F] in
theorem clamped_leastSettings : Clamped (leastSettings F) := by
  intro setting
  cases setting <;> rfl

variable [LawfulFloat F]

/-- The readers return exactly when every active row is sound. -/
theorem undisturbed_iff (table : StoredTable F) : Undisturbed table ↔ SoundTable table := by
  constructor
  · intro h
    have hranks := h.ranks
      { now := "", round4 := id, telemetry := fun _ => ⟨0, 0.0, 0.0, 0.0, 0.0⟩ }
      (leastSettings F) clamped_leastSettings
    exact (recomputeRanking_ok_iff _ clamped_leastSettings table).mp hranks
  · intro h
    constructor
    · intro now req hcontext houtput
      refine (loadStoredCandidates_ok_iff table now req).mpr
        ⟨⟨_, hcontext⟩, ⟨_, houtput⟩, dif_pos hcontext, dif_pos houtput, ?_⟩
      intro row hrow heligible
      have hactive : row.isActive = some (sqlBool true) := by
        simp only [storedEligible, Bool.and_eq_true, beq_iff_eq] at heligible
        exact heligible.1.1.1.1.1.1.1.1.1
      exact (h row hrow hactive).1.imp fun n hn => hn.1
    · intro env settings hsettings
      exact (recomputeRanking_ok_iff env hsettings table).mpr h

theorem sound_of_carries {env : DiscoveryEnv F} {model : CatalogueEntry F} {row : StoredRow F}
    (hstorable : Storable env model) (hcarries : Carries env model row) :
    row.contextWindow.Sound ∧ Featured row ↔ Harmless model.contextWindow := by
  have hbindable : Bindable env.encodable model.contextWindow :=
    hstorable.bindable _ (by simp [paramsOf, upsertParams, applyCachedBenchmarks])
  have hfeatured : Featured row := by
    constructor
    · rw [hcarries.supportsTools]
      rfl
    · rw [hcarries.supportsStreaming]
      rfl
    · rw [hcarries.supportsVision]
      rfl
    · rw [hcarries.supportsStructuredOutput]
      rfl
  rw [and_iff_left hfeatured, hcarries.contextWindow]
  exact sound_toIntegerColumn_iff (bindParam_eq hbindable)

/-- The table behind a drained turn is sound exactly when the entries that last have harmless
context windows. -/
theorem soundTable_drain_iff {env : DiscoveryEnv F} {name : String}
    {models : List (CatalogueEntry F)} {table table' : StoredTable F} (hbefore : SoundTable table)
    (hstorable : ∀ model ∈ models, Storable env model)
    (h : (discoveryTurn env name models >>= fun writes => drain env writes table) =
      .ok table') :
    SoundTable table' ↔
      ∀ id model, lastEntry id models = some model → Harmless model.contextWindow := by
  obtain ⟨hrows, hcarriers⟩ := rows_drain_turn h
  constructor
  · intro hsound id model hentry
    obtain ⟨row, hrow, hcarries⟩ := hcarriers id model hentry
    exact (sound_of_carries (hstorable model (lastEntry_mem hentry).1) hcarries).mp
      (hsound row hrow hcarries.isActive)
  · intro hharmless row hrow hactive
    rcases hrows row hrow hactive with ⟨model, hentry, hcarries⟩ | hold
    · exact (sound_of_carries (hstorable model (lastEntry_mem hentry).1) hcarries).mpr
        (hharmless row.id model hentry)
    · exact hbefore row hold hactive

/-! ## Harmless payloads -/

/-- The readers survive the turn of a provider exactly when its entries can be stored, their
ids fit one statement, and those that last have harmless context windows. -/
theorem turn_harmless_iff {env : DiscoveryEnv F} {table : StoredTable F}
    (hbefore : SoundTable table) (name : String) (models : List (CatalogueEntry F)) :
    (∃ table', (discoveryTurn env name models >>= fun writes =>
      drain env writes table) = .ok table' ∧ Undisturbed table') ↔
      models.length < env.variableLimit ∧ (∀ model ∈ models, Storable env model) ∧
        ∀ id model, lastEntry id models = some model → Harmless model.contextWindow := by
  constructor
  · rintro ⟨table', hdrain, hundisturbed⟩
    obtain ⟨hstorable, hfits⟩ := (drain_turn_ok_iff env name models table).mp ⟨table', hdrain⟩
    exact ⟨hfits, hstorable, (soundTable_drain_iff hbefore hstorable hdrain).mp
      ((undisturbed_iff table').mp hundisturbed)⟩
  · rintro ⟨hfits, hstorable, hharmless⟩
    obtain ⟨table', hdrain⟩ := (drain_turn_ok_iff env name models table).mpr ⟨hstorable, hfits⟩
    exact ⟨table', hdrain, (undisturbed_iff table').mpr
      ((soundTable_drain_iff hbefore hstorable hdrain).mpr hharmless)⟩

/-- A payload is harmless exactly when the adapter reads fewer entries from it than a
statement takes parameters, every one can be stored, and the last entry of each id has a
harmless context window. -/
theorem discovered_rows_harmless_iff (lower : String → String) (adapter : Adapter)
    (payload : PyValue F) (env : DiscoveryEnv F) {table : StoredTable F}
    (hbefore : SoundTable table) :
    HarmlessPayload lower adapter payload env table ↔
      ∀ models, discoverModels lower adapter payload = .ok models →
        models.length < env.variableLimit ∧ (∀ model ∈ models, Storable env model) ∧
          ∀ id model, lastEntry id models = some model → Harmless model.contextWindow := by
  unfold HarmlessPayload
  simp only [turn_harmless_iff hbefore]

end Harmless

/-! ## Payloads -/

/-- A discovery run without benchmarks. -/
def plainDiscovery : DiscoveryEnv Exact where
  now := "2025-01-01T00:00:00Z"
  encodable _ := true
  benchmarks _ := (none, none)
  variableLimit := 32766
  upsertFits := by decide

/-- A table without models. -/
def noModels : StoredTable Exact where
  rows := []
  nodup := List.nodup_nil

theorem soundTable_noModels : SoundTable noModels := by
  intro row hrow
  cases hrow

/-- A free model with a context length. -/
def rowWithContext (contextLength : PyValue Exact) : PyValue Exact :=
  .dict [("id", .str "m"), ("pricing", .dict [("prompt", .str "0"), ("completion", .int 0)]),
    ("context_length", contextLength)]

/-- The entry OpenRouter's adapter reads from it. -/
def entryWithContext (contextWindow : PyValue Exact) : CatalogueEntry Exact where
  id := "openrouter/m"
  name := .str "m"
  providerId := "openrouter"
  providerModelId := .str "m"
  providerBaseUrl := "https://openrouter.ai/api/v1"
  providerApiKeyEnv := "OPENROUTER_API_KEY"
  contextWindow := contextWindow
  maxOutputTokens := .none
  tokenizerFamily := .none
  supportsTools := false
  supportsStreaming := true
  supportsVision := false
  supportsStructuredOutput := false
  openrouterRank := some 1

theorem discoverModels_rowWithContext {contextLength : PyValue Exact}
    (h : contextLength.truthy = true) :
    discoverModels id openrouterAdapter (loneRow (rowWithContext contextLength)) =
      .ok [entryWithContext contextLength] := by
  have horElse : contextLength.orElse (.int 4096) = contextLength := if_pos h
  rw [discoverModels_loneRow id (by decide)]
  change Except.ok [{ entryWithContext contextLength with
    contextWindow := contextLength.orElse (.int 4096) }] = _
  rw [horElse]
  rfl

/-- A free model with a context length of 8192 tokens is harmless. -/
theorem discovered_rows_harmless_sample :
    HarmlessPayload id openrouterAdapter (loneRow (rowWithContext (.int 8192))) plainDiscovery
      noModels := by
  refine (discovered_rows_harmless_iff id openrouterAdapter _ plainDiscovery
    soundTable_noModels).mpr ?_
  intro models hmodels
  rw [discoverModels_rowWithContext (by decide), Except.ok.injEq] at hmodels
  rw [← hmodels]
  refine ⟨by decide, ?_, ?_⟩
  · intro model hmodel
    rw [List.mem_singleton.mp hmodel]
    refine ⟨?_, trivial, trivial⟩
    simp [paramsOf, upsertParams, applyCachedBenchmarks, entryWithContext, Bindable,
      plainDiscovery, ranksOf, positiveRank, optionalInt, optionalFloat, FitsInt64]
  · intro name model hentry
    rw [List.mem_singleton.mp (lastEntry_mem hentry).1]
    trivial

/-- A context length that is no number breaks the ranking, and one beyond 64 bits cannot be
stored. -/
theorem discovered_rows_disturb :
    SoundTable noModels ∧
      ¬ HarmlessPayload id openrouterAdapter (loneRow (rowWithContext (.str "128k")))
        plainDiscovery noModels ∧
      ¬ HarmlessPayload id openrouterAdapter (loneRow (rowWithContext (.int (2 ^ 63))))
        plainDiscovery noModels := by
  refine ⟨soundTable_noModels, ?_, ?_⟩
  · intro h
    have hturn := h _ (discoverModels_rowWithContext (by decide))
    have hharmless := ((turn_harmless_iff soundTable_noModels _ _).mp hturn).2.2 "openrouter/m"
      (entryWithContext (.str "128k")) rfl
    have hliteral : numeralOf "128k".toList = none := by decide
    have hint : intOfText "128k".toList =
        .error (.valueError "invalid literal for int() with base 10") := by decide
    rcases hharmless with ⟨numeral, hnumeral, -⟩ | ⟨-, hempty | ⟨n, hn, -⟩⟩
    · rw [hliteral] at hnumeral
      cases hnumeral
    · exact absurd hempty (by decide)
    · rw [hint] at hn
      cases hn
  · intro h
    have hturn := h _ (discoverModels_rowWithContext (by decide))
    have hstorable := ((turn_harmless_iff soundTable_noModels _ _).mp hturn).2.1
      (entryWithContext (.int (2 ^ 63))) List.mem_cons_self
    have hbindable : Bindable plainDiscovery.encodable (.int (2 ^ 63) : PyValue Exact) :=
      hstorable.bindable _
        (by simp [paramsOf, upsertParams, applyCachedBenchmarks, entryWithContext])
    exact absurd hbindable.2 (by decide)

end Inventory
end FreeLunch
