import FreeLunch.Foundations.Tables
import FreeLunch.Providers.Catalogue
import FreeLunch.Store.Affinity
import Mathlib.Data.List.Induction

/-!
# Discovered entries in the models table

The part of `run_discovery` behind an adapter, with untyped values: the parameters of the
upsert of each entry, what SQLite stores of them, and the table once the writer has executed
the upserts and the deactivation behind them.

Main results:

- Theorem `execute_upsert_ok_iff`: an upsert succeeds exactly when its parameters can be
  bound and the model has a name.
- Theorem `drain_turn_ok_iff`: the turn of a provider is stored exactly when its entries can
  be, and their ids fit one statement.
- Theorem `row?_drain`: after the upserts a model's row carries the last entry with its id.

Current gaps:

- The columns that neither routing nor ranking reads are left out.  What the benchmark cache
  knows of a model is a parameter.
- The ids that the deactivation binds are those of the upserts before it, and the name of
  the provider is encodable.
-/

namespace FreeLunch
namespace Store

open Tables Python Writes Providers

/-! ## Rows -/

/-- The columns of a row of the `models` table that routing and ranking read, and its name.
The limits of a model hold whatever its provider reported. -/
structure StoredRow (F : Type) where
  id : String
  name : String
  providerId : String
  providerModelId : String
  contextWindow : SqlValue F
  maxOutputTokens : SqlValue F
  tokenizerFamily : Option String
  supportsTools : Option SqlInt
  supportsStreaming : Option SqlInt
  supportsVision : Option SqlInt
  supportsStructuredOutput : Option SqlInt
  supportsSystemMessages : Option SqlInt
  chatbotArenaElo : Option F
  openLlmScore : Option F
  providerRank : Option SqlInt
  openrouterRank : Option SqlInt
  isHealthy : Option SqlInt
  avgLatencyMs : Option F
  avgTtfbMs : Option F
  consecutiveFailures : Option SqlInt
  backoffLevel : Option SqlInt
  cooldownUntil : Option String
  compositeScore : Option F
  isActive : Option SqlInt

/-- The `models` table. -/
structure StoredTable (F : Type) where
  rows : List (StoredRow F)
  nodup : (rows.map StoredRow.id).Nodup

/-- The columns the upsert of `run_discovery` sets. -/
structure UpsertColumns (F : Type) where
  id : String
  name : String
  providerId : String
  providerModelId : String
  contextWindow : SqlValue F
  maxOutputTokens : SqlValue F
  tokenizerFamily : Option String
  supportsTools : Option SqlInt
  supportsStreaming : Option SqlInt
  supportsVision : Option SqlInt
  supportsStructuredOutput : Option SqlInt
  supportsSystemMessages : Option SqlInt
  chatbotArenaElo : Option F
  openLlmScore : Option F
  providerRank : Option SqlInt
  openrouterRank : Option SqlInt
  isHealthy : Option SqlInt

section Rows

variable {F : Type}

/-- The row an `INSERT` creates. -/
def UpsertColumns.newRow [OfScientific F] (columns : UpsertColumns F) : StoredRow F where
  id := columns.id
  name := columns.name
  providerId := columns.providerId
  providerModelId := columns.providerModelId
  contextWindow := columns.contextWindow
  maxOutputTokens := columns.maxOutputTokens
  tokenizerFamily := columns.tokenizerFamily
  supportsTools := columns.supportsTools
  supportsStreaming := columns.supportsStreaming
  supportsVision := columns.supportsVision
  supportsStructuredOutput := columns.supportsStructuredOutput
  supportsSystemMessages := columns.supportsSystemMessages
  chatbotArenaElo := columns.chatbotArenaElo
  openLlmScore := columns.openLlmScore
  providerRank := columns.providerRank
  openrouterRank := columns.openrouterRank
  isHealthy := columns.isHealthy
  avgLatencyMs := none
  avgTtfbMs := none
  consecutiveFailures := some (sqlBool false)
  backoffLevel := some (sqlBool false)
  cooldownUntil := none
  compositeScore := some 0.0
  isActive := some (sqlBool true)

/-- The `DO UPDATE SET` clause. -/
def UpsertColumns.refresh (columns : UpsertColumns F) (row : StoredRow F) : StoredRow F :=
  { row with
    name := columns.name
    providerId := columns.providerId
    providerModelId := columns.providerModelId
    isActive := some (sqlBool true)
    isHealthy := columns.isHealthy
    supportsTools := columns.supportsTools
    supportsStreaming := columns.supportsStreaming
    supportsVision := columns.supportsVision
    supportsStructuredOutput := columns.supportsStructuredOutput
    supportsSystemMessages := columns.supportsSystemMessages
    contextWindow := columns.contextWindow
    maxOutputTokens := columns.maxOutputTokens
    tokenizerFamily := columns.tokenizerFamily
    providerRank := columns.providerRank
    openrouterRank := columns.openrouterRank
    chatbotArenaElo := columns.chatbotArenaElo
    openLlmScore := columns.openLlmScore }

/-- `SET is_active=0`. -/
def StoredRow.deactivate (row : StoredRow F) : StoredRow F :=
  { row with isActive := some (sqlBool false) }

theorem id_newRow [OfScientific F] (columns : UpsertColumns F) :
    columns.newRow.id = columns.id :=
  rfl

theorem id_refresh (columns : UpsertColumns F) (row : StoredRow F) :
    (columns.refresh row).id = row.id :=
  rfl

theorem id_deactivate (row : StoredRow F) : row.deactivate.id = row.id :=
  rfl

/-- The row of a model. -/
def StoredTable.row? (table : StoredTable F) (id : String) : Option (StoredRow F) :=
  lookup StoredRow.id id table.rows

/-- The table after an upsert. -/
def StoredTable.upsert [OfScientific F] (table : StoredTable F) (columns : UpsertColumns F) :
    StoredTable F where
  rows := Tables.upsert StoredRow.id columns.id columns.newRow columns.refresh table.rows
  nodup := nodup_upsert (id_newRow columns) (id_refresh columns) table.nodup

/-- The table after `mark_models_not_seen`. -/
def StoredTable.markNotSeen (table : StoredTable F) (providerId : String)
    (seenIds : List String) : StoredTable F where
  rows := updateWhere (fun row => row.providerId == providerId && !seenIds.contains row.id)
    StoredRow.deactivate table.rows
  nodup := by
    rw [keys_updateWhere id_deactivate]
    exact table.nodup

theorem row?_eq_some_iff_mem {table : StoredTable F} {id : String} {row : StoredRow F} :
    table.row? id = some row ↔ row ∈ table.rows ∧ row.id = id :=
  lookup_eq_some_iff table.nodup

/-- The row of a model after an upsert. -/
theorem row?_upsert [OfScientific F] (table : StoredTable F) (columns : UpsertColumns F)
    (id : String) :
    (table.upsert columns).row? id =
      if id = columns.id then some ((table.row? id).elim columns.newRow columns.refresh)
      else table.row? id := by
  unfold StoredTable.row? StoredTable.upsert
  by_cases hid : id = columns.id
  · rw [if_pos hid, hid]
    exact lookup_upsert_self (id_newRow columns) (id_refresh columns) table.rows
  · rw [if_neg hid]
    exact lookup_upsert_of_ne (id_newRow columns) (id_refresh columns) hid table.rows

end Rows

/-! ## Upsert parameters -/

/-- What a discovery run reads besides the catalogues, and SQLite's limit on the parameters
of a statement, which leaves room for those of an upsert. -/
structure DiscoveryEnv (F : Type) where
  now : String
  encodable : String → Bool
  benchmarks : CatalogueEntry F → Option F × Option F
  variableLimit : Nat
  upsertFits : 24 ≤ variableLimit

section Parameters

variable {F : Type} [Runtime F] [FloatArith F]

omit [FloatArith F] in
/-- `_coerce_rank`; an `OverflowError` is not caught. -/
def coerceRank (v : PyValue F) : Except Exc (Option Int) :=
  match v with
  | .int _ | .float _ | .str _ =>
      match v.toInt with
      | .ok parsed => .ok (if 0 < parsed then some parsed else none)
      | .error (.typeError _) | .error (.valueError _) => .ok none
      | .error exc => .error exc
  | _ => .ok none

omit [Runtime F] [FloatArith F] in
/-- A nullable integer. -/
def optionalInt (n : Option Int) : PyValue F :=
  (n.map PyValue.int).getD .none

omit [Runtime F] [FloatArith F] in
/-- A nullable float. -/
def optionalFloat (x : Option F) : PyValue F :=
  (x.map PyValue.float).getD .none

omit [FloatArith F] in
/-- `_resolve_rank_metadata`. -/
def resolveRankMetadata (model : CatalogueEntry F) : Except Exc (Option Int × Option Int) := do
  let providerRank ← coerceRank (optionalInt (F := F) (model.providerRank.map Int.ofNat))
  let openrouterRank ← coerceRank (optionalInt (F := F) (model.openrouterRank.map Int.ofNat))
  let providerRank := providerRank.or openrouterRank
  let openrouterRank :=
    if openrouterRank.isNone ∧ model.providerId = "openrouter" then providerRank
    else openrouterRank
  return (providerRank, openrouterRank)

omit [Runtime F] [FloatArith F] in
/-- `_apply_cached_benchmarks`: scores an entry lacks come from the cache. -/
def applyCachedBenchmarks (env : DiscoveryEnv F) (model : CatalogueEntry F) :
    CatalogueEntry F :=
  { model with
    chatbotArenaElo := model.chatbotArenaElo.or (env.benchmarks model).1
    openLlmScore := model.openLlmScore.or (env.benchmarks model).2 }

omit [Runtime F] [FloatArith F] in
/-- The parameters of the upsert of `run_discovery`, in the order of its columns. -/
def upsertParams (now : String) (model : CatalogueEntry F)
    (ranks : Option Int × Option Int) : List (PyValue F) :=
  [.str model.id, model.name, .str model.providerId, model.providerModelId,
    .str model.providerBaseUrl, .str model.providerApiKeyEnv, .none, .none,
    model.contextWindow, model.maxOutputTokens, .bool model.supportsTools,
    .bool model.supportsStreaming, .bool model.supportsVision,
    .bool model.supportsStructuredOutput, .bool model.supportsSystemMessages,
    model.tokenizerFamily, optionalInt ranks.1, optionalInt ranks.2,
    optionalFloat model.chatbotArenaElo, optionalFloat model.openLlmScore,
    .bool model.isHealthy, .str now, .str now, .str now]

/-! ## Statements -/

/-- A statement of `run_discovery` on the writer's queue. -/
inductive StoredWrite (F : Type) where
  | upsert (params : List (PyValue F))
  | markNotSeen (providerId : String) (seenIds : List String)

omit [FloatArith F] in
/-- The value of a `NOT NULL` text column. -/
def requiredText (column : String) (v : SqlValue F) : Except Exc String :=
  match v.toTextColumn with
  | some text => .ok text
  | none => .error (.other ("NOT NULL constraint failed: models." ++ column))

/-- The columns, with those that must not be null. -/
def columnsFrom (column : Nat → SqlValue F) (name providerId providerModelId : String) :
    UpsertColumns F where
  id := (column 0).toTextColumn.getD ""
  name := name
  providerId := providerId
  providerModelId := providerModelId
  contextWindow := (column 8).toIntegerColumn
  maxOutputTokens := (column 9).toIntegerColumn
  tokenizerFamily := (column 15).toTextColumn
  supportsTools := (column 10).integer?
  supportsStreaming := (column 11).integer?
  supportsVision := (column 12).integer?
  supportsStructuredOutput := (column 13).integer?
  supportsSystemMessages := (column 14).integer?
  chatbotArenaElo := (column 18).real?
  openLlmScore := (column 19).real?
  providerRank := (column 16).integer?
  openrouterRank := (column 17).integer?
  isHealthy := (column 20).integer?

/-- The columns of the bound parameters. -/
def upsertColumns (column : Nat → SqlValue F) : Except Exc (UpsertColumns F) := do
  let name ← requiredText "name" (column 1)
  let providerId ← requiredText "provider_id" (column 2)
  let providerModelId ← requiredText "provider_model_id" (column 3)
  let _ ← requiredText "provider_base_url" (column 4)
  let _ ← requiredText "provider_api_key_env" (column 5)
  return columnsFrom column name providerId providerModelId

/-- The number of a statement's parameters: the deactivation has one for each id. -/
def StoredWrite.variables : StoredWrite F → Nat
  | .upsert params => params.length
  | .markNotSeen _ seenIds => seenIds.length + 1

/-- `conn.execute` of a statement. -/
def StoredWrite.execute (env : DiscoveryEnv F) (table : StoredTable F) (w : StoredWrite F) :
    Except Exc (StoredTable F) :=
  if env.variableLimit < w.variables then .error (.other "too many SQL variables")
  else
    match w with
    | .upsert params => do
        let bound ← params.mapM (bindParam env.encodable)
        let columns ← upsertColumns fun i => bound[i]?.getD .null
        return table.upsert columns
    | .markNotSeen providerId seenIds => .ok (table.markNotSeen providerId seenIds)

omit [FloatArith F] in
/-- The upsert `run_discovery` enqueues for an entry. -/
def upsertOf (env : DiscoveryEnv F) (model : CatalogueEntry F) :
    Except Exc (StoredWrite F) := do
  let model := applyCachedBenchmarks env model
  let ranks ← resolveRankMetadata model
  return .upsert (upsertParams env.now model ranks)

omit [FloatArith F] in
/-- The turn of a provider in `run_discovery`, with the statements it enqueues. -/
def discoveryTurn (env : DiscoveryEnv F) (name : String) (models : List (CatalogueEntry F)) :
    Except Exc (List (StoredWrite F)) := do
  let upserts ← models.mapM (upsertOf env)
  return upserts ++ [.markNotSeen name (models.map CatalogueEntry.id)]

/-- The table once the writer has executed a queue. -/
def drain (env : DiscoveryEnv F) (writes : List (StoredWrite F)) (table : StoredTable F) :
    Except Exc (StoredTable F) :=
  writes.foldlM (StoredWrite.execute env) table

/-! ## What an entry is stored as -/

omit [Runtime F] [FloatArith F] in
/-- A rank that is positive. -/
def positiveRank (rank : Option Nat) : Option Int :=
  rank.bind fun n => if 0 < n then some n else none

omit [Runtime F] [FloatArith F] in
/-- The ranks of an entry. -/
def ranksOf (model : CatalogueEntry F) : Option Int × Option Int :=
  let openrouterRank := positiveRank model.openrouterRank
  let providerRank := (positiveRank model.providerRank).or openrouterRank
  (providerRank,
    if openrouterRank.isNone ∧ model.providerId = "openrouter" then providerRank
    else openrouterRank)

omit [FloatArith F] in
theorem coerceRank_optionalInt (rank : Option Nat) :
    coerceRank (optionalInt (F := F) (rank.map Int.ofNat)) = .ok (positiveRank rank) := by
  cases rank with
  | none => rfl
  | some n =>
      simp only [optionalInt, positiveRank, Option.map_some, Option.getD_some, coerceRank,
        PyValue.toInt, Option.bind_some]
      by_cases hpos : 0 < n <;> simp [hpos]

omit [FloatArith F] in
/-- The ranks an adapter sets are never refused. -/
theorem resolveRankMetadata_eq (model : CatalogueEntry F) :
    resolveRankMetadata model = .ok (ranksOf model) := by
  unfold resolveRankMetadata
  rw [coerceRank_optionalInt, coerceRank_optionalInt]
  rfl

omit [Runtime F] [FloatArith F] in
/-- The parameters of the upsert of an entry. -/
def paramsOf (env : DiscoveryEnv F) (model : CatalogueEntry F) : List (PyValue F) :=
  upsertParams env.now (applyCachedBenchmarks env model) (ranksOf model)

omit [FloatArith F] in
theorem upsertOf_eq (env : DiscoveryEnv F) (model : CatalogueEntry F) :
    upsertOf env model = .ok (.upsert (paramsOf env model)) := by
  unfold upsertOf
  dsimp only
  rw [resolveRankMetadata_eq]
  rfl

omit [FloatArith F] in
/-- The turn of a provider enqueues an upsert for each entry, and one deactivation. -/
theorem discoveryTurn_eq (env : DiscoveryEnv F) (name : String)
    (models : List (CatalogueEntry F)) :
    discoveryTurn env name models =
      .ok (models.map (fun model => .upsert (paramsOf env model)) ++
        [.markNotSeen name (models.map CatalogueEntry.id)]) := by
  rw [discoveryTurn, mapM_eq_map fun model _ => upsertOf_eq env model]
  rfl

omit [Runtime F] in
/-- What a parameter is bound to, where it can be. -/
def boundOf (encodable : String → Bool) (v : PyValue F) : SqlValue F :=
  (bindParam encodable v).toOption.getD .null

omit [Runtime F] in
theorem bindParam_eq {encodable : String → Bool} {v : PyValue F} (h : Bindable encodable v) :
    bindParam encodable v = .ok (boundOf encodable v) := by
  obtain ⟨p, hp⟩ := (bindParam_ok_iff encodable v).mpr h
  rw [boundOf, hp]
  rfl

omit [Runtime F] in
/-- Parameters are bound exactly when each of them can be. -/
theorem mapM_bindParam_eq_iff {encodable : String → Bool} {params : List (PyValue F)}
    {bound : List (SqlValue F)} :
    params.mapM (bindParam encodable) = .ok bound ↔
      (∀ v ∈ params, Bindable encodable v) ∧ bound = params.map (boundOf encodable) := by
  constructor
  · intro h
    have hall : ∀ v ∈ params, ∃ p, bindParam encodable v = .ok p := mapM_ok_iff.mp ⟨bound, h⟩
    refine ⟨fun v hv => (bindParam_ok_iff encodable v).mp (hall v hv), ?_⟩
    have hmap := map_of_mapM_ok (g := id) (h := boundOf encodable) (fun v p hp => by
      rw [boundOf, hp]
      rfl) h
    rw [List.map_id] at hmap
    exact hmap
  · rintro ⟨hall, rfl⟩
    exact mapM_eq_map fun v hv => bindParam_eq (hall v hv)

omit [Runtime F] in
/-- A value that is not stored as null. -/
def Present : PyValue F → Prop
  | .none => False
  | .float x => isNan x = false
  | _ => True

theorem requiredText_ok_iff {encodable : String → Bool} {v : PyValue F} (column : String)
    (h : Bindable encodable v) :
    (∃ text, requiredText column (boundOf encodable v) = .ok text) ↔ Present v := by
  cases v with
  | none => simp [boundOf, bindParam, requiredText, SqlValue.toTextColumn, Present,
      Except.toOption]
  | float x =>
      by_cases hnan : isNan x = true <;>
        simp [boundOf, bindParam, requiredText, SqlValue.toTextColumn, Present, hnan,
          Except.toOption]
  | bool b => exact iff_of_true ⟨_, rfl⟩ trivial
  | int n =>
      have hfits : FitsInt64 n := h
      refine iff_of_true ⟨intText n, ?_⟩ trivial
      simp [boundOf, bindParam, hfits, requiredText, SqlValue.toTextColumn, Except.toOption]
  | str s =>
      have hencodable : encodable s = true := h
      refine iff_of_true ⟨s, ?_⟩ trivial
      simp [boundOf, bindParam, hencodable, requiredText, SqlValue.toTextColumn,
        Except.toOption]
  | list items => cases h
  | dict members => cases h

/-- An entry whose upsert succeeds. -/
structure Storable (env : DiscoveryEnv F) (model : CatalogueEntry F) : Prop where
  bindable : ∀ v ∈ paramsOf env model, Bindable env.encodable v
  name : Present model.name
  providerModelId : Present model.providerModelId

/-- Columns with the values of an entry. -/
structure Describes (env : DiscoveryEnv F) (model : CatalogueEntry F)
    (columns : UpsertColumns F) : Prop where
  id : columns.id = model.id
  contextWindow :
    columns.contextWindow = (boundOf env.encodable model.contextWindow).toIntegerColumn
  supportsTools : columns.supportsTools = some (sqlBool model.supportsTools)
  supportsStreaming : columns.supportsStreaming = some (sqlBool model.supportsStreaming)
  supportsVision : columns.supportsVision = some (sqlBool model.supportsVision)
  supportsStructuredOutput :
    columns.supportsStructuredOutput = some (sqlBool model.supportsStructuredOutput)

/-- An active row with the columns of an entry. -/
structure Carries (env : DiscoveryEnv F) (model : CatalogueEntry F) (row : StoredRow F) :
    Prop where
  isActive : row.isActive = some (sqlBool true)
  contextWindow : row.contextWindow = (boundOf env.encodable model.contextWindow).toIntegerColumn
  supportsTools : row.supportsTools = some (sqlBool model.supportsTools)
  supportsStreaming : row.supportsStreaming = some (sqlBool model.supportsStreaming)
  supportsVision : row.supportsVision = some (sqlBool model.supportsVision)
  supportsStructuredOutput :
    row.supportsStructuredOutput = some (sqlBool model.supportsStructuredOutput)

theorem Describes.newRow {env : DiscoveryEnv F} {model : CatalogueEntry F}
    {columns : UpsertColumns F} (h : Describes env model columns) :
    Carries env model columns.newRow :=
  ⟨rfl, h.contextWindow, h.supportsTools, h.supportsStreaming, h.supportsVision,
    h.supportsStructuredOutput⟩

theorem Describes.refresh {env : DiscoveryEnv F} {model : CatalogueEntry F}
    {columns : UpsertColumns F} (h : Describes env model columns) (row : StoredRow F) :
    Carries env model (columns.refresh row) :=
  ⟨rfl, h.contextWindow, h.supportsTools, h.supportsStreaming, h.supportsVision,
    h.supportsStructuredOutput⟩

omit [Runtime F] in
/-- The parameter at a place, bound. -/
def boundAt (env : DiscoveryEnv F) (model : CatalogueEntry F) (i : Nat) : SqlValue F :=
  ((paramsOf env model).map (boundOf env.encodable))[i]?.getD .null

/-- The columns can be set exactly when the name and the provider's id are not null. -/
theorem upsertColumns_ok_iff {env : DiscoveryEnv F} {model : CatalogueEntry F}
    (hbind : ∀ v ∈ paramsOf env model, Bindable env.encodable v) :
    (∃ columns, upsertColumns (boundAt env model) = .ok columns) ↔
      Present model.name ∧ Present model.providerModelId := by
  have hmem : ∀ v, v ∈ [PyValue.str model.id, model.name, .str model.providerId,
      model.providerModelId, .str model.providerBaseUrl, .str model.providerApiKeyEnv] →
      Bindable env.encodable v := by
    intro v hv
    exact hbind v (List.mem_append_left ((paramsOf env model).drop 6) hv)
  have hname : (∃ text, requiredText "name" (boundAt env model 1) = .ok text) ↔
      Present model.name := requiredText_ok_iff _ (hmem model.name (by simp))
  have hprovider : ∃ text, requiredText "provider_id" (boundAt env model 2) = .ok text :=
    (requiredText_ok_iff _ (hmem (.str model.providerId) (by simp))).mpr trivial
  have hmodel : (∃ text, requiredText "provider_model_id" (boundAt env model 3) = .ok text) ↔
      Present model.providerModelId :=
    requiredText_ok_iff _ (hmem model.providerModelId (by simp))
  have hbase : ∃ text, requiredText "provider_base_url" (boundAt env model 4) = .ok text :=
    (requiredText_ok_iff _ (hmem (.str model.providerBaseUrl) (by simp))).mpr trivial
  have hkey : ∃ text, requiredText "provider_api_key_env" (boundAt env model 5) = .ok text :=
    (requiredText_ok_iff _ (hmem (.str model.providerApiKeyEnv) (by simp))).mpr trivial
  unfold upsertColumns
  rw [exists_bind_ok_iff]
  simp only [exists_bind_ok_iff]
  rw [← hname, ← hmodel]
  constructor
  · rintro ⟨name, hname, providerId, -, providerModelId, hmodel, -⟩
    exact ⟨⟨name, hname⟩, providerModelId, hmodel⟩
  · rintro ⟨⟨name, hname⟩, providerModelId, hmodel⟩
    obtain ⟨providerId, hprovider⟩ := hprovider
    obtain ⟨base, hbase⟩ := hbase
    obtain ⟨key, hkey⟩ := hkey
    exact ⟨name, hname, providerId, hprovider, providerModelId, hmodel, base, hbase, key, hkey,
      _, rfl⟩

/-- Columns set from the parameters of an entry have its values. -/
theorem describes_of_upsertColumns {env : DiscoveryEnv F} {model : CatalogueEntry F}
    {columns : UpsertColumns F} (hbind : ∀ v ∈ paramsOf env model, Bindable env.encodable v)
    (h : upsertColumns (boundAt env model) = .ok columns) : Describes env model columns := by
  obtain ⟨name, -, h⟩ := bind_ok_iff.mp h
  obtain ⟨providerId, -, h⟩ := bind_ok_iff.mp h
  obtain ⟨providerModelId, -, h⟩ := bind_ok_iff.mp h
  obtain ⟨base, -, h⟩ := bind_ok_iff.mp h
  obtain ⟨key, -, h⟩ := bind_ok_iff.mp h
  have hcolumns : columnsFrom (boundAt env model) name providerId providerModelId = columns :=
    Except.ok.inj h
  have hid : Bindable env.encodable (.str model.id) := hbind _ List.mem_cons_self
  rw [← hcolumns]
  refine ⟨?_, rfl, rfl, rfl, rfl, rfl⟩
  change (boundOf env.encodable (.str model.id)).toTextColumn.getD "" = model.id
  simp [boundOf, bindParam, show env.encodable model.id = true from hid, Except.toOption,
    SqlValue.toTextColumn]

/-- An upsert has few enough parameters. -/
theorem execute_upsert_eq (env : DiscoveryEnv F) (model : CatalogueEntry F)
    (table : StoredTable F) :
    (StoredWrite.upsert (paramsOf env model)).execute env table = (do
      let bound ← (paramsOf env model).mapM (bindParam env.encodable)
      let columns ← upsertColumns fun i => bound[i]?.getD .null
      return table.upsert columns) :=
  if_neg (Nat.not_lt.mpr env.upsertFits)

/-- The deactivation is executed exactly when there is a parameter for each id. -/
theorem execute_markNotSeen_eq_iff {env : DiscoveryEnv F} {table table' : StoredTable F}
    {providerId : String} {seenIds : List String} :
    (StoredWrite.markNotSeen providerId seenIds).execute env table = .ok table' ↔
      seenIds.length < env.variableLimit ∧ table.markNotSeen providerId seenIds = table' := by
  unfold StoredWrite.execute StoredWrite.variables
  by_cases hlong : env.variableLimit < seenIds.length + 1
  · simp only [if_pos hlong, reduceCtorEq, false_iff]
    omega
  · simp only [if_neg hlong, Except.ok.injEq]
    exact (and_iff_right (by omega)).symm

/-- The upsert of a storable entry sets its columns. -/
theorem execute_upsert {env : DiscoveryEnv F} {model : CatalogueEntry F}
    (h : Storable env model) : ∃ columns, Describes env model columns ∧ ∀ table,
      (StoredWrite.upsert (paramsOf env model)).execute env table =
        .ok (table.upsert columns) := by
  obtain ⟨columns, hcolumns⟩ :=
    (upsertColumns_ok_iff h.bindable).mpr ⟨h.name, h.providerModelId⟩
  refine ⟨columns, describes_of_upsertColumns h.bindable hcolumns, fun table => ?_⟩
  have hbound := mapM_bindParam_eq_iff.mpr ⟨h.bindable, rfl⟩
  rw [execute_upsert_eq, hbound, ok_bind]
  exact bind_ok_iff.mpr ⟨columns, hcolumns, rfl⟩

/-- An upsert succeeds exactly when its parameters can be bound and the model has a name. -/
theorem execute_upsert_ok_iff (env : DiscoveryEnv F) (model : CatalogueEntry F)
    (table : StoredTable F) :
    (∃ table', (StoredWrite.upsert (paramsOf env model)).execute env table =
      .ok table') ↔ Storable env model := by
  constructor
  · rintro ⟨table', h⟩
    rw [execute_upsert_eq] at h
    obtain ⟨bound, hbound, h⟩ := bind_ok_iff.mp h
    obtain ⟨columns, hcolumns, -⟩ := bind_ok_iff.mp h
    obtain ⟨hbind, rfl⟩ := mapM_bindParam_eq_iff.mp hbound
    have hpresent := (upsertColumns_ok_iff hbind).mp ⟨columns, hcolumns⟩
    exact ⟨hbind, hpresent.1, hpresent.2⟩
  · intro h
    obtain ⟨columns, -, hexecute⟩ := execute_upsert h
    exact ⟨_, hexecute table⟩

/-! ## Draining the queue -/

omit [Runtime F] [FloatArith F] in
/-- The last entry with an id. -/
def lastEntry (id : String) (models : List (CatalogueEntry F)) : Option (CatalogueEntry F) :=
  models.reverse.find? fun model => decide (model.id = id)

omit [Runtime F] [FloatArith F] in
theorem lastEntry_concat (id : String) (models : List (CatalogueEntry F))
    (model : CatalogueEntry F) :
    lastEntry id (models ++ [model]) =
      if model.id = id then some model else lastEntry id models := by
  unfold lastEntry
  rw [List.reverse_append, List.reverse_singleton, List.singleton_append, List.find?_cons]
  by_cases hid : model.id = id <;> simp [hid]

omit [Runtime F] [FloatArith F] in
theorem lastEntry_mem {id : String} {models : List (CatalogueEntry F)}
    {model : CatalogueEntry F} (h : lastEntry id models = some model) :
    model ∈ models ∧ model.id = id := by
  have hid := List.find?_some h
  exact ⟨List.mem_reverse.mp (List.mem_of_find?_eq_some h), by simpa using hid⟩

/-- The upserts of a catalogue all succeed exactly when every entry is storable. -/
theorem drain_upserts_ok_iff (env : DiscoveryEnv F) (models : List (CatalogueEntry F))
    (table : StoredTable F) :
    (∃ table', drain env (models.map fun model => .upsert (paramsOf env model)) table =
      .ok table') ↔ ∀ model ∈ models, Storable env model := by
  unfold drain
  rw [List.foldlM_map]
  exact foldlM_ok_iff (fun table model => execute_upsert_ok_iff env model table) models table

/-- After the upserts a model's row carries the last entry with its id, and the rows of the
other models are unchanged. -/
theorem row?_drain {env : DiscoveryEnv F} {models : List (CatalogueEntry F)}
    {table table' : StoredTable F}
    (h : drain env (models.map fun model => .upsert (paramsOf env model)) table =
      .ok table') (id : String) :
    (lastEntry id models = none → table'.row? id = table.row? id) ∧
      ∀ model, lastEntry id models = some model →
        ∃ row, table'.row? id = some row ∧ Carries env model row := by
  induction models using List.reverseRecOn generalizing table' with
  | nil =>
      cases h
      refine ⟨fun _ => rfl, ?_⟩
      intro model hmodel
      cases hmodel
  | append_singleton models last ih =>
      unfold drain at h ih
      rw [List.map_append, List.foldlM_append] at h
      obtain ⟨before, hbefore, h⟩ := bind_ok_iff.mp h
      rw [List.map_singleton, List.foldlM_cons] at h
      obtain ⟨after, hafter, h⟩ := bind_ok_iff.mp h
      cases h
      have hstorable := (execute_upsert_ok_iff env last before).mp ⟨_, hafter⟩
      obtain ⟨columns, hdescribes, hexecute⟩ := execute_upsert hstorable
      have htable : before.upsert columns = table' :=
        Except.ok.inj ((hexecute before).symm.trans hafter)
      obtain ⟨hother, hlast⟩ := ih hbefore
      rw [lastEntry_concat, ← htable, row?_upsert, hdescribes.id]
      by_cases hid : last.id = id
      · rw [if_pos hid, if_pos hid.symm]
        refine ⟨fun hnone => (Option.some_ne_none _ hnone).elim, ?_⟩
        intro model hmodel
        cases hmodel
        refine ⟨_, rfl, ?_⟩
        cases before.row? id with
        | none => exact hdescribes.newRow
        | some row => exact hdescribes.refresh row
      · rw [if_neg hid, if_neg fun heq => hid heq.symm]
        exact ⟨hother, hlast⟩

/-- A turn is drained exactly when every entry is storable, and their ids fit one statement. -/
theorem drain_turn_ok_iff (env : DiscoveryEnv F) (name : String)
    (models : List (CatalogueEntry F)) (table : StoredTable F) :
    (∃ table', (discoveryTurn env name models >>= fun writes =>
      drain env writes table) = .ok table') ↔
      (∀ model ∈ models, Storable env model) ∧ models.length < env.variableLimit := by
  rw [discoveryTurn_eq, ok_bind, ← drain_upserts_ok_iff env models table]
  unfold drain
  simp only [List.foldlM_append, exists_bind_ok_iff, List.foldlM_cons, List.foldlM_nil,
    execute_markNotSeen_eq_iff, List.length_map]
  constructor
  · rintro ⟨before, hbefore, -, ⟨hfits, -⟩, -⟩
    exact ⟨⟨before, hbefore⟩, hfits⟩
  · rintro ⟨⟨before, hbefore⟩, hfits⟩
    exact ⟨before, hbefore, _, ⟨hfits, rfl⟩, _, rfl⟩

/-- The active rows behind a drained turn carry the last entry with their id, or are as they
were before; and every entry that is not followed by another one with its id is carried by an
active row. -/
theorem rows_drain_turn {env : DiscoveryEnv F} {name : String}
    {models : List (CatalogueEntry F)} {table table' : StoredTable F}
    (h : (discoveryTurn env name models >>= fun writes => drain env writes table) =
      .ok table') :
    (∀ row ∈ table'.rows, row.isActive = some (sqlBool true) →
      (∃ model, lastEntry row.id models = some model ∧ Carries env model row) ∨
        row ∈ table.rows) ∧
    ∀ id model, lastEntry id models = some model →
      ∃ row ∈ table'.rows, Carries env model row := by
  rw [discoveryTurn_eq, ok_bind] at h
  unfold drain at h
  rw [List.foldlM_append] at h
  obtain ⟨before, hbefore, h⟩ := bind_ok_iff.mp h
  rw [List.foldlM_cons] at h
  obtain ⟨after, hafter, h⟩ := bind_ok_iff.mp h
  cases h
  have hmark : before.markNotSeen name (models.map CatalogueEntry.id) = table' :=
    (execute_markNotSeen_eq_iff.mp hafter).2
  rw [← hmark]
  constructor
  · intro row hrow hactive
    obtain ⟨old, hold, hset⟩ := mem_updateWhere.mp hrow
    have hsame : old = row := by
      split at hset
      · rw [← hset] at hactive
        exact absurd hactive (by simp [StoredRow.deactivate, sqlBool])
      · exact hset
    rw [hsame] at hold
    obtain ⟨hother, hlast⟩ := row?_drain hbefore row.id
    have hlookup : before.row? row.id = some row := row?_eq_some_iff_mem.mpr ⟨hold, rfl⟩
    cases hentry : lastEntry row.id models with
    | none =>
        rw [hother hentry] at hlookup
        exact .inr (row?_eq_some_iff_mem.mp hlookup).1
    | some model =>
        obtain ⟨carrier, hcarrier, hcarries⟩ := hlast model hentry
        rw [hlookup, Option.some.injEq] at hcarrier
        rw [hcarrier]
        exact .inl ⟨model, rfl, hcarries⟩
  · intro id model hentry
    obtain ⟨-, hlast⟩ := row?_drain hbefore id
    obtain ⟨row, hrow, hcarries⟩ := hlast model hentry
    obtain ⟨hmem, hid⟩ := row?_eq_some_iff_mem.mp hrow
    obtain ⟨hmodel, hmodelId⟩ := lastEntry_mem hentry
    have hseen : (models.map CatalogueEntry.id).contains row.id = true := by
      rw [List.contains_iff_mem, hid, ← hmodelId]
      exact List.mem_map_of_mem hmodel
    refine ⟨row, mem_updateWhere.mpr ⟨row, hmem, ?_⟩, hcarries⟩
    simp only [hseen, Bool.not_true, Bool.and_false, Bool.false_eq_true, if_false]

end Parameters

end Store
end FreeLunch
