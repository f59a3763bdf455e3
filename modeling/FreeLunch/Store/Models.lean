import FreeLunch.Foundations.Tables
import FreeLunch.Store.Affinity

/-!
# The models table

The rows of the `models` table and every statement the application sends to it.
The statements are data, as they are on the writer's queue, and `ModelWrite.apply`
says what executing one does to the table.

Main results:

- Theorem `id_set`: no statement changes the id of a row.
- Theorem `nodup_apply`: every statement keeps the ids unique.
- Theorem `rowOf_apply_failure`, `rowOf_apply_success`: a health update acts on
  the row of its model alone.

Current gaps:

- `context_window` and `max_output_tokens` hold whatever a provider reported.  The
  application stores nothing but values of the declared type or `NULL` in the other
  columns; their integers are unbounded here.
-/

namespace FreeLunch
namespace Store

open Tables Python

/-! ## Rows -/

/-- A row of the `models` table. -/
structure ModelRow (F : Type) where
  id : String
  name : String
  providerId : String
  endpointId : Option String
  providerModelId : String
  providerBaseUrl : String
  providerApiKeyEnv : String
  providerOptionsJson : Option String
  contextWindow : SqlValue F
  maxOutputTokens : SqlValue F
  tokenizerFamily : Option String
  supportsTools : Option Int
  supportsStreaming : Option Int
  supportsVision : Option Int
  supportsStructuredOutput : Option Int
  supportsSystemMessages : Option Int
  chatbotArenaElo : Option F
  openLlmScore : Option F
  providerRank : Option Int
  openrouterRank : Option Int
  isHealthy : Option Int
  lastHealthCheck : Option String
  avgLatencyMs : Option F
  avgTtfbMs : Option F
  consecutiveFailures : Option Int
  backoffLevel : Option Int
  cooldownUntil : Option String
  lastError : Option String
  lastProbeAt : Option String
  lastSuccessAt : Option String
  lastFailureAt : Option String
  lastRoutedAt : Option String
  compositeScore : Option F
  scoreUpdatedAt : Option String
  discoveredAt : String
  lastSeenAt : String
  isActive : Option Int
deriving DecidableEq

/-- The context window of a model whose provider reports none. -/
def defaultWindow : SqlInt :=
  ⟨4096, by decide⟩

/-- What one `discover_models` result contributes to the `INSERT` of
`run_discovery`, with its defaults filled in and its limits as the columns hold them. -/
structure DiscoveredModel (F : Type) where
  id : String
  name : String
  providerId : String
  providerModelId : String
  providerBaseUrl : String
  providerApiKeyEnv : String
  endpointId : Option String := none
  providerOptionsJson : Option String := none
  contextWindow : SqlValue F := .integer defaultWindow
  maxOutputTokens : SqlValue F := .null
  supportsTools : Option Int := some 0
  supportsStreaming : Option Int := some 1
  supportsVision : Option Int := some 0
  supportsStructuredOutput : Option Int := some 0
  supportsSystemMessages : Option Int := some 1
  tokenizerFamily : Option String := none
  providerRank : Option Int := none
  openrouterRank : Option Int := none
  chatbotArenaElo : Option F := none
  openLlmScore : Option F := none
  isHealthy : Option Int := some 1
deriving DecidableEq

/-- A statement of the application on the `models` table. -/
inductive ModelWrite (F : Type) where
  /-- `run_discovery`: insert a model or refresh the stored one. -/
  | upsert (model : DiscoveredModel F) (now : String)
  /-- `set_model_active`. -/
  | setActive (id : String) (isActive : Bool)
  /-- `mark_models_not_seen`. -/
  | markNotSeen (providerId : String) (seenIds : List String)
  /-- `apply_provider_runtime_state`. -/
  | deactivateProvider (providerId : String)
  /-- `recompute_ranking`. -/
  | setScore (id : String) (compositeScore : F) (scoreUpdatedAt : String)
  /-- `mark_failure`. -/
  | failure (id now error : String) (nextBackoff : Int) (cooldownUntil : String)
      (threshold : Int)
  /-- `mark_success`. -/
  | success (id now : String) (latencyMs ttfbMs : Option F) (probedAt : Option String)
deriving DecidableEq

section Statements

variable {F : Type}

/-- The row an `INSERT` of `run_discovery` creates; the columns it does not name
get their defaults. -/
def DiscoveredModel.newRow [OfScientific F] (model : DiscoveredModel F) (now : String) :
    ModelRow F where
  id := model.id
  name := model.name
  providerId := model.providerId
  endpointId := model.endpointId
  providerModelId := model.providerModelId
  providerBaseUrl := model.providerBaseUrl
  providerApiKeyEnv := model.providerApiKeyEnv
  providerOptionsJson := model.providerOptionsJson
  contextWindow := model.contextWindow
  maxOutputTokens := model.maxOutputTokens
  tokenizerFamily := model.tokenizerFamily
  supportsTools := model.supportsTools
  supportsStreaming := model.supportsStreaming
  supportsVision := model.supportsVision
  supportsStructuredOutput := model.supportsStructuredOutput
  supportsSystemMessages := model.supportsSystemMessages
  chatbotArenaElo := model.chatbotArenaElo
  openLlmScore := model.openLlmScore
  providerRank := model.providerRank
  openrouterRank := model.openrouterRank
  isHealthy := model.isHealthy
  lastHealthCheck := none
  avgLatencyMs := none
  avgTtfbMs := none
  consecutiveFailures := some 0
  backoffLevel := some 0
  cooldownUntil := none
  lastError := none
  lastProbeAt := none
  lastSuccessAt := none
  lastFailureAt := none
  lastRoutedAt := none
  compositeScore := some 0.0
  scoreUpdatedAt := some now
  discoveredAt := now
  lastSeenAt := now
  isActive := some 1

/-- The `DO UPDATE SET` clause of `run_discovery`. -/
def DiscoveredModel.refresh (model : DiscoveredModel F) (now : String) (row : ModelRow F) :
    ModelRow F :=
  { row with
    name := model.name
    providerId := model.providerId
    endpointId := model.endpointId
    providerModelId := model.providerModelId
    providerBaseUrl := model.providerBaseUrl
    providerApiKeyEnv := model.providerApiKeyEnv
    providerOptionsJson := model.providerOptionsJson
    isActive := some 1
    lastSeenAt := now
    isHealthy := model.isHealthy
    supportsTools := model.supportsTools
    supportsStreaming := model.supportsStreaming
    supportsVision := model.supportsVision
    supportsStructuredOutput := model.supportsStructuredOutput
    supportsSystemMessages := model.supportsSystemMessages
    contextWindow := model.contextWindow
    maxOutputTokens := model.maxOutputTokens
    tokenizerFamily := model.tokenizerFamily
    providerRank := model.providerRank
    openrouterRank := model.openrouterRank
    chatbotArenaElo := model.chatbotArenaElo
    openLlmScore := model.openLlmScore }

/-- The `SET` clause of `mark_failure`.  `NULL + 1` is `NULL`, and a comparison
with it falls through to the `ELSE` branch. -/
def failureUpdate (now error : String) (nextBackoff : Int) (cooldownUntil : String)
    (threshold : Int) (row : ModelRow F) : ModelRow F :=
  { row with
    consecutiveFailures := row.consecutiveFailures.map (· + 1)
    lastFailureAt := some now
    lastError := some error
    backoffLevel := some nextBackoff
    cooldownUntil := some cooldownUntil
    isHealthy :=
      match row.consecutiveFailures with
      | some failures => if threshold ≤ failures + 1 then some 0 else row.isHealthy
      | none => row.isHealthy }

/-- `ROLLING_METRIC_ALPHA`. -/
def rollingMetricAlpha [OfScientific F] : F :=
  0.3

/-- The rolling average of `mark_success`: no sample leaves it alone, the first
sample starts it. -/
def rollingAverage [FloatArith F] (average sample : Option F) : Option F :=
  match sample, average with
  | none, _ => average
  | some value, none => some value
  | some value, some old =>
      some (old * (1.0 - rollingMetricAlpha) + value * rollingMetricAlpha)

/-- The `SET` clause of `mark_success`. -/
def successUpdate [FloatArith F] (now : String) (latencyMs ttfbMs : Option F)
    (probedAt : Option String) (row : ModelRow F) : ModelRow F :=
  { row with
    consecutiveFailures := some 0
    backoffLevel := some 0
    cooldownUntil := none
    isHealthy := some 1
    lastError := none
    lastSuccessAt := some now
    lastRoutedAt := some now
    lastHealthCheck := some now
    lastProbeAt := probedAt.or row.lastProbeAt
    avgLatencyMs := rollingAverage row.avgLatencyMs latencyMs
    avgTtfbMs := rollingAverage row.avgTtfbMs ttfbMs }

/-- The rows of one model. -/
def hasId (id : String) (row : ModelRow F) : Bool :=
  decide (row.id = id)

/-- `SET is_active=?`. -/
def ModelRow.setActive (isActive : Bool) (row : ModelRow F) : ModelRow F :=
  { row with isActive := some (if isActive then 1 else 0) }

/-- `SET composite_score=?, score_updated_at=?`. -/
def ModelRow.setScore (compositeScore : F) (scoreUpdatedAt : String) (row : ModelRow F) :
    ModelRow F :=
  { row with compositeScore := some compositeScore, scoreUpdatedAt := some scoreUpdatedAt }

/-- The `WHERE` clause of a statement, or the conflict it handles. -/
def ModelWrite.selects (w : ModelWrite F) (row : ModelRow F) : Bool :=
  match w with
  | .upsert model _ => hasId model.id row
  | .setActive id _ => hasId id row
  | .markNotSeen providerId seenIds => row.providerId == providerId && !seenIds.contains row.id
  | .deactivateProvider providerId => row.providerId == providerId && row.isActive == some 1
  | .setScore id _ _ => hasId id row
  | .failure id _ _ _ _ _ => hasId id row
  | .success id _ _ _ _ => hasId id row

/-- The `SET` clause of a statement. -/
def ModelWrite.set [FloatArith F] (w : ModelWrite F) (row : ModelRow F) : ModelRow F :=
  match w with
  | .upsert model now => model.refresh now row
  | .setActive _ isActive => row.setActive isActive
  | .markNotSeen _ _ => row.setActive false
  | .deactivateProvider _ => row.setActive false
  | .setScore _ compositeScore scoreUpdatedAt => row.setScore compositeScore scoreUpdatedAt
  | .failure _ now error nextBackoff cooldownUntil threshold =>
      failureUpdate now error nextBackoff cooldownUntil threshold row
  | .success _ now latencyMs ttfbMs probedAt => successUpdate now latencyMs ttfbMs probedAt row

/-- Execute one statement. -/
def ModelWrite.apply [FloatArith F] (w : ModelWrite F) (table : List (ModelRow F)) :
    List (ModelRow F) :=
  match w with
  | .upsert model now =>
      Tables.upsert ModelRow.id model.id (model.newRow now) (model.refresh now) table
  | w => updateWhere w.selects w.set table

/-- What a statement makes of the row of one model, if there is one. -/
def ModelWrite.onRow [FloatArith F] (w : ModelWrite F) (id : String)
    (row : Option (ModelRow F)) : Option (ModelRow F) :=
  match w with
  | .upsert model now =>
      if id = model.id then some (row.elim (model.newRow now) (model.refresh now)) else row
  | w => row.map fun row => if w.selects row then w.set row else row

/-- `SELECT … FROM models WHERE id=?`. -/
def rowOf (id : String) (table : List (ModelRow F)) : Option (ModelRow F) :=
  lookup ModelRow.id id table

/-! ## What statements keep -/

variable [FloatArith F]

/-- No statement changes the id of a row. -/
@[simp]
theorem id_set (w : ModelWrite F) (row : ModelRow F) : (w.set row).id = row.id := by
  cases w <;> rfl

/-- A statement updates the rows it selects; only an upsert can add one. -/
theorem apply_cases (w : ModelWrite F) (table : List (ModelRow F)) :
    w.apply table = updateWhere w.selects w.set table ∨
      ∃ model now, w = .upsert model now ∧ rowOf model.id table = none ∧
        w.apply table = table ++ [model.newRow now] := by
  cases w with
  | upsert model now =>
      cases hrow : rowOf model.id table with
      | none =>
          refine .inr ⟨model, now, rfl, hrow, ?_⟩
          unfold rowOf at hrow
          simp [ModelWrite.apply, Tables.upsert, hrow]
      | some row =>
          refine .inl ?_
          unfold rowOf at hrow
          simp only [ModelWrite.apply, Tables.upsert, hrow, Option.isSome_some, if_true]
          rfl
  | _ => exact .inl rfl

/-- Every statement keeps the ids unique. -/
theorem nodup_apply (w : ModelWrite F) {table : List (ModelRow F)}
    (hnodup : (table.map ModelRow.id).Nodup) : ((w.apply table).map ModelRow.id).Nodup := by
  cases w with
  | upsert model now =>
      change ((Tables.upsert ModelRow.id model.id (model.newRow now) (model.refresh now)
        table).map ModelRow.id).Nodup
      apply nodup_upsert _ _ hnodup
      · rfl
      · intro row
        rfl
  | _ =>
      rw [show ModelWrite.apply _ table = updateWhere _ _ table from rfl,
        keys_updateWhere (id_set _)]
      exact hnodup

omit [FloatArith F] in
theorem hasId_of_rowOf {id : String} {table : List (ModelRow F)} {row : ModelRow F}
    (h : rowOf id table = some row) : hasId id row = true := by
  have hrow := List.find?_some h
  unfold hasId
  exact hrow

/-- A statement on the rows of one model, read back. -/
theorem rowOf_updateWhere_of_hasId {w : ModelWrite F} {id : String}
    (hselects : w.selects = hasId id) (table : List (ModelRow F)) :
    rowOf id (updateWhere w.selects w.set table) = (rowOf id table).map w.set := by
  unfold rowOf
  rw [lookup_updateWhere (id_set w), hselects]
  cases hrow : lookup ModelRow.id id table with
  | none => rfl
  | some row =>
      have hid : hasId id row = true := hasId_of_rowOf hrow
      simp [hid]

/-- A statement on the rows of one model does not show in the row of another. -/
theorem rowOf_updateWhere_of_ne {w : ModelWrite F} {id other : String}
    (hselects : w.selects = hasId other) (hne : id ≠ other) (table : List (ModelRow F)) :
    rowOf id (updateWhere w.selects w.set table) = rowOf id table := by
  unfold rowOf
  rw [lookup_updateWhere (id_set w), hselects]
  cases hrow : lookup ModelRow.id id table with
  | none => rfl
  | some row =>
      have hid : hasId id row = true := hasId_of_rowOf hrow
      have hother : hasId other row = false := by
        have hrowId : row.id = id := of_decide_eq_true hid
        simp [hasId, hrowId, hne]
      simp [hother]

/-- A statement acts on the row of each model alone. -/
theorem rowOf_apply (w : ModelWrite F) (id : String) (table : List (ModelRow F)) :
    rowOf id (w.apply table) = w.onRow id (rowOf id table) := by
  cases w with
  | upsert model now =>
      change lookup ModelRow.id id (Tables.upsert ModelRow.id model.id (model.newRow now)
        (model.refresh now) table) = if id = model.id then _ else _
      have hnew : (model.newRow now).id = model.id := rfl
      have hkey : ∀ row, (model.refresh now row).id = row.id := fun _ => rfl
      by_cases hid : id = model.id
      · rw [if_pos hid, hid]
        exact lookup_upsert_self hnew hkey table
      · rw [if_neg hid]
        exact lookup_upsert_of_ne hnew hkey hid table
  | _ => exact lookup_updateWhere (id_set _) id table

/-- A failure acts on the row of its model. -/
@[simp]
theorem rowOf_apply_failure (id now error : String) (nextBackoff : Int)
    (cooldownUntil : String) (threshold : Int) (table : List (ModelRow F)) :
    rowOf id ((ModelWrite.failure id now error nextBackoff cooldownUntil threshold).apply
      table) =
      (rowOf id table).map (failureUpdate now error nextBackoff cooldownUntil threshold) :=
  rowOf_updateWhere_of_hasId
    (w := .failure id now error nextBackoff cooldownUntil threshold) rfl table

/-- A success acts on the row of its model. -/
@[simp]
theorem rowOf_apply_success (id now : String) (latencyMs ttfbMs : Option F)
    (probedAt : Option String) (table : List (ModelRow F)) :
    rowOf id ((ModelWrite.success id now latencyMs ttfbMs probedAt).apply table) =
      (rowOf id table).map (successUpdate now latencyMs ttfbMs probedAt) :=
  rowOf_updateWhere_of_hasId (w := .success id now latencyMs ttfbMs probedAt) rfl table

end Statements

/-! ## The table as SQLite keeps it -/

/-- The content of the `models` table: rows in storage order under the primary
key `id`. -/
structure ModelsTable (F : Type) where
  rows : List (ModelRow F)
  ids_nodup : (rows.map ModelRow.id).Nodup

/-- Execute one statement on the stored table. -/
def ModelsTable.exec {F : Type} [FloatArith F] (table : ModelsTable F) (w : ModelWrite F) :
    ModelsTable F where
  rows := w.apply table.rows
  ids_nodup := nodup_apply w table.ids_nodup

/-- Execute a queue of statements in FIFO order. -/
def ModelsTable.execAll {F : Type} [FloatArith F] (table : ModelsTable F)
    (writes : List (ModelWrite F)) : ModelsTable F :=
  writes.foldl ModelsTable.exec table

/-- The stored row of a model. -/
def ModelsTable.row? {F : Type} (table : ModelsTable F) (id : String) : Option (ModelRow F) :=
  rowOf id table.rows

section Table

variable {F : Type} [FloatArith F]

@[simp]
theorem execAll_nil (table : ModelsTable F) : table.execAll [] = table :=
  rfl

@[simp]
theorem execAll_cons (table : ModelsTable F) (w : ModelWrite F) (ws : List (ModelWrite F)) :
    table.execAll (w :: ws) = (table.exec w).execAll ws :=
  rfl

theorem execAll_append (table : ModelsTable F) (ws vs : List (ModelWrite F)) :
    table.execAll (ws ++ vs) = (table.execAll ws).execAll vs := by
  unfold ModelsTable.execAll
  exact List.foldl_append

/-- The row of a model after a queue of statements. -/
theorem row?_execAll (id : String) (table : ModelsTable F) (ws : List (ModelWrite F)) :
    (table.execAll ws).row? id = ws.foldl (fun row w => w.onRow id row) (table.row? id) := by
  induction ws generalizing table with
  | nil => rfl
  | cons w ws ih =>
      rw [execAll_cons, ih, List.foldl_cons]
      congr 1
      exact rowOf_apply w id table.rows

omit [FloatArith F] in
/-- The stored row of a model is the one row under its id. -/
theorem row?_eq_some_iff {table : ModelsTable F} {id : String} {row : ModelRow F} :
    table.row? id = some row ↔ row ∈ table.rows ∧ row.id = id :=
  lookup_eq_some_iff table.ids_nodup

/-- A row after the deactivation of the active models of some providers. -/
def ModelRow.deactivateOf (providerIds : List String) (row : ModelRow F) : ModelRow F :=
  if row.providerId ∈ providerIds ∧ row.isActive = some 1 then row.setActive false else row

/-- Deactivating providers acts on each row alone. -/
theorem rows_execAll_deactivateProvider (table : ModelsTable F) (providerIds : List String) :
    (table.execAll (providerIds.map .deactivateProvider)).rows =
      table.rows.map (ModelRow.deactivateOf providerIds) := by
  induction providerIds generalizing table with
  | nil =>
      have hid : ModelRow.deactivateOf (F := F) [] = id := by
        funext row
        simp [ModelRow.deactivateOf]
      rw [hid, List.map_id]
      rfl
  | cons providerId rest ih =>
      rw [List.map_cons, execAll_cons, ih]
      change (updateWhere (ModelWrite.deactivateProvider providerId).selects
        (ModelWrite.deactivateProvider providerId).set table.rows).map _ = _
      unfold updateWhere
      rw [List.map_map]
      apply List.map_congr_left
      intro row _
      change ModelRow.deactivateOf rest (if (row.providerId == providerId &&
        row.isActive == some 1) = true then row.setActive false else row) = _
      unfold ModelRow.deactivateOf
      by_cases hprovider : row.providerId = providerId <;>
        by_cases hactive : row.isActive = some 1 <;>
        simp [hprovider, hactive, ModelRow.setActive]

omit [FloatArith F] in
theorem isActive_deactivateOf_iff {providerIds : List String} {row : ModelRow F} :
    (row.deactivateOf providerIds).isActive = some 1 ↔
      row.isActive = some 1 ∧ row.providerId ∉ providerIds := by
  unfold ModelRow.deactivateOf
  by_cases hprovider : row.providerId ∈ providerIds <;>
    by_cases hactive : row.isActive = some 1 <;>
    simp [hprovider, hactive, ModelRow.setActive]

omit [FloatArith F] in
/-- A row that stays active is not changed. -/
theorem deactivateOf_of_not_mem {providerIds : List String} {row : ModelRow F}
    (h : row.providerId ∉ providerIds) : row.deactivateOf providerIds = row := by
  rw [ModelRow.deactivateOf, if_neg fun hboth => h hboth.1]

end Table

end Store
end FreeLunch
