import FreeLunch.Routing.PickCandidates
import FreeLunch.Runtime.Settings
import FreeLunch.Store.StoredModels

/-!
# The readers of the models table

`_load_eligible_candidates` of `src/routing.py` and `recompute_ranking` of `src/ranking.py`
on rows whose limits hold whatever a provider reported.

Main results:

- Theorem `loadStoredCandidates_ok_iff`: when the candidates can be read.
- Theorem `recomputeRanking_ok_iff`: the ranking returns exactly when the context window of
  every active row is a number of float range.
- Theorem `loadStoredCandidates_eq`: on rows of the declared types the candidates, or what
  is raised, are those of the typed table.

Current gaps:

- What `_load_telemetry_by_model` reads from the request log is a parameter, and so is
  `round(x, 4)`.
-/

namespace FreeLunch
namespace Routing

open FreeLunch.Runtime Python Store Writes

/-! ## Candidates -/

section Readers

variable {F : Type} [Runtime F] [FloatArith F]

/-- A capability column against a required capability. -/
def storedCapable (required : Bool) (column : Option SqlInt) : Bool :=
  !required || column == some (sqlBool true)

omit [Runtime F] in
/-- The `WHERE` clause of `_load_eligible_candidates`. -/
def storedEligible (now : String) (req : RoutingRequirements F)
    (minContextWindow minOutputTokens : SqlInt) (row : StoredRow F) : Bool :=
  row.isActive == some (sqlBool true) && row.isHealthy == some (sqlBool true) &&
    (row.cooldownUntil.all fun cooldown => decide (cooldown < now)) &&
    storedCapable req.requiresTools row.supportsTools &&
    storedCapable req.requiresVision row.supportsVision &&
    storedCapable req.requiresStreaming row.supportsStreaming &&
    storedCapable req.requiresStructuredOutput row.supportsStructuredOutput &&
    storedCapable req.requiresSystemMessages row.supportsSystemMessages &&
    row.contextWindow.ge minContextWindow.val &&
    (row.maxOutputTokens.isNull || row.maxOutputTokens.ge minOutputTokens.val)

/-- `int(column or 0)` of an integer column. -/
def storedIntOrZero (n : Option SqlInt) : Int :=
  (n.map Subtype.val).getD 0

/-- `_serialize_candidate`. -/
def serializeStored (row : StoredRow F) : Except Exc (Candidate F) := do
  let contextWindow ← row.contextWindow.intOrZero
  return {
    id := row.id
    providerId := row.providerId
    providerModelId := row.providerModelId
    compositeScore := floatOr row.compositeScore 0.0
    avgLatencyMs := floatOr row.avgLatencyMs 0.0
    avgTtfbMs := floatOr row.avgTtfbMs 0.0
    contextWindow := contextWindow
    consecutiveFailures := storedIntOrZero row.consecutiveFailures
    backoffLevel := storedIntOrZero row.backoffLevel
    tokenizerFamily := row.tokenizerFamily }

/-- `_load_eligible_candidates`. -/
def loadStoredCandidates (table : StoredTable F) (now : String) (req : RoutingRequirements F) :
    Except Exc (List (Candidate F)) := do
  let minContextWindow ← bindInt req.minContextWindow
  let minOutputTokens ← bindInt req.minOutputTokens
  let rows := table.rows.filter (storedEligible now req minContextWindow minOutputTokens)
  let rows := rows.insertionSort fun a b =>
    scoreLt a.compositeScore b.compositeScore = false
  rows.mapM serializeStored

/-! ## Scores -/

/-- `TelemetrySnapshot`. -/
structure TelemetrySnapshot (F : Type) where
  totalRequests : Nat
  successRate : F
  avgLatencyMs : F
  avgTtfbMs : F
  rateLimitRatio : F

/-- What `recompute_ranking` reads besides the table. -/
structure RankingEnv (F : Type) where
  now : String
  telemetry : String → TelemetrySnapshot F
  round4 : F → F

/-- What the rows are measured against. -/
structure RankingStats (F : Type) where
  minElo : F
  maxElo : F
  minLlm : F
  maxLlm : F
  minContext : Int
  maxContext : Int
  minLatency : F
  maxLatency : F
  maxRank : Int

omit [Runtime F] in
/-- `min(x, y)` of two floats. -/
def floatMin (x y : F) : F :=
  if FloatArith.lt y x then y else x

omit [Runtime F] in
/-- `x / y`. -/
def floatDiv (x y : F) : Except Exc F :=
  if FloatArith.eq y 0.0 then .error (.other "float division by zero") else .ok (x / y)

omit [Runtime F] in
/-- `max(0.0, min(1.0, x))`. -/
def clampUnit (x : F) : F :=
  floatMax 0.0 (floatMin 1.0 x)

omit [Runtime F] in
/-- `_normalize`. -/
def normalize (value minValue maxValue : F) : Except Exc F :=
  if floatLessEq maxValue minValue then .ok 1.0
  else do
    let quotient ← floatDiv (value - minValue) (maxValue - minValue)
    return clampUnit quotient

omit [Runtime F] in
/-- `_normalize_inverse`. -/
def normalizeInverse (value minValue maxValue : F) : Except Exc F := do
  let normalized ← normalize value minValue maxValue
  return 1.0 - normalized

/-- `_cold_start_usage_score`. -/
def coldStartUsageScore (rank : Option SqlInt) (maxRank : Int) : Except Exc F :=
  match rank with
  | none => .ok 0.5
  | some rank => do
      let rank ← Runtime.floatOfInt rank.val
      let rankFloor ← Runtime.floatOfInt (max maxRank 1)
      normalizeInverse rank 1.0 rankFloor

/-- `_effective_provider_rank`. -/
def effectiveProviderRank (providerRank openrouterRank : Option SqlInt) : Option SqlInt :=
  [providerRank, openrouterRank].findSome? fun rank => rank.filter fun n => 0 < n.val

omit [Runtime F] in
/-- `x or y` of two floats. -/
def floatOrElse (x y : F) : F :=
  if FloatArith.eq x 0.0 then y else x

omit [Runtime F] in
/-- `latency_reference`: the telemetry's averages, else the row's. -/
def latencyReference (telemetry : TelemetrySnapshot F) (row : StoredRow F) : F :=
  floatOrElse telemetry.avgTtfbMs (floatOrElse telemetry.avgLatencyMs
    (floatOrElse (floatOr row.avgTtfbMs 0.0) (floatOr row.avgLatencyMs 0.0)))

omit [Runtime F] in
/-- `min(values) if values else 0.0`. -/
def minOrZero (values : List F) : F :=
  match values with
  | [] => 0.0
  | x :: rest => rest.foldl floatMin x

omit [Runtime F] in
/-- `max(values) if values else 0.0`. -/
def maxOrZero (values : List F) : F :=
  match values with
  | [] => 0.0
  | x :: rest => rest.foldl floatMax x

omit [Runtime F] in
/-- The extreme values of the active rows, with their context windows. -/
def rankingStats (env : RankingEnv F) (rows : List (StoredRow F)) (contexts : List Int) :
    RankingStats F :=
  let elo := rows.filterMap StoredRow.chatbotArenaElo
  let llm := rows.filterMap StoredRow.openLlmScore
  let latency := (rows.map fun row => latencyReference (env.telemetry row.id) row).filter
    fun reference => FloatArith.lt 0.0 reference
  let ranks := rows.filterMap fun row =>
    (effectiveProviderRank row.providerRank row.openrouterRank).map Subtype.val
  { minElo := minOrZero elo, maxElo := maxOrZero elo
    minLlm := minOrZero llm, maxLlm := maxOrZero llm
    minContext := contexts.min?.getD 0, maxContext := contexts.max?.getD 0
    minLatency := minOrZero latency, maxLatency := maxOrZero latency
    maxRank := ranks.max?.getD 1 }

omit [Runtime F] in
/-- `DEFAULT_RANKING_WEIGHTS`. -/
def defaultRankingWeights : List (String × F) :=
  [("benchmark_score", 0.30), ("real_world_usage", 0.15), ("latency", 0.20),
    ("availability", 0.20), ("context_window", 0.10), ("feature_support", 0.05)]

/-- `int(column)` of a capability column. -/
def featureInt (column : Option SqlInt) : Except Exc Int :=
  match column with
  | some n => .ok n.val
  | none => .error (.typeError
      "int() argument must be a string, a bytes-like object or a real number, not 'NoneType'")

omit [Runtime F] in
/-- `benchmark_score`. -/
def benchmarkScore (stats : RankingStats F) (row : StoredRow F) : Except Exc (Option F) := do
  let elo ← row.chatbotArenaElo.toList.mapM fun elo => normalize elo stats.minElo stats.maxElo
  let llm ← row.openLlmScore.toList.mapM fun llm => normalize llm stats.minLlm stats.maxLlm
  let parts := elo ++ llm
  if parts.isEmpty then return none
  else return some (parts.foldl (· + ·) 0.0 / FloatArith.ofInt parts.length)

/-- `usage_score`. -/
def usageScore (telemetry : TelemetrySnapshot F) (stats : RankingStats F) (row : StoredRow F) :
    Except Exc F :=
  if 5 ≤ telemetry.totalRequests then do
    let requests ← Runtime.floatOfInt (min telemetry.totalRequests 50 : Nat)
    return clampUnit (telemetry.successRate * 0.6 + requests / 50.0 * 0.25 +
      (1.0 - telemetry.rateLimitRatio) * 0.15)
  else
    coldStartUsageScore (effectiveProviderRank row.providerRank row.openrouterRank)
      stats.maxRank

omit [Runtime F] in
/-- `latency_score`. -/
def latencyScore (telemetry : TelemetrySnapshot F) (stats : RankingStats F)
    (row : StoredRow F) : Except Exc (Option F) :=
  let reference := latencyReference telemetry row
  if FloatArith.lt 0.0 reference then
    (normalizeInverse reference stats.minLatency stats.maxLatency).map some
  else .ok none

/-- `availability_score`. -/
def availabilityScore (now : String) (settings : Settings F)
    (telemetry : TelemetrySnapshot F) (row : StoredRow F) : Except Exc F := do
  let healthy := row.isHealthy.any fun n => n.val != 0
  let cooling := row.cooldownUntil.any fun cooldown => cooldown != "" && decide (now < cooldown)
  let penalty : F := if healthy then 0.0 else 0.0 + 0.45
  let penalty := if cooling then penalty + 0.30 else penalty
  let failures ← Runtime.floatOfInt (min (storedIntOrZero row.consecutiveFailures)
    (settings.int .healthConsecutiveFailuresThreshold))
  let backoff ← Runtime.floatOfInt (min (storedIntOrZero row.backoffLevel)
    (settings.int .healthMaxBackoffExponent))
  let penalty := penalty + failures * 0.08 + backoff * 0.05
  let successBonus := if 0 < telemetry.totalRequests then telemetry.successRate * 0.20 else 0.10
  return clampUnit (1.0 - penalty + successBonus)

/-- `context_score`. -/
def contextScore (stats : RankingStats F) (row : StoredRow F) : Except Exc F := do
  let contextWindow ← row.contextWindow.intOrZero
  let value ← Runtime.floatOfInt contextWindow
  let least ← Runtime.floatOfInt stats.minContext
  let most ← Runtime.floatOfInt stats.maxContext
  normalize value least most

omit [Runtime F] in
/-- `feature_score`. -/
def featureScore (row : StoredRow F) : Except Exc F := do
  let tools ← featureInt row.supportsTools
  let streaming ← featureInt row.supportsStreaming
  let vision ← featureInt row.supportsVision
  let structuredOutput ← featureInt row.supportsStructuredOutput
  return FloatArith.ofInt (tools + streaming + vision + structuredOutput) / 4.0

omit [Runtime F] in
/-- The weighted sum over the factors that have a value. -/
def weightedScore (weights : List (String × F)) (factors : List (String × Option F)) :
    Except Exc F :=
  let weighted := factors.filterMap fun factor =>
    factor.2.map fun value => ((dictGet weights factor.1).getD 0.0, value)
  let available := (weighted.map Prod.fst).foldl (· + ·) 0.0
  if floatLessEq available 0.0 then .ok 0.0
  else
    weighted.foldlM (fun total factor => do
      let share ← floatDiv factor.1 available
      return total + share * factor.2) 0.0

/-- The score of one row. -/
def scoreRow (env : RankingEnv F) (settings : Settings F) (stats : RankingStats F)
    (row : StoredRow F) : Except Exc (String × F) := do
  let telemetry := env.telemetry row.id
  let weights := if settings.rankingWeights.isEmpty then defaultRankingWeights
    else settings.rankingWeights
  let benchmark ← benchmarkScore stats row
  let usage ← usageScore telemetry stats row
  let latency ← latencyScore telemetry stats row
  let availability ← availabilityScore env.now settings telemetry row
  let context ← contextScore stats row
  let feature ← featureScore row
  let score ← weightedScore weights
    [("benchmark_score", benchmark), ("real_world_usage", some usage), ("latency", latency),
      ("availability", some availability), ("context_window", some context),
      ("feature_support", some feature)]
  return (row.id, env.round4 (score * 100.0))

/-- `recompute_ranking`, with the scores it enqueues. -/
def recomputeRanking (env : RankingEnv F) (settings : Settings F) (table : StoredTable F) :
    Except Exc (List (String × F)) := do
  let rows := table.rows.filter fun row => row.isActive == some (sqlBool true)
  if rows.isEmpty then return []
  let contexts ← rows.mapM fun row => row.contextWindow.intOrZero
  rows.mapM (scoreRow env settings (rankingStats env rows contexts))

/-! ## When the candidates can be read -/

theorem serializeStored_ok_iff (row : StoredRow F) :
    (∃ candidate, serializeStored row = .ok candidate) ↔
      ∃ n, row.contextWindow.intOrZero = .ok n := by
  unfold serializeStored
  rw [exists_bind_ok_iff]
  constructor
  · rintro ⟨n, hn, -⟩
    exact ⟨n, hn⟩
  · rintro ⟨n, hn⟩
    exact ⟨n, hn, _, rfl⟩

/-- The candidates can be read when the bounds of the request can be bound and the context
windows of the rows that pass the filter are numbers. -/
theorem loadStoredCandidates_ok_iff (table : StoredTable F) (now : String)
    (req : RoutingRequirements F) :
    (∃ candidates, loadStoredCandidates table now req = .ok candidates) ↔
      ∃ minContextWindow minOutputTokens, bindInt req.minContextWindow = .ok minContextWindow ∧
        bindInt req.minOutputTokens = .ok minOutputTokens ∧
        ∀ row ∈ table.rows, storedEligible now req minContextWindow minOutputTokens row = true →
          ∃ n, row.contextWindow.intOrZero = .ok n := by
  have hrows : ∀ minContextWindow minOutputTokens,
      (∃ candidates, ((table.rows.filter
        (storedEligible now req minContextWindow minOutputTokens)).insertionSort fun a b =>
          scoreLt a.compositeScore b.compositeScore = false).mapM serializeStored =
            .ok candidates) ↔
        ∀ row ∈ table.rows, storedEligible now req minContextWindow minOutputTokens row = true →
          ∃ n, row.contextWindow.intOrZero = .ok n := by
    intro minContextWindow minOutputTokens
    rw [mapM_ok_iff]
    simp only [List.mem_insertionSort, List.mem_filter, serializeStored_ok_iff, and_imp]
  unfold loadStoredCandidates
  rw [exists_bind_ok_iff]
  simp only [exists_bind_ok_iff, hrows]
  constructor
  · rintro ⟨minContextWindow, hcontext, minOutputTokens, houtput, h⟩
    exact ⟨minContextWindow, minOutputTokens, hcontext, houtput, h⟩
  · rintro ⟨minContextWindow, minOutputTokens, hcontext, houtput, h⟩
    exact ⟨minContextWindow, hcontext, minOutputTokens, houtput, h⟩

/-! ## When a score can be computed -/

omit [Runtime F] in
theorem floatDiv_ok {x y : F} (h : FloatArith.eq y 0.0 = false) :
    floatDiv x y = .ok (x / y) := by
  simp [floatDiv, h]

omit [Runtime F] in
/-- The weights of the factors that count have a positive sum, so none is divided by zero. -/
theorem weightedScore_ok (weights : List (String × F)) (factors : List (String × Option F)) :
    ∃ score, weightedScore weights factors = .ok score := by
  unfold weightedScore
  dsimp only
  split
  · exact ⟨_, rfl⟩
  · next hpositive =>
      rw [floatLessEq, Bool.or_eq_true, not_or] at hpositive
      have hne := Bool.eq_false_iff.mpr hpositive.2
      refine (foldlM_ok_iff (P := fun _ => True) ?_ _ _).mpr fun _ _ => trivial
      intro total factor
      rw [floatDiv_ok hne]
      exact iff_of_true ⟨_, rfl⟩ trivial

/-- The capability columns of a row are set. -/
structure Featured (row : StoredRow F) : Prop where
  tools : row.supportsTools.isSome = true
  streaming : row.supportsStreaming.isSome = true
  vision : row.supportsVision.isSome = true
  structuredOutput : row.supportsStructuredOutput.isSome = true

theorem featureInt_ok_iff (column : Option SqlInt) :
    (∃ n, featureInt column = .ok n) ↔ column.isSome = true := by
  cases column <;> simp [featureInt]

omit [Runtime F] in
theorem featureScore_ok_iff (row : StoredRow F) :
    (∃ score, featureScore row = .ok score) ↔ Featured row := by
  unfold featureScore
  rw [exists_bind_ok_iff]
  simp only [exists_bind_ok_iff]
  constructor
  · rintro ⟨tools, htools, streaming, hstreaming, vision, hvision, structured, hstructured, -⟩
    exact ⟨(featureInt_ok_iff _).mp ⟨_, htools⟩, (featureInt_ok_iff _).mp ⟨_, hstreaming⟩,
      (featureInt_ok_iff _).mp ⟨_, hvision⟩, (featureInt_ok_iff _).mp ⟨_, hstructured⟩⟩
  · intro h
    obtain ⟨tools, htools⟩ := (featureInt_ok_iff _).mpr h.tools
    obtain ⟨streaming, hstreaming⟩ := (featureInt_ok_iff _).mpr h.streaming
    obtain ⟨vision, hvision⟩ := (featureInt_ok_iff _).mpr h.vision
    obtain ⟨structured, hstructured⟩ := (featureInt_ok_iff _).mpr h.structuredOutput
    exact ⟨tools, htools, streaming, hstreaming, vision, hvision, structured, hstructured, _,
      rfl⟩

variable [LawfulFloat F]

/-- A value is measured against two bounds without a division by zero. -/
theorem normalize_ok (value minValue maxValue : F) :
    ∃ y, normalize value minValue maxValue = .ok y := by
  unfold normalize
  split
  · exact ⟨_, rfl⟩
  · next hlt =>
      rw [floatDiv_ok (LawfulFloat.sub_ne_zero minValue maxValue (Bool.eq_false_iff.mpr hlt))]
      exact ⟨_, rfl⟩

theorem normalizeInverse_ok (value minValue maxValue : F) :
    ∃ y, normalizeInverse value minValue maxValue = .ok y := by
  obtain ⟨y, hy⟩ := normalize_ok value minValue maxValue
  exact ⟨_, bind_ok_iff.mpr ⟨y, hy, rfl⟩⟩

theorem floatOfInt_fits {n : Int} (h : FitsInt64 n) : ∃ x : F, Runtime.floatOfInt n = .ok x :=
  LawfulFloat.floatOfInt_ok n h.1 h.2

theorem benchmarkScore_ok (stats : RankingStats F) (row : StoredRow F) :
    ∃ score, benchmarkScore stats row = .ok score := by
  obtain ⟨elo, helo⟩ := mapM_ok_iff.mpr fun value (_ : value ∈ row.chatbotArenaElo.toList) =>
    normalize_ok value stats.minElo stats.maxElo
  obtain ⟨llm, hllm⟩ := mapM_ok_iff.mpr fun value (_ : value ∈ row.openLlmScore.toList) =>
    normalize_ok value stats.minLlm stats.maxLlm
  unfold benchmarkScore
  rw [helo, ok_bind, hllm, ok_bind]
  dsimp only
  split <;> exact ⟨_, rfl⟩

theorem latencyScore_ok (telemetry : TelemetrySnapshot F) (stats : RankingStats F)
    (row : StoredRow F) : ∃ score, latencyScore telemetry stats row = .ok score := by
  unfold latencyScore
  dsimp only
  split
  · obtain ⟨y, hy⟩ := normalizeInverse_ok (latencyReference telemetry row) stats.minLatency
      stats.maxLatency
    rw [hy]
    exact ⟨_, rfl⟩
  · exact ⟨_, rfl⟩

theorem usageScore_ok (telemetry : TelemetrySnapshot F) {stats : RankingStats F}
    (hrank : FitsInt64 (max stats.maxRank 1)) (row : StoredRow F) :
    ∃ score, usageScore telemetry stats row = .ok score := by
  unfold usageScore
  split
  · have hfits : FitsInt64 (min telemetry.totalRequests 50 : Nat) := by
      unfold FitsInt64
      omega
    obtain ⟨x, hx⟩ := floatOfInt_fits (F := F) hfits
    rw [hx]
    exact ⟨_, rfl⟩
  · unfold coldStartUsageScore
    cases effectiveProviderRank row.providerRank row.openrouterRank with
    | none => exact ⟨_, rfl⟩
    | some rank =>
        obtain ⟨x, hx⟩ := floatOfInt_fits (F := F) rank.property
        obtain ⟨y, hy⟩ := floatOfInt_fits (F := F) hrank
        obtain ⟨z, hz⟩ := normalizeInverse_ok x 1.0 y
        exact ⟨z, bind_ok_iff.mpr ⟨x, hx, bind_ok_iff.mpr ⟨y, hy, hz⟩⟩⟩

/-- Settings as they are loaded, with every bound applied. -/
def Clamped (settings : Settings F) : Prop :=
  ∀ setting, setting.clamp (settings.int setting) = settings.int setting

theorem fitsInt64_min {n : Option SqlInt} {bound : Int} (h : 0 ≤ bound) :
    FitsInt64 (min (storedIntOrZero n) bound) := by
  have hn : FitsInt64 (storedIntOrZero n) := by
    cases n with
    | none => exact ⟨by decide, by decide⟩
    | some n => exact n.property
  unfold FitsInt64 at hn ⊢
  omega

theorem availabilityScore_ok (now : String) {settings : Settings F} (hsettings : Clamped settings)
    (telemetry : TelemetrySnapshot F) (row : StoredRow F) :
    ∃ score, availabilityScore now settings telemetry row = .ok score := by
  have hthreshold : 0 ≤ settings.int .healthConsecutiveFailuresThreshold := by
    have h := hsettings .healthConsecutiveFailuresThreshold
    simp only [IntSetting.clamp] at h
    omega
  have hexponent : 0 ≤ settings.int .healthMaxBackoffExponent := by
    have h := hsettings .healthMaxBackoffExponent
    simp only [IntSetting.clamp] at h
    omega
  obtain ⟨x, hx⟩ :=
    floatOfInt_fits (F := F) (fitsInt64_min (n := row.consecutiveFailures) hthreshold)
  obtain ⟨y, hy⟩ := floatOfInt_fits (F := F) (fitsInt64_min (n := row.backoffLevel) hexponent)
  unfold availabilityScore
  dsimp only
  rw [hx, ok_bind, hy]
  exact ⟨_, rfl⟩

/-- The context windows of the active rows are numbers of float range. -/
structure Measurable (stats : RankingStats F) : Prop where
  least : ∃ x : F, Runtime.floatOfInt stats.minContext = .ok x
  most : ∃ x : F, Runtime.floatOfInt stats.maxContext = .ok x
  maxRank : FitsInt64 (max stats.maxRank 1)

theorem contextScore_ok {stats : RankingStats F} (hstats : Measurable stats)
    {row : StoredRow F} (hrow : row.contextWindow.Sound) :
    ∃ score, contextScore stats row = .ok score := by
  obtain ⟨n, hn, value, hvalue⟩ := hrow
  obtain ⟨least, hleast⟩ := hstats.least
  obtain ⟨most, hmost⟩ := hstats.most
  obtain ⟨score, hscore⟩ := normalize_ok value least most
  refine ⟨score, ?_⟩
  unfold contextScore
  rw [hn, ok_bind, hvalue, ok_bind, hleast, ok_bind, hmost, ok_bind]
  exact hscore

/-- A row with a sound context window and its capabilities has a score. -/
theorem scoreRow_ok (env : RankingEnv F) {settings : Settings F} (hsettings : Clamped settings)
    {stats : RankingStats F} (hstats : Measurable stats) {row : StoredRow F}
    (hcontext : row.contextWindow.Sound) (hfeatured : Featured row) :
    ∃ score, scoreRow env settings stats row = .ok score := by
  obtain ⟨benchmark, hbenchmark⟩ := benchmarkScore_ok stats row
  obtain ⟨usage, husage⟩ := usageScore_ok (env.telemetry row.id) hstats.maxRank row
  obtain ⟨latency, hlatency⟩ := latencyScore_ok (env.telemetry row.id) stats row
  obtain ⟨availability, havailability⟩ :=
    availabilityScore_ok env.now hsettings (env.telemetry row.id) row
  obtain ⟨context, hcontextScore⟩ := contextScore_ok hstats hcontext
  obtain ⟨feature, hfeature⟩ := (featureScore_ok_iff row).mpr hfeatured
  unfold scoreRow
  dsimp only
  rw [hbenchmark, ok_bind, husage, ok_bind, hlatency, ok_bind, havailability, ok_bind,
    hcontextScore, ok_bind, hfeature, ok_bind]
  obtain ⟨score, hscore⟩ := weightedScore_ok
    (if settings.rankingWeights.isEmpty then defaultRankingWeights else settings.rankingWeights)
    [("benchmark_score", benchmark), ("real_world_usage", some usage), ("latency", latency),
      ("availability", some availability), ("context_window", some context),
      ("feature_support", some feature)]
  rw [hscore]
  exact ⟨_, rfl⟩

omit [LawfulFloat F] in
/-- A row with a score has a sound context window and its capabilities. -/
theorem sound_of_scoreRow {env : RankingEnv F} {settings : Settings F} {stats : RankingStats F}
    {row : StoredRow F} {score : String × F} (h : scoreRow env settings stats row = .ok score) :
    row.contextWindow.Sound ∧ Featured row := by
  obtain ⟨benchmark, -, h⟩ := bind_ok_iff.mp h
  obtain ⟨usage, -, h⟩ := bind_ok_iff.mp h
  obtain ⟨latency, -, h⟩ := bind_ok_iff.mp h
  obtain ⟨availability, -, h⟩ := bind_ok_iff.mp h
  obtain ⟨context, hcontext, h⟩ := bind_ok_iff.mp h
  obtain ⟨feature, hfeature, -⟩ := bind_ok_iff.mp h
  refine ⟨?_, (featureScore_ok_iff row).mp ⟨feature, hfeature⟩⟩
  obtain ⟨n, hn, hcontext⟩ := bind_ok_iff.mp hcontext
  obtain ⟨value, hvalue, -⟩ := bind_ok_iff.mp hcontext
  exact ⟨n, hn, value, hvalue⟩

/-! ## When the ranking returns -/

theorem measurable_rankingStats (env : RankingEnv F) {rows : List (StoredRow F)}
    {contexts : List Int} (hcontexts : ∀ n ∈ contexts, ∃ x : F, Runtime.floatOfInt n = .ok x) :
    Measurable (rankingStats env rows contexts) := by
  have hextreme : ∀ n? : Option Int, (∀ n, n? = some n → n ∈ contexts) →
      ∃ x : F, Runtime.floatOfInt (n?.getD 0) = .ok x := by
    intro n? hmem
    cases n? with
    | none => exact floatOfInt_fits ⟨by decide, by decide⟩
    | some n => exact hcontexts n (hmem n rfl)
  refine ⟨hextreme _ fun n hn => List.min?_mem hn, hextreme _ fun n hn => List.max?_mem hn, ?_⟩
  simp only [rankingStats]
  generalize hranks : (rows.filterMap fun row =>
    (effectiveProviderRank row.providerRank row.openrouterRank).map Subtype.val) = ranks
  cases hmax : ranks.max? with
  | none => exact ⟨by decide, by decide⟩
  | some n =>
      have hmem := List.max?_mem hmax
      rw [← hranks] at hmem
      obtain ⟨row, -, hrow⟩ := List.mem_filterMap.mp hmem
      obtain ⟨rank, -, rfl⟩ := Option.map_eq_some_iff.mp hrow
      have hfits := rank.property
      unfold FitsInt64 at hfits ⊢
      simp only [Option.getD_some]
      omega

/-- The ranking returns exactly when every active row has a context window that is a number
of float range, and its capabilities. -/
theorem recomputeRanking_ok_iff (env : RankingEnv F) {settings : Settings F}
    (hsettings : Clamped settings) (table : StoredTable F) :
    (∃ scores, recomputeRanking env settings table = .ok scores) ↔
      ∀ row ∈ table.rows, row.isActive = some (sqlBool true) →
        row.contextWindow.Sound ∧ Featured row := by
  have hrows : ∀ row, row ∈ table.rows.filter (fun row => row.isActive == some (sqlBool true)) ↔
      row ∈ table.rows ∧ row.isActive = some (sqlBool true) := by
    intro row
    rw [List.mem_filter, beq_iff_eq]
  unfold recomputeRanking
  dsimp only
  generalize (table.rows.filter fun row => row.isActive == some (sqlBool true)) = rows at hrows
  split
  · next hempty =>
      refine iff_of_true ⟨_, rfl⟩ fun row hrow hactive => ?_
      have hmem := (hrows row).mpr ⟨hrow, hactive⟩
      rw [List.isEmpty_iff.mp hempty] at hmem
      cases hmem
  · constructor
    · rintro ⟨scores, h⟩ row hrow hactive
      obtain ⟨contexts, -, hscores⟩ := bind_ok_iff.mp h
      obtain ⟨score, hscore⟩ := mapM_ok_iff.mp ⟨scores, hscores⟩ row
        ((hrows row).mpr ⟨hrow, hactive⟩)
      exact sound_of_scoreRow hscore
    · intro h
      have hsound : ∀ row ∈ rows, row.contextWindow.Sound ∧ Featured row := by
        intro row hrow
        exact h row ((hrows row).mp hrow).1 ((hrows row).mp hrow).2
      obtain ⟨contexts, hcontexts⟩ := mapM_ok_iff.mpr fun row hrow =>
        (hsound row hrow).1.imp fun n hn => hn.1
      rw [exists_bind_ok_iff]
      refine ⟨contexts, hcontexts, mapM_ok_iff.mpr fun row hrow => ?_⟩
      refine scoreRow_ok env hsettings ?_ (hsound row hrow).1 (hsound row hrow).2
      apply measurable_rankingStats
      intro n hn
      obtain ⟨source, hsource, hread⟩ := (mem_of_mapM_ok hcontexts n).mp hn
      obtain ⟨m, hm, hfloat⟩ := (hsound source hsource).1
      rw [hread, Except.ok.injEq] at hm
      rw [hm]
      exact hfloat

/-! ## Rows of the declared types -/

/-- A stored row is a row of the typed table. -/
structure Represents (stored : StoredRow F) (row : ModelRow F) : Prop where
  id : row.id = stored.id
  providerId : row.providerId = stored.providerId
  providerModelId : row.providerModelId = stored.providerModelId
  contextWindow : row.contextWindow = stored.contextWindow
  maxOutputTokens : row.maxOutputTokens = stored.maxOutputTokens
  tokenizerFamily : row.tokenizerFamily = stored.tokenizerFamily
  supportsTools : row.supportsTools = stored.supportsTools.map Subtype.val
  supportsStreaming : row.supportsStreaming = stored.supportsStreaming.map Subtype.val
  supportsVision : row.supportsVision = stored.supportsVision.map Subtype.val
  supportsStructuredOutput :
    row.supportsStructuredOutput = stored.supportsStructuredOutput.map Subtype.val
  supportsSystemMessages :
    row.supportsSystemMessages = stored.supportsSystemMessages.map Subtype.val
  isHealthy : row.isHealthy = stored.isHealthy.map Subtype.val
  avgLatencyMs : row.avgLatencyMs = stored.avgLatencyMs
  avgTtfbMs : row.avgTtfbMs = stored.avgTtfbMs
  consecutiveFailures : row.consecutiveFailures = stored.consecutiveFailures.map Subtype.val
  backoffLevel : row.backoffLevel = stored.backoffLevel.map Subtype.val
  cooldownUntil : row.cooldownUntil = stored.cooldownUntil
  compositeScore : row.compositeScore = stored.compositeScore
  isActive : row.isActive = stored.isActive.map Subtype.val

theorem beq_sqlBool (column : Option SqlInt) :
    (column.map Subtype.val == some 1) = (column == some (sqlBool true)) := by
  cases column with
  | none => rfl
  | some n =>
      have hval : n.val = 1 ↔ n = sqlBool true := by
        rw [Subtype.ext_iff]
        rfl
      rw [Bool.eq_iff_iff, beq_iff_eq, beq_iff_eq, Option.map_some, Option.some.injEq,
        Option.some.injEq]
      exact hval

omit [Runtime F] [LawfulFloat F] in
theorem eligible_of_represents {stored : StoredRow F} {row : ModelRow F}
    (h : Represents stored row) (now : String) {req : RoutingRequirements F}
    {minContextWindow minOutputTokens : SqlInt}
    (hcontext : req.minContextWindow = minContextWindow.val)
    (houtput : req.minOutputTokens = minOutputTokens.val) :
    eligible now req row = storedEligible now req minContextWindow minOutputTokens stored := by
  unfold eligible storedEligible capable storedCapable
  rw [h.isActive, h.isHealthy, h.cooldownUntil, h.supportsTools, h.supportsVision,
    h.supportsStreaming, h.supportsStructuredOutput, h.supportsSystemMessages, h.contextWindow,
    h.maxOutputTokens, hcontext, houtput]
  simp only [beq_sqlBool]
  cases stored.cooldownUntil <;> rfl

omit [LawfulFloat F] in
theorem serializeStored_of_represents {stored : StoredRow F} {row : ModelRow F}
    (h : Represents stored row) : serializeStored stored = serializeCandidate row := by
  unfold serializeStored serializeCandidate candidateWith
  rw [h.contextWindow, h.id, h.providerId, h.providerModelId, h.compositeScore, h.avgLatencyMs,
    h.avgTtfbMs, h.consecutiveFailures, h.backoffLevel, h.tokenizerFamily]
  rfl

/-- A bound integer is the parameter. -/
theorem eq_of_bindInt {n : Int} {bound : SqlInt} (h : bindInt n = .ok bound) : n = bound.val := by
  unfold bindInt at h
  split at h
  · cases h
    rfl
  · cases h

omit [Runtime F] [LawfulFloat F] in
/-- The rows that pass the filter stand in the same order. -/
theorem sorted_of_represents (pairs : List (StoredRow F × ModelRow F))
    (hpairs : ∀ pair ∈ pairs, Represents pair.1 pair.2) :
    ∃ sorted : List (StoredRow F × ModelRow F), (∀ pair ∈ sorted, Represents pair.1 pair.2) ∧
      ((pairs.map Prod.fst).insertionSort fun a b =>
        scoreLt a.compositeScore b.compositeScore = false) = sorted.map Prod.fst ∧
      ((pairs.map Prod.snd).insertionSort fun a b =>
        scoreLt a.compositeScore b.compositeScore = false) = sorted.map Prod.snd := by
  -- both sorts are the sort of the pairs by the score they share
  refine ⟨pairs.insertionSort fun a b =>
    scoreLt a.1.compositeScore b.1.compositeScore = false, ?_, ?_, ?_⟩
  · intro pair hpair
    exact hpairs pair ((List.mem_insertionSort _).mp hpair)
  · exact (List.map_insertionSort _ _ Prod.fst pairs fun _ _ _ _ => Iff.rfl).symm
  · refine (List.map_insertionSort _ _ Prod.snd pairs fun a ha b hb => ?_).symm
    rw [(hpairs a ha).compositeScore, (hpairs b hb).compositeScore]

omit [LawfulFloat F] in
/-- On rows of the declared types the candidates, or what is raised, are those of the typed
table. -/
theorem loadStoredCandidates_eq {table : StoredTable F} {models : ModelsTable F}
    {pairs : List (StoredRow F × ModelRow F)} (hpairs : ∀ pair ∈ pairs, Represents pair.1 pair.2)
    (hstored : table.rows = pairs.map Prod.fst) (hmodels : models.rows = pairs.map Prod.snd)
    (now : String) (req : RoutingRequirements F) :
    loadStoredCandidates table now req = loadEligibleCandidates models now req := by
  unfold loadStoredCandidates loadEligibleCandidates
  refine bind_congr_ok fun minContextWindow hcontext => ?_
  refine bind_congr_ok fun minOutputTokens houtput => ?_
  have hfilter : (pairs.filter fun pair => eligible now req pair.2) =
      pairs.filter fun pair => storedEligible now req minContextWindow minOutputTokens pair.1 := by
    apply List.filter_congr
    intro pair hpair
    exact eligible_of_represents (hpairs pair hpair) now (eq_of_bindInt hcontext)
      (eq_of_bindInt houtput)
  obtain ⟨sorted, hrepresents, hfst, hsnd⟩ := sorted_of_represents
    (pairs.filter fun pair => eligible now req pair.2)
    fun pair hpair => hpairs pair (List.mem_of_mem_filter hpair)
  have hrows : eligibleRows models now req = sorted.map Prod.snd := by
    rw [← hsnd]
    unfold eligibleRows
    rw [hmodels, List.filter_map]
    rfl
  have hkept : (table.rows.filter
      (storedEligible now req minContextWindow minOutputTokens)).insertionSort (fun a b =>
        scoreLt a.compositeScore b.compositeScore = false) = sorted.map Prod.fst := by
    rw [← hfst, hfilter, hstored, List.filter_map]
    rfl
  dsimp only
  rw [hkept, hrows, List.mapM_map, List.mapM_map]
  apply mapM_congr
  intro pair hpair
  exact serializeStored_of_represents (hrepresents pair hpair)

end Readers

end Routing
end FreeLunch
