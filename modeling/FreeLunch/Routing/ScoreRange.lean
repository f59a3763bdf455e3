import FreeLunch.Routing.BestFactors
import FreeLunch.Runtime.FromEnv

/-!
# The range of the scores

Every factor of `recompute_ranking` lies between zero and one, but the weights of the
configuration are not clamped, and a weighted mean with a negative weight leaves that range.
The weights that keep every score between 0 and 100 are characterised, over exact rationals.

Main results:

- Theorem `weightedScore_bounds`: a weighted mean leaves the range by at most the share of the
  negative weights.
- Theorem `scores_in_range_iff`: every score of every population is in range exactly when the
  negative weights vanish in the rounding.
-/

namespace FreeLunch
namespace Routing

open FreeLunch.Runtime Python Store Writes

/-! ## Weighted sums -/

/-- The sum of the weights. -/
def totalWeight : List Rat → Rat
  | [] => 0
  | weight :: rest => weight + totalWeight rest

/-- The sum of the negative weights, without its sign. -/
def negativeWeight : List Rat → Rat
  | [] => 0
  | weight :: rest => max 0 (-weight) + negativeWeight rest

/-- The sum of the weighted values. -/
def weightedSum : List (Rat × Rat) → Rat
  | [] => 0
  | pair :: rest => pair.1 * pair.2 + weightedSum rest

theorem foldl_add_weights (weights : List Rat) (start : Rat) :
    weights.foldl (· + ·) start = start + totalWeight weights := by
  induction weights generalizing start with
  | nil => simp [totalWeight]
  | cons weight rest ih => rw [List.foldl_cons, ih, totalWeight, add_assoc]

/-- The loop over the shares adds up the weighted values. -/
theorem foldlM_shares {available : Rat} (h : available ≠ 0) (pairs : List (Rat × Rat))
    (start : Rat) :
    pairs.foldlM (fun total factor => do
      let share ← floatDiv factor.1 available
      return total + share * factor.2) start =
        (.ok (start + weightedSum pairs / available) : Except Exc Rat) := by
  induction pairs generalizing start with
  | nil =>
      rw [weightedSum, zero_div, add_zero]
      rfl
  | cons pair rest ih =>
      rw [List.foldlM_cons, floatDiv_exact h, ok_bind]
      change rest.foldlM _ (start + pair.1 / available * pair.2) = _
      rw [ih, weightedSum]
      congr 1
      ring

/-- The weighted mean of the factors that count. -/
theorem weightedScore_eq (weights : List (String × Rat)) (factors : List (String × Option Rat)) :
    weightedScore weights factors =
      .ok (if totalWeight ((weighted weights factors).map Prod.fst) ≤ 0 then 0
        else weightedSum (weighted weights factors) /
          totalWeight ((weighted weights factors).map Prod.fst)) := by
  have hshape : weightedScore weights factors =
      if floatLessEq (((weighted weights factors).map Prod.fst).foldl (· + ·) 0.0) 0.0 = true
      then .ok 0.0
      else (weighted weights factors).foldlM (fun total factor => do
        let share ← floatDiv factor.1
          (((weighted weights factors).map Prod.fst).foldl (· + ·) 0.0)
        return total + share * factor.2) 0.0 := rfl
  rw [hshape]
  generalize weighted weights factors = pairs
  rw [foldl_add_weights, zero_exact, zero_add]
  by_cases hnone : totalWeight (pairs.map Prod.fst) ≤ 0
  · rw [if_pos ((floatLessEq_exact _ _).mpr hnone), if_pos hnone]
  · rw [if_neg fun h => hnone ((floatLessEq_exact _ _).mp h), if_neg hnone,
      foldlM_shares fun h => hnone (le_of_eq h), zero_add]

/-- Values between zero and one leave the range by at most the negative weights. -/
theorem weightedSum_bounds {pairs : List (Rat × Rat)}
    (h : ∀ pair ∈ pairs, 0 ≤ pair.2 ∧ pair.2 ≤ 1) :
    -negativeWeight (pairs.map Prod.fst) ≤ weightedSum pairs ∧
      weightedSum pairs ≤
        totalWeight (pairs.map Prod.fst) + negativeWeight (pairs.map Prod.fst) := by
  induction pairs with
  | nil => simp [negativeWeight, weightedSum, totalWeight]
  | cons pair rest ih =>
      obtain ⟨hlow, hhigh⟩ := ih fun other hother => h other (List.mem_cons_of_mem _ hother)
      obtain ⟨hnonneg, hle⟩ := h pair List.mem_cons_self
      have hpart : -max 0 (-pair.1) ≤ pair.1 * pair.2 ∧
          pair.1 * pair.2 ≤ pair.1 + max 0 (-pair.1) := by
        by_cases hsign : 0 ≤ pair.1
        · rw [max_eq_left (by linarith)]
          constructor <;> nlinarith
        · rw [max_eq_right (by linarith)]
          constructor <;> nlinarith
      simp only [List.map_cons, negativeWeight, weightedSum, totalWeight]
      constructor <;> linarith [hpart.1, hpart.2]

/-- The values that reach the upper bound: one for the weights that are not negative. -/
theorem weightedSum_extreme {pairs : List (Rat × Rat)}
    (h : ∀ pair ∈ pairs, pair.2 = if 0 ≤ pair.1 then 1 else 0) :
    weightedSum pairs =
      totalWeight (pairs.map Prod.fst) + negativeWeight (pairs.map Prod.fst) := by
  induction pairs with
  | nil => simp [negativeWeight, weightedSum, totalWeight]
  | cons pair rest ih =>
      have hrest := ih fun other hother => h other (List.mem_cons_of_mem _ hother)
      simp only [List.map_cons, negativeWeight, weightedSum, totalWeight, hrest,
        h pair List.mem_cons_self]
      by_cases hsign : 0 ≤ pair.1
      · rw [if_pos hsign, max_eq_left (by linarith)]
        ring
      · rw [if_neg hsign, max_eq_right (by linarith)]
        ring

/-- A weighted mean leaves the range by at most the share of the negative weights. -/
theorem weightedScore_bounds {weights : List (String × Rat)}
    {factors : List (String × Option Rat)} (h : ∀ factor ∈ factors, ∀ x ∈ factor.2, 0 ≤ x ∧ x ≤ 1)
    {score : Rat} (hscore : weightedScore weights factors = .ok score)
    (hpositive : 0 < totalWeight ((weighted weights factors).map Prod.fst)) :
    -(negativeWeight ((weighted weights factors).map Prod.fst) /
        totalWeight ((weighted weights factors).map Prod.fst)) ≤ score ∧
      score ≤ 1 + negativeWeight ((weighted weights factors).map Prod.fst) /
        totalWeight ((weighted weights factors).map Prod.fst) := by
  have hvalues : ∀ pair ∈ weighted weights factors, 0 ≤ pair.2 ∧ pair.2 ≤ 1 := by
    intro pair hpair
    obtain ⟨factor, hfactor, heq⟩ := List.mem_filterMap.mp hpair
    obtain ⟨x, hx, rfl⟩ := Option.map_eq_some_iff.mp heq
    exact h factor hfactor x hx
  obtain ⟨hlow, hhigh⟩ := weightedSum_bounds hvalues
  rw [weightedScore_eq, if_neg (not_le.mpr hpositive)] at hscore
  cases hscore
  constructor
  · rw [← neg_div, div_le_div_iff_of_pos_right hpositive]
    exact hlow
  · rw [div_le_iff₀ hpositive, add_mul, one_mul, div_mul_cancel₀ _ (ne_of_gt hpositive)]
    exact hhigh

/-! ## Rounding -/

theorem roundHalfEven_low {q : Rat} (h : -(1 / 2) ≤ q) : 0 ≤ roundHalfEven q := by
  have hround : roundHalfEven (-(1 / 2)) = 0 := by decide +kernel
  rw [← hround]
  exact roundHalfEven_mono h

theorem roundHalfEven_high {q : Rat} (h : q ≤ 1000000 + 1 / 2) : roundHalfEven q ≤ 1000000 := by
  have hround : roundHalfEven (1000000 + 1 / 2) = 1000000 := by decide +kernel
  rw [← hround]
  exact roundHalfEven_mono h

theorem roundHalfEven_above {q : Rat} (h : 1000000 + 1 / 2 < q) : 1000000 < roundHalfEven q := by
  have hfloor : 1000000 ≤ q.floor := by
    rw [Rat.le_floor_iff]
    norm_num
    linarith
  unfold roundHalfEven
  dsimp only
  by_cases hsame : q.floor = 1000000
  · have hrest : 1 / 2 < q - (q.floor : Rat) := by
      rw [hsame]
      norm_num
      linarith
    rw [if_neg (not_lt.mpr (le_of_lt hrest)), if_pos hrest]
    omega
  · have hbounds := (roundHalfEven_bounds q).1
    unfold roundHalfEven at hbounds
    dsimp only at hbounds
    omega

/-- A score that leaves the range by at most a two-millionth is rounded into it. -/
theorem roundFour_in_range {score : Rat} (hlow : -(1 / 2000000) ≤ score)
    (hhigh : score ≤ 1 + 1 / 2000000) :
    0 ≤ roundFour (score * 100.0) ∧ roundFour (score * 100.0) ≤ 100 := by
  have hhundred : (100.0 : Rat) = 100 := by norm_num
  have hnonneg := roundHalfEven_low (q := score * 100 * 10000) (by linarith)
  have hle := roundHalfEven_high (q := score * 100 * 10000) (by linarith)
  have hcast : (0 : Rat) ≤ roundHalfEven (score * 100 * 10000) := by exact_mod_cast hnonneg
  have hcast' : (roundHalfEven (score * 100 * 10000) : Rat) ≤ 1000000 := by exact_mod_cast hle
  unfold roundFour
  rw [hhundred]
  constructor
  · positivity
  · rw [div_le_iff₀ (by norm_num)]
    linarith

/-- A score that exceeds one by more than that is rounded out of the range. -/
theorem roundFour_out_of_range {score : Rat} (h : 1 + 1 / 2000000 < score) :
    100 < roundFour (score * 100.0) := by
  have hhundred : (100.0 : Rat) = 100 := by norm_num
  have habove := roundHalfEven_above (q := score * 100 * 10000) (by linarith)
  have hcast : (1000000 : Rat) < roundHalfEven (score * 100 * 10000) := by exact_mod_cast habove
  unfold roundFour
  rw [hhundred, lt_div_iff₀ (by norm_num)]
  linarith

/-! ## The factors of a row -/

/-- The values of the six factors. -/
structure Factors where
  benchmark : Option Rat
  usage : Rat
  latency : Option Rat
  availability : Rat
  context : Rat
  feature : Rat

/-- `factor_values`. -/
def Factors.entries (factors : Factors) : List (String × Option Rat) :=
  [("benchmark_score", factors.benchmark), ("real_world_usage", some factors.usage),
    ("latency", factors.latency), ("availability", some factors.availability),
    ("context_window", some factors.context), ("feature_support", some factors.feature)]

/-- The factors that `recompute_ranking` computes for a row. -/
structure HasFactors (env : RankingEnv Rat) (settings : Settings Rat) (stats : RankingStats Rat)
    (row : StoredRow Rat) (factors : Factors) : Prop where
  benchmark : benchmarkScore stats row = .ok factors.benchmark
  usage : usageScore (env.telemetry row.id) stats row = .ok factors.usage
  latency : latencyScore (env.telemetry row.id) stats row = .ok factors.latency
  availability : availabilityScore env.now settings (env.telemetry row.id) row =
    .ok factors.availability
  context : contextScore stats row = .ok factors.context
  feature : featureScore row = .ok factors.feature

/-- `settings.ranking_weights or DEFAULT_RANKING_WEIGHTS`. -/
def effectiveWeights (weights : List (String × Rat)) : List (String × Rat) :=
  if weights.isEmpty then defaultRankingWeights else weights

/-- The score of a row is the weighted mean of its factors. -/
theorem scoreRow_of_factors {env : RankingEnv Rat} {settings : Settings Rat}
    {stats : RankingStats Rat} {row : StoredRow Rat} {factors : Factors}
    (h : HasFactors env settings stats row factors) :
    scoreRow env settings stats row =
      (weightedScore (effectiveWeights settings.rankingWeights) factors.entries).map
        fun score => (row.id, env.round4 (score * 100.0)) := by
  unfold scoreRow
  dsimp only
  rw [h.benchmark, ok_bind, h.usage, ok_bind, h.latency, ok_bind, h.availability, ok_bind,
    h.context, ok_bind, h.feature, ok_bind]
  change weightedScore (effectiveWeights settings.rankingWeights) factors.entries >>= _ = _
  cases weightedScore (effectiveWeights settings.rankingWeights) factors.entries <;> rfl

/-- A row with a score has all six factors. -/
theorem exists_factors {env : RankingEnv Rat} {settings : Settings Rat}
    {stats : RankingStats Rat} {row : StoredRow Rat} {score : String × Rat}
    (h : scoreRow env settings stats row = .ok score) :
    ∃ factors, HasFactors env settings stats row factors := by
  obtain ⟨benchmark, hbenchmark, h⟩ := bind_ok_iff.mp h
  obtain ⟨usage, husage, h⟩ := bind_ok_iff.mp h
  obtain ⟨latency, hlatency, h⟩ := bind_ok_iff.mp h
  obtain ⟨availability, havailability, h⟩ := bind_ok_iff.mp h
  obtain ⟨context, hcontext, h⟩ := bind_ok_iff.mp h
  obtain ⟨feature, hfeature, -⟩ := bind_ok_iff.mp h
  exact ⟨⟨benchmark, usage, latency, availability, context, feature⟩,
    hbenchmark, husage, hlatency, havailability, hcontext, hfeature⟩

/-- The capability columns of a row are zero or one. -/
structure Flagged (row : StoredRow Rat) : Prop where
  tools : ∀ n ∈ row.supportsTools, n.val = 0 ∨ n.val = 1
  streaming : ∀ n ∈ row.supportsStreaming, n.val = 0 ∨ n.val = 1
  vision : ∀ n ∈ row.supportsVision, n.val = 0 ∨ n.val = 1
  structuredOutput : ∀ n ∈ row.supportsStructuredOutput, n.val = 0 ∨ n.val = 1

theorem benchmark_part_bounds {column : Option Rat} {least most : Rat} {parts : List Rat}
    (h : column.toList.mapM (fun x => normalize x least most) = .ok parts) :
    ∀ part ∈ parts, 0 ≤ part ∧ part ≤ 1 := by
  intro part hpart
  obtain ⟨x, -, hx⟩ := (mem_of_mapM_ok h part).mp hpart
  exact normalize_bounds hx

/-- The mean of values between zero and one. -/
theorem mean_bounds {parts : List Rat} (h : ∀ part ∈ parts, 0 ≤ part ∧ part ≤ 1) :
    0 ≤ totalWeight parts ∧ totalWeight parts ≤ parts.length := by
  induction parts with
  | nil => simp [totalWeight]
  | cons part rest ih =>
      obtain ⟨hlow, hhigh⟩ := ih fun other hother => h other (List.mem_cons_of_mem _ hother)
      obtain ⟨hnonneg, hle⟩ := h part List.mem_cons_self
      rw [totalWeight, List.length_cons, Nat.cast_succ]
      constructor <;> linarith

theorem benchmarkScore_bounds {stats : RankingStats Rat} {row : StoredRow Rat} {p : Option Rat}
    (h : benchmarkScore stats row = .ok p) : ∀ x ∈ p, 0 ≤ x ∧ x ≤ 1 := by
  obtain ⟨elo, helo, h⟩ := bind_ok_iff.mp h
  obtain ⟨llm, hllm, h⟩ := bind_ok_iff.mp h
  have hparts : ∀ part ∈ elo ++ llm, 0 ≤ part ∧ part ≤ 1 := by
    intro part hpart
    rcases List.mem_append.mp hpart with hleft | hright
    · exact benchmark_part_bounds helo part hleft
    · exact benchmark_part_bounds hllm part hright
  dsimp only at h
  generalize elo ++ llm = parts at hparts h
  by_cases hnone : parts.isEmpty = true
  · rw [if_pos hnone] at h
    cases h
    intro x hx
    cases hx
  · rw [if_neg hnone] at h
    cases h
    rintro x ⟨⟩
    obtain ⟨hlow, hhigh⟩ := mean_bounds hparts
    have hne : parts ≠ [] := fun hnil => hnone (List.isEmpty_iff.mpr hnil)
    have hcount : (0 : Rat) < ((parts.length : Int) : Rat) := by
      exact_mod_cast List.length_pos_iff.mpr hne
    change 0 ≤ parts.foldl (· + ·) 0.0 / ((parts.length : Int) : Rat) ∧
      parts.foldl (· + ·) 0.0 / ((parts.length : Int) : Rat) ≤ 1
    rw [foldl_add_weights, zero_exact, zero_add]
    refine ⟨div_nonneg hlow (le_of_lt hcount), ?_⟩
    rw [div_le_one hcount]
    exact_mod_cast hhigh

theorem usageScore_bounds {telemetry : TelemetrySnapshot Rat} {stats : RankingStats Rat}
    {row : StoredRow Rat} {p : Rat} (h : usageScore telemetry stats row = .ok p) :
    0 ≤ p ∧ p ≤ 1 := by
  unfold usageScore at h
  split at h
  · obtain ⟨requests, -, h⟩ := bind_ok_iff.mp h
    cases h
    exact clampUnit_bounds _
  · unfold coldStartUsageScore at h
    split at h
    · cases h
      norm_num
    · obtain ⟨_, -, h⟩ := bind_ok_iff.mp h
      obtain ⟨_, -, h⟩ := bind_ok_iff.mp h
      exact normalizeInverse_bounds h

theorem availabilityScore_bounds {now : String} {settings : Settings Rat}
    {telemetry : TelemetrySnapshot Rat} {row : StoredRow Rat} {p : Rat}
    (h : availabilityScore now settings telemetry row = .ok p) : 0 ≤ p ∧ p ≤ 1 := by
  obtain ⟨_, -, h⟩ := bind_ok_iff.mp h
  obtain ⟨_, -, h⟩ := bind_ok_iff.mp h
  cases h
  exact clampUnit_bounds _

theorem contextScore_bounds {stats : RankingStats Rat} {row : StoredRow Rat} {p : Rat}
    (h : contextScore stats row = .ok p) : 0 ≤ p ∧ p ≤ 1 := by
  obtain ⟨_, -, h⟩ := bind_ok_iff.mp h
  obtain ⟨_, -, h⟩ := bind_ok_iff.mp h
  obtain ⟨_, -, h⟩ := bind_ok_iff.mp h
  obtain ⟨_, -, h⟩ := bind_ok_iff.mp h
  exact normalize_bounds h

theorem storedIntOrZero_flag {column : Option SqlInt} (h : ∀ n ∈ column, n.val = 0 ∨ n.val = 1) :
    0 ≤ storedIntOrZero column ∧ storedIntOrZero column ≤ 1 := by
  cases column with
  | none => exact ⟨Int.le_refl _, by decide⟩
  | some n =>
      change 0 ≤ n.val ∧ n.val ≤ 1
      rcases h n rfl with hn | hn <;> rw [hn] <;> decide

theorem featureScore_bounds {row : StoredRow Rat} (hflags : Flagged row) {p : Rat}
    (h : featureScore row = .ok p) : 0 ≤ p ∧ p ≤ 1 := by
  rw [featureScore_eq h]
  have htools := storedIntOrZero_flag hflags.tools
  have hstreaming := storedIntOrZero_flag hflags.streaming
  have hvision := storedIntOrZero_flag hflags.vision
  have hstructured := storedIntOrZero_flag hflags.structuredOutput
  have hcount : 0 ≤ featureCount row ∧ featureCount row ≤ 4 := by
    unfold featureCount
    omega
  have hlow : (0 : Rat) ≤ featureCount row := by exact_mod_cast hcount.1
  have hhigh : (featureCount row : Rat) ≤ 4 := by exact_mod_cast hcount.2
  have hfour : (4.0 : Rat) = 4 := by norm_num
  rw [hfour]
  exact ⟨by positivity, (div_le_one (by norm_num)).mpr hhigh⟩

/-- Every factor lies between zero and one. -/
theorem factors_bounds {env : RankingEnv Rat} {settings : Settings Rat}
    {stats : RankingStats Rat} {row : StoredRow Rat} {factors : Factors}
    (h : HasFactors env settings stats row factors) (hflags : Flagged row) :
    ∀ factor ∈ factors.entries, ∀ x ∈ factor.2, 0 ≤ x ∧ x ≤ 1 := by
  unfold Factors.entries
  simp only [List.forall_mem_cons, Option.mem_def, Option.some.injEq, forall_eq']
  refine ⟨benchmarkScore_bounds h.benchmark, usageScore_bounds h.usage, ?_,
    availabilityScore_bounds h.availability, contextScore_bounds h.context,
    featureScore_bounds hflags h.feature, ?_⟩
  · intro x hx
    have hlatency := h.latency
    rw [hx] at hlatency
    exact latencyScore_le_one hlatency
  · intro factor hfactor
    cases hfactor

/-! ## The weights that keep the scores in range -/

/-- The factors a row has: the benchmark and the latency can be missing. -/
def factorNames (benchmark latency : Bool) : List String :=
  (if benchmark then ["benchmark_score"] else []) ++ ["real_world_usage"] ++
    (if latency then ["latency"] else []) ++
    ["availability", "context_window", "feature_support"]

/-- The weights of these factors. -/
def availableWeights (weights : List (String × Rat)) (benchmark latency : Bool) : List Rat :=
  (factorNames benchmark latency).map fun name => (dictGet weights name).getD 0.0

/-- Whichever factors a row has, the negative weights among them come to at most a
two-millionth of their sum, if that is positive. -/
def NegligibleNegatives (weights : List (String × Rat)) : Prop :=
  ∀ benchmark latency : Bool, 0 < totalWeight (availableWeights weights benchmark latency) →
    2000000 * negativeWeight (availableWeights weights benchmark latency) ≤
      totalWeight (availableWeights weights benchmark latency)

/-- Every score that `recompute_ranking` writes under these weights, for any table with flags
of zero or one, is between 0 and 100. -/
def ScoresInRange (weights : List (String × Rat)) : Prop :=
  ∀ (now : String) (telemetry : String → TelemetrySnapshot Rat) (settings : Settings Rat)
    (table : StoredTable Rat) (scores : List (String × Rat)),
    settings.rankingWeights = weights → (∀ row ∈ table.rows, Flagged row) →
    recomputeRanking (exactRanking now telemetry) settings table = .ok scores →
    ∀ score ∈ scores, 0 ≤ score.2 ∧ score.2 ≤ 100

theorem weighted_entries (weights : List (String × Rat)) (factors : Factors) :
    (weighted weights factors.entries).map Prod.fst =
      availableWeights weights factors.benchmark.isSome factors.latency.isSome := by
  unfold Factors.entries
  cases factors.benchmark <;> cases factors.latency <;> rfl

/-- The scores are those of active rows. -/
theorem mem_recomputeRanking {env : RankingEnv Rat} {settings : Settings Rat}
    {table : StoredTable Rat} {scores : List (String × Rat)}
    (h : recomputeRanking env settings table = .ok scores) {score : String × Rat}
    (hscore : score ∈ scores) :
    ∃ stats, ∃ row ∈ table.rows, scoreRow env settings stats row = .ok score := by
  unfold recomputeRanking at h
  dsimp only at h
  split at h
  · cases h
    cases hscore
  · obtain ⟨contexts, -, h⟩ := bind_ok_iff.mp h
    obtain ⟨row, hrow, heq⟩ := (mem_of_mapM_ok h score).mp hscore
    exact ⟨_, row, (List.mem_filter.mp hrow).1, heq⟩

/-- Negligible negative weights keep every score in range. -/
theorem scores_in_range {weights : List (String × Rat)}
    (h : NegligibleNegatives (effectiveWeights weights)) : ScoresInRange weights := by
  intro now telemetry settings table scores hweights hflags hscores score hscore
  obtain ⟨stats, row, hrow, heq⟩ := mem_recomputeRanking hscores hscore
  obtain ⟨factors, hfactors⟩ := exists_factors heq
  have hbounds := factors_bounds hfactors (hflags row hrow)
  rw [scoreRow_of_factors hfactors, hweights] at heq
  obtain ⟨mean, hmean, rfl⟩ := map_ok_iff.mp heq
  change 0 ≤ roundFour (mean * 100.0) ∧ roundFour (mean * 100.0) ≤ 100
  have hentries := weighted_entries (effectiveWeights weights) factors
  by_cases hpositive :
      0 < totalWeight ((weighted (effectiveWeights weights) factors.entries).map Prod.fst)
  · obtain ⟨hlow, hhigh⟩ := weightedScore_bounds hbounds hmean hpositive
    have hshare := h factors.benchmark.isSome factors.latency.isSome
      (by rw [← hentries]; exact hpositive)
    rw [← hentries] at hshare
    have hsmall : negativeWeight ((weighted (effectiveWeights weights) factors.entries).map
        Prod.fst) / totalWeight ((weighted (effectiveWeights weights) factors.entries).map
          Prod.fst) ≤ 1 / 2000000 := by
      rw [div_le_iff₀ hpositive]
      linarith
    exact roundFour_in_range (by linarith) (by linarith)
  · rw [weightedScore_eq, if_pos (not_lt.mp hpositive)] at hmean
    cases hmean
    exact roundFour_in_range (by norm_num) (by norm_num)

/-! ## A population that reaches the bound -/

/-- A row whose factors are one where the predicate says so and zero elsewhere, in a
population with the opposite row. -/
def extremeRow (id : String) (benchmark latency : Bool) (top : String → Bool) :
    StoredRow Rat where
  id := id
  name := id
  providerId := "p"
  providerModelId := id
  contextWindow := .integer (sqlBool (top "context_window"))
  maxOutputTokens := .null
  tokenizerFamily := none
  supportsTools := some (sqlBool (top "feature_support"))
  supportsStreaming := some (sqlBool (top "feature_support"))
  supportsVision := some (sqlBool (top "feature_support"))
  supportsStructuredOutput := some (sqlBool (top "feature_support"))
  supportsSystemMessages := some (sqlBool true)
  chatbotArenaElo :=
    if benchmark then some (if top "benchmark_score" then 1 else 0) else none
  openLlmScore := none
  providerRank := some (if top "real_world_usage" then ⟨1, fitsInt64_one⟩ else ⟨2, by decide⟩)
  openrouterRank := none
  isHealthy := some (sqlBool (top "availability"))
  avgLatencyMs := if latency then some (if top "latency" then 1 else 2) else none
  avgTtfbMs := none
  consecutiveFailures := some (if top "availability" then ⟨0, fitsInt64_zero⟩ else ⟨3, by decide⟩)
  backoffLevel := some (if top "availability" then ⟨0, fitsInt64_zero⟩ else ⟨4, by decide⟩)
  cooldownUntil := if top "availability" then none else some "z"
  compositeScore := none
  isActive := some (sqlBool true)

/-- The row and its opposite. -/
def extremeTable (benchmark latency : Bool) (top : String → Bool) : StoredTable Rat where
  rows := [extremeRow "top" benchmark latency top,
    extremeRow "bottom" benchmark latency fun name => !top name]
  nodup := by simp [extremeRow]

/-- One failed request. -/
def oneFailure (_ : String) : TelemetrySnapshot Rat where
  totalRequests := 1
  successRate := 0
  avgLatencyMs := 0
  avgTtfbMs := 0
  rateLimitRatio := 0

/-- The default thresholds with any weights. -/
def weightedSettings (weights : List (String × Rat)) : Settings Rat :=
  { Inventory.leastSettings Rat with
    int := fun setting => setting.clamp (if setting = .healthMaxBackoffExponent then 4 else 3)
    rankingWeights := weights }

/-- The factors of the row. -/
def extremeFactors (benchmark latency : Bool) (top : String → Bool) : Factors where
  benchmark := if benchmark then some (if top "benchmark_score" then 1 else 0) else none
  usage := if top "real_world_usage" then 1 else 0
  latency := if latency then some (if top "latency" then 1 else 0) else none
  availability := if top "availability" then 1 else 0
  context := if top "context_window" then 1 else 0
  feature := if top "feature_support" then 1 else 0

/-- The stats of the population. -/
def extremeStats (benchmark latency : Bool) (top : String → Bool) : RankingStats Rat :=
  rankingStats (exactRanking "t" oneFailure) (extremeTable benchmark latency top).rows [0, 1]

theorem hasFactors_extreme (weights : List (String × Rat)) (benchmark latency : Bool)
    (top : String → Bool) :
    HasFactors (exactRanking "t" oneFailure) (weightedSettings weights)
      (extremeStats benchmark latency top) (extremeRow "top" benchmark latency top)
      (extremeFactors benchmark latency top) := by
  constructor
  case benchmark =>
    change benchmarkScore (extremeStats benchmark true fun _ => top "benchmark_score")
      (extremeRow "top" benchmark true fun _ => top "benchmark_score") =
        .ok (extremeFactors benchmark true fun _ => top "benchmark_score").benchmark
    generalize top "benchmark_score" = high
    cases benchmark <;> cases high <;> decide +kernel
  case usage =>
    change usageScore (oneFailure "top") (extremeStats true true fun _ => top "real_world_usage")
      (extremeRow "top" true true fun _ => top "real_world_usage") =
        .ok (extremeFactors true true fun _ => top "real_world_usage").usage
    generalize top "real_world_usage" = high
    cases high <;> decide +kernel
  case latency =>
    change latencyScore (oneFailure "top") (extremeStats true latency fun _ => top "latency")
      (extremeRow "top" true latency fun _ => top "latency") =
        .ok (extremeFactors true latency fun _ => top "latency").latency
    generalize top "latency" = high
    cases latency <;> cases high <;> decide +kernel
  case availability =>
    change availabilityScore "t" (weightedSettings []) (oneFailure "top")
      (extremeRow "top" true true fun _ => top "availability") =
        .ok (extremeFactors true true fun _ => top "availability").availability
    generalize top "availability" = high
    cases high <;> decide +kernel
  case context =>
    change contextScore (extremeStats true true fun _ => top "context_window")
      (extremeRow "top" true true fun _ => top "context_window") =
        .ok (extremeFactors true true fun _ => top "context_window").context
    generalize top "context_window" = high
    cases high <;> decide +kernel
  case feature =>
    change featureScore (extremeRow "top" true true fun _ => top "feature_support") =
      .ok (extremeFactors true true fun _ => top "feature_support").feature
    generalize top "feature_support" = high
    cases high <;> decide +kernel

instance : LawfulFloat Rat where
  floatOfInt_ok n _ _ := ⟨n, rfl⟩
  floatOfInt_toInt _ n _ := ⟨n, rfl⟩
  floatToInt_zero x _ := ⟨truncate x, rfl⟩
  sub_ne_zero x y h := by
    have hlt : x < y := not_le.mp fun hle => by simp [(floatLessEq_exact y x).mpr hle] at h
    change decide (y - x = 0.0) = false
    rw [zero_exact, decide_eq_false_iff_not]
    exact ne_of_gt (sub_pos.mpr hlt)

theorem clamped_weightedSettings (weights : List (String × Rat)) :
    Clamped (weightedSettings weights) := by
  intro setting
  cases setting <;> rfl

theorem mem_extremeTable {benchmark latency : Bool} {top : String → Bool} {row : StoredRow Rat}
    (h : row ∈ (extremeTable benchmark latency top).rows) :
    ∃ id top', row = extremeRow id benchmark latency top' := by
  rcases List.mem_cons.mp h with rfl | h
  · exact ⟨_, _, rfl⟩
  · exact ⟨_, _, List.mem_singleton.mp h⟩

theorem flagged_extremeRow (id : String) (benchmark latency : Bool) (top : String → Bool) :
    Flagged (extremeRow id benchmark latency top) := by
  have hflag : ∀ n ∈ some (sqlBool (top "feature_support")), n.val = 0 ∨ n.val = 1 := by
    rintro n ⟨⟩
    cases top "feature_support" <;> simp [sqlBool]
  exact ⟨hflag, hflag, hflag, hflag⟩

/-- The ranking writes the weighted mean of the extreme factors. -/
theorem recomputeRanking_extreme (weights : List (String × Rat)) (benchmark latency : Bool)
    (top : String → Bool) {mean : Rat}
    (hmean : weightedScore (effectiveWeights weights)
      (extremeFactors benchmark latency top).entries = .ok mean) :
    ∃ scores, recomputeRanking (exactRanking "t" oneFailure) (weightedSettings weights)
        (extremeTable benchmark latency top) = .ok scores ∧
      ("top", roundFour (mean * 100.0)) ∈ scores := by
  obtain ⟨scores, hscores⟩ := (recomputeRanking_ok_iff (exactRanking "t" oneFailure)
    (clamped_weightedSettings weights) (extremeTable benchmark latency top)).mpr (by
      intro row hrow _
      obtain ⟨id, top', rfl⟩ := mem_extremeTable hrow
      exact ⟨⟨_, rfl, _, rfl⟩, rfl, rfl, rfl, rfl⟩)
  refine ⟨scores, hscores, ?_⟩
  have hactive : (extremeTable benchmark latency top).rows.filter
      (fun row => row.isActive == some (sqlBool true)) =
        (extremeTable benchmark latency top).rows := by
    apply List.filter_eq_self.mpr
    intro row hrow
    obtain ⟨id, top', rfl⟩ := mem_extremeTable hrow
    rfl
  unfold recomputeRanking at hscores
  dsimp only at hscores
  rw [hactive, if_neg (fun h => by cases h)] at hscores
  obtain ⟨contexts, hcontexts, hscores⟩ := bind_ok_iff.mp hscores
  have hbounds : contexts.min? = some 0 ∧ contexts.max? = some 1 := by
    cases hcontexts
    change [(sqlBool (top "context_window")).val, (sqlBool (!top "context_window")).val].min? =
        some 0 ∧
      [(sqlBool (top "context_window")).val, (sqlBool (!top "context_window")).val].max? = some 1
    cases top "context_window" <;> decide
  have hstats : rankingStats (exactRanking "t" oneFailure)
      (extremeTable benchmark latency top).rows contexts =
        extremeStats benchmark latency top := by
    unfold extremeStats rankingStats
    rw [hbounds.1, hbounds.2]
    rfl
  rw [hstats] at hscores
  refine (mem_of_mapM_ok hscores _).mpr ⟨extremeRow "top" benchmark latency top, .head _, ?_⟩
  rw [scoreRow_of_factors (hasFactors_extreme weights benchmark latency top)]
  change (weightedScore (effectiveWeights weights) _).map _ = _
  rw [hmean]
  rfl

/-- The factors of the row are one where the predicate says so. -/
theorem extremeFactors_entries (benchmark latency : Bool) (top : String → Bool) :
    ∀ factor ∈ (extremeFactors benchmark latency top).entries, ∀ x ∈ factor.2,
      x = if top factor.1 = true then 1 else 0 := by
  unfold extremeFactors Factors.entries
  cases benchmark <;> cases latency <;> simp

/-- Every score of every population is in range exactly when the negative weights vanish in
the rounding. -/
theorem scores_in_range_iff (weights : List (String × Rat)) :
    ScoresInRange weights ↔ NegligibleNegatives (effectiveWeights weights) := by
  refine ⟨fun h benchmark latency hpositive => ?_, scores_in_range⟩
  by_contra hlarge
  -- the row whose factors are one for the weights that are not negative
  let top : String → Bool := fun name =>
    decide (0 ≤ (dictGet (effectiveWeights weights) name).getD 0.0)
  have hentries := weighted_entries (effectiveWeights weights)
    (extremeFactors benchmark latency top)
  have hsome : (extremeFactors benchmark latency top).benchmark.isSome = benchmark ∧
      (extremeFactors benchmark latency top).latency.isSome = latency := by
    cases benchmark <;> cases latency <;> exact ⟨rfl, rfl⟩
  rw [hsome.1, hsome.2] at hentries
  have hvalues : ∀ pair ∈ weighted (effectiveWeights weights)
      (extremeFactors benchmark latency top).entries,
        pair.2 = if 0 ≤ pair.1 then 1 else 0 := by
    intro pair hpair
    obtain ⟨factor, hfactor, heq⟩ := List.mem_filterMap.mp hpair
    obtain ⟨x, hx, rfl⟩ := Option.map_eq_some_iff.mp heq
    have hvalue := extremeFactors_entries benchmark latency top factor hfactor x hx
    simpa [top] using hvalue
  have hextreme := weightedSum_extreme hvalues
  have hmean := weightedScore_eq (effectiveWeights weights)
    (extremeFactors benchmark latency top).entries
  rw [hentries] at hextreme hmean
  rw [if_neg (not_le.mpr hpositive), hextreme] at hmean
  obtain ⟨scores, hscores, hmem⟩ := recomputeRanking_extreme weights benchmark latency top hmean
  have hrange := h "t" oneFailure (weightedSettings weights)
    (extremeTable benchmark latency top) scores rfl (by
      intro row hrow
      obtain ⟨id, top', rfl⟩ := mem_extremeTable hrow
      exact flagged_extremeRow id benchmark latency top') hscores _ hmem
  have hshare : 1 + 1 / 2000000 <
      (totalWeight (availableWeights (effectiveWeights weights) benchmark latency) +
        negativeWeight (availableWeights (effectiveWeights weights) benchmark latency)) /
          totalWeight (availableWeights (effectiveWeights weights) benchmark latency) := by
    rw [lt_div_iff₀ hpositive]
    linarith
  exact absurd hrange.2 (not_le.mpr (roundFour_out_of_range hshare))

/-- A configuration file with a negative weight. -/
def penaltyConfig : PyValue Rat :=
  .dict [("ranking", .dict [("weights", .dict [("availability", .float (-1 / 10))])])]

/-- The weights that `from_env` reads from it. -/
def penaltyWeights : List (String × Rat) :=
  [("benchmark_score", 0.30), ("real_world_usage", 0.15), ("latency", 0.20),
    ("availability", -1 / 10), ("context_window", 0.10), ("feature_support", 0.05)]

/-- A negative weight of the file takes the scores of two models out of the range. -/
theorem negative_weight_leaves_range :
    weightsFromEnv defaultRankingWeights penaltyConfig = .ok penaltyWeights ∧
      recomputeRanking (exactRanking "t" oneFailure) (weightedSettings penaltyWeights)
          (extremeTable false false fun name => name != "availability") =
        .ok [("top", 150), ("bottom", -50)] ∧
      ¬ ScoresInRange penaltyWeights := by
  have hscores : recomputeRanking (exactRanking "t" oneFailure)
      (weightedSettings penaltyWeights)
      (extremeTable false false fun name => name != "availability") =
        .ok [("top", 150), ("bottom", -50)] := by
    decide +kernel
  refine ⟨by decide +kernel, hscores, fun h => ?_⟩
  have hrange := h "t" oneFailure (weightedSettings penaltyWeights) _ _ rfl (by
    intro row hrow
    obtain ⟨id, top', rfl⟩ := mem_extremeTable hrow
    exact flagged_extremeRow id false false top') hscores ("top", 150) (.head _)
  have hle : (150 : Rat) ≤ 100 := hrange.2
  norm_num at hle

end Routing
end FreeLunch
