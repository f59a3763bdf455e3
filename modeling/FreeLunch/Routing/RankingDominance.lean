import FreeLunch.Inventory.DiscoveredRows
import Mathlib.Data.Rat.Floor
import Mathlib.Tactic.Linarith
import Mathlib.Tactic.NormNum

/-!
# Dominance in the ranking

`recompute_ranking` over exact rationals: a model that has the same inputs as another one and
is at least as good in each of them does not get a lower score.  The factors are measured
against the whole population, so each of them is monotone whatever the extreme values are.

Main results:

- Theorem `normalize_mono`: measuring a value against two bounds is monotone.
- Theorem `weightedScore_mono`: so is the weighted mean over the factors that count.
- Theorem `ranking_dominance`: so is the score that is written.
-/

namespace FreeLunch
namespace Routing

open FreeLunch.Runtime Python Store Writes

/-! ## Exact arithmetic -/

/-- The nearest integer, and the even one of two that are as near. -/
def roundHalfEven (q : Rat) : Int :=
  let rest := q - q.floor
  if rest < 1 / 2 then q.floor
  else if 1 / 2 < rest then q.floor + 1
  else if q.floor % 2 = 0 then q.floor
  else q.floor + 1

/-- `round(x, 4)`. -/
def roundFour (q : Rat) : Rat :=
  roundHalfEven (q * 10000) / 10000

example : roundFour (98765625 / 1000000) = 987656 / 10000 := by decide +kernel

theorem roundHalfEven_bounds (q : Rat) :
    q.floor ≤ roundHalfEven q ∧ roundHalfEven q ≤ q.floor + 1 := by
  unfold roundHalfEven
  dsimp only
  split
  · omega
  · split
    · omega
    · split <;> omega

theorem roundHalfEven_mono {p q : Rat} (h : p ≤ q) : roundHalfEven p ≤ roundHalfEven q := by
  have hfloor : p.floor ≤ q.floor := Rat.floor_monotone h
  rcases Int.lt_or_eq_of_le hfloor with hlt | heq
  · have hp := (roundHalfEven_bounds p).2
    have hq := (roundHalfEven_bounds q).1
    omega
  · have hrest : p - (p.floor : Rat) ≤ q - (q.floor : Rat) := by
      rw [heq]
      linarith
    unfold roundHalfEven
    dsimp only
    rw [← heq] at hrest ⊢
    by_cases hsmall : q - (p.floor : Rat) < 1 / 2
    · rw [if_pos hsmall, if_pos (lt_of_le_of_lt hrest hsmall)]
    · rw [if_neg hsmall]
      by_cases hlarge : 1 / 2 < q - (p.floor : Rat)
      · rw [if_pos hlarge]
        have hbound := (roundHalfEven_bounds p).2
        unfold roundHalfEven at hbound
        exact hbound
      · rw [if_neg hlarge]
        have hsame : ¬ 1 / 2 < p - (p.floor : Rat) := fun h => hlarge (lt_of_lt_of_le h hrest)
        rw [if_neg hsame]
        split
        · split <;> omega
        · exact le_refl _

theorem roundFour_mono {p q : Rat} (h : p ≤ q) : roundFour p ≤ roundFour q := by
  have hround : roundHalfEven (p * 10000) ≤ roundHalfEven (q * 10000) :=
    roundHalfEven_mono (by linarith)
  have hcast : (roundHalfEven (p * 10000) : Rat) ≤ roundHalfEven (q * 10000) := by
    exact_mod_cast hround
  unfold roundFour
  linarith

/-! ## Measured values -/

theorem zero_exact : (0.0 : Rat) = 0 := by norm_num

theorem floatMin_exact (x y : Rat) : floatMin x y = min y x := by
  unfold floatMin
  change (if decide (y < x) = true then y else x) = min y x
  by_cases h : y < x
  · rw [if_pos (decide_eq_true h), min_eq_left (le_of_lt h)]
  · rw [if_neg fun hlt => h (of_decide_eq_true hlt), min_eq_right (not_lt.mp h)]

theorem floatMax_exact (x y : Rat) : floatMax x y = max x y := by
  unfold floatMax
  change (if decide (x < y) = true then y else x) = max x y
  by_cases h : x < y
  · rw [if_pos (decide_eq_true h), max_eq_right (le_of_lt h)]
  · rw [if_neg fun hlt => h (of_decide_eq_true hlt), max_eq_left (not_lt.mp h)]

theorem clampUnit_mono {x y : Rat} (h : x ≤ y) : clampUnit x ≤ clampUnit y := by
  unfold clampUnit
  rw [floatMin_exact, floatMin_exact, floatMax_exact, floatMax_exact]
  exact max_le_max_left _ (min_le_min_right _ h)

theorem floatLessEq_exact (x y : Rat) : floatLessEq x y = true ↔ x ≤ y := by
  unfold floatLessEq
  change (decide (x < y) || decide (x = y)) = true ↔ x ≤ y
  rw [Bool.or_eq_true, decide_eq_true_eq, decide_eq_true_eq, le_iff_lt_or_eq]

theorem floatDiv_exact {x y : Rat} (h : y ≠ 0) : floatDiv x y = .ok (x / y) := by
  refine floatDiv_ok ?_
  change decide (y = 0.0) = false
  rw [zero_exact]
  exact decide_eq_false h

/-- Measuring a value against two bounds is monotone. -/
theorem normalize_mono {x y least most p q : Rat} (h : x ≤ y)
    (hx : normalize x least most = .ok p) (hy : normalize y least most = .ok q) : p ≤ q := by
  unfold normalize at hx hy
  by_cases hrange : floatLessEq most least = true
  · rw [if_pos hrange] at hx hy
    cases hx
    cases hy
    exact le_refl _
  · rw [if_neg hrange] at hx hy
    have hlt : least < most := not_le.mp fun h => hrange ((floatLessEq_exact _ _).mpr h)
    have hpositive : 0 < most - least := sub_pos.mpr hlt
    rw [floatDiv_exact (ne_of_gt hpositive), ok_bind] at hx hy
    cases hx
    cases hy
    refine clampUnit_mono ?_
    rw [div_le_div_iff_of_pos_right hpositive]
    exact sub_le_sub_right h least

theorem normalizeInverse_mono {x y least most p q : Rat} (h : x ≤ y)
    (hx : normalizeInverse x least most = .ok p) (hy : normalizeInverse y least most = .ok q) :
    q ≤ p := by
  obtain ⟨r, hr, hx⟩ := bind_ok_iff.mp hx
  obtain ⟨s, hs, hy⟩ := bind_ok_iff.mp hy
  cases hx
  cases hy
  exact sub_le_sub_left (normalize_mono h hr hs) _

/-! ## The weighted mean -/

/-- Weighted values of equal weights, none of them negative, and in order. -/
def WeightedLe (low high : Rat × Rat) : Prop :=
  low.1 = high.1 ∧ 0 ≤ low.1 ∧ low.2 ≤ high.2

/-- A factor that counts in both rows or in neither, and is in order where it counts. -/
structure FactorLe (low high : String × Option Rat) : Prop where
  name : low.1 = high.1
  counts : low.2.isSome = high.2.isSome
  value : ∀ x ∈ low.2, ∀ y ∈ high.2, x ≤ y

/-- The weights of the settings are not negative. -/
def NonnegativeWeights (weights : List (String × Rat)) : Prop :=
  ∀ weight ∈ weights, 0 ≤ weight.2

/-- The weight and the value of the factors that count. -/
def weighted (weights : List (String × Rat)) (factors : List (String × Option Rat)) :
    List (Rat × Rat) :=
  factors.filterMap fun factor =>
    factor.2.map fun value => ((dictGet weights factor.1).getD 0.0, value)

theorem dictGet_nonneg {weights : List (String × Rat)} (h : NonnegativeWeights weights)
    (name : String) : 0 ≤ (dictGet weights name).getD 0.0 := by
  unfold dictGet
  cases hfind : weights.find? fun member => member.1 == name with
  | none => exact le_of_eq zero_exact.symm
  | some weight => exact h weight (List.mem_of_find?_eq_some hfind)

theorem weighted_le {weights : List (String × Rat)} (hweights : NonnegativeWeights weights)
    {lows highs : List (String × Option Rat)} (h : List.Forall₂ FactorLe lows highs) :
    List.Forall₂ WeightedLe (weighted weights lows) (weighted weights highs) := by
  unfold weighted
  induction h with
  | nil => exact .nil
  | @cons low high lows highs hle _ ih =>
      rw [List.filterMap_cons, List.filterMap_cons, ← hle.name]
      have hcounts := hle.counts
      have hvalue := hle.value
      cases hlow : low.2 with
      | none =>
          rw [hlow, Option.isSome_none] at hcounts
          have hhigh : high.2 = none :=
            Option.isNone_iff_eq_none.mp (Option.isSome_eq_false_iff.mp hcounts.symm)
          rw [hhigh]
          exact ih
      | some x =>
          rw [hlow, Option.isSome_some] at hcounts
          obtain ⟨y, hy⟩ := Option.isSome_iff_exists.mp hcounts.symm
          rw [hy]
          exact .cons ⟨rfl, dictGet_nonneg hweights _, hvalue x hlow y hy⟩ ih

theorem available_eq {lows highs : List (Rat × Rat)} (h : List.Forall₂ WeightedLe lows highs) :
    lows.map Prod.fst = highs.map Prod.fst := by
  induction h with
  | nil => rfl
  | cons hle _ ih => rw [List.map_cons, List.map_cons, hle.1, ih]

/-- One factor more keeps the sums in order. -/
theorem shares_mono {available : Rat} (hpositive : 0 < available) {lows highs : List (Rat × Rat)}
    (h : List.Forall₂ WeightedLe lows highs) {low high p q : Rat} (hle : low ≤ high)
    (hlow : lows.foldlM (fun total factor => do
      let share ← floatDiv factor.1 available
      return total + share * factor.2) low = .ok p)
    (hhigh : highs.foldlM (fun total factor => do
      let share ← floatDiv factor.1 available
      return total + share * factor.2) high = .ok q) : p ≤ q := by
  induction h generalizing low high with
  | nil =>
      cases hlow
      cases hhigh
      exact hle
  | @cons u v lows highs hfactor _ ih =>
      obtain ⟨hweight, hnonneg, hvalue⟩ := hfactor
      rw [List.foldlM_cons, floatDiv_exact (ne_of_gt hpositive), ok_bind] at hlow hhigh
      refine ih ?_ hlow hhigh
      rw [← hweight]
      have hshare : 0 ≤ u.1 / available := div_nonneg hnonneg (le_of_lt hpositive)
      exact add_le_add hle (mul_le_mul_of_nonneg_left hvalue hshare)

/-- The weighted mean over the factors that count is monotone. -/
theorem weightedScore_mono {weights : List (String × Rat)} (hweights : NonnegativeWeights weights)
    {lows highs : List (String × Option Rat)} (h : List.Forall₂ FactorLe lows highs) {p q : Rat}
    (hlow : weightedScore weights lows = .ok p) (hhigh : weightedScore weights highs = .ok q) :
    p ≤ q := by
  have hfactors := weighted_le hweights h
  unfold weightedScore at hlow hhigh
  dsimp only at hlow hhigh
  have hsame : ((weighted weights lows).map Prod.fst).foldl (· + ·) 0.0 =
      ((weighted weights highs).map Prod.fst).foldl (· + ·) 0.0 := by
    rw [available_eq hfactors]
  unfold weighted at hsame hfactors
  rw [← hsame] at hhigh
  by_cases hnone : floatLessEq (((lows.filterMap fun factor => factor.2.map fun value =>
      ((dictGet weights factor.1).getD 0.0, value)).map Prod.fst).foldl (· + ·) 0.0) 0.0 = true
  · rw [if_pos hnone] at hlow hhigh
    cases hlow
    cases hhigh
    exact le_refl _
  · rw [if_neg hnone] at hlow hhigh
    have hpositive := lt_of_le_of_lt (le_of_eq zero_exact.symm)
      (not_le.mp fun h => hnone ((floatLessEq_exact _ _).mpr h))
    exact shares_mono hpositive hfactors (le_refl _) hlow hhigh

/-! ## The factors -/

/-- `cooldown_until and cooldown_until > now_iso`. -/
def cooling (now : String) (row : StoredRow Rat) : Bool :=
  row.cooldownUntil.any fun cooldown => cooldown != "" && decide (now < cooldown)

/-- `bool(row[1])`. -/
def healthy (row : StoredRow Rat) : Bool :=
  row.isHealthy.any fun n => n.val != 0

/-- `feature_count`. -/
def featureCount (row : StoredRow Rat) : Int :=
  storedIntOrZero row.supportsTools + storedIntOrZero row.supportsStreaming +
    storedIntOrZero row.supportsVision + storedIntOrZero row.supportsStructuredOutput

/-- Two rows have the same inputs, and their telemetry is in the same brackets. -/
structure SameInputs (env : RankingEnv Rat) (low high : StoredRow Rat) : Prop where
  elo : low.chatbotArenaElo.isSome = high.chatbotArenaElo.isSome
  llm : low.openLlmScore.isSome = high.openLlmScore.isSome
  latency : 0 < latencyReference (env.telemetry low.id) low ↔
    0 < latencyReference (env.telemetry high.id) high
  rank : (effectiveProviderRank low.providerRank low.openrouterRank).isSome =
    (effectiveProviderRank high.providerRank high.openrouterRank).isSome
  five : 5 ≤ (env.telemetry low.id).totalRequests ↔ 5 ≤ (env.telemetry high.id).totalRequests
  one : 1 ≤ (env.telemetry low.id).totalRequests ↔ 1 ≤ (env.telemetry high.id).totalRequests

/-- The second row is at least as good as the first in every input. -/
structure Dominates (env : RankingEnv Rat) (low high : StoredRow Rat) : Prop where
  elo : ∀ x ∈ low.chatbotArenaElo, ∀ y ∈ high.chatbotArenaElo, x ≤ y
  llm : ∀ x ∈ low.openLlmScore, ∀ y ∈ high.openLlmScore, x ≤ y
  rank : ∀ m ∈ effectiveProviderRank low.providerRank low.openrouterRank,
    ∀ n ∈ effectiveProviderRank high.providerRank high.openrouterRank, n.val ≤ m.val
  successRate : (env.telemetry low.id).successRate ≤ (env.telemetry high.id).successRate
  totalRequests : (env.telemetry low.id).totalRequests ≤ (env.telemetry high.id).totalRequests
  rateLimitRatio :
    (env.telemetry high.id).rateLimitRatio ≤ (env.telemetry low.id).rateLimitRatio
  latency : 0 < latencyReference (env.telemetry high.id) high →
    latencyReference (env.telemetry high.id) high ≤ latencyReference (env.telemetry low.id) low
  healthy : healthy low = true → healthy high = true
  cooling : cooling env.now high = true → cooling env.now low = true
  failures : storedIntOrZero high.consecutiveFailures ≤ storedIntOrZero low.consecutiveFailures
  backoff : storedIntOrZero high.backoffLevel ≤ storedIntOrZero low.backoffLevel
  contextWindow : ∀ m, low.contextWindow.intOrZero = .ok m →
    ∀ n, high.contextWindow.intOrZero = .ok n → m ≤ n
  features : featureCount low ≤ featureCount high

/-- The part of the benchmark score that one column gives. -/
theorem benchmark_part {low high : Option Rat} (hsome : low.isSome = high.isSome)
    (hle : ∀ x ∈ low, ∀ y ∈ high, x ≤ y) {least most : Rat} {ps qs : List Rat}
    (hlow : low.toList.mapM (fun x => normalize x least most) = .ok ps)
    (hhigh : high.toList.mapM (fun x => normalize x least most) = .ok qs) :
    List.Forall₂ (· ≤ ·) ps qs := by
  rw [mapM_ok_iff_forall₂] at hlow hhigh
  cases low with
  | none =>
      rw [Option.isSome_none] at hsome
      rw [Option.isNone_iff_eq_none.mp (Option.isSome_eq_false_iff.mp hsome.symm)] at hhigh
      cases hlow
      cases hhigh
      exact .nil
  | some x =>
      rw [Option.isSome_some] at hsome
      obtain ⟨y, rfl⟩ := Option.isSome_iff_exists.mp hsome.symm
      obtain ⟨p, _, hp, hnil, rfl⟩ := List.forall₂_cons_left_iff.mp hlow
      cases hnil
      obtain ⟨q, _, hq, hnil, rfl⟩ := List.forall₂_cons_left_iff.mp hhigh
      cases hnil
      exact .cons (normalize_mono (hle x rfl y rfl) hp hq) .nil

theorem sum_mono {ps qs : List Rat} (h : List.Forall₂ (· ≤ ·) ps qs) {a b : Rat} (hab : a ≤ b) :
    ps.foldl (· + ·) a ≤ qs.foldl (· + ·) b := by
  induction h generalizing a b with
  | nil => exact hab
  | cons hle _ ih => exact ih (add_le_add hab hle)

theorem benchmarkScore_mono {stats : RankingStats Rat} {env : RankingEnv Rat}
    {low high : StoredRow Rat} (hsame : SameInputs env low high)
    (hle : Dominates env low high) {p q : Option Rat}
    (hlow : benchmarkScore stats low = .ok p) (hhigh : benchmarkScore stats high = .ok q) :
    FactorLe ("benchmark_score", p) ("benchmark_score", q) := by
  obtain ⟨eloLow, heloLow, hlow⟩ := bind_ok_iff.mp hlow
  obtain ⟨llmLow, hllmLow, hlow⟩ := bind_ok_iff.mp hlow
  obtain ⟨eloHigh, heloHigh, hhigh⟩ := bind_ok_iff.mp hhigh
  obtain ⟨llmHigh, hllmHigh, hhigh⟩ := bind_ok_iff.mp hhigh
  have hparts : List.Forall₂ (· ≤ ·) (eloLow ++ llmLow) (eloHigh ++ llmHigh) :=
    List.rel_append (benchmark_part hsame.elo hle.elo heloLow heloHigh)
      (benchmark_part hsame.llm hle.llm hllmLow hllmHigh)
  dsimp only at hlow hhigh
  generalize eloLow ++ llmLow = partsLow at hparts hlow
  generalize eloHigh ++ llmHigh = partsHigh at hparts hhigh
  have hlength := hparts.length_eq
  by_cases hnone : partsLow = []
  · rw [hnone] at hparts hlow
    cases hparts
    cases hlow
    cases hhigh
    exact ⟨rfl, rfl, fun x hx => by cases hx⟩
  · have hnone' : partsHigh ≠ [] := by
      intro hnil
      rw [hnil, List.length_nil] at hlength
      exact hnone (List.eq_nil_of_length_eq_zero hlength)
    rw [if_neg fun h => hnone (List.isEmpty_iff.mp h)] at hlow
    rw [if_neg fun h => hnone' (List.isEmpty_iff.mp h), ← hlength] at hhigh
    cases hlow
    cases hhigh
    refine ⟨rfl, rfl, ?_⟩
    rintro x ⟨⟩ y ⟨⟩
    have hcount : (0 : Rat) ≤ ((partsLow.length : Int) : Rat) := by
      exact_mod_cast Nat.zero_le partsLow.length
    exact div_le_div_of_nonneg_right (sum_mono hparts (le_refl _)) hcount

theorem usageScore_mono {stats : RankingStats Rat} {env : RankingEnv Rat}
    {low high : StoredRow Rat} (hsame : SameInputs env low high)
    (hle : Dominates env low high) {p q : Rat}
    (hlow : usageScore (env.telemetry low.id) stats low = .ok p)
    (hhigh : usageScore (env.telemetry high.id) stats high = .ok q) : p ≤ q := by
  unfold usageScore at hlow hhigh
  by_cases hfive : 5 ≤ (env.telemetry low.id).totalRequests
  · rw [if_pos hfive] at hlow
    rw [if_pos (hsame.five.mp hfive)] at hhigh
    cases hlow
    cases hhigh
    refine clampUnit_mono ?_
    have hrequests : ((min (env.telemetry low.id).totalRequests 50 : Nat) : Int) ≤
        (min (env.telemetry high.id).totalRequests 50 : Nat) := by
      have h := hle.totalRequests
      omega
    have hcast : (((min (env.telemetry low.id).totalRequests 50 : Nat) : Int) : Rat) ≤
        ((min (env.telemetry high.id).totalRequests 50 : Nat) : Int) := by
      exact_mod_cast hrequests
    have hsuccess := hle.successRate
    have hratio := hle.rateLimitRatio
    linarith
  · rw [if_neg hfive] at hlow
    rw [if_neg fun h => hfive (hsame.five.mpr h)] at hhigh
    have hrank := hsame.rank
    have hbetter := hle.rank
    unfold coldStartUsageScore at hlow hhigh
    cases hm : effectiveProviderRank low.providerRank low.openrouterRank with
    | none =>
        rw [hm, Option.isSome_none] at hrank
        have hn := Option.isNone_iff_eq_none.mp (Option.isSome_eq_false_iff.mp hrank.symm)
        rw [hm] at hlow
        rw [hn] at hhigh
        cases hlow
        cases hhigh
        exact le_refl _
    | some m =>
        rw [hm, Option.isSome_some] at hrank
        obtain ⟨n, hn⟩ := Option.isSome_iff_exists.mp hrank.symm
        rw [hm] at hlow
        rw [hn] at hhigh
        have hle : (n.val : Rat) ≤ m.val := by
          exact_mod_cast hbetter m hm n hn
        exact normalizeInverse_mono hle hhigh hlow

theorem map_some_ok {x : Except Exc Rat} {p : Option Rat} (h : x.map some = .ok p) :
    ∃ y, x = .ok y ∧ p = some y := by
  cases x with
  | error exc => cases h
  | ok y =>
      cases h
      exact ⟨y, rfl, rfl⟩

theorem latencyScore_mono {stats : RankingStats Rat} {env : RankingEnv Rat}
    {low high : StoredRow Rat} (hsame : SameInputs env low high)
    (hle : Dominates env low high) {p q : Option Rat}
    (hlow : latencyScore (env.telemetry low.id) stats low = .ok p)
    (hhigh : latencyScore (env.telemetry high.id) stats high = .ok q) :
    FactorLe ("latency", p) ("latency", q) := by
  have hpositive : ∀ x : Rat, FloatArith.lt 0.0 x = true ↔ 0 < x := by
    intro x
    change decide ((0.0 : Rat) < x) = true ↔ 0 < x
    rw [zero_exact, decide_eq_true_eq]
  unfold latencyScore at hlow hhigh
  dsimp only at hlow hhigh
  by_cases hknown : 0 < latencyReference (env.telemetry low.id) low
  · rw [if_pos ((hpositive _).mpr hknown)] at hlow
    have hknown' := hsame.latency.mp hknown
    rw [if_pos ((hpositive _).mpr hknown')] at hhigh
    obtain ⟨x, hx, rfl⟩ := map_some_ok hlow
    obtain ⟨y, hy, rfl⟩ := map_some_ok hhigh
    refine ⟨rfl, rfl, ?_⟩
    rintro _ ⟨⟩ _ ⟨⟩
    exact normalizeInverse_mono (hle.latency hknown') hy hx
  · rw [if_neg fun h => hknown ((hpositive _).mp h)] at hlow
    rw [if_neg fun h => hknown (hsame.latency.mpr ((hpositive _).mp h))] at hhigh
    cases hlow
    cases hhigh
    exact ⟨rfl, rfl, fun x hx => by cases hx⟩

/-- The penalty for a row that is not healthy or in its cooldown. -/
theorem penalty_mono {healthyLow healthyHigh coolingLow coolingHigh : Bool}
    (hhealthy : healthyLow = true → healthyHigh = true)
    (hcooling : coolingHigh = true → coolingLow = true) :
    (if coolingHigh then (if healthyHigh then (0.0 : Rat) else 0.0 + 0.45) + 0.30
      else if healthyHigh then 0.0 else 0.0 + 0.45) ≤
      if coolingLow then (if healthyLow then (0.0 : Rat) else 0.0 + 0.45) + 0.30
      else if healthyLow then 0.0 else 0.0 + 0.45 := by
  cases healthyLow <;> cases healthyHigh <;> cases coolingLow <;> cases coolingHigh <;>
    simp_all <;> norm_num

theorem availabilityScore_mono {env : RankingEnv Rat} (settings : Settings Rat)
    {low high : StoredRow Rat} (hsame : SameInputs env low high)
    (hle : Dominates env low high) {p q : Rat}
    (hlow : availabilityScore env.now settings (env.telemetry low.id) low = .ok p)
    (hhigh : availabilityScore env.now settings (env.telemetry high.id) high = .ok q) :
    p ≤ q := by
  have hpenalty := penalty_mono hle.healthy hle.cooling
  unfold healthy cooling at hpenalty
  have hcapped : ∀ {m n : Int}, n ≤ m → ∀ cap : Int, ((min n cap : Int) : Rat) ≤
      (min m cap : Int) := by
    intro m n hmn cap
    have hmin : min n cap ≤ min m cap := by omega
    exact_mod_cast hmin
  have hfailures := hcapped hle.failures (settings.int .healthConsecutiveFailuresThreshold)
  have hbackoff := hcapped hle.backoff (settings.int .healthMaxBackoffExponent)
  have hsuccess := hle.successRate
  cases hlow
  cases hhigh
  refine clampUnit_mono ?_
  by_cases hone : 1 ≤ (env.telemetry low.id).totalRequests
  · have hone' : 0 < (env.telemetry high.id).totalRequests := hsame.one.mp hone
    rw [if_pos (show 0 < _ from hone), if_pos hone']
    linarith
  · have hone' : ¬ 0 < (env.telemetry high.id).totalRequests := fun h => hone (hsame.one.mpr h)
    rw [if_neg (show ¬ 0 < _ from hone), if_neg hone']
    linarith

theorem contextScore_mono {stats : RankingStats Rat} {env : RankingEnv Rat}
    {low high : StoredRow Rat} (hle : Dominates env low high) {p q : Rat}
    (hlow : contextScore stats low = .ok p) (hhigh : contextScore stats high = .ok q) :
    p ≤ q := by
  obtain ⟨m, hm, hlow⟩ := bind_ok_iff.mp hlow
  obtain ⟨n, hn, hhigh⟩ := bind_ok_iff.mp hhigh
  have hwindow : (m : Rat) ≤ n := by
    exact_mod_cast hle.contextWindow m hm n hn
  exact normalize_mono hwindow hlow hhigh

theorem featureInt_eq {column : Option SqlInt} {n : Int} (h : featureInt column = .ok n) :
    n = storedIntOrZero column := by
  cases column with
  | none => cases h
  | some m =>
      cases h
      rfl

theorem featureScore_eq {row : StoredRow Rat} {p : Rat} (h : featureScore row = .ok p) :
    p = (featureCount row : Rat) / 4.0 := by
  obtain ⟨tools, htools, h⟩ := bind_ok_iff.mp h
  obtain ⟨streaming, hstreaming, h⟩ := bind_ok_iff.mp h
  obtain ⟨vision, hvision, h⟩ := bind_ok_iff.mp h
  obtain ⟨structured, hstructured, h⟩ := bind_ok_iff.mp h
  cases h
  rw [featureInt_eq htools, featureInt_eq hstreaming, featureInt_eq hvision,
    featureInt_eq hstructured]
  rfl

theorem featureScore_mono {env : RankingEnv Rat} {low high : StoredRow Rat}
    (hle : Dominates env low high) {p q : Rat} (hlow : featureScore low = .ok p)
    (hhigh : featureScore high = .ok q) : p ≤ q := by
  rw [featureScore_eq hlow, featureScore_eq hhigh]
  have hfeatures : (featureCount low : Rat) ≤ featureCount high := by
    exact_mod_cast hle.features
  have hfour : (0 : Rat) < 4.0 := by norm_num
  exact div_le_div_of_nonneg_right hfeatures (le_of_lt hfour)

/-! ## The score -/

theorem nonnegative_default : NonnegativeWeights defaultRankingWeights := by
  unfold NonnegativeWeights defaultRankingWeights
  decide +kernel

theorem scoreRow_mono {env : RankingEnv Rat} (hround : env.round4 = roundFour)
    {settings : Settings Rat} (hweights : NonnegativeWeights settings.rankingWeights)
    {stats : RankingStats Rat} {low high : StoredRow Rat} (hsame : SameInputs env low high)
    (hle : Dominates env low high) {p q : String × Rat}
    (hlow : scoreRow env settings stats low = .ok p)
    (hhigh : scoreRow env settings stats high = .ok q) : p.2 ≤ q.2 := by
  have hnonneg : NonnegativeWeights (if settings.rankingWeights.isEmpty then defaultRankingWeights
      else settings.rankingWeights) := by
    split
    · exact nonnegative_default
    · exact hweights
  obtain ⟨benchmarkLow, hbenchmarkLow, hlow⟩ := bind_ok_iff.mp hlow
  obtain ⟨usageLow, husageLow, hlow⟩ := bind_ok_iff.mp hlow
  obtain ⟨latencyLow, hlatencyLow, hlow⟩ := bind_ok_iff.mp hlow
  obtain ⟨availabilityLow, havailabilityLow, hlow⟩ := bind_ok_iff.mp hlow
  obtain ⟨contextLow, hcontextLow, hlow⟩ := bind_ok_iff.mp hlow
  obtain ⟨featureLow, hfeatureLow, hlow⟩ := bind_ok_iff.mp hlow
  obtain ⟨scoreLow, hscoreLow, hlow⟩ := bind_ok_iff.mp hlow
  obtain ⟨benchmarkHigh, hbenchmarkHigh, hhigh⟩ := bind_ok_iff.mp hhigh
  obtain ⟨usageHigh, husageHigh, hhigh⟩ := bind_ok_iff.mp hhigh
  obtain ⟨latencyHigh, hlatencyHigh, hhigh⟩ := bind_ok_iff.mp hhigh
  obtain ⟨availabilityHigh, havailabilityHigh, hhigh⟩ := bind_ok_iff.mp hhigh
  obtain ⟨contextHigh, hcontextHigh, hhigh⟩ := bind_ok_iff.mp hhigh
  obtain ⟨featureHigh, hfeatureHigh, hhigh⟩ := bind_ok_iff.mp hhigh
  obtain ⟨scoreHigh, hscoreHigh, hhigh⟩ := bind_ok_iff.mp hhigh
  cases hlow
  cases hhigh
  -- the factors that every row has
  have hpresent : ∀ (name : String) {x y : Rat}, x ≤ y →
      FactorLe (name, some x) (name, some y) := by
    intro name x y hxy
    refine ⟨rfl, rfl, ?_⟩
    rintro _ ⟨⟩ _ ⟨⟩
    exact hxy
  have hscore : scoreLow ≤ scoreHigh := by
    refine weightedScore_mono hnonneg ?_ hscoreLow hscoreHigh
    refine .cons (benchmarkScore_mono hsame hle hbenchmarkLow hbenchmarkHigh) ?_
    refine .cons (hpresent _ (usageScore_mono hsame hle husageLow husageHigh)) ?_
    refine .cons (latencyScore_mono hsame hle hlatencyLow hlatencyHigh) ?_
    refine .cons (hpresent _ (availabilityScore_mono settings hsame hle havailabilityLow
      havailabilityHigh)) ?_
    refine .cons (hpresent _ (contextScore_mono hle hcontextLow hcontextHigh)) ?_
    exact .cons (hpresent _ (featureScore_mono hle hfeatureLow hfeatureHigh)) .nil
  dsimp only
  rw [hround]
  refine roundFour_mono (mul_le_mul_of_nonneg_right hscore ?_)
  norm_num

theorem scoreRow_id {env : RankingEnv Rat} {settings : Settings Rat} {stats : RankingStats Rat}
    {row : StoredRow Rat} {score : String × Rat} (h : scoreRow env settings stats row = .ok score) :
    score.1 = row.id := by
  obtain ⟨_, _, h⟩ := bind_ok_iff.mp h
  obtain ⟨_, _, h⟩ := bind_ok_iff.mp h
  obtain ⟨_, _, h⟩ := bind_ok_iff.mp h
  obtain ⟨_, _, h⟩ := bind_ok_iff.mp h
  obtain ⟨_, _, h⟩ := bind_ok_iff.mp h
  obtain ⟨_, _, h⟩ := bind_ok_iff.mp h
  obtain ⟨_, _, h⟩ := bind_ok_iff.mp h
  cases h
  rfl

/-- Every active row has one score. -/
theorem recomputeRanking_score {env : RankingEnv Rat} {settings : Settings Rat}
    {table : StoredTable Rat} {scores : List (String × Rat)}
    (h : recomputeRanking env settings table = .ok scores) :
    ∃ stats, ∀ row ∈ table.rows, row.isActive = some (sqlBool true) →
      ∃ score, scoreRow env settings stats row = .ok (row.id, score) ∧
        ∀ other, (row.id, other) ∈ scores ↔ other = score := by
  unfold recomputeRanking at h
  dsimp only at h
  have hactive : ∀ row, row ∈ table.rows.filter (fun row => row.isActive == some (sqlBool true)) ↔
      row ∈ table.rows ∧ row.isActive = some (sqlBool true) := by
    intro row
    rw [List.mem_filter, beq_iff_eq]
  generalize (table.rows.filter fun row => row.isActive == some (sqlBool true)) = rows
    at hactive h
  by_cases hempty : rows.isEmpty = true
  · refine ⟨rankingStats env [] [], ?_⟩
    intro row hrow hrowActive
    have hmem := (hactive row).mpr ⟨hrow, hrowActive⟩
    rw [List.isEmpty_iff.mp hempty] at hmem
    cases hmem
  · rw [if_neg hempty] at h
    obtain ⟨contexts, -, h⟩ := bind_ok_iff.mp h
    refine ⟨rankingStats env rows contexts, ?_⟩
    intro row hrow hrowActive
    obtain ⟨score, hscore⟩ := mapM_ok_iff.mp ⟨scores, h⟩ row ((hactive row).mpr ⟨hrow, hrowActive⟩)
    have hid := scoreRow_id hscore
    have hpair : score = (row.id, score.2) := Prod.ext hid rfl
    rw [hpair] at hscore
    refine ⟨score.2, hscore, ?_⟩
    intro other
    rw [mem_of_mapM_ok h]
    constructor
    · rintro ⟨source, hsource, hother⟩
      have hsame : source = row :=
        List.inj_on_of_nodup_map table.nodup ((hactive source).mp hsource).1 hrow
          (scoreRow_id hother).symm
      rw [hsame, hscore] at hother
      cases hother
      rfl
    · rintro rfl
      exact ⟨row, (hactive row).mpr ⟨hrow, hrowActive⟩, hscore⟩

/-- The surroundings of a run over exact rationals. -/
def exactRanking (now : String) (telemetry : String → TelemetrySnapshot Rat) : RankingEnv Rat where
  now := now
  telemetry := telemetry
  round4 := roundFour

/-- Of two active rows with the same inputs, the one that is at least as good in each of them
gets at least the score of the other. -/
theorem ranking_dominance (now : String) (telemetry : String → TelemetrySnapshot Rat)
    {settings : Settings Rat} (hweights : NonnegativeWeights settings.rankingWeights)
    {table : StoredTable Rat} {scores : List (String × Rat)}
    (hscores : recomputeRanking (exactRanking now telemetry) settings table = .ok scores)
    {low high : StoredRow Rat} (hlow : low ∈ table.rows)
    (hlowActive : low.isActive = some (sqlBool true)) (hhigh : high ∈ table.rows)
    (hhighActive : high.isActive = some (sqlBool true))
    (hsame : SameInputs (exactRanking now telemetry) low high)
    (hle : Dominates (exactRanking now telemetry) low high) :
    ∃ lowScore highScore, (∀ score, (low.id, score) ∈ scores ↔ score = lowScore) ∧
      (∀ score, (high.id, score) ∈ scores ↔ score = highScore) ∧ lowScore ≤ highScore := by
  obtain ⟨stats, hrows⟩ := recomputeRanking_score hscores
  obtain ⟨lowScore, hlowScore, hlowOnly⟩ := hrows low hlow hlowActive
  obtain ⟨highScore, hhighScore, hhighOnly⟩ := hrows high hhigh hhighActive
  exact ⟨lowScore, highScore, hlowOnly, hhighOnly,
    scoreRow_mono rfl hweights hsame hle hlowScore hhighScore⟩

/-- A healthy model with an Elo rating. -/
def rankedRow (id : String) (elo : Rat) : StoredRow Rat where
  id := id
  name := id
  providerId := "p"
  providerModelId := id
  contextWindow := .integer ⟨8192, by decide⟩
  maxOutputTokens := .null
  tokenizerFamily := none
  supportsTools := some (sqlBool true)
  supportsStreaming := some (sqlBool true)
  supportsVision := some (sqlBool false)
  supportsStructuredOutput := some (sqlBool false)
  supportsSystemMessages := some (sqlBool true)
  chatbotArenaElo := some elo
  openLlmScore := none
  providerRank := none
  openrouterRank := none
  isHealthy := some (sqlBool true)
  avgLatencyMs := none
  avgTtfbMs := none
  consecutiveFailures := none
  backoffLevel := none
  cooldownUntil := none
  compositeScore := none
  isActive := some (sqlBool true)

/-- Two models that differ in their ratings. -/
def rankedTable : StoredTable Rat where
  rows := [rankedRow "low" 1000, rankedRow "high" 1200]
  nodup := by decide

/-- No requests yet. -/
def silent (_ : String) : TelemetrySnapshot Rat where
  totalRequests := 0
  successRate := 0
  avgLatencyMs := 0
  avgTtfbMs := 0
  rateLimitRatio := 0

theorem ranking_dominance_two :
    ∃ lowScore highScore : Rat,
      (∀ score, ("low", score) ∈ [("low", (50 : Rat)), ("high", 175 / 2)] ↔ score = lowScore) ∧
      (∀ score, ("high", score) ∈ [("low", (50 : Rat)), ("high", 175 / 2)] ↔
        score = highScore) ∧ lowScore ≤ highScore := by
  have hscores : recomputeRanking (exactRanking "t" silent) (Inventory.leastSettings Rat)
      rankedTable = .ok [("low", 50), ("high", 175 / 2)] := by
    decide +kernel
  have hweights : NonnegativeWeights (Inventory.leastSettings Rat).rankingWeights := by
    intro weight hweight
    cases hweight
  have hlow : rankedRow "low" 1000 ∈ rankedTable.rows := .head _
  have hhigh : rankedRow "high" 1200 ∈ rankedTable.rows := .tail _ (.head _)
  have hsame : SameInputs (exactRanking "t" silent) (rankedRow "low" 1000)
      (rankedRow "high" 1200) :=
    ⟨rfl, rfl, by decide +kernel, rfl, Iff.rfl, Iff.rfl⟩
  refine ranking_dominance "t" silent hweights hscores hlow rfl hhigh rfl hsame ?_
  constructor
  case elo =>
    rintro _ ⟨⟩ _ ⟨⟩
    decide +kernel
  case llm =>
    rintro _ ⟨⟩
  case rank =>
    intro m hm
    cases hm
  case latency =>
    intro h
    exact absurd h (by decide +kernel)
  case contextWindow =>
    rintro _ ⟨⟩ _ ⟨⟩
    exact Int.le_refl _
  case healthy => exact id
  case cooling => exact id
  case successRate => exact le_refl _
  case totalRequests => exact Nat.le_refl _
  case rateLimitRatio => exact le_refl _
  case failures => exact Int.le_refl _
  case backoff => exact Int.le_refl _
  case features => exact Int.le_refl _

end Routing
end FreeLunch
