import FreeLunch.Routing.RankingDominance

/-!
# The best model of a population

The latency factor and the cold-start usage factor of `recompute_ranking` are measured
against the extreme values of the active models, over exact rationals.  Where the extreme
values coincide, `_normalize` answers with one and `_normalize_inverse` with zero.

Main results:

- Theorem `minOrZero_spec`, `maxOrZero_spec`: the extreme values of a population.
- Theorem `normalize_bounds`: every measured value lies between zero and one.
- Theorem `bestFactors_iff`: the fastest model and the model of rank one get the factor one
  exactly when the latencies differ and some model has a larger rank.
-/

namespace FreeLunch
namespace Routing

open FreeLunch.Runtime Python Store Writes

/-! ## Extreme values -/

/-- A fold that always keeps one of two values, and one that is related to both, ends with a
value of the list that is related to all of them. -/
theorem foldl_extreme {α : Type} {op : α → α → α} {R : α → α → Prop}
    (hrefl : ∀ x, R x x) (htrans : ∀ x y z, R x y → R y z → R x z)
    (hchoice : ∀ x y, op x y = x ∨ op x y = y)
    (hop : ∀ x y, R (op x y) x ∧ R (op x y) y) (rest : List α) (x : α) :
    rest.foldl op x ∈ x :: rest ∧ ∀ y ∈ x :: rest, R (rest.foldl op x) y := by
  induction rest generalizing x with
  | nil => simpa using hrefl x
  | cons z rest ih =>
      obtain ⟨hmem, hrel⟩ := ih (op x z)
      have hfirst := hrel _ List.mem_cons_self
      rw [List.foldl_cons]
      refine ⟨?_, ?_⟩
      · rcases List.mem_cons.mp hmem with hsame | hrest
        · rw [hsame]
          rcases hchoice x z with h | h <;> simp [h]
        · exact List.mem_cons_of_mem _ (List.mem_cons_of_mem _ hrest)
      · intro y hy
        rcases List.mem_cons.mp hy with rfl | hy
        · exact htrans _ _ _ hfirst (hop _ _).1
        · rcases List.mem_cons.mp hy with rfl | hy
          · exact htrans _ _ _ hfirst (hop _ _).2
          · exact hrel y (List.mem_cons_of_mem _ hy)

/-- The least value of a population belongs to it. -/
theorem minOrZero_spec {values : List Rat} (h : values ≠ []) :
    minOrZero values ∈ values ∧ ∀ y ∈ values, minOrZero values ≤ y := by
  cases values with
  | nil => exact absurd rfl h
  | cons x rest =>
      refine foldl_extreme (R := (· ≤ ·)) le_refl (fun _ _ _ => le_trans) ?_ ?_ rest x
      · intro x y
        rw [floatMin_exact]
        exact (min_choice y x).symm
      · intro x y
        rw [floatMin_exact]
        exact ⟨min_le_right _ _, min_le_left _ _⟩

/-- The greatest value of a population belongs to it. -/
theorem maxOrZero_spec {values : List Rat} (h : values ≠ []) :
    maxOrZero values ∈ values ∧ ∀ y ∈ values, y ≤ maxOrZero values := by
  cases values with
  | nil => exact absurd rfl h
  | cons x rest =>
      refine foldl_extreme (R := (· ≥ ·)) le_refl (fun _ _ _ => ge_trans) ?_ ?_ rest x
      · intro x y
        rw [floatMax_exact]
        exact max_choice x y
      · intro x y
        rw [floatMax_exact]
        exact ⟨le_max_left _ _, le_max_right _ _⟩

/-! ## Measured values -/

theorem one_exact : (1.0 : Rat) = 1 := by norm_num

theorem clampUnit_bounds (x : Rat) : 0 ≤ clampUnit x ∧ clampUnit x ≤ 1 := by
  unfold clampUnit
  rw [floatMin_exact, floatMax_exact, zero_exact, one_exact]
  exact ⟨le_max_left _ _, max_le zero_le_one (min_le_right _ _)⟩

/-- A measured value lies between zero and one. -/
theorem normalize_bounds {value least most p : Rat} (h : normalize value least most = .ok p) :
    0 ≤ p ∧ p ≤ 1 := by
  unfold normalize at h
  by_cases hrange : floatLessEq most least = true
  · rw [if_pos hrange, one_exact] at h
    cases h
    exact ⟨zero_le_one, le_refl _⟩
  · rw [if_neg hrange] at h
    obtain ⟨quotient, -, h⟩ := bind_ok_iff.mp h
    cases h
    exact clampUnit_bounds quotient

theorem normalizeInverse_bounds {value least most p : Rat}
    (h : normalizeInverse value least most = .ok p) : 0 ≤ p ∧ p ≤ 1 := by
  obtain ⟨q, hq, h⟩ := bind_ok_iff.mp h
  obtain ⟨hnonneg, hle⟩ := normalize_bounds hq
  cases h
  rw [one_exact]
  exact ⟨by linarith, by linarith⟩

/-- The least value has the factor one when there is a greater one, else zero. -/
theorem normalizeInverse_least (least most : Rat) :
    normalizeInverse least least most = .ok (if least < most then 1 else 0) := by
  unfold normalizeInverse normalize
  by_cases hlt : least < most
  · have hrange : ¬ floatLessEq most least = true := fun h =>
      absurd ((floatLessEq_exact _ _).mp h) (not_le.mpr hlt)
    rw [if_neg hrange, floatDiv_exact (ne_of_gt (sub_pos.mpr hlt)), if_pos hlt, sub_self,
      zero_div]
    have hclamp : clampUnit (0 : Rat) = 0 := by
      unfold clampUnit
      rw [floatMin_exact, floatMax_exact, zero_exact, one_exact]
      norm_num
    simp only [ok_bind, pure, Except.pure, hclamp, one_exact, sub_zero]
  · have hrange : floatLessEq most least = true :=
      (floatLessEq_exact _ _).mpr (not_lt.mp hlt)
    rw [if_pos hrange, if_neg hlt]
    simp only [ok_bind, pure, Except.pure, one_exact, sub_self]

/-! ## The population -/

/-- The rows that are ranked. -/
def activeRows (table : StoredTable Rat) : List (StoredRow Rat) :=
  table.rows.filter fun row => row.isActive == some (sqlBool true)

/-- The latency reference of a row. -/
def reference (env : RankingEnv Rat) (row : StoredRow Rat) : Rat :=
  latencyReference (env.telemetry row.id) row

/-- The rank of a row. -/
def rankOf (row : StoredRow Rat) : Option Int :=
  (effectiveProviderRank row.providerRank row.openrouterRank).map Subtype.val

/-- Too few requests for the usage factor to count them. -/
def ColdStart (env : RankingEnv Rat) (row : StoredRow Rat) : Prop :=
  (env.telemetry row.id).totalRequests < 5

instance (env : RankingEnv Rat) (row : StoredRow Rat) : Decidable (ColdStart env row) :=
  inferInstanceAs (Decidable (_ < 5))

/-- The best model of each bracket gets the factor one, and no model more. -/
structure BestFactors (env : RankingEnv Rat) (rows : List (StoredRow Rat))
    (stats : RankingStats Rat) : Prop where
  latency : ∀ row ∈ rows, 0 < reference env row →
    (∀ other ∈ rows, 0 < reference env other → reference env row ≤ reference env other) →
    latencyScore (env.telemetry row.id) stats row = .ok (some 1)
  latency_le : ∀ row ∈ rows, ∀ x,
    latencyScore (env.telemetry row.id) stats row = .ok (some x) → x ≤ 1
  rank : ∀ row ∈ rows, ColdStart env row → rankOf row = some 1 →
    usageScore (env.telemetry row.id) stats row = .ok 1
  unranked : ∀ row ∈ rows, ColdStart env row → rankOf row = none → ∀ x,
    usageScore (env.telemetry row.id) stats row = .ok x → x ≤ 1

/-- There is no measured model, or two of them differ in their latency. -/
def LatenciesVary (env : RankingEnv Rat) (rows : List (StoredRow Rat)) : Prop :=
  (∀ row ∈ rows, ¬ 0 < reference env row) ∨
    ∃ a ∈ rows, ∃ b ∈ rows, 0 < reference env a ∧ reference env a < reference env b

/-- There is no cold-start model of rank one, or some model has a larger rank. -/
def RanksVary (env : RankingEnv Rat) (rows : List (StoredRow Rat)) : Prop :=
  (∀ row ∈ rows, ColdStart env row → rankOf row ≠ some 1) ∨
    ∃ row ∈ rows, ∃ n, rankOf row = some n ∧ 1 < n

/-! ## The latency factor -/

/-- The positive latency references of the population. -/
def references (env : RankingEnv Rat) (rows : List (StoredRow Rat)) : List Rat :=
  (rows.map (reference env)).filter fun reference => FloatArith.lt 0.0 reference

theorem mem_references {env : RankingEnv Rat} {rows : List (StoredRow Rat)} {x : Rat} :
    x ∈ references env rows ↔ ∃ row ∈ rows, reference env row = x ∧ 0 < x := by
  have hpositive : FloatArith.lt (0.0 : Rat) x = true ↔ 0 < x := by
    change decide ((0.0 : Rat) < x) = true ↔ 0 < x
    rw [zero_exact, decide_eq_true_eq]
  unfold references
  rw [List.mem_filter, List.mem_map, hpositive]
  constructor
  · rintro ⟨⟨row, hrow, heq⟩, hx⟩
    exact ⟨row, hrow, heq, hx⟩
  · rintro ⟨row, hrow, heq, hx⟩
    exact ⟨⟨row, hrow, heq⟩, hx⟩

/-- The latency factor of a measured row. -/
theorem latencyScore_measured {env : RankingEnv Rat} {row : StoredRow Rat}
    (h : 0 < reference env row) (stats : RankingStats Rat) :
    latencyScore (env.telemetry row.id) stats row =
      (normalizeInverse (reference env row) stats.minLatency stats.maxLatency).map some := by
  have hpositive : FloatArith.lt (0.0 : Rat) (latencyReference (env.telemetry row.id) row) =
      true := by
    change decide ((0.0 : Rat) < _) = true
    rw [zero_exact]
    exact decide_eq_true h
  unfold latencyScore
  dsimp only
  rw [if_pos hpositive]
  rfl

theorem latencyScore_le_one {telemetry : TelemetrySnapshot Rat} {stats : RankingStats Rat}
    {row : StoredRow Rat} {x : Rat} (h : latencyScore telemetry stats row = .ok (some x)) :
    0 ≤ x ∧ x ≤ 1 := by
  unfold latencyScore at h
  dsimp only at h
  split at h
  · obtain ⟨y, hy, hx⟩ := map_some_ok h
    cases hx
    exact normalizeInverse_bounds hy
  · cases h

/-- The fastest model gets the factor one when a slower one is measured, else zero. -/
theorem latencyScore_fastest {env : RankingEnv Rat} {rows : List (StoredRow Rat)}
    {row : StoredRow Rat} (hrow : row ∈ rows) (hpositive : 0 < reference env row)
    (hfastest : ∀ other ∈ rows, 0 < reference env other →
      reference env row ≤ reference env other) (contexts : List Int) :
    latencyScore (env.telemetry row.id) (rankingStats env rows contexts) row =
      .ok (some (if reference env row < maxOrZero (references env rows) then 1 else 0)) := by
  have hmem := mem_references.mpr ⟨row, hrow, rfl, hpositive⟩
  have hne := List.ne_nil_of_mem hmem
  have hleast : minOrZero (references env rows) = reference env row := by
    obtain ⟨hmin, hle⟩ := minOrZero_spec hne
    obtain ⟨other, hother, heq, hotherPositive⟩ := mem_references.mp hmin
    apply le_antisymm (hle _ hmem)
    rw [← heq] at hotherPositive ⊢
    exact hfastest other hother hotherPositive
  rw [latencyScore_measured hpositive]
  change (normalizeInverse (reference env row) (minOrZero (references env rows))
    (maxOrZero (references env rows))).map some = _
  rw [hleast, normalizeInverse_least]
  rfl

/-! ## The cold-start factor -/

/-- The usage factor of a cold-start row. -/
theorem usageScore_coldStart {env : RankingEnv Rat} {row : StoredRow Rat}
    (h : ColdStart env row) (stats : RankingStats Rat) :
    usageScore (env.telemetry row.id) stats row =
      coldStartUsageScore (effectiveProviderRank row.providerRank row.openrouterRank)
        stats.maxRank := by
  unfold usageScore
  rw [if_neg (Nat.not_le.mpr h)]

/-- A cold-start model of rank one gets the factor one when there is a larger rank, else
zero. -/
theorem usageScore_first {env : RankingEnv Rat} {row : StoredRow Rat} (hcold : ColdStart env row)
    (hrank : rankOf row = some 1) (stats : RankingStats Rat) :
    usageScore (env.telemetry row.id) stats row =
      .ok (if 1 < stats.maxRank then 1 else 0) := by
  obtain ⟨rank, hrank, hval⟩ := Option.map_eq_some_iff.mp hrank
  rw [usageScore_coldStart hcold, hrank]
  have hscore : coldStartUsageScore (F := Rat) (some rank) stats.maxRank =
      normalizeInverse (rank.val : Rat) 1.0 ((max stats.maxRank 1 : Int) : Rat) := rfl
  have hone : ((rank.val : Int) : Rat) = 1 := by
    rw [hval]
    norm_num
  have hlarger : (1 : Rat) < ((max stats.maxRank 1 : Int) : Rat) ↔ 1 < stats.maxRank := by
    have hcast : (1 : Rat) < ((max stats.maxRank 1 : Int) : Rat) ↔
        1 < max stats.maxRank 1 := by
      exact_mod_cast Iff.rfl
    rw [hcast]
    omega
  rw [hscore, hone, one_exact, normalizeInverse_least]
  simp only [hlarger]

theorem usageScore_unranked {env : RankingEnv Rat} {row : StoredRow Rat}
    (hcold : ColdStart env row) (hrank : rankOf row = none) (stats : RankingStats Rat) :
    usageScore (env.telemetry row.id) stats row = .ok 0.5 := by
  have hnone : effectiveProviderRank row.providerRank row.openrouterRank = none :=
    Option.map_eq_none_iff.mp hrank
  rw [usageScore_coldStart hcold, hnone]
  rfl

/-- A population has a rank above one exactly when its largest rank is. -/
theorem one_lt_maxRank_iff (env : RankingEnv Rat) (rows : List (StoredRow Rat))
    (contexts : List Int) :
    1 < (rankingStats env rows contexts).maxRank ↔
      ∃ row ∈ rows, ∃ n, rankOf row = some n ∧ 1 < n := by
  change 1 < (rows.filterMap rankOf).max?.getD 1 ↔ _
  cases hmax : (rows.filterMap rankOf).max? with
  | none =>
      rw [List.max?_eq_none_iff] at hmax
      refine iff_of_false (by decide) ?_
      rintro ⟨row, hrow, n, hn, -⟩
      have hmem := List.mem_filterMap.mpr ⟨row, hrow, hn⟩
      rw [hmax] at hmem
      cases hmem
  | some most =>
      obtain ⟨hmem, hle⟩ := List.max?_eq_some_iff.mp hmax
      rw [Option.getD_some]
      constructor
      · intro hlt
        obtain ⟨row, hrow, hrank⟩ := List.mem_filterMap.mp hmem
        exact ⟨row, hrow, most, hrank, hlt⟩
      · rintro ⟨row, hrow, n, hn, hlt⟩
        have := hle n (List.mem_filterMap.mpr ⟨row, hrow, hn⟩)
        omega

/-! ## When the best models get the factor one -/

/-- A fastest model among the measured ones. -/
theorem exists_fastest {env : RankingEnv Rat} {rows : List (StoredRow Rat)}
    (h : ∃ row ∈ rows, 0 < reference env row) :
    ∃ row ∈ rows, 0 < reference env row ∧
      ∀ other ∈ rows, 0 < reference env other → reference env row ≤ reference env other := by
  obtain ⟨row, hrow, hpositive⟩ := h
  obtain ⟨hmin, hle⟩ := minOrZero_spec
    (List.ne_nil_of_mem (mem_references.mpr ⟨row, hrow, rfl, hpositive⟩))
  obtain ⟨fastest, hfastest, heq, hleast⟩ := mem_references.mp hmin
  rw [← heq] at hle hleast
  refine ⟨fastest, hfastest, hleast, ?_⟩
  intro other hother hotherPositive
  exact hle _ (mem_references.mpr ⟨other, hother, rfl, hotherPositive⟩)

/-- The fastest model and the model of rank one get the factor one exactly when the latencies
differ and some model has a larger rank. -/
theorem bestFactors_iff (env : RankingEnv Rat) (table : StoredTable Rat) (contexts : List Int) :
    BestFactors env (activeRows table) (rankingStats env (activeRows table) contexts) ↔
      LatenciesVary env (activeRows table) ∧ RanksVary env (activeRows table) := by
  generalize activeRows table = rows
  constructor
  · intro h
    constructor
    · by_cases hmeasured : ∃ row ∈ rows, 0 < reference env row
      · obtain ⟨row, hrow, hpositive, hfastest⟩ := exists_fastest hmeasured
        have hscore := h.latency row hrow hpositive hfastest
        rw [latencyScore_fastest hrow hpositive hfastest contexts] at hscore
        have hlt : reference env row < maxOrZero (references env rows) := by
          by_contra hge
          rw [if_neg hge] at hscore
          norm_num at hscore
        obtain ⟨hmax, -⟩ := maxOrZero_spec
          (List.ne_nil_of_mem (mem_references.mpr ⟨row, hrow, rfl, hpositive⟩))
        obtain ⟨slow, hslow, heq, -⟩ := mem_references.mp hmax
        rw [← heq] at hlt
        exact .inr ⟨row, hrow, slow, hslow, hpositive, hlt⟩
      · exact .inl fun row hrow hpositive => hmeasured ⟨row, hrow, hpositive⟩
    · by_cases hfirst : ∃ row ∈ rows, ColdStart env row ∧ rankOf row = some 1
      · obtain ⟨row, hrow, hcold, hrank⟩ := hfirst
        have hscore := h.rank row hrow hcold hrank
        rw [usageScore_first hcold hrank] at hscore
        refine .inr ((one_lt_maxRank_iff env rows contexts).mp ?_)
        by_contra hle
        rw [if_neg hle] at hscore
        norm_num at hscore
      · exact .inl fun row hrow hcold hrank => hfirst ⟨row, hrow, hcold, hrank⟩
  · rintro ⟨hlatencies, hranks⟩
    constructor
    case latency =>
      intro row hrow hpositive hfastest
      rcases hlatencies with hnone | ⟨a, ha, b, hb, haPositive, hlt⟩
      · exact absurd hpositive (hnone row hrow)
      · have hbPositive := lt_trans haPositive hlt
        have hmem := mem_references.mpr ⟨b, hb, rfl, hbPositive⟩
        have hslower := (maxOrZero_spec (List.ne_nil_of_mem hmem)).2 _ hmem
        have hfaster := hfastest a ha haPositive
        rw [latencyScore_fastest hrow hpositive hfastest contexts,
          if_pos (lt_of_le_of_lt hfaster (lt_of_lt_of_le hlt hslower))]
    case latency_le =>
      intro row _ x hx
      exact (latencyScore_le_one hx).2
    case rank =>
      intro row hrow hcold hrank
      rcases hranks with hnone | hlarger
      · exact absurd hrank (hnone row hrow hcold)
      · rw [usageScore_first hcold hrank,
          if_pos ((one_lt_maxRank_iff env rows contexts).mpr hlarger)]
    case unranked =>
      intro row _ hcold hrank x hx
      rw [usageScore_unranked hcold hrank] at hx
      cases hx
      norm_num

/-- A model of rank one that was measured once, alone in the table. -/
def measuredRow : StoredRow Rat :=
  { rankedRow "only" 1000 with
    providerRank := some ⟨1, fitsInt64_one⟩
    avgLatencyMs := some 120 }

/-- A population of one model. -/
def measuredTable : StoredTable Rat where
  rows := [measuredRow]
  nodup := by decide

/-- The only model of a population is the fastest one and of rank one, and gets zero for both;
an unranked model would get one half. -/
theorem only_model_gets_zero :
    latencyScore (silent "only")
        (rankingStats (exactRanking "t" silent) (activeRows measuredTable) [8192]) measuredRow =
          .ok (some 0) ∧
      usageScore (silent "only")
        (rankingStats (exactRanking "t" silent) (activeRows measuredTable) [8192]) measuredRow =
          .ok 0 ∧
      coldStartUsageScore (F := Rat) none 1 = .ok (1 / 2) ∧
      ¬ BestFactors (exactRanking "t" silent) (activeRows measuredTable)
        (rankingStats (exactRanking "t" silent) (activeRows measuredTable) [8192]) := by
  have husage : usageScore (silent "only")
      (rankingStats (exactRanking "t" silent) (activeRows measuredTable) [8192]) measuredRow =
        .ok 0 := by
    decide +kernel
  refine ⟨by decide +kernel, husage, by decide +kernel, fun h => ?_⟩
  have hone := h.rank measuredRow (.head _) (by decide +kernel) (by decide +kernel)
  have hzero := husage.symm.trans hone
  norm_num at hzero

end Routing
end FreeLunch
