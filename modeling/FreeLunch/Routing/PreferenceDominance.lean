import FreeLunch.Routing.RankingDominance
import Mathlib.Data.List.Lex

/-!
# Dominance in the preference order

`_preference_score` and the sort of `pick_candidates` over exact rationals: a candidate that
is at least as good as another one in score, latency, context window and failures, and better
in one of the first three, comes before it, whatever the preference and its thresholds are.

Main results:

- Theorem `tupleLt_exact`: Python's order of tuples is the lexicographic one.
- Theorem `preferenceBonus_mono`: no preference rewards a worse candidate.
- Theorem `preference_dominance`: the better candidate is ordered first.
-/

namespace FreeLunch
namespace Routing

open FreeLunch.Runtime Python Store

/-! ## Lexicographic order -/

/-- Python's order of tuples is the lexicographic one. -/
theorem tupleLt_exact (xs ys : List Rat) : tupleLt xs ys = true ↔ xs < ys := by
  induction xs generalizing ys with
  | nil =>
      cases ys with
      | nil => simp [tupleLt]
      | cons y ys => simp [tupleLt]
  | cons x xs ih =>
      cases ys with
      | nil => simp [tupleLt]
      | cons y ys =>
          rw [List.cons_lt_cons_iff]
          change (if decide (x = y) = true then tupleLt xs ys else decide (x < y)) = true ↔ _
          by_cases heq : x = y
          · rw [if_pos (decide_eq_true heq), ih, heq]
            simp
          · rw [if_neg (by simpa using heq), decide_eq_true_eq]
            simp [heq]

/-- In a sorted list two elements that are not related the other way round are in order. -/
theorem pair_sublist_of_pairwise {α : Type} {r : α → α → Prop} {l : List α}
    (hsorted : l.Pairwise r) {a b : α} (ha : a ∈ l) (hb : b ∈ l) (hne : a ≠ b)
    (hnot : ¬ r b a) : List.Sublist [a, b] l := by
  obtain ⟨before, after, rfl⟩ := List.append_of_mem ha
  rw [List.pairwise_append] at hsorted
  rcases List.mem_append.mp hb with hbefore | hrest
  · exact absurd (hsorted.2.2 b hbefore a List.mem_cons_self) hnot
  · rcases List.mem_cons.mp hrest with rfl | hafter
    · exact absurd rfl hne
    · refine List.Sublist.trans ?_ (List.sublist_append_right before _)
      exact (List.singleton_sublist.mpr hafter).cons_cons a

/-! ## The preference order -/

/-- A candidate that is at least as good as another one, and better in its score, its
effective latency or its context window. -/
structure CandidateDominates (a b : Candidate Rat) : Prop where
  compositeScore : b.compositeScore ≤ a.compositeScore
  latency : effectiveLatency a ≤ effectiveLatency b
  contextWindow : b.contextWindow ≤ a.contextWindow
  failures : a.consecutiveFailures + a.backoffLevel ≤ b.consecutiveFailures + b.backoffLevel
  better : b.compositeScore < a.compositeScore ∨ effectiveLatency a < effectiveLatency b ∨
    b.contextWindow < a.contextWindow

/-- The penalty for a latency above the preferred bound. -/
def latencyPenalty (preferences : RoutingPreferences) (latency : Rat) : Rat :=
  if preferences.maxLatencyMs.any fun (limit : Int) => decide ((limit : Rat) < latency) then -25
  else 0

/-- The bonus for a context window of the preferred size. -/
def contextBonus (preferences : RoutingPreferences) (window : Rat) : Rat :=
  if preferences.minContextTokens.any fun (tokens : Int) => decide ((tokens : Rat) ≤ window) then 10
  else 0

/-- What the named preference adds. -/
def namedBonus (preference : String) (score latency window reliability : Rat) : Rat :=
  if preference = "quality" then score * (1 / 5)
  else if preference = "latency" then max 0 (5000 - latency) / 100
  else if preference = "context" then window / 1000
  else if preference = "reliability" then
    max 0 (5000 - latency) / 500 - reliability * 15
  else max 0 (5000 - latency) / 500 + window / 10000 - reliability * 2

/-- The bonus of `_preference_score`. -/
def preferenceBonus (preferences : RoutingPreferences) (candidate : Candidate Rat) : Rat :=
  latencyPenalty preferences (effectiveLatency candidate) +
    contextBonus preferences candidate.contextWindow +
    namedBonus preferences.preference candidate.compositeScore (effectiveLatency candidate)
      candidate.contextWindow ((candidate.consecutiveFailures + candidate.backoffLevel : Int))

theorem namedBonus_exact (preference : String) (bonus score latency window reliability : Rat) :
    (if preference = "quality" then bonus + score * 0.20
      else if preference = "latency" then bonus + floatMax 0.0 (5000.0 - latency) / 100.0
      else if preference = "context" then bonus + window / 1000.0
      else if preference = "reliability" then
        bonus - reliability * 15.0 + floatMax 0.0 (5000.0 - latency) / 500.0
      else bonus + floatMax 0.0 (5000.0 - latency) / 500.0 + window / 10000.0 -
        reliability * 2.0) =
      bonus + namedBonus preference score latency window reliability := by
  have hconstants : (0.20 : Rat) = 1 / 5 ∧ (5000.0 : Rat) = 5000 ∧ (100.0 : Rat) = 100 ∧
      (1000.0 : Rat) = 1000 ∧ (500.0 : Rat) = 500 ∧ (10000.0 : Rat) = 10000 ∧
      (15.0 : Rat) = 15 ∧ (2.0 : Rat) = 2 := by norm_num
  obtain ⟨h₁, h₂, h₃, h₄, h₅, h₆, h₇, h₈⟩ := hconstants
  unfold namedBonus
  rw [floatMax_exact, zero_exact, h₁, h₂, h₃, h₄, h₅, h₆, h₇, h₈]
  split_ifs <;> ring

/-- The key of a candidate: its score with the bonus, and what decides ties. -/
theorem preferenceScore_exact (candidate : Candidate Rat) (preferences : RoutingPreferences) :
    preferenceScore candidate (some preferences) =
      [candidate.compositeScore + preferenceBonus preferences candidate,
        candidate.compositeScore, -effectiveLatency candidate,
        (candidate.contextWindow : Rat)] := by
  unfold preferenceScore preferenceBonus
  simp only [namedBonus_exact]
  rw [zero_exact]
  unfold latencyPenalty contextBonus
  congr 3
  have hlt : ∀ n : Int, FloatArith.intLt n (effectiveLatency candidate) =
      decide ((n : Rat) < effectiveLatency candidate) := fun _ => rfl
  have hle : ∀ n : Int, FloatArith.intLe n (FloatArith.ofInt (F := Rat) candidate.contextWindow) =
      decide ((n : Rat) ≤ candidate.contextWindow) := fun _ => rfl
  cases preferences.maxLatencyMs <;> cases preferences.minContextTokens <;>
    simp only [hlt, hle, Option.any_some, Option.any_none, decide_eq_true_eq,
      Bool.false_eq_true, if_false]
  all_goals
    repeat' split
    all_goals norm_num

/-- What the named preference adds does not go down with a better candidate. -/
theorem namedBonus_mono (preference : String) {score score' latency latency' window window'
    reliability reliability' : Rat} (hscore : score ≤ score') (hlatency : latency' ≤ latency)
    (hwindow : window ≤ window') (hreliability : reliability' ≤ reliability) :
    namedBonus preference score latency window reliability ≤
      namedBonus preference score' latency' window' reliability' := by
  have hfast : max 0 (5000 - latency) ≤ max 0 (5000 - latency') :=
    max_le_max_left _ (by linarith)
  unfold namedBonus
  split
  · linarith
  · split
    · linarith
    · split
      · linarith
      · split
        · linarith
        · linarith

/-- No preference rewards a worse candidate. -/
theorem preferenceBonus_mono (preferences : RoutingPreferences) {a b : Candidate Rat}
    (h : CandidateDominates a b) :
    preferenceBonus preferences b ≤ preferenceBonus preferences a := by
  have hwindow : (b.contextWindow : Rat) ≤ a.contextWindow := by exact_mod_cast h.contextWindow
  have hfailures : ((a.consecutiveFailures + a.backoffLevel : Int) : Rat) ≤
      (b.consecutiveFailures + b.backoffLevel : Int) := by exact_mod_cast h.failures
  have hpenalty : latencyPenalty preferences (effectiveLatency b) ≤
      latencyPenalty preferences (effectiveLatency a) := by
    unfold latencyPenalty
    cases preferences.maxLatencyMs with
    | none => exact le_refl _
    | some limit =>
        simp only [Option.any_some, decide_eq_true_eq]
        by_cases hslow : (limit : Rat) < effectiveLatency a
        · rw [if_pos hslow, if_pos (lt_of_lt_of_le hslow h.latency)]
        · rw [if_neg hslow]
          split <;> norm_num
  have hcontext : contextBonus preferences b.contextWindow ≤
      contextBonus preferences a.contextWindow := by
    unfold contextBonus
    cases preferences.minContextTokens with
    | none => exact le_refl _
    | some tokens =>
        simp only [Option.any_some, decide_eq_true_eq]
        by_cases hlarge : (tokens : Rat) ≤ b.contextWindow
        · rw [if_pos hlarge, if_pos (le_trans hlarge hwindow)]
        · rw [if_neg hlarge]
          split <;> norm_num
  have hnamed := namedBonus_mono preferences.preference h.compositeScore h.latency hwindow
    hfailures
  exact add_le_add (add_le_add hpenalty hcontext) hnamed

/-- A dominated candidate has the smaller key. -/
theorem preferenceScore_lt (preferences : RoutingPreferences) {a b : Candidate Rat}
    (h : CandidateDominates a b) :
    tupleLt (preferenceScore b (some preferences)) (preferenceScore a (some preferences)) =
      true := by
  have hbonus := preferenceBonus_mono preferences h
  rw [tupleLt_exact, preferenceScore_exact, preferenceScore_exact]
  simp only [List.cons_lt_cons_iff, List.lt_irrefl, and_false, or_false, neg_lt_neg_iff,
    neg_inj]
  rcases lt_or_eq_of_le (add_le_add h.compositeScore hbonus) with hlt | heq
  · exact .inl hlt
  · refine .inr ⟨heq, ?_⟩
    rcases lt_or_eq_of_le h.compositeScore with hlt | hsame
    · exact .inl hlt
    · refine .inr ⟨hsame, ?_⟩
      rcases lt_or_eq_of_le h.latency with hlt | hlatency
      · exact .inl hlt
      · refine .inr ⟨hlatency.symm, ?_⟩
        rcases h.better with hbetter | hbetter | hbetter
        · exact absurd hsame (ne_of_lt hbetter)
        · exact absurd hlatency (ne_of_lt hbetter)
        · exact_mod_cast hbetter

/-! ## The order -/

/-- The order of `sortByPreference`. -/
def preferredTo (preferences : Option RoutingPreferences) (a b : Candidate Rat) : Prop :=
  tupleLt (preferenceScore a preferences) (preferenceScore b preferences) = false

instance (preferences : Option RoutingPreferences) : DecidableRel (preferredTo preferences) :=
  fun _ _ => inferInstanceAs (Decidable (_ = false))

theorem preferredTo_iff (preferences : Option RoutingPreferences) (a b : Candidate Rat) :
    preferredTo preferences a b ↔
      preferenceScore b preferences ≤ preferenceScore a preferences := by
  unfold preferredTo
  rw [← not_lt, ← tupleLt_exact, Bool.not_eq_true]

/-- The sort puts the candidates in order. -/
theorem pairwise_sortByPreference (candidates : List (Candidate Rat))
    (preferences : Option RoutingPreferences) :
    (sortByPreference candidates preferences).Pairwise (preferredTo preferences) := by
  have htotal : Std.Total (preferredTo preferences) := by
    refine ⟨fun a b => ?_⟩
    rw [preferredTo_iff, preferredTo_iff]
    exact le_total _ _
  have htrans : IsTrans (Candidate Rat) (preferredTo preferences) := by
    refine ⟨fun a b c hab hbc => ?_⟩
    rw [preferredTo_iff] at hab hbc ⊢
    exact le_trans hbc hab
  exact List.pairwise_insertionSort _ candidates

/-- Under `auto` the better of two candidates is ordered first, before the truncation and the
fallback. -/
theorem preference_dominance (estimate : EstimateRequiredTokens Rat) (table : ModelsTable Rat)
    (now : String) (req : RoutingRequirements Rat) (preferences : RoutingPreferences)
    (hauto : requestedOrAuto req.requestedModel = "auto") {a b : Candidate Rat}
    (ha : a ∈ filteredCandidates estimate table now
      (effectiveRequirements req (some preferences)))
    (hb : b ∈ filteredCandidates estimate table now
      (effectiveRequirements req (some preferences)))
    (hdominates : CandidateDominates a b) :
    List.Sublist [a, b] (orderedCandidates estimate table now req (some preferences)) ∧
      ¬ List.Sublist [b, a] (orderedCandidates estimate table now req (some preferences)) := by
  have hsorted : orderedCandidates estimate table now req (some preferences) =
      sortByPreference (filteredCandidates estimate table now
        (effectiveRequirements req (some preferences))) (some preferences) := by
    unfold orderedCandidates orderOf
    rw [hauto]
    rfl
  have hpairwise := pairwise_sortByPreference (filteredCandidates estimate table now
    (effectiveRequirements req (some preferences))) (some preferences)
  have hnot : ¬ preferredTo (some preferences) b a := by
    unfold preferredTo
    rw [preferenceScore_lt preferences hdominates]
    exact Bool.noConfusion
  have hne : a ≠ b := by
    rintro rfl
    rcases hdominates.better with h | h | h
    · exact lt_irrefl _ h
    · exact lt_irrefl _ h
    · exact Int.lt_irrefl _ h
  have hperm := perm_orderedCandidates estimate table now req (some preferences)
  rw [hsorted] at hperm ⊢
  refine ⟨pair_sublist_of_pairwise hpairwise (hperm.symm.subset ha) (hperm.symm.subset hb) hne
    hnot, fun h => ?_⟩
  exact hnot (List.pairwise_pair.mp (hpairwise.sublist h))

/-- Of the two sample models the one with the higher score comes first, whatever is
preferred. -/
theorem preference_dominance_sample :
    List.Sublist [candidateOf (sampleRow "a" 2), candidateOf (sampleRow "" 1)]
      (orderedCandidates (fun _ _ _ _ _ _ => .ok 0) sampleTable "2024-01-02T00:00:00Z" plainRequest
        (some { preference := "latency", maxLatencyMs := some 100 })) := by
  have hmem : ∀ row ∈ sampleTable.rows, candidateOf row ∈
      filteredCandidates (fun _ _ _ _ _ _ => .ok 0) sampleTable "2024-01-02T00:00:00Z"
        (effectiveRequirements plainRequest
          (some { preference := "latency", maxLatencyMs := some 100 })) := by
    intro row hrow
    refine mem_filteredCandidates.mpr ⟨row, hrow, ?_, rfl⟩
    revert row
    decide +kernel
  refine (preference_dominance (fun _ _ _ _ _ _ => .ok 0) sampleTable "2024-01-02T00:00:00Z"
    plainRequest { preference := "latency", maxLatencyMs := some 100 } rfl
    (hmem _ (.head _)) (hmem _ (.tail _ (.head _))) ?_).1
  exact ⟨by decide +kernel, by decide +kernel, by decide +kernel, by decide +kernel,
    .inl (by decide +kernel)⟩

end Routing
end FreeLunch
