import FreeLunch.Gateway.ChatCompletions
import FreeLunch.Runtime.FromEnv

/-!
# The bound on the attempts of a request

`routing.max_attempts` is not clamped, and a slice with a negative bound counts from the
end.  The length of the selection is computed for every bound, and with it the attempts that
a request makes.

Main results:

- Theorem `length_pickCandidates_iff`: the length of the selection, for every limit.
- Theorem `leavesCandidate_iff`: when the selection has a candidate.
- Theorem `pickCandidates_length_le_iff`: the limit bounds the candidates and the attempts
  exactly when it is not negative, cuts the whole selection off, or the call raises.
-/

namespace FreeLunch
namespace Gateway

open Python Store Routing

/-! ## The length of a slice -/

theorem length_sliceTo_of_neg {α : Type} {n : Int} (h : n < 0) (items : List α) :
    (sliceTo n items).length = items.length - (-n).toNat := by
  unfold sliceTo
  rw [if_neg (by omega), List.length_take]
  omega

theorem length_sliceTo_le {α : Type} {n : Int} (h : 0 ≤ n) (items : List α) :
    (sliceTo n items).length ≤ n.toNat := by
  rw [sliceTo_of_nonneg h]
  exact List.length_take_le _ _

section Selection

variable {F : Type} [Runtime F] [FloatArith F]

/-! ## The selection -/

/-- A model with the fallback id satisfies the hard constraints; an empty id is no
fallback. -/
def FallbackEligible (estimate : EstimateRequiredTokens F) (table : ModelsTable F)
    (now : String) (req : RoutingRequirements F) (preferences : Option RoutingPreferences)
    (fallbackModelId : Option String) : Prop :=
  ∃ row ∈ table.rows, Satisfies estimate now req preferences row ∧ row.id ≠ "" ∧
    fallbackModelId = some row.id

/-- The number of rows with the hard constraints. -/
def eligibleCount (estimate : EstimateRequiredTokens F) (table : ModelsTable F)
    (now : String) (req : RoutingRequirements F) (preferences : Option RoutingPreferences) :
    Nat :=
  table.rows.countP fun row => decide (Satisfies estimate now req preferences row)

omit [Runtime F] [FloatArith F] in
/-- The fallback stage adds the fallback or nothing. -/
theorem length_withFallback (candidates ordered : List (Candidate F))
    (fallbackModelId : Option String) (limit : Int) :
    (withFallback candidates ordered fallbackModelId limit).length = ordered.length ∨
      (withFallback candidates ordered fallbackModelId limit).length = ordered.length + 1 := by
  have hinsert : ∀ (k : Nat) (fallback : Candidate F),
      (ordered.take k ++ [fallback] ++ ordered.drop k).length = ordered.length + 1 := by
    intro k fallback
    rw [List.append_assoc, List.length_append, List.length_append, List.length_singleton,
      List.length_take, List.length_drop]
    omega
  unfold withFallback insertFallback
  repeat' split
  all_goals first | exact .inl rfl | exact .inr (hinsert _ _)

/-- A limit that cuts the whole order off lets an eligible fallback in. -/
theorem length_withFallback_of_cut {estimate : EstimateRequiredTokens F}
    {table : ModelsTable F} {now : String} {req : RoutingRequirements F}
    {preferences : Option RoutingPreferences} {ordered : List (Candidate F)} {limit : Int}
    (hcut : sliceTo limit ordered = []) (fallbackModelId : Option String) :
    (withFallback
        (filteredCandidates estimate table now (effectiveRequirements req preferences))
        ordered fallbackModelId limit).length = ordered.length + 1 ↔
      FallbackEligible estimate table now req preferences fallbackModelId := by
  cases fallbackModelId with
  | none =>
      refine ⟨fun h => ?_, ?_⟩
      · unfold withFallback at h
        dsimp only at h
        omega
      · rintro ⟨_, _, _, _, hnone⟩
        cases hnone
  | some fallbackModelId =>
      unfold withFallback
      dsimp only
      by_cases hempty : fallbackModelId = ""
      · refine ⟨fun h => ?_, ?_⟩
        · rw [if_neg (by simpa using hempty)] at h
          omega
        · rintro ⟨row, _, _, hid, hfallback⟩
          exact absurd (Option.some.inj hfallback ▸ hempty) hid
      · rw [if_pos (by simpa using hempty)]
        unfold insertFallback
        cases hfind : (filteredCandidates estimate table now
            (effectiveRequirements req preferences)).find? fun candidate =>
              candidate.id == fallbackModelId with
        | none =>
            refine ⟨fun h => ?_, ?_⟩
            · dsimp only at h
              omega
            · rintro ⟨row, hrow, hsat, -, hfallback⟩
              have hne := List.find?_eq_none.mp hfind _
                (mem_filteredCandidates.mpr ⟨row, hrow, hsat, rfl⟩)
              exact absurd (beq_iff_eq.mpr (Option.some.inj hfallback).symm) hne
        | some fallback =>
            obtain ⟨row, hrow, hsat, hserialized⟩ :=
              mem_filteredCandidates.mp (List.mem_of_find?_eq_some hfind)
            have hid : row.id = fallbackModelId := by
              have h := List.find?_some hfind
              rw [← hserialized] at h
              exact beq_iff_eq.mp h
            refine ⟨fun _ => ⟨row, hrow, hsat, hid ▸ hempty, congrArg some hid.symm⟩, ?_⟩
            intro _
            dsimp only
            rw [hcut, List.all_nil, if_pos rfl, List.append_assoc, List.length_append,
              List.length_append, List.length_singleton, List.length_take, List.length_drop]
            omega

/-- A limit that is not negative bounds the selection; a negative one leaves nothing only
when it cuts off every eligible row and the fallback, or when the call raises. -/
theorem length_pickCandidates_iff (estimate : EstimateRequiredTokens F)
    (table : ModelsTable F) (now : String) (req : RoutingRequirements F)
    (preferences : Option RoutingPreferences) (fallbackModelId : Option String)
    (limit : Int) :
    (∀ result, pickCandidates estimate table now req preferences fallbackModelId limit =
        .ok result → (result.length : Int) ≤ max limit 0) ↔
      0 ≤ limit ∨ ¬ Readable estimate table now req preferences ∨
        ((eligibleCount estimate table now req preferences : Int) ≤ -limit ∧
          (FallbackEligible estimate table now req preferences fallbackModelId →
            (eligibleCount estimate table now req preferences : Int) < -limit)) := by
  by_cases hlimit : 0 ≤ limit
  · refine ⟨fun _ => .inl hlimit, fun _ result hresult => ?_⟩
    have hlength := length_sliceTo_le hlimit (withFallback
      (filteredCandidates estimate table now (effectiveRequirements req preferences))
      (orderedCandidates estimate table now req preferences) fallbackModelId limit)
    rw [pickCandidates_eq_ok hresult, List.length_map]
    omega
  · have hneg : limit < 0 := by omega
    have hcount : (orderedCandidates estimate table now req preferences).length =
        eligibleCount estimate table now req preferences :=
      (perm_orderedCandidates estimate table now req preferences).length_eq.trans
        (length_filteredCandidates estimate table now req preferences)
    by_cases hreadable : Readable estimate table now req preferences
    swap
    · refine ⟨fun _ => .inr (.inl hreadable), fun _ result hresult => ?_⟩
      exact absurd (readable_of_ok hresult) hreadable
    rw [pickCandidates_eq hreadable]
    by_cases hempty : (filteredCandidates estimate table now
        (effectiveRequirements req preferences)).isEmpty = true
    · -- no row is eligible, so there is no selection and no fallback either
      have hnone := (filteredCandidates_eq_nil_iff estimate table now req preferences).mp
        (List.isEmpty_iff.mp hempty)
      have hzero : eligibleCount estimate table now req preferences = 0 := by
        unfold eligibleCount
        rw [← length_filteredCandidates, List.isEmpty_iff.mp hempty, List.length_nil]
      refine ⟨fun _ => .inr (.inr ⟨by omega, ?_⟩), ?_⟩
      · rintro ⟨row, hrow, hsat, -⟩
        exact absurd hsat (hnone row hrow)
      · intro _ result hresult
        rw [if_pos hempty] at hresult
        cases hresult
    · rw [if_neg hempty]
      have hstage := length_withFallback
        (filteredCandidates estimate table now (effectiveRequirements req preferences))
        (orderedCandidates estimate table now req preferences) fallbackModelId limit
      have hfallback : (eligibleCount estimate table now req preferences : Int) ≤ -limit →
          ((withFallback
            (filteredCandidates estimate table now (effectiveRequirements req preferences))
            (orderedCandidates estimate table now req preferences) fallbackModelId
              limit).length = eligibleCount estimate table now req preferences + 1 ↔
            FallbackEligible estimate table now req preferences fallbackModelId) := by
        intro hle
        rw [← hcount]
        apply length_withFallback_of_cut
        apply List.eq_nil_of_length_eq_zero
        rw [length_sliceTo_of_neg hneg]
        omega
      constructor
      · intro hbound
        have hlength := hbound _ rfl
        rw [List.length_map, length_sliceTo_of_neg hneg] at hlength
        have hle : (eligibleCount estimate table now req preferences : Int) ≤ -limit := by
          omega
        refine .inr (.inr ⟨hle, fun heligible => ?_⟩)
        have hlonger := (hfallback hle).mpr heligible
        omega
      · rintro (hlimit' | hraises | ⟨hle, hlt⟩) result hresult
        · exact absurd hlimit' hlimit
        · exact absurd hreadable hraises
        · cases hresult
          rw [List.length_map, length_sliceTo_of_neg hneg]
          by_cases heligible :
              FallbackEligible estimate table now req preferences fallbackModelId
          · have := hlt heligible
            omega
          · have hsame := mt (hfallback hle).mp heligible
            omega

/-- The limit leaves a candidate: it is positive and there is one, or it is negative and does
not cut off every eligible row and the fallback. -/
def LeavesCandidate (estimate : EstimateRequiredTokens F) (table : ModelsTable F)
    (now : String) (req : RoutingRequirements F) (preferences : Option RoutingPreferences)
    (fallbackModelId : Option String) (limit : Int) : Prop :=
  (1 ≤ limit ∧ 0 < eligibleCount estimate table now req preferences) ∨
    (limit < 0 ∧ (-limit < eligibleCount estimate table now req preferences ∨
      (-limit = eligibleCount estimate table now req preferences ∧
        FallbackEligible estimate table now req preferences fallbackModelId)))

/-- Without eligible rows no limit leaves a candidate. -/
theorem not_leavesCandidate_of_none {estimate : EstimateRequiredTokens F}
    {table : ModelsTable F} {now : String} {req : RoutingRequirements F}
    {preferences : Option RoutingPreferences}
    (h : ∀ row ∈ table.rows, ¬ Satisfies estimate now req preferences row)
    (fallbackModelId : Option String) (limit : Int) :
    ¬ LeavesCandidate estimate table now req preferences fallbackModelId limit := by
  have hcount : eligibleCount estimate table now req preferences = 0 := by
    unfold eligibleCount
    rw [List.countP_eq_zero]
    simpa using h
  unfold LeavesCandidate
  rw [hcount]
  omega

/-- A selection that returns is not empty exactly when the limit leaves a candidate. -/
theorem ne_nil_pickCandidates_iff {estimate : EstimateRequiredTokens F}
    {table : ModelsTable F} {now : String} {req : RoutingRequirements F}
    {preferences : Option RoutingPreferences} {fallbackModelId : Option String}
    {limit : Int} {result : List Routed}
    (h : pickCandidates estimate table now req preferences fallbackModelId limit =
      .ok result) :
    result ≠ [] ↔ LeavesCandidate estimate table now req preferences fallbackModelId limit := by
  have hreadable := readable_of_ok h
  have hbound := length_pickCandidates_iff estimate table now req preferences fallbackModelId
    limit
  simp only [h, Except.ok.injEq, forall_eq', hreadable, not_true_eq_false, false_or] at hbound
  rw [← List.length_pos_iff]
  unfold LeavesCandidate
  by_cases hpositive : 1 ≤ limit
  · have hlength := length_of_pickCandidates hpositive h
    have hcount : eligibleCount estimate table now req preferences =
        table.rows.countP fun row => decide (Satisfies estimate now req preferences row) := rfl
    rw [hlength, hcount]
    omega
  · by_cases heligible : FallbackEligible estimate table now req preferences fallbackModelId
    · simp only [heligible, forall_const, and_true] at hbound ⊢
      omega
    · simp only [heligible, false_implies, and_true, and_false, or_false] at hbound ⊢
      omega

/-- A readable call selects something exactly when the limit leaves a candidate. -/
theorem leavesCandidate_iff {estimate : EstimateRequiredTokens F} {table : ModelsTable F}
    {now : String} {req : RoutingRequirements F} {preferences : Option RoutingPreferences}
    (hreadable : Readable estimate table now req preferences)
    (fallbackModelId : Option String) (limit : Int) :
    LeavesCandidate estimate table now req preferences fallbackModelId limit ↔
      ∃ result, pickCandidates estimate table now req preferences fallbackModelId limit =
        .ok result ∧ result ≠ [] := by
  constructor
  · intro hleaves
    by_cases hempty : (filteredCandidates estimate table now
        (effectiveRequirements req preferences)).isEmpty = true
    · have hnone := (filteredCandidates_eq_nil_iff estimate table now req preferences).mp
        (List.isEmpty_iff.mp hempty)
      exact absurd hleaves (not_leavesCandidate_of_none hnone fallbackModelId limit)
    · have hpick := pickCandidates_eq hreadable fallbackModelId limit
      rw [if_neg hempty] at hpick
      exact ⟨_, hpick, (ne_nil_pickCandidates_iff hpick).mpr hleaves⟩
  · rintro ⟨result, hpick, hne⟩
    exact (ne_nil_pickCandidates_iff hpick).mp hne

end Selection

/-! ## The attempts -/

/-- A request makes at most one attempt for each candidate. -/
theorem length_attempts_le {F : Type} [Runtime F] (env : ChatEnv F) (candidates : List Routed) :
    ∀ idx, (attempts env idx candidates).length ≤ candidates.length := by
  induction candidates with
  | nil =>
      intro idx
      exact Nat.le_refl _
  | cons candidate rest ih =>
      intro idx
      unfold attempts
      cases env.registry candidate.providerId with
      | none => exact Nat.zero_le _
      | some categorizeError =>
          simp only [List.length_cons, Nat.add_le_add_iff_right]
          cases (attempt env idx candidate).2 with
          | ok answer => exact Nat.zero_le _
          | error raised =>
              dsimp only
              by_cases hover : raised.failsOver = true
              · rw [if_pos hover]
                exact ih (idx + 1)
              · rw [if_neg hover]
                exact Nat.zero_le _

/-- The limit bounds the candidates and the attempts of a request exactly when it is not
negative, when it cuts off all eligible models and the fallback, or when the call raises. -/
theorem pickCandidates_length_le_iff {F G : Type} [Runtime F] [FloatArith F] [Runtime G]
    (estimate : EstimateRequiredTokens F) (table : ModelsTable F) (now : String)
    (req : RoutingRequirements F) (preferences : Option RoutingPreferences)
    (fallbackModelId : Option String) (limit : Int) :
    (∀ result, pickCandidates estimate table now req preferences fallbackModelId limit =
        .ok result →
      (result.length : Int) ≤ max limit 0 ∧
        ∀ env : ChatEnv G, ((attempts env 0 result).length : Int) ≤ max limit 0) ↔
      0 ≤ limit ∨ ¬ Readable estimate table now req preferences ∨
        ((eligibleCount estimate table now req preferences : Int) ≤ -limit ∧
          (FallbackEligible estimate table now req preferences fallbackModelId →
            (eligibleCount estimate table now req preferences : Int) < -limit)) := by
  rw [← length_pickCandidates_iff]
  constructor
  · intro h result hresult
    exact (h result hresult).1
  · intro h result hresult
    refine ⟨h result hresult, fun env => ?_⟩
    have hattempts := length_attempts_le env result 0
    have hresult := h result hresult
    omega

/-- The limit `-1` is admitted, and a request over two routable models gets one candidate
and makes one attempt. -/
theorem negative_limit_admits_attempts :
    FreeLunch.Runtime.Admitted Exact .routingMaxAttempts (-1) ∧
      pickCandidates (fun _ _ _ _ _ _ => .ok 0) sampleTable "2024-01-02T00:00:00Z" plainRequest
        none none (-1) = .ok [routedRow (sampleRow "a" 2)] ∧
      (attempts (sampleEnv false fun _ => 0) 0 [routedRow (sampleRow "a" 2)]).length = 1 ∧
      ¬ (1 : Int) ≤ max (-1) 0 := by
  refine ⟨FreeLunch.Runtime.admitted_routingMaxAttempts (-1), ?_, ?_, ?_⟩
  · decide +kernel
  · decide +kernel
  · decide

end Gateway
end FreeLunch
