import FreeLunch.Routing.PickCandidates

/-!
# Explicit model precedence

A request that names a model is first tried on the candidates with that name.  The fallback
model takes the last place among the returned ones, which with a single place is the first.

Main results:

- Theorem `mem_matchExplicitModel`: the explicit candidates are the rows that match the
  requested name.
- Theorem `explicit_model_first`: the first candidate returned is a match, as long as a
  single place does not go to another fallback.
- Theorem `explicit_model_displaced`: an empty name is no name, and a single place goes to
  the fallback.
-/

namespace FreeLunch
namespace Routing

open Python Store

section Explicit

variable {F : Type} [Runtime F] [FloatArith F]

/-! ## Matches -/

/-- The row has the name as its id or as its provider model id. -/
def NamedBy (name : String) (row : ModelRow F) : Prop :=
  row.id = name ∨ row.providerModelId = name

/-- The row satisfies the hard constraints and has the requested name, or no such row has
it and it has the name without the suffix `:free`. -/
structure ExplicitMatch (estimate : EstimateRequiredTokens F) (table : ModelsTable F)
    (now : String) (req : RoutingRequirements F) (preferences : Option RoutingPreferences)
    (requested : String) (row : ModelRow F) : Prop where
  mem : row ∈ table.rows
  satisfies : Satisfies estimate now req preferences row
  named : NamedBy requested row ∨
    (∀ other ∈ table.rows, Satisfies estimate now req preferences other →
      ¬ NamedBy requested other) ∧
    ∃ base : String, requested = base ++ ":free" ∧ NamedBy base row

omit [Runtime F] [FloatArith F] in
theorem mem_namedCandidates {candidates : List (Candidate F)} {name : String}
    {candidate : Candidate F} :
    candidate ∈ namedCandidates candidates name.toList ↔
      candidate ∈ candidates ∧ (candidate.id = name ∨ candidate.providerModelId = name) := by
  unfold namedCandidates
  rw [List.mem_filter, Bool.or_eq_true, beq_iff_eq, beq_iff_eq, String.toList_inj,
    String.toList_inj]

/-- The name without the suffix `:free`. -/
theorem take_of_free {requested base : String} (h : requested = base ++ ":free") :
    requested.toList.take (requested.toList.length - 5) = base.toList := by
  have hfive : ":free".toList.length = 5 := rfl
  rw [h, String.toList_append, List.length_append, hfive, Nat.add_sub_cancel,
    List.take_left]

/-- A name that ends in `:free` is some name with that suffix. -/
theorem endsWith_free_iff (requested : String) :
    endsWith requested.toList ":free".toList = true ↔
      ∃ base : String, requested = base ++ ":free" := by
  unfold endsWith
  rw [List.isSuffixOf_iff_suffix]
  constructor
  · rintro ⟨start, hstart⟩
    refine ⟨String.ofList start, ?_⟩
    apply String.toList_inj.mp
    rw [String.toList_append, String.toList_ofList, hstart]
  · rintro ⟨base, rfl⟩
    exact ⟨base.toList, (String.toList_append).symm⟩

/-- The explicit candidates are the rows that match the requested name. -/
theorem mem_matchExplicitModel {estimate : EstimateRequiredTokens F} {table : ModelsTable F}
    {now : String} {req : RoutingRequirements F} {preferences : Option RoutingPreferences}
    {requested : String} {candidate : Candidate F} :
    candidate ∈ matchExplicitModel
        (filteredCandidates estimate table now (effectiveRequirements req preferences))
        requested ↔
      ∃ row, ExplicitMatch estimate table now req preferences requested row ∧
        candidateOf row = candidate := by
  have hexact : (∃ found, found ∈ namedCandidates (filteredCandidates estimate table now
      (effectiveRequirements req preferences)) requested.toList) ↔
      ∃ row ∈ table.rows, Satisfies estimate now req preferences row ∧
        NamedBy requested row := by
    constructor
    · rintro ⟨found, hfound⟩
      obtain ⟨hmem, hnamed⟩ := mem_namedCandidates.mp hfound
      obtain ⟨row, hrow, hsat, rfl⟩ := mem_filteredCandidates.mp hmem
      exact ⟨row, hrow, hsat, hnamed⟩
    · rintro ⟨row, hrow, hsat, hnamed⟩
      exact ⟨candidateOf row, mem_namedCandidates.mpr
        ⟨mem_filteredCandidates.mpr ⟨row, hrow, hsat, rfl⟩, hnamed⟩⟩
  unfold matchExplicitModel
  dsimp only
  by_cases hempty : (namedCandidates (filteredCandidates estimate table now
      (effectiveRequirements req preferences)) requested.toList).isEmpty = true
  · have hnone : ∀ other ∈ table.rows, Satisfies estimate now req preferences other →
        ¬ NamedBy requested other := by
      intro other hother hsat hnamed
      obtain ⟨found, hfound⟩ := hexact.mpr ⟨other, hother, hsat, hnamed⟩
      rw [List.isEmpty_iff.mp hempty] at hfound
      cases hfound
    rw [hempty]
    simp only [Bool.not_true, Bool.false_eq_true, if_false]
    by_cases hfree : endsWith requested.toList ":free".toList = true
    · obtain ⟨base, hbase⟩ := (endsWith_free_iff requested).mp hfree
      rw [if_pos hfree, take_of_free hbase, mem_namedCandidates]
      constructor
      · rintro ⟨hmem, hnamed⟩
        obtain ⟨row, hrow, hsat, rfl⟩ := mem_filteredCandidates.mp hmem
        exact ⟨row, ⟨hrow, hsat, .inr ⟨hnone, base, hbase, hnamed⟩⟩, rfl⟩
      · rintro ⟨row, ⟨hrow, hsat, hnamed | ⟨-, base', hbase', hnamed⟩⟩, rfl⟩
        · exact absurd hnamed (hnone row hrow hsat)
        · have hsame : base' = base := by
            apply String.toList_inj.mp
            rw [← take_of_free hbase, ← take_of_free hbase']
          exact ⟨mem_filteredCandidates.mpr ⟨row, hrow, hsat, rfl⟩, hsame ▸ hnamed⟩
    · rw [if_neg hfree]
      constructor
      · intro hmem
        cases hmem
      · rintro ⟨row, ⟨hrow, hsat, hnamed | ⟨-, hbase⟩⟩, -⟩
        · exact absurd hnamed (hnone row hrow hsat)
        · obtain ⟨base, hbase, -⟩ := hbase
          exact absurd ((endsWith_free_iff requested).mpr ⟨base, hbase⟩) hfree
  · rw [Bool.not_eq_true] at hempty
    rw [hempty]
    simp only [Bool.not_false, if_true]
    rw [mem_namedCandidates]
    obtain ⟨first, hfirst⟩ := List.exists_mem_of_ne_nil _ (List.isEmpty_eq_false_iff.mp hempty)
    obtain ⟨found, hfound, hfoundSat, hfoundNamed⟩ := hexact.mp ⟨first, hfirst⟩
    constructor
    · rintro ⟨hmem, hnamed⟩
      obtain ⟨row, hrow, hsat, rfl⟩ := mem_filteredCandidates.mp hmem
      exact ⟨row, ⟨hrow, hsat, .inl hnamed⟩, rfl⟩
    · rintro ⟨row, ⟨hrow, hsat, hnamed | ⟨hnone, -⟩⟩, rfl⟩
      · exact ⟨mem_filteredCandidates.mpr ⟨row, hrow, hsat, rfl⟩, hnamed⟩
      · exact absurd hfoundNamed (hnone found hfound hfoundSat)

/-! ## The first candidate -/

omit [Runtime F] in
/-- With an explicit match the order starts with the matches. -/
theorem orderOf_explicit {candidates : List (Candidate F)} {requested : String}
    (hauto : requested ≠ "auto") (preferences : Option RoutingPreferences)
    (hexplicit : matchExplicitModel candidates requested ≠ []) :
    ∃ first rest, first ∈ matchExplicitModel candidates requested ∧
      orderOf candidates requested preferences = first :: rest := by
  have hne : (requested != "auto") = true := by simpa using hauto
  unfold orderOf explicitFirst
  cases hmatch : matchExplicitModel candidates requested with
  | nil => exact absurd hmatch hexplicit
  | cons first others =>
      simp only [hne, if_true, List.isEmpty_cons, Bool.not_false]
      exact ⟨first, _, List.mem_cons_self, rfl⟩

omit [Runtime F] [FloatArith F] in
/-- With more than one place, or a fallback that is itself wanted in the first place, the
fallback stage leaves a wanted candidate there. -/
theorem head_withFallback {candidates : List (Candidate F)} {first : Candidate F}
    {rest : List (Candidate F)} (hperm : (first :: rest).Perm candidates)
    (fallbackModelId : Option String) {limit : Int} (hlimit : 1 ≤ limit)
    (Wanted : Candidate F → Prop) (hfirst : Wanted first)
    (hfallback : limit = 1 → ∀ fallback ∈ candidates, fallback.id ≠ "" →
      fallbackModelId = some fallback.id → Wanted fallback) :
    ∃ head tail, Wanted head ∧ head ∈ candidates ∧
      sliceTo limit (withFallback candidates (first :: rest) fallbackModelId limit) =
        head :: tail := by
  have hmem : first ∈ candidates := hperm.subset List.mem_cons_self
  have hplain : sliceTo limit (first :: rest) = first :: rest.take (limit.toNat - 1) := by
    obtain ⟨n, hn⟩ : ∃ n, limit.toNat = n + 1 := ⟨limit.toNat - 1, by omega⟩
    rw [sliceTo_of_nonneg (by omega), hn, List.take_succ_cons, Nat.add_sub_cancel]
  unfold withFallback
  split
  · rename_i fallbackId
    split
    · rename_i hne
      rcases sliceTo_insertFallback hperm fallbackId hlimit with
        ⟨hsame, -⟩ | ⟨fallback, hcandidate, hid, -, -, heq⟩
      · exact ⟨first, _, hfirst, hmem, hsame.trans hplain⟩
      · rw [heq]
        by_cases hone : limit = 1
        · have hwanted : Wanted fallback := by
            refine hfallback hone fallback hcandidate ?_ (by rw [hid])
            rw [hid]
            simpa using hne
          refine ⟨fallback, [], hwanted, hcandidate, ?_⟩
          rw [hone]
          rfl
        · obtain ⟨n, hn⟩ : ∃ n, (limit - 1).toNat = n + 1 := ⟨(limit - 1).toNat - 1, by omega⟩
          rw [hn, List.take_succ_cons, List.cons_append]
          exact ⟨first, _, hfirst, hmem, rfl⟩
    · exact ⟨first, _, hfirst, hmem, hplain⟩
  · exact ⟨first, _, hfirst, hmem, hplain⟩

/-- When a row matches the requested name, the first candidate that a readable call returns is
such a row, as long as a single place does not go to a fallback that is no such row. -/
theorem explicit_model_first (estimate : EstimateRequiredTokens F) (table : ModelsTable F)
    (now : String) (req : RoutingRequirements F) (preferences : Option RoutingPreferences)
    (fallbackModelId : Option String) {limit : Int} (hlimit : 1 ≤ limit) {requested : String}
    (hrequested : req.requestedModel = some requested) (hauto : requested ≠ "auto")
    (hempty : requested ≠ "") (hreadable : Readable estimate table now req preferences)
    (hmatch : ∃ row, ExplicitMatch estimate table now req preferences requested row)
    (hfallback : limit = 1 → ∀ row ∈ table.rows, row.id ≠ "" →
      fallbackModelId = some row.id → Satisfies estimate now req preferences row →
        ExplicitMatch estimate table now req preferences requested row) :
    ∃ row rest, ExplicitMatch estimate table now req preferences requested row ∧
      pickCandidates estimate table now req preferences fallbackModelId limit =
        .ok (routedRow row :: rest) := by
  have hname : requestedOrAuto req.requestedModel = requested := by
    rw [hrequested]
    exact if_neg hempty
  have hexplicit : matchExplicitModel (filteredCandidates estimate table now
      (effectiveRequirements req preferences)) requested ≠ [] := by
    obtain ⟨row, hrow⟩ := hmatch
    exact List.ne_nil_of_mem (mem_matchExplicitModel.mpr ⟨row, hrow, rfl⟩)
  obtain ⟨first, rest, hfirst, horder⟩ :=
    orderOf_explicit hauto preferences hexplicit
  have hperm := perm_orderedCandidates estimate table now req preferences
  have hordered : orderedCandidates estimate table now req preferences = first :: rest := by
    unfold orderedCandidates
    rw [hname, horder]
  rw [hordered] at hperm
  have hlast : limit = 1 → ∀ fallback ∈ filteredCandidates estimate table now
      (effectiveRequirements req preferences), fallback.id ≠ "" →
      fallbackModelId = some fallback.id →
      ∃ row, ExplicitMatch estimate table now req preferences requested row ∧
        candidateOf row = fallback := by
    intro hone fallback hcandidate hid hsome
    obtain ⟨row, hrow, hsat, rfl⟩ := mem_filteredCandidates.mp hcandidate
    exact ⟨row, hfallback hone row hrow hid hsome hsat, rfl⟩
  obtain ⟨head, tail, ⟨row, hrow, rfl⟩, hmem, hslice⟩ :=
    head_withFallback hperm fallbackModelId hlimit _ (mem_matchExplicitModel.mp hfirst) hlast
  refine ⟨row, tail.map Candidate.routed, hrow, ?_⟩
  have hnonempty : (filteredCandidates estimate table now
      (effectiveRequirements req preferences)).isEmpty = false :=
    List.isEmpty_eq_false_iff.mpr (List.ne_nil_of_mem hmem)
  rw [pickCandidates_eq hreadable, hnonempty, hordered, hslice]
  rfl

/-- When some candidate has the requested name itself, every match has it. -/
theorem ExplicitMatch.namedBy {estimate : EstimateRequiredTokens F} {table : ModelsTable F}
    {now : String} {req : RoutingRequirements F} {preferences : Option RoutingPreferences}
    {requested : String} {row named : ModelRow F}
    (h : ExplicitMatch estimate table now req preferences requested row)
    (hmem : named ∈ table.rows) (hsat : Satisfies estimate now req preferences named)
    (hnamed : NamedBy requested named) : NamedBy requested row := by
  rcases h.named with hrow | ⟨hnone, -⟩
  · exact hrow
  · exact absurd hnamed (hnone named hmem hsat)

end Explicit

/-! ## One place -/

/-- Two routable models. -/
def twoModels : ModelsTable Rat where
  rows := [sampleRow "a" 2, sampleRow "b" 1]
  ids_nodup := by decide

/-- A plain chat request for a model. -/
def requestFor (model : String) : RoutingRequirements Rat :=
  { plainRequest with requestedModel := some model }

/-- The request can be answered from the two models. -/
theorem readable_twoModels : Readable (fun _ _ _ _ _ _ => .ok 0) twoModels
    "2024-01-02T00:00:00Z" (requestFor "b") none where
  minContextWindow := by decide
  minOutputTokens := by decide
  windows := by
    intro row hrow _
    rcases List.mem_pair.mp hrow with rfl | rfl
    · exact ⟨4096, rfl⟩
    · exact ⟨4096, rfl⟩
  estimates := fun _ _ _ _ _ => ⟨0, rfl⟩
  scores := fun h => absurd rfl h

/-- The requested model comes before a better one when the fallback has no place to take. -/
theorem explicit_model_first_two :
    ∃ row rest, ExplicitMatch (fun _ _ _ _ _ _ => .ok 0) twoModels "2024-01-02T00:00:00Z"
        (requestFor "b") none "b" row ∧
      pickCandidates (fun _ _ _ _ _ _ => .ok 0) twoModels "2024-01-02T00:00:00Z" (requestFor "b")
        none (some "a") 2 = .ok (routedRow row :: rest) :=
  explicit_model_first _ _ _ _ none (some "a") (by decide : (1 : Int) ≤ 2) rfl (by decide)
    (by decide) readable_twoModels
    ⟨sampleRow "b" 1, ⟨by decide, by decide +kernel, .inl (.inl rfl)⟩⟩
    (fun h => absurd h (by decide))

/-- A single place goes to the fallback although the requested model is a candidate, and a
request for the empty name is a request for none. -/
theorem explicit_model_displaced :
    (ExplicitMatch (fun _ _ _ _ _ _ => .ok 0) twoModels "2024-01-02T00:00:00Z" (requestFor "b")
        none "b" (sampleRow "b" 1) ∧
      pickCandidates (fun _ _ _ _ _ _ => .ok 0) twoModels "2024-01-02T00:00:00Z" (requestFor "b")
        none (some "a") 1 = .ok [routedRow (sampleRow "a" 2)] ∧
      ∀ row, ExplicitMatch (fun _ _ _ _ _ _ => .ok 0) twoModels "2024-01-02T00:00:00Z"
        (requestFor "b") none "b" row → routedRow row ≠ routedRow (sampleRow "a" 2)) ∧
    (ExplicitMatch (fun _ _ _ _ _ _ => .ok 0) sampleTable "2024-01-02T00:00:00Z" (requestFor "")
        none "" (sampleRow "" 1) ∧
      pickCandidates (fun _ _ _ _ _ _ => .ok 0) sampleTable "2024-01-02T00:00:00Z" (requestFor "")
        none none 1 = .ok [routedRow (sampleRow "a" 2)] ∧
      ∀ row, ExplicitMatch (fun _ _ _ _ _ _ => .ok 0) sampleTable "2024-01-02T00:00:00Z"
        (requestFor "") none "" row → routedRow row ≠ routedRow (sampleRow "a" 2)) := by
  have hb : ExplicitMatch (fun _ _ _ _ _ _ => .ok 0) twoModels "2024-01-02T00:00:00Z"
      (requestFor "b") none "b" (sampleRow "b" 1) :=
    ⟨by decide, by decide +kernel, .inl (.inl rfl)⟩
  have hempty : ExplicitMatch (fun _ _ _ _ _ _ => .ok 0) sampleTable "2024-01-02T00:00:00Z"
      (requestFor "") none "" (sampleRow "" 1) :=
    ⟨by decide, by decide +kernel, .inl (.inl rfl)⟩
  have hdiffers : ∀ {name : String} {row : ModelRow Rat}, name ≠ "a" → NamedBy name row →
      routedRow row ≠ routedRow (sampleRow "a" 2) := by
    intro name row hname hnamed heq
    have hid : row.id = "a" := congrArg Routed.id heq
    have hmodel : row.providerModelId = "a" := congrArg Routed.providerModelId heq
    rcases hnamed with hnamed | hnamed
    · exact hname (hnamed.symm.trans hid)
    · exact hname (hnamed.symm.trans hmodel)
  refine ⟨⟨hb, by decide +kernel, ?_⟩, hempty, by decide +kernel, ?_⟩
  · intro row hrow
    exact hdiffers (by decide) (hrow.namedBy hb.mem hb.satisfies (.inl rfl))
  · intro row hrow
    exact hdiffers (by decide) (hrow.namedBy hempty.mem hempty.satisfies (.inl rfl))

end Routing
end FreeLunch
