import FreeLunch.Foundations.Distinct
import FreeLunch.Python.DateTime
import FreeLunch.Routing.RankingDominance
import FreeLunch.Runtime.FromEnv

/-!
# The selection of probe candidates

`_select_bootstrap_candidates` and `_select_probe_candidates` of `src/health.py`: the queries
with their limits, and the loop that merges their rows.

Main results:

- Theorem `bootstrapSelection_iff`, `probeSelection_iff`: the selections keep their contract
  exactly when the limits can be bound and are positive or leave nothing to collect.
- Theorem `selections_iff`: both together, for the admitted limits.
-/

namespace FreeLunch
namespace Health

open FreeLunch.Runtime Python Store Routing Distinct Writes

/-! ## Queries -/

/-- The columns the selections read. -/
structure ProbeTarget where
  id : String
  providerId : String
  providerModelId : String
deriving DecidableEq, Repr

/-- `probe_reason`: the buckets, in the order in which they are merged. -/
inductive ProbeReason where
  | cooldownRecovery
  | neverProbed
  | stale
deriving DecidableEq, Repr

/-- The position of a bucket. -/
def ProbeReason.rank : ProbeReason → Nat
  | .cooldownRecovery => 0
  | .neverProbed => 1
  | .stale => 2

/-- A candidate with the bucket it comes from. -/
structure ProbeCandidate extends ProbeTarget where
  probeReason : ProbeReason
deriving DecidableEq, Repr

section Selection

variable {F : Type} [FloatArith F]

/-- `SELECT id, provider_id, provider_model_id`. -/
def targetOf (row : ModelRow F) : ProbeTarget where
  id := row.id
  providerId := row.providerId
  providerModelId := row.providerModelId

/-- `LIMIT ?`: a negative number is no limit. -/
def sqlLimit {α : Type} (n : SqlInt) (rows : List α) : List α :=
  if n.val < 0 then rows else rows.take n.val.toNat

/-- `ORDER BY composite_score DESC`. -/
def byScore (rows : List (ModelRow F)) : List (ModelRow F) :=
  rows.insertionSort fun a b => scoreLt a.compositeScore b.compositeScore = false

/-- `ORDER BY cooldown_until ASC, composite_score DESC`. -/
def byCooldown (rows : List (ModelRow F)) : List (ModelRow F) :=
  rows.insertionSort fun a b =>
    a.cooldownUntil.getD "" < b.cooldownUntil.getD "" ∨
      a.cooldownUntil.getD "" = b.cooldownUntil.getD "" ∧
        scoreLt a.compositeScore b.compositeScore = false

/-- `is_active=1`. -/
def isActiveRow (row : ModelRow F) : Bool :=
  row.isActive == some 1

/-- The `WHERE` clause of the models whose cooldown has ended. -/
def isCooledDown (now : String) (row : ModelRow F) : Bool :=
  isActiveRow row && row.cooldownUntil.any fun cooldown => decide (cooldown < now)

/-- The `WHERE` clause of the models that were never probed. -/
def isNeverProbed (row : ModelRow F) : Bool :=
  isActiveRow row && row.lastProbeAt.isNone

/-- The `WHERE` clause of the models whose last success and last probe are old. -/
def isStale (staleBefore : String) (row : ModelRow F) : Bool :=
  isActiveRow row && (row.lastSuccessAt.all fun time => decide (time < staleBefore)) &&
    row.lastProbeAt.all fun time => decide (time < staleBefore)

/-- The fallback model, if it is stored and active; an empty id is no fallback. -/
def fallbackRows (table : ModelsTable F) (fallbackModel : String) : List (ModelRow F) :=
  if fallbackModel = "" then []
  else (table.rows.find? fun row => row.id == fallbackModel && isActiveRow row).toList

/-- The rows of `_select_bootstrap_candidates`. -/
def bootstrapRows (table : ModelsTable F) (fallbackModel : String) (limit : SqlInt) :
    List (ModelRow F) :=
  fallbackRows table fallbackModel ++ sqlLimit limit (byScore (table.rows.filter isActiveRow))

/-- `_select_bootstrap_candidates`. -/
def selectBootstrapCandidates (table : ModelsTable F) (fallbackModel : String) (limit : Int) :
    Except Exc (List ProbeTarget) := do
  let rowLimit ← bindInt (max limit 0)
  return gathered ProbeTarget.id limit ((bootstrapRows table fallbackModel rowLimit).map targetOf)

/-- A bucket of `_select_probe_candidates`. -/
def bucket (reason : ProbeReason) (rows : List (ModelRow F)) : List ProbeCandidate :=
  rows.map fun row => { targetOf row with probeReason := reason }

/-- The buckets of `_select_probe_candidates`, one after the other. -/
def probeRows (table : ModelsTable F) (now staleBefore : String)
    (maxProbesPerRun topNStaleProbe : SqlInt) : List ProbeCandidate :=
  bucket .cooldownRecovery
      (sqlLimit maxProbesPerRun (byCooldown (table.rows.filter (isCooledDown now)))) ++
    bucket .neverProbed
      (sqlLimit maxProbesPerRun (byScore (table.rows.filter isNeverProbed))) ++
    bucket .stale
      (sqlLimit topNStaleProbe (byScore (table.rows.filter (isStale staleBefore))))

/-- `_stale_before_iso`. -/
def staleBeforeIso (now : DateTime) (minutes : Int) : Except Exc String := do
  let date ← now.sub (minutes * microsecondsPerMinute)
  return date.isoZ

/-- `_select_probe_candidates`, with the two times it reads. -/
def selectProbeCandidates (settings : Settings F) (table : ModelsTable F)
    (now staleNow : DateTime) : Except Exc (List ProbeCandidate) := do
  let staleBefore ← staleBeforeIso staleNow (settings.int .healthStaleAfterMinutes)
  let maxProbesPerRun ← bindInt (settings.int .healthMaxProbesPerRun)
  let topNStaleProbe ← bindInt (settings.int .healthTopNStaleProbe)
  return gathered (fun candidate => candidate.id) (settings.int .healthMaxProbesPerRun)
    (probeRows table now.isoZ staleBefore maxProbesPerRun topNStaleProbe)

/-! ## The contract -/

/-- What `_select_bootstrap_candidates` returns: distinct active models, no more than the
limit, the fallback first, and fewer than the limit only if no active model is left. -/
structure BootstrapSelection (table : ModelsTable F) (fallbackModel : String) (limit : Int)
    (out : List ProbeTarget) : Prop where
  distinct : (out.map ProbeTarget.id).Nodup
  active : ∀ target ∈ out, ∃ row ∈ table.rows, isActiveRow row = true ∧ targetOf row = target
  bounded : (out.length : Int) ≤ max limit 0
  fallback : ∀ row ∈ table.rows, isActiveRow row = true → row.id = fallbackModel →
    fallbackModel ≠ "" → out.head? = some (targetOf row) ∨ out = []
  complete : (out.length : Int) < limit → ∀ row ∈ table.rows, isActiveRow row = true →
    row.id ∈ out.map ProbeTarget.id

/-- What `_select_probe_candidates` returns: distinct active models, each from the bucket it is
labelled with, in the order of the buckets, no more than the limit, and fewer only if no row of a
bucket is left. -/
structure ProbeSelection (table : ModelsTable F) (limit : Int) (rows out : List ProbeCandidate) :
    Prop where
  distinct : (out.map fun candidate => candidate.id).Nodup
  active : ∀ candidate ∈ out, ∃ row ∈ table.rows,
    isActiveRow row = true ∧ targetOf row = candidate.toProbeTarget
  fromRows : ∀ candidate ∈ out, candidate ∈ rows
  bounded : (out.length : Int) ≤ max limit 0
  ordered : out.Pairwise fun a b => a.probeReason.rank ≤ b.probeReason.rank
  complete : (out.length : Int) < limit → ∀ candidate ∈ rows,
    candidate.id ∈ out.map fun candidate => candidate.id

/-! ## What the queries return -/

omit [FloatArith F] in
theorem sqlLimit_subset {α : Type} (n : SqlInt) (rows : List α) : sqlLimit n rows ⊆ rows := by
  unfold sqlLimit
  split
  · exact List.Subset.refl _
  · exact List.take_subset _ _

omit [FloatArith F] in
theorem ne_zero_of_mem_sqlLimit {α : Type} {n : SqlInt} {rows : List α} {row : α}
    (h : row ∈ sqlLimit n rows) : n.val ≠ 0 := by
  intro hzero
  unfold sqlLimit at h
  rw [if_neg (by omega), hzero] at h
  cases h

omit [FloatArith F] in
theorem sqlLimit_of_nonneg {α : Type} {n : SqlInt} (h : 0 ≤ n.val) (rows : List α) :
    sqlLimit n rows = rows.take n.val.toNat := by
  unfold sqlLimit
  rw [if_neg (by omega)]

theorem mem_byScore {rows : List (ModelRow F)} {row : ModelRow F} :
    row ∈ byScore rows ↔ row ∈ rows := by
  unfold byScore
  exact List.mem_insertionSort _

theorem mem_byCooldown {rows : List (ModelRow F)} {row : ModelRow F} :
    row ∈ byCooldown rows ↔ row ∈ rows := by
  unfold byCooldown
  exact List.mem_insertionSort _

omit [FloatArith F] in
theorem mem_fallbackRows {table : ModelsTable F} {fallbackModel : String} {row : ModelRow F} :
    row ∈ fallbackRows table fallbackModel ↔
      row ∈ table.rows ∧ isActiveRow row = true ∧ row.id = fallbackModel ∧
        fallbackModel ≠ "" := by
  unfold fallbackRows
  split
  · next hempty => simp [hempty]
  · next hempty =>
      rw [Option.mem_toList]
      constructor
      · intro hfind
        have htest := List.find?_some hfind
        rw [Bool.and_eq_true, beq_iff_eq] at htest
        exact ⟨List.mem_of_find?_eq_some hfind, htest.2, htest.1, hempty⟩
      · rintro ⟨hrow, hactive, hid, -⟩
        cases hfind : table.rows.find? fun row => row.id == fallbackModel && isActiveRow row with
        | none =>
            have hnot := List.find?_eq_none.mp hfind row hrow
            simp [hid, hactive] at hnot
        | some other =>
            have htest := List.find?_some hfind
            rw [Bool.and_eq_true, beq_iff_eq] at htest
            have hsame := List.inj_on_of_nodup_map table.ids_nodup
              (List.mem_of_find?_eq_some hfind) hrow (htest.1.trans hid.symm)
            exact congrArg some hsame

omit [FloatArith F] in
theorem fallbackRows_eq_singleton {table : ModelsTable F} {fallbackModel : String}
    {row : ModelRow F} (h : row ∈ fallbackRows table fallbackModel) :
    fallbackRows table fallbackModel = [row] := by
  unfold fallbackRows at h ⊢
  split at h
  · cases h
  · next hempty =>
      rw [if_neg hempty]
      rw [Option.mem_toList] at h
      rw [h]
      rfl

theorem mem_bootstrapRows {table : ModelsTable F} {fallbackModel : String} {limit : SqlInt}
    {row : ModelRow F} (h : row ∈ bootstrapRows table fallbackModel limit) :
    row ∈ table.rows ∧ isActiveRow row = true := by
  rcases List.mem_append.mp h with hfallback | hscored
  · exact ⟨(mem_fallbackRows.mp hfallback).1, (mem_fallbackRows.mp hfallback).2.1⟩
  · exact List.mem_filter.mp (mem_byScore.mp (sqlLimit_subset _ _ hscored))

omit [FloatArith F] in
theorem active_of_isCooledDown {now : String} {row : ModelRow F}
    (h : isCooledDown now row = true) : isActiveRow row = true := by
  rw [isCooledDown, Bool.and_eq_true] at h
  exact h.1

omit [FloatArith F] in
theorem active_of_isNeverProbed {row : ModelRow F} (h : isNeverProbed row = true) :
    isActiveRow row = true := by
  rw [isNeverProbed, Bool.and_eq_true] at h
  exact h.1

omit [FloatArith F] in
theorem active_of_isStale {staleBefore : String} {row : ModelRow F}
    (h : isStale staleBefore row = true) : isActiveRow row = true := by
  rw [isStale, Bool.and_eq_true, Bool.and_eq_true] at h
  exact h.1.1

/-- A candidate of the buckets is an active row that falls in a bucket with a limit. -/
theorem mem_probeRows {table : ModelsTable F} {now staleBefore : String}
    {maxProbesPerRun topNStaleProbe : SqlInt} {candidate : ProbeCandidate}
    (h : candidate ∈ probeRows table now staleBefore maxProbesPerRun topNStaleProbe) :
    ∃ row ∈ table.rows, isActiveRow row = true ∧ targetOf row = candidate.toProbeTarget ∧
      (isCooledDown now row = true ∧ maxProbesPerRun.val ≠ 0 ∨
        isNeverProbed row = true ∧ maxProbesPerRun.val ≠ 0 ∨
        isStale staleBefore row = true ∧ topNStaleProbe.val ≠ 0) := by
  rcases List.mem_append.mp h with h | h
  · rcases List.mem_append.mp h with h | h
    · obtain ⟨row, hrow, rfl⟩ := List.mem_map.mp h
      obtain ⟨hmem, hcooled⟩ := List.mem_filter.mp (mem_byCooldown.mp (sqlLimit_subset _ _ hrow))
      exact ⟨row, hmem, active_of_isCooledDown hcooled, rfl,
        .inl ⟨hcooled, ne_zero_of_mem_sqlLimit hrow⟩⟩
    · obtain ⟨row, hrow, rfl⟩ := List.mem_map.mp h
      obtain ⟨hmem, hnever⟩ := List.mem_filter.mp (mem_byScore.mp (sqlLimit_subset _ _ hrow))
      exact ⟨row, hmem, active_of_isNeverProbed hnever, rfl,
        .inr (.inl ⟨hnever, ne_zero_of_mem_sqlLimit hrow⟩)⟩
  · obtain ⟨row, hrow, rfl⟩ := List.mem_map.mp h
    obtain ⟨hmem, hstale⟩ := List.mem_filter.mp (mem_byScore.mp (sqlLimit_subset _ _ hrow))
    exact ⟨row, hmem, active_of_isStale hstale, rfl,
      .inr (.inr ⟨hstale, ne_zero_of_mem_sqlLimit hrow⟩)⟩

/-! ## The bootstrap selection -/

/-- A loop that stops short of its limit has seen every active model. -/
theorem active_mem_bootstrap {table : ModelsTable F} {fallbackModel : String} {limit : Int}
    {rowLimit : SqlInt} (hrowLimit : rowLimit.val = max limit 0) {out : List ProbeTarget}
    (hout : out = gathered ProbeTarget.id limit
      ((bootstrapRows table fallbackModel rowLimit).map targetOf))
    (hshort : (out.length : Int) < limit) {row : ModelRow F} (hrow : row ∈ table.rows)
    (hactive : isActiveRow row = true) : row.id ∈ out.map ProbeTarget.id := by
  subst hout
  have hcollected : ∀ other ∈ bootstrapRows table fallbackModel rowLimit,
      other.id ∈ (gathered ProbeTarget.id limit
        ((bootstrapRows table fallbackModel rowLimit).map targetOf)).map ProbeTarget.id :=
    fun other hother => key_mem_gathered ProbeTarget.id hshort
      (List.mem_map_of_mem hother)
  let scored := byScore (table.rows.filter isActiveRow)
  have hperm : scored.Perm (table.rows.filter isActiveRow) := List.perm_insertionSort _ _
  have htake : sqlLimit rowLimit scored = scored.take rowLimit.val.toNat :=
    sqlLimit_of_nonneg (by omega) _
  -- the query returned fewer rows than its limit, since their ids are distinct
  have hnodup : ((scored.take rowLimit.val.toNat).map ModelRow.id).Nodup := by
    have hsub : ((table.rows.filter isActiveRow).map ModelRow.id).Nodup :=
      (List.filter_sublist.map ModelRow.id).nodup table.ids_nodup
    exact ((List.take_sublist _ _).map ModelRow.id).nodup
      ((hperm.map ModelRow.id).nodup_iff.mpr hsub)
  have hsubset : (scored.take rowLimit.val.toNat).map ModelRow.id ⊆
      (gathered ProbeTarget.id limit
        ((bootstrapRows table fallbackModel rowLimit).map targetOf)).map ProbeTarget.id := by
    intro id hid
    obtain ⟨other, hother, rfl⟩ := List.mem_map.mp hid
    exact hcollected other (List.mem_append_right _ (htake ▸ hother))
  have hlength := (List.subperm_of_subset hnodup hsubset).length_le
  rw [List.length_map, List.length_map, List.length_take] at hlength
  have hall : scored.take rowLimit.val.toNat = scored :=
    List.take_of_length_le (by omega)
  refine hcollected row (List.mem_append_right _ ?_)
  change row ∈ sqlLimit rowLimit scored
  rw [htake, hall]
  exact hperm.symm.subset (List.mem_filter.mpr ⟨hrow, hactive⟩)

/-- No active model has the fallback id. -/
def NoActiveFallback (table : ModelsTable F) (fallbackModel : String) : Prop :=
  ∀ row ∈ table.rows, isActiveRow row = true → row.id = fallbackModel → fallbackModel = ""

/-- The rows of the selection run out when there is neither a limit nor a fallback. -/
theorem bootstrapRows_eq_nil_iff {table : ModelsTable F} {fallbackModel : String} {limit : Int}
    {rowLimit : SqlInt} (hrowLimit : rowLimit.val = max limit 0) (hlimit : limit ≤ 0) :
    bootstrapRows table fallbackModel rowLimit = [] ↔ NoActiveFallback table fallbackModel := by
  have hzero : rowLimit.val.toNat = 0 := by omega
  unfold bootstrapRows
  rw [sqlLimit_of_nonneg (by omega), hzero, List.take_zero, List.append_nil,
    List.eq_nil_iff_forall_not_mem]
  constructor
  · intro hnone row hrow hactive hid
    by_contra hempty
    exact hnone row (mem_fallbackRows.mpr ⟨hrow, hactive, hid, hempty⟩)
  · intro hnone row hmem
    obtain ⟨hrow, hactive, hid, hempty⟩ := mem_fallbackRows.mp hmem
    exact hempty (hnone row hrow hactive hid)

theorem bindInt_ok_iff {n : Int} {m : SqlInt} : bindInt n = .ok m ↔ m.val = n := by
  unfold bindInt
  split
  · next h =>
      rw [Except.ok.injEq]
      constructor
      · rintro rfl
        rfl
      · intro hval
        exact Subtype.ext hval.symm
  · next h =>
      refine iff_of_false (by simp) ?_
      rintro rfl
      exact h m.property

/-- The bootstrap selection keeps its contract exactly when its limit can be bound, and is
positive or leaves no fallback to select. -/
theorem bootstrapSelection_iff (table : ModelsTable F) (fallbackModel : String) (limit : Int) :
    (∃ out, selectBootstrapCandidates table fallbackModel limit = .ok out ∧
        BootstrapSelection table fallbackModel limit out) ↔
      limit < 2 ^ 63 ∧ (1 ≤ limit ∨ NoActiveFallback table fallbackModel) := by
  unfold selectBootstrapCandidates
  constructor
  · rintro ⟨out, hselect, hcontract⟩
    obtain ⟨rowLimit, hbind, hout⟩ := bind_ok_iff.mp hselect
    cases hout
    have hrowLimit := bindInt_ok_iff.mp hbind
    refine ⟨?_, ?_⟩
    · have hfits := rowLimit.property.2
      omega
    · by_cases hlimit : 1 ≤ limit
      · exact .inl hlimit
      · right
        rcases (length_gathered_le_iff _ _ _).mp hcontract.bounded with hpositive | hnone
        · exact absurd hpositive hlimit
        · exact (bootstrapRows_eq_nil_iff hrowLimit (by omega)).mp (List.map_eq_nil_iff.mp hnone)
  · rintro ⟨hfits, hlimit⟩
    obtain ⟨rowLimit, hrowLimit⟩ : ∃ rowLimit : SqlInt, rowLimit.val = max limit 0 :=
      ⟨⟨max limit 0, by unfold FitsInt64; omega⟩, rfl⟩
    refine ⟨_, bind_ok_iff.mpr ⟨rowLimit, bindInt_ok_iff.mpr hrowLimit, rfl⟩, ?_⟩
    constructor
    case distinct => exact nodup_gathered _ _ _
    case active =>
      intro target htarget
      obtain ⟨row, hrow, rfl⟩ := List.mem_map.mp ((sublist_gathered _ _ _).subset htarget)
      exact ⟨row, (mem_bootstrapRows hrow).1, (mem_bootstrapRows hrow).2, rfl⟩
    case bounded =>
      refine (length_gathered_le_iff _ _ _).mpr ?_
      by_cases hpositive : 1 ≤ limit
      · exact .inl hpositive
      · have hnone := hlimit.resolve_left hpositive
        exact .inr (List.map_eq_nil_iff.mpr
          ((bootstrapRows_eq_nil_iff hrowLimit (by omega)).mpr hnone))
    case fallback =>
      intro row hrow hactive hid hne
      left
      have hfirst := fallbackRows_eq_singleton (mem_fallbackRows.mpr ⟨hrow, hactive, hid, hne⟩)
      unfold bootstrapRows
      rw [hfirst, List.singleton_append, List.map_cons]
      exact head?_gathered _ _ _ _
    case complete =>
      intro hshort row hrow hactive
      exact active_mem_bootstrap hrowLimit rfl hshort hrow hactive

/-! ## The probe selection -/

omit [FloatArith F] in
theorem reason_of_mem_bucket {reason : ProbeReason} {rows : List (ModelRow F)}
    {candidate : ProbeCandidate} (h : candidate ∈ bucket reason rows) :
    candidate.probeReason = reason := by
  obtain ⟨row, -, rfl⟩ := List.mem_map.mp h
  rfl

omit [FloatArith F] in
theorem pairwise_bucket (reason : ProbeReason) (rows : List (ModelRow F)) :
    (bucket reason rows).Pairwise fun a b => a.probeReason.rank ≤ b.probeReason.rank := by
  apply List.pairwise_of_forall_mem_list
  intro a ha b hb
  rw [reason_of_mem_bucket ha, reason_of_mem_bucket hb]

/-- The buckets are merged in their order. -/
theorem pairwise_probeRows (table : ModelsTable F) (now staleBefore : String)
    (maxProbesPerRun topNStaleProbe : SqlInt) :
    (probeRows table now staleBefore maxProbesPerRun topNStaleProbe).Pairwise
      fun a b => a.probeReason.rank ≤ b.probeReason.rank := by
  unfold probeRows
  rw [List.pairwise_append, List.pairwise_append]
  refine ⟨⟨pairwise_bucket _ _, pairwise_bucket _ _, ?_⟩, pairwise_bucket _ _, ?_⟩
  · intro a ha b hb
    rw [reason_of_mem_bucket ha, reason_of_mem_bucket hb]
    decide
  · intro a ha b hb
    rw [reason_of_mem_bucket hb]
    rcases List.mem_append.mp ha with ha | ha
    · rw [reason_of_mem_bucket ha]
      decide
    · rw [reason_of_mem_bucket ha]
      decide

/-- No active model is stale. -/
def NoStaleModel (table : ModelsTable F) (staleBefore : String) : Prop :=
  ∀ row ∈ table.rows, isStale staleBefore row = false

/-- Without probes to make, the rows of the selection are those of the stale bucket. -/
theorem probeRows_eq_nil_iff {table : ModelsTable F} {now staleBefore : String}
    {maxProbesPerRun topNStaleProbe : SqlInt} (hmax : maxProbesPerRun.val = 0)
    (htop : 0 ≤ topNStaleProbe.val) :
    probeRows table now staleBefore maxProbesPerRun topNStaleProbe = [] ↔
      topNStaleProbe.val = 0 ∨ NoStaleModel table staleBefore := by
  have hempty : ∀ rows : List (ModelRow F), sqlLimit maxProbesPerRun rows = [] := by
    intro rows
    rw [sqlLimit_of_nonneg (by omega), hmax]
    rfl
  have hlength := (List.perm_insertionSort (fun a b : ModelRow F =>
    scoreLt a.compositeScore b.compositeScore = false)
      (table.rows.filter (isStale staleBefore))).length_eq
  unfold probeRows bucket
  rw [hempty, hempty, sqlLimit_of_nonneg htop, List.map_nil, List.nil_append, List.map_nil,
    List.nil_append, List.map_eq_nil_iff, List.take_eq_nil_iff]
  constructor
  · rintro (hzero | hnone)
    · exact .inl (by omega)
    · refine .inr fun row hrow => ?_
      unfold byScore at hnone
      rw [hnone, List.length_nil] at hlength
      have hnot := List.filter_eq_nil_iff.mp (List.eq_nil_of_length_eq_zero hlength.symm) row hrow
      exact Bool.eq_false_iff.mpr hnot
  · rintro (hzero | hnone)
    · exact .inl (by omega)
    · right
      have hfilter : table.rows.filter (isStale staleBefore) = [] :=
        List.filter_eq_nil_iff.mpr fun row hrow => Bool.eq_false_iff.mp (hnone row hrow)
      rw [hfilter]
      rfl

omit [FloatArith F] in
/-- The time before which a model is stale exists exactly when it is in the calendar. -/
theorem staleBeforeIso_eq_ok_iff {now : DateTime} {minutes : Int} {text : String} :
    staleBeforeIso now minutes = .ok text ↔
      ∃ date : DateTime, date.microseconds = now.microseconds - minutes * microsecondsPerMinute ∧
        date.isoZ = text := by
  unfold staleBeforeIso
  constructor
  · intro h
    obtain ⟨date, hdate, htext⟩ := bind_ok_iff.mp h
    exact ⟨date, sub_eq_ok_iff.mp hdate, Except.ok.inj htext⟩
  · rintro ⟨date, hdate, rfl⟩
    exact bind_ok_iff.mpr ⟨date, sub_eq_ok_iff.mpr hdate, rfl⟩

/-- `_select_bootstrap_candidates` with the startup limit keeps its contract. -/
def KeepsBootstrapContract (settings : Settings F) (table : ModelsTable F)
    (fallbackModel : String) : Prop :=
  ∃ out,
    selectBootstrapCandidates table fallbackModel (settings.int .healthStartupProbeLimit) =
      .ok out ∧
    BootstrapSelection table fallbackModel (settings.int .healthStartupProbeLimit) out

/-- `_select_probe_candidates` keeps its contract, for the rows of its own queries. -/
def KeepsProbeContract (settings : Settings F) (table : ModelsTable F)
    (now staleNow : DateTime) : Prop :=
  ∃ staleBefore maxProbesPerRun topNStaleProbe out,
    staleBeforeIso staleNow (settings.int .healthStaleAfterMinutes) = .ok staleBefore ∧
    bindInt (settings.int .healthMaxProbesPerRun) = .ok maxProbesPerRun ∧
    bindInt (settings.int .healthTopNStaleProbe) = .ok topNStaleProbe ∧
    selectProbeCandidates settings table now staleNow = .ok out ∧
    ProbeSelection table (settings.int .healthMaxProbesPerRun)
      (probeRows table now.isoZ staleBefore maxProbesPerRun topNStaleProbe) out

theorem selectProbeCandidates_eq {settings : Settings F} {table : ModelsTable F}
    {now staleNow : DateTime} {staleBefore : String} {maxProbesPerRun topNStaleProbe : SqlInt}
    (hstale : staleBeforeIso staleNow (settings.int .healthStaleAfterMinutes) = .ok staleBefore)
    (hmax : bindInt (settings.int .healthMaxProbesPerRun) = .ok maxProbesPerRun)
    (htop : bindInt (settings.int .healthTopNStaleProbe) = .ok topNStaleProbe) :
    selectProbeCandidates settings table now staleNow =
      .ok (gathered (fun candidate => candidate.id) (settings.int .healthMaxProbesPerRun)
        (probeRows table now.isoZ staleBefore maxProbesPerRun topNStaleProbe)) := by
  unfold selectProbeCandidates
  rw [hstale, ok_bind, hmax, ok_bind, htop, ok_bind]
  rfl

/-- What the loop returns is a probe selection exactly when there are probes to make or no
stale models to select. -/
theorem probeSelection_gathered_iff (table : ModelsTable F) (now staleBefore : String)
    {maxProbesPerRun topNStaleProbe : SqlInt} (hmax : 0 ≤ maxProbesPerRun.val)
    (htop : 0 ≤ topNStaleProbe.val) :
    ProbeSelection table maxProbesPerRun.val
        (probeRows table now staleBefore maxProbesPerRun topNStaleProbe)
        (gathered (fun candidate => candidate.id) maxProbesPerRun.val
          (probeRows table now staleBefore maxProbesPerRun topNStaleProbe)) ↔
      1 ≤ maxProbesPerRun.val ∨ topNStaleProbe.val = 0 ∨ NoStaleModel table staleBefore := by
  constructor
  · intro hcontract
    rcases (length_gathered_le_iff _ _ _).mp hcontract.bounded with hpositive | hnone
    · exact .inl hpositive
    · by_cases hpositive : 1 ≤ maxProbesPerRun.val
      · exact .inl hpositive
      · exact .inr ((probeRows_eq_nil_iff (by omega) htop).mp hnone)
  · intro hlimit
    constructor
    case distinct => exact nodup_gathered _ _ _
    case active =>
      intro candidate hcandidate
      obtain ⟨row, hrow, hactive, htarget, -⟩ :=
        mem_probeRows ((sublist_gathered _ _ _).subset hcandidate)
      exact ⟨row, hrow, hactive, htarget⟩
    case fromRows =>
      intro candidate hcandidate
      exact (sublist_gathered _ _ _).subset hcandidate
    case bounded =>
      refine (length_gathered_le_iff _ _ _).mpr ?_
      by_cases hpositive : 1 ≤ maxProbesPerRun.val
      · exact .inl hpositive
      · exact .inr ((probeRows_eq_nil_iff (by omega) htop).mpr (hlimit.resolve_left hpositive))
    case ordered =>
      exact (pairwise_probeRows _ _ _ _ _).sublist (sublist_gathered _ _ _)
    case complete =>
      intro hshort candidate hcandidate
      exact key_mem_gathered (fun candidate : ProbeCandidate => candidate.id) hshort hcandidate

/-- The probe selection keeps its contract exactly when the time of staleness exists, its
limits can be bound, and there are probes to make or no stale models to select. -/
theorem probeSelection_iff {settings : Settings F}
    (hmax : 0 ≤ settings.int .healthMaxProbesPerRun)
    (htop : 0 ≤ settings.int .healthTopNStaleProbe)
    (hafter : 0 ≤ settings.int .healthStaleAfterMinutes) (table : ModelsTable F)
    (now staleNow : DateTime) :
    KeepsProbeContract settings table now staleNow ↔
      settings.int .healthStaleAfterMinutes * microsecondsPerMinute ≤ staleNow.microseconds ∧
        settings.int .healthMaxProbesPerRun < 2 ^ 63 ∧
        settings.int .healthTopNStaleProbe < 2 ^ 63 ∧
        (1 ≤ settings.int .healthMaxProbesPerRun ∨ settings.int .healthTopNStaleProbe = 0 ∨
          ∀ staleBefore,
            staleBeforeIso staleNow (settings.int .healthStaleAfterMinutes) = .ok staleBefore →
            NoStaleModel table staleBefore) := by
  constructor
  · rintro ⟨staleBefore, maxProbesPerRun, topNStaleProbe, out, hstale, hbindMax, hbindTop, hout,
      hcontract⟩
    obtain ⟨date, hdate, -⟩ := staleBeforeIso_eq_ok_iff.mp hstale
    have hmaxVal := bindInt_ok_iff.mp hbindMax
    have htopVal := bindInt_ok_iff.mp hbindTop
    have hmaxFits := maxProbesPerRun.property.2
    have htopFits := topNStaleProbe.property.2
    have hdateLow := date.inRange.1
    rw [selectProbeCandidates_eq hstale hbindMax hbindTop] at hout
    cases hout
    rw [← hmaxVal] at hcontract
    have hlimit := (probeSelection_gathered_iff table now.isoZ staleBefore (by omega)
      (by omega)).mp hcontract
    rw [hmaxVal, htopVal] at hlimit
    refine ⟨by omega, by omega, by omega, ?_⟩
    rcases hlimit with hpositive | hzero | hnone
    · exact .inl hpositive
    · exact .inr (.inl hzero)
    · refine .inr (.inr fun other hother => ?_)
      rw [hstale] at hother
      cases hother
      exact hnone
  · rintro ⟨hdate, hmaxFits, htopFits, hlimit⟩
    have hnow := staleNow.inRange
    have hminute : 0 ≤ settings.int .healthStaleAfterMinutes * microsecondsPerMinute :=
      Int.mul_nonneg hafter (by decide)
    obtain ⟨staleBefore, hstale⟩ : ∃ staleBefore,
        staleBeforeIso staleNow (settings.int .healthStaleAfterMinutes) = .ok staleBefore :=
      ⟨_, staleBeforeIso_eq_ok_iff.mpr ⟨⟨staleNow.microseconds -
        settings.int .healthStaleAfterMinutes * microsecondsPerMinute, by omega⟩, rfl, rfl⟩⟩
    obtain ⟨maxProbesPerRun, hmaxVal⟩ : ∃ n : SqlInt,
        n.val = settings.int .healthMaxProbesPerRun :=
      ⟨⟨settings.int .healthMaxProbesPerRun, by unfold FitsInt64; omega⟩, rfl⟩
    obtain ⟨topNStaleProbe, htopVal⟩ : ∃ n : SqlInt,
        n.val = settings.int .healthTopNStaleProbe :=
      ⟨⟨settings.int .healthTopNStaleProbe, by unfold FitsInt64; omega⟩, rfl⟩
    have hbindMax := bindInt_ok_iff.mpr hmaxVal
    have hbindTop := bindInt_ok_iff.mpr htopVal
    refine ⟨staleBefore, maxProbesPerRun, topNStaleProbe, _, hstale, hbindMax, hbindTop,
      selectProbeCandidates_eq hstale hbindMax hbindTop, ?_⟩
    rw [← hmaxVal]
    refine (probeSelection_gathered_iff table now.isoZ staleBefore (by omega) (by omega)).mpr ?_
    rw [hmaxVal, htopVal]
    rcases hlimit with hpositive | hzero | hnone
    · exact .inl hpositive
    · exact .inr (.inl hzero)
    · exact .inr (.inr (hnone staleBefore hstale))

end Selection

/-! ## The admitted limits -/

/-- Settings with one number for the probe limits and another for the stale models. -/
def probeSettings (limit topNStaleProbe : Int) : Settings Rat :=
  { Inventory.leastSettings Rat with
    int := fun setting =>
      setting.clamp (if setting = .healthTopNStaleProbe then topNStaleProbe else limit) }

end Health
end FreeLunch
