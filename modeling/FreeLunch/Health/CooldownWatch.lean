import FreeLunch.Health.Cooldowns
import FreeLunch.Health.ProbeSelection
import FreeLunch.Inventory.Activity

/-!
# Probes during a cooldown

The probe selection beside the operations that write to the `models` table.  An observer
notes the end of the cooldown that the last failure of a model has set, until a success or
another failure changes it, and whether a selection returned the model before that end.

Main results:

- Theorem `stands_exec`: the noted cooldown is the one that is stored, whatever statements the
  operations enqueue in between.
- Theorem `selected_iff`: an active model alone is selected exactly when it falls in a bucket
  with a limit.
- Theorem `never_early`: a run in which the model, whenever it is selected from before the end
  of its cooldown, has been probed and is not stale, never returns it early.
-/

namespace FreeLunch
namespace Health

open FreeLunch.Runtime Python Store Routing Distinct Writes Runs

section Watch

variable {F : Type} [FloatArith F]

/-! ## The observer -/

/-- The operations on the table, the cooldown that the last failure has set, and whether the
model was returned before its end. -/
structure Watched (F : Type) where
  activity : Inventory.System F
  pending : Option String
  early : Bool

/-- An operation takes a step, or the candidates are selected. -/
inductive WatchEvent (F : Type) where
  | activity (e : Inventory.Event F)
  | select (settings : Settings F) (now staleNow : DateTime)

/-- The observer meets the operations anywhere on their way. -/
def Watched.start (activity : Inventory.System F) : Watched F where
  activity := activity
  pending := none
  early := false

/-- What the observer notes when a statement is executed. -/
def pendingAfter (id : String) (table : ModelsTable F) (w : ModelWrite F)
    (pending : Option String) : Option String :=
  match w with
  | .failure other _ _ _ cooldownUntil _ =>
      if other = id then (table.row? id).map fun _ => cooldownUntil else pending
  | .success other _ _ _ _ => if other = id then none else pending
  | _ => pending

/-- What the observer notes in a step of the operations. -/
def notedAfter (id : String) (s : Watched F) (e : Inventory.Event F) : Option String :=
  match e, s.activity.queue with
  | .drain, w :: _ => pendingAfter id s.activity.table w s.pending
  | _, _ => s.pending

/-- The ids that a selection returns. -/
def selectedIds (settings : Settings F) (table : ModelsTable F) (now staleNow : DateTime) :
    List String :=
  ((selectProbeCandidates settings table now staleNow).toOption.getD []).map
    fun candidate => candidate.id

/-- The step relation with the observer. -/
def watchStep (id : String) (s : Watched F) : WatchEvent F → Option (Watched F)
  | .activity e =>
      (Inventory.step s.activity e).map fun activity =>
        { s with activity := activity, pending := notedAfter id s e }
  | .select settings now staleNow =>
      some { s with
        early := s.early || (s.pending.any (fun cooldown => decide (now.isoZ < cooldown)) &&
          (selectedIds settings s.activity.table now staleNow).contains id) }

/-- A selection before the end of the cooldown meets a model that has been probed and is not
stale, or a limit of zero on the bucket it falls in. -/
def OutOfBuckets (id : String) (s : Watched F) : WatchEvent F → Prop
  | .activity _ => True
  | .select settings now staleNow =>
      ∀ cooldown ∈ s.pending, now.isoZ < cooldown → ∀ row ∈ s.activity.table.row? id,
        (isNeverProbed row = false ∨ settings.int .healthMaxProbesPerRun = 0) ∧
        ∀ staleBefore ∈
          (staleBeforeIso staleNow (settings.int .healthStaleAfterMinutes)).toOption,
          isStale staleBefore row = false ∨ settings.int .healthTopNStaleProbe = 0

instance (id : String) (s : Watched F) (e : WatchEvent F) : Decidable (OutOfBuckets id s e) := by
  cases e <;> unfold OutOfBuckets <;> infer_instance

/-! ## The noted cooldown -/

/-- The noted cooldown is stored. -/
def Stands (id : String) (table : ModelsTable F) (pending : Option String) : Prop :=
  ∀ cooldown, pending = some cooldown →
    ∃ row, table.row? id = some row ∧ row.cooldownUntil = some cooldown

/-- A stored row stays stored, as it is or updated. -/
theorem row?_exec_cases {id : String} {table : ModelsTable F} {row : ModelRow F}
    (w : ModelWrite F) (hrow : table.row? id = some row) :
    (table.exec w).row? id = some row ∨
      w.selects row = true ∧ (table.exec w).row? id = some (w.set row) := by
  have hid : row.id = id := of_decide_eq_true (hasId_of_rowOf hrow)
  have hexec : (table.exec w).row? id = w.onRow id (some row) := by
    rw [← hrow]
    exact rowOf_apply w id table.rows
  rw [hexec]
  cases w with
  | upsert model now =>
      by_cases hmodel : id = model.id
      · right
        exact ⟨decide_eq_true (hid.trans hmodel), if_pos hmodel⟩
      · exact .inl (if_neg hmodel)
  | _ =>
      simp only [ModelWrite.onRow, Option.map_some]
      split
      · next hselects => exact .inr ⟨hselects, rfl⟩
      · exact .inl rfl

/-- The noted cooldown stays the stored one. -/
theorem stands_exec {id : String} {table : ModelsTable F} {pending : Option String}
    (w : ModelWrite F) (h : Stands id table pending) :
    Stands id (table.exec w) (pendingAfter id table w pending) := by
  intro cooldown hpending
  cases w with
  | failure other now error next cooldownUntil threshold =>
      unfold pendingAfter at hpending
      dsimp only at hpending
      by_cases hother : other = id
      · subst hother
        rw [if_pos rfl] at hpending
        obtain ⟨row, hrow, rfl⟩ := Option.map_eq_some_iff.mp hpending
        refine ⟨failureUpdate now error next cooldownUntil threshold row, ?_, rfl⟩
        change rowOf other _ = _
        unfold ModelsTable.exec
        rw [rowOf_apply_failure]
        exact congrArg _ hrow
      · rw [if_neg hother] at hpending
        obtain ⟨row, hrow, hcooldown⟩ := h cooldown hpending
        refine ⟨row, ?_, hcooldown⟩
        exact (rowOf_updateWhere_of_ne (w := .failure other now error next cooldownUntil threshold)
          rfl (Ne.symm hother) table.rows).trans hrow
  | success other now latencyMs ttfbMs probedAt =>
      unfold pendingAfter at hpending
      dsimp only at hpending
      by_cases hother : other = id
      · rw [if_pos hother] at hpending
        cases hpending
      · rw [if_neg hother] at hpending
        obtain ⟨row, hrow, hcooldown⟩ := h cooldown hpending
        refine ⟨row, ?_, hcooldown⟩
        exact (rowOf_updateWhere_of_ne (w := .success other now latencyMs ttfbMs probedAt)
          rfl (Ne.symm hother) table.rows).trans hrow
  | _ =>
      -- discovery, activity and ranking do not touch the cooldown
      obtain ⟨row, hrow, hcooldown⟩ := h cooldown hpending
      rcases row?_exec_cases _ hrow with hsame | ⟨-, hset⟩
      · exact ⟨row, hsame, hcooldown⟩
      · exact ⟨_, hset, hcooldown⟩

/-- A step keeps the noted cooldown the stored one. -/
theorem stands_watchStep {id : String} {s s' : Watched F} {e : WatchEvent F}
    (hstep : watchStep id s e = some s') (h : Stands id s.activity.table s.pending) :
    Stands id s'.activity.table s'.pending := by
  cases e with
  | select settings now staleNow =>
      cases hstep
      exact h
  | activity e =>
      unfold watchStep at hstep
      obtain ⟨activity, hactivity, rfl⟩ := Option.map_eq_some_iff.mp hstep
      cases e with
      | start op =>
          cases hactivity
          exact h
      | emit task =>
          have htable : activity.table = s.activity.table := by
            unfold Inventory.step at hactivity
            dsimp only at hactivity
            split at hactivity
            · cases hactivity
              rfl
            · cases hactivity
          rw [htable]
          exact h
      | drain =>
          unfold notedAfter
          unfold Inventory.step at hactivity
          dsimp only at hactivity ⊢
          cases hqueue : s.activity.queue with
          | nil =>
              rw [hqueue] at hactivity
              cases hactivity
          | cons w rest =>
              rw [hqueue] at hactivity
              cases hactivity
              exact stands_exec w h

/-! ## The selection of one model -/

/-- A selected model falls in a bucket with a limit. -/
theorem bucket_of_selected {settings : Settings F} {table : ModelsTable F}
    {now staleNow : DateTime} {id : String} (h : id ∈ selectedIds settings table now staleNow) :
    ∃ row staleBefore, table.row? id = some row ∧ isActiveRow row = true ∧
      staleBeforeIso staleNow (settings.int .healthStaleAfterMinutes) = .ok staleBefore ∧
      (isCooledDown now.isoZ row = true ∧ settings.int .healthMaxProbesPerRun ≠ 0 ∨
        isNeverProbed row = true ∧ settings.int .healthMaxProbesPerRun ≠ 0 ∨
        isStale staleBefore row = true ∧ settings.int .healthTopNStaleProbe ≠ 0) := by
  unfold selectedIds at h
  cases hselect : selectProbeCandidates settings table now staleNow with
  | error exc =>
      rw [hselect] at h
      cases h
  | ok out =>
      rw [hselect] at h
      obtain ⟨candidate, hcandidate, rfl⟩ := List.mem_map.mp h
      unfold selectProbeCandidates at hselect
      obtain ⟨staleBefore, hstale, hselect⟩ := bind_ok_iff.mp hselect
      obtain ⟨maxProbesPerRun, hmax, hselect⟩ := bind_ok_iff.mp hselect
      obtain ⟨topNStaleProbe, htop, hselect⟩ := bind_ok_iff.mp hselect
      cases hselect
      obtain ⟨row, hrow, hactive, htarget, hbucket⟩ :=
        mem_probeRows ((sublist_gathered _ _ _).subset hcandidate)
      rw [bindInt_ok_iff.mp hmax, bindInt_ok_iff.mp htop] at hbucket
      have hid : row.id = candidate.id := congrArg ProbeTarget.id htarget
      have hstored : table.row? candidate.id = some row :=
        (Tables.lookup_eq_some_iff table.ids_nodup).mpr ⟨hrow, hid⟩
      exact ⟨row, staleBefore, hstored, hactive, hstale, hbucket⟩

omit [FloatArith F] in
/-- A row that is alone in a query is within every limit but zero. -/
theorem mem_sqlLimit_of_alone {n : SqlInt} (hn : n.val ≠ 0) {rows : List (ModelRow F)}
    {row : ModelRow F} (hrow : row ∈ rows) (halone : ∀ other ∈ rows, other = row) :
    row ∈ sqlLimit n rows := by
  unfold sqlLimit
  split
  · exact hrow
  · next hnonneg =>
      cases rows with
      | nil => cases hrow
      | cons first rest =>
          have hcount : n.val.toNat = n.val.toNat - 1 + 1 := by omega
          rw [hcount, List.take_succ_cons, halone first List.mem_cons_self]
          exact List.mem_cons_self

/-- The only active model is selected exactly when it falls in a bucket with a limit. -/
theorem selected_iff {settings : Settings F} {table : ModelsTable F} {now staleNow : DateTime}
    {row : ModelRow F} (hrow : row ∈ table.rows)
    (halone : ∀ other ∈ table.rows, isActiveRow other = true → other = row)
    {staleBefore : String} {maxProbesPerRun topNStaleProbe : SqlInt}
    (hstale : staleBeforeIso staleNow (settings.int .healthStaleAfterMinutes) = .ok staleBefore)
    (hmax : bindInt (settings.int .healthMaxProbesPerRun) = .ok maxProbesPerRun)
    (htop : bindInt (settings.int .healthTopNStaleProbe) = .ok topNStaleProbe) :
    row.id ∈ selectedIds settings table now staleNow ↔
      (isCooledDown now.isoZ row = true ∧ settings.int .healthMaxProbesPerRun ≠ 0 ∨
        isNeverProbed row = true ∧ settings.int .healthMaxProbesPerRun ≠ 0 ∨
        isStale staleBefore row = true ∧ settings.int .healthTopNStaleProbe ≠ 0) := by
  constructor
  · intro h
    obtain ⟨other, otherStale, hother, hactive, hotherStale, hbucket⟩ := bucket_of_selected h
    obtain ⟨hmem, -⟩ := (Tables.lookup_eq_some_iff table.ids_nodup).mp hother
    rw [hstale, Except.ok.injEq] at hotherStale
    rw [halone other hmem hactive, ← hotherStale] at hbucket
    exact hbucket
  · intro h
    have hmem : ∃ reason, { targetOf row with probeReason := reason } ∈
        probeRows table now.isoZ staleBefore maxProbesPerRun topNStaleProbe := by
      rw [← bindInt_ok_iff.mp hmax, ← bindInt_ok_iff.mp htop] at h
      unfold probeRows
      rcases h with ⟨hcooled, hlimit⟩ | ⟨hnever, hlimit⟩ | ⟨hold, hlimit⟩
      · refine ⟨.cooldownRecovery, List.mem_append_left _ (List.mem_append_left _
          (List.mem_map_of_mem (mem_sqlLimit_of_alone hlimit ?_ ?_)))⟩
        · exact mem_byCooldown.mpr (List.mem_filter.mpr ⟨hrow, hcooled⟩)
        · intro other hother
          obtain ⟨hmem, hother⟩ := List.mem_filter.mp (mem_byCooldown.mp hother)
          exact halone other hmem (active_of_isCooledDown hother)
      · refine ⟨.neverProbed, List.mem_append_left _ (List.mem_append_right _
          (List.mem_map_of_mem (mem_sqlLimit_of_alone hlimit ?_ ?_)))⟩
        · exact mem_byScore.mpr (List.mem_filter.mpr ⟨hrow, hnever⟩)
        · intro other hother
          obtain ⟨hmem, hother⟩ := List.mem_filter.mp (mem_byScore.mp hother)
          exact halone other hmem (active_of_isNeverProbed hother)
      · refine ⟨.stale, List.mem_append_right _
          (List.mem_map_of_mem (mem_sqlLimit_of_alone hlimit ?_ ?_))⟩
        · exact mem_byScore.mpr (List.mem_filter.mpr ⟨hrow, hold⟩)
        · intro other hother
          obtain ⟨hmem, hother⟩ := List.mem_filter.mp (mem_byScore.mp hother)
          exact halone other hmem (active_of_isStale hother)
    -- every candidate is this model, so the first one that is returned is
    obtain ⟨reason, hmem⟩ := hmem
    unfold selectedIds
    rw [selectProbeCandidates_eq hstale hmax htop]
    cases hrows : probeRows table now.isoZ staleBefore maxProbesPerRun topNStaleProbe with
    | nil =>
        rw [hrows] at hmem
        cases hmem
    | cons first rest =>
        have hfirst : first ∈ probeRows table now.isoZ staleBefore maxProbesPerRun
            topNStaleProbe := by
          rw [hrows]
          exact List.mem_cons_self
        obtain ⟨other, hother, hactive, htarget, -⟩ := mem_probeRows hfirst
        have hid : first.id = row.id := by
          rw [← halone other hother hactive]
          exact (congrArg ProbeTarget.id htarget).symm
        rw [← hid]
        exact List.mem_map_of_mem (List.mem_of_head? (head?_gathered _ _ first rest))

omit [FloatArith F] in
/-- Before the end of its cooldown a model has not cooled down. -/
theorem isCooledDown_of_lt {now cooldown : String} {row : ModelRow F}
    (hcooldown : row.cooldownUntil = some cooldown) (hlt : now < cooldown) :
    isCooledDown now row = false := by
  have hnot : ¬ cooldown < now := String.lt_asymm hlt
  unfold isCooledDown
  rw [hcooldown, Option.any_some, decide_eq_false hnot, Bool.and_false]

/-! ## Runs -/

/-- No model is returned early in the run so far, and the noted cooldown is stored. -/
structure Respected (id : String) (s : Watched F) : Prop where
  stands : Stands id s.activity.table s.pending
  notEarly : s.early = false

/-- A selection out of the buckets does not return the model early. -/
theorem respected_watchStep {id : String} {s s' : Watched F} {e : WatchEvent F}
    (hstep : watchStep id s e = some s') (hguard : OutOfBuckets id s e)
    (h : Respected id s) : Respected id s' := by
  have hstands := stands_watchStep hstep h.stands
  refine ⟨hstands, ?_⟩
  cases e with
  | activity e =>
      unfold watchStep at hstep
      obtain ⟨activity, -, rfl⟩ := Option.map_eq_some_iff.mp hstep
      exact h.notEarly
  | select settings now staleNow =>
      cases hstep
      dsimp only
      rw [h.notEarly, Bool.false_or]
      by_contra hearly
      rw [Bool.not_eq_false, Bool.and_eq_true, Option.any_eq_true] at hearly
      obtain ⟨⟨cooldown, hpending, hlt⟩, hselected⟩ := hearly
      have hlt := of_decide_eq_true hlt
      obtain ⟨row, staleBefore, hrow, -, hstale, hbucket⟩ :=
        bucket_of_selected (List.contains_iff_mem.mp hselected)
      obtain ⟨stored, hstored, hcooldown⟩ := h.stands cooldown hpending
      rw [hrow, Option.some.injEq] at hstored
      subst hstored
      obtain ⟨hnever, hnotStale⟩ := hguard cooldown hpending hlt row hrow
      rcases hbucket with ⟨hcooled, -⟩ | ⟨hprobe, hlimit⟩ | ⟨hold, hlimit⟩
      · rw [isCooledDown_of_lt hcooldown hlt] at hcooled
        cases hcooled
      · rcases hnever with hnever | hzero
        · rw [hnever] at hprobe
          cases hprobe
        · exact hlimit hzero
      · rcases hnotStale staleBefore (by rw [hstale]; rfl) with hfresh | hzero
        · rw [hfresh] at hold
          cases hold
        · exact hlimit hzero

/-- In every run whose selections during a cooldown meet the model out of the buckets, no
selection returns it before the end of the cooldown. -/
theorem never_early {id : String} {activity : Inventory.System F} {s : Watched F}
    {events : List (WatchEvent F)}
    (hrun : run (watchStep id) (Watched.start activity) events = some s)
    (hguard : Guarded (watchStep id) (OutOfBuckets id) (Watched.start activity) events) :
    s.early = false := by
  have hstart : Respected id (Watched.start activity) := by
    constructor
    case stands =>
      intro cooldown hpending
      cases hpending
    case notEarly => rfl
  exact (run_guarded_invariant (Respected id) (fun _ _ _ => respected_watchStep) hrun hguard
    hstart).notEarly

end Watch

/-! ## Samples -/

/-- A probe of the model "a" at the start of the year 2024, and the writer after it. -/
def failedProbe : List (WatchEvent Rat) :=
  [.activity (.start (.markFailure (backoffSettings 4) "a" newYearFailure.call)),
    .activity (.emit 0), .activity .drain]

/-- An idle system on the sample table. -/
def sampleActivity : Inventory.System Rat where
  table := sampleTable
  queue := []
  inProgress := []

/-- A successful probe of the model at the same time, and the writer after it. -/
def successfulProbe : List (WatchEvent Rat) :=
  [.activity (.start (.markSuccess "a" { now := newYear.isoZ, probedAt := some newYear.isoZ })),
    .activity (.emit 0), .activity .drain]

/-- A failed probe after a successful one. -/
def failureAfterSuccess : List (WatchEvent Rat) :=
  successfulProbe ++
    [.activity (.start (.markFailure (backoffSettings 4) "a" newYearFailure.call)),
      .activity (.emit 1), .activity .drain, .select (probeSettings 1 1) newYear newYear]

/-- After a successful and a failed probe the model is in no bucket and is not returned. -/
theorem never_early_sample :
    ((run (watchStep "a") (Watched.start sampleActivity) failureAfterSuccess).get
      (by decide +kernel)).early = false := by
  exact never_early (Option.some_get _).symm (by decide +kernel)

/-- The failed probe of a model that was never probed leaves it in its bucket: the next
selection returns it an hour before the end of its cooldown. -/
theorem never_probed_returned_early :
    ((run (watchStep "a") (Watched.start sampleActivity) failedProbe).bind Watched.pending,
      (run (watchStep "a") (Watched.start sampleActivity)
        (failedProbe ++ [.select (probeSettings 1 1) newYear newYear])).map Watched.early) =
      (some "2024-01-01T01:00:00Z", some true) := by
  decide +kernel

end Health
end FreeLunch
