import FreeLunch.Foundations.Runs
import FreeLunch.Python.Exact
import FreeLunch.Store.Models

/-!
# Health updates through the writer queue

`mark_failure` and `mark_success` of `src/health.py`.  A failure reads the stored
backoff level, computes the next level and the end of the cooldown from it, and
enqueues an `UPDATE` that increments the failure counter where it is applied.  A
success enqueues an `UPDATE` that resets the row.  Callers interleave with the
writer thread, which applies the queue in FIFO order.

The reference is the sequential execution of the same calls in enqueue order, each
applied before the next one starts.

Main results:

- Theorem `agrees_step_iff`: a step keeps the agreement with the reference exactly
  when the level it uses is fresh.
- Theorem `marks_agree_iff_fresh`: a run agrees with the reference throughout
  exactly when every failure is computed from a fresh level.
-/

namespace FreeLunch
namespace Health

open Runs Python Store

/-! ## The two calls -/

/-- The settings `mark_failure` uses. -/
structure HealthSettings where
  healthCooldownMinutes : Int
  healthMaxBackoffExponent : Int
  healthConsecutiveFailuresThreshold : Int
deriving DecidableEq, Repr

/-- One call of `mark_failure`: its error text and the clock it sees.
`isoAfterMinutes` is `_iso_after_minutes`, which raises on dates out of range. -/
structure FailureCall where
  now : String
  error : String
  isoAfterMinutes : Rat → Except Exc String

/-- One call of `mark_success`. -/
structure SuccessCall (F : Type) where
  now : String
  latencyMs : Option F := none
  ttfbMs : Option F := none
  probedAt : Option String := none

/-- A call on the model. -/
inductive Call (F : Type) where
  | failure (call : FailureCall)
  | success (call : SuccessCall F)

section Calls

variable {F : Type} [FloatArith F]

/-- `SELECT COALESCE(backoff_level, 0) FROM models WHERE id=?`. -/
def readBackoff (table : ModelsTable F) (id : String) : Option Int :=
  (table.row? id).map fun row => row.backoffLevel.getD 0

/-- `min(current_backoff + 1, settings.health_max_backoff_exponent)`. -/
def nextBackoff (settings : HealthSettings) (currentBackoff : Int) : Int :=
  min (currentBackoff + 1) settings.healthMaxBackoffExponent

/-- `2 ** next_backoff`; the result is a float for a negative exponent. -/
def powerOfTwo (exponent : Int) : Rat :=
  if 0 ≤ exponent then 2 ^ exponent.toNat else 1 / 2 ^ (-exponent).toNat

/-- The part of `mark_failure` after the read. -/
def failureWrite (settings : HealthSettings) (id : String) (call : FailureCall)
    (currentBackoff : Int) : Except Exc (ModelWrite F) :=
  let next := nextBackoff settings currentBackoff
  (call.isoAfterMinutes (settings.healthCooldownMinutes * powerOfTwo next)).map
    fun cooldownUntil =>
      .failure id call.now (String.ofList (call.error.toList.take 500)) next cooldownUntil
        settings.healthConsecutiveFailuresThreshold

/-- `mark_failure`: nothing is enqueued for a model that is not stored. -/
def markFailure (settings : HealthSettings) (table : ModelsTable F) (id : String)
    (call : FailureCall) : Except Exc (Option (ModelWrite F)) :=
  match readBackoff table id with
  | none => .ok none
  | some currentBackoff => (failureWrite settings id call currentBackoff).map some

/-- `mark_success`. -/
def markSuccess (id : String) (call : SuccessCall F) : ModelWrite F :=
  .success id call.now call.latencyMs call.ttfbMs call.probedAt

/-! ## The concurrent system -/

/-- The table, the writer's queue, the failure calls that have read but not yet
enqueued, by caller, and the calls that enqueued, in this order. -/
structure System (F : Type) where
  table : ModelsTable F
  queue : List (ModelWrite F)
  reads : Nat → Option (FailureCall × Int)
  issued : List (Call F)

/-- An idle system on a table. -/
def System.start (table : ModelsTable F) : System F where
  table := table
  queue := []
  reads := fun _ => none
  issued := []

/-- One step of a caller or of the writer thread. -/
inductive Event (F : Type) where
  /-- `mark_failure` up to and including its `SELECT`. -/
  | read (caller : Nat) (call : FailureCall)
  /-- The rest of `mark_failure`. -/
  | enqueue (caller : Nat)
  /-- `mark_success`. -/
  | success (call : SuccessCall F)
  /-- The writer applies the next `UPDATE`. -/
  | drain

/-- The step relation for the calls on model `id`; a call that raises ends without
enqueuing. -/
def step (settings : HealthSettings) (id : String) (s : System F) :
    Event F → Option (System F)
  | .read caller call =>
      match s.reads caller with
      | some _ => none
      | none =>
          match readBackoff s.table id with
          | none => some s
          | some level =>
              some { s with reads := Function.update s.reads caller (some (call, level)) }
  | .enqueue caller =>
      match s.reads caller with
      | none => none
      | some (call, level) =>
          match failureWrite settings id call level with
          | .error _ => some { s with reads := Function.update s.reads caller none }
          | .ok w =>
              some { s with
                queue := s.queue ++ [w]
                reads := Function.update s.reads caller none
                issued := s.issued ++ [.failure call] }
  | .success call =>
      some { s with
        queue := s.queue ++ [markSuccess id call]
        issued := s.issued ++ [.success call] }
  | .drain =>
      match s.queue with
      | [] => none
      | w :: rest => some { s with table := s.table.exec w, queue := rest }

/-- The table once the queue is drained. -/
def System.drained (s : System F) : ModelsTable F :=
  s.table.execAll s.queue

/-- Draining the queue reaches the drained table. -/
theorem run_drain_all (settings : HealthSettings) (id : String) (s : System F) :
    run (step settings id) s (List.replicate s.queue.length .drain) =
      some { s with table := s.drained, queue := [] } := by
  unfold System.drained
  cases s with
  | mk table queue reads issued =>
      induction queue generalizing table with
      | nil => rfl
      | cons w rest ih =>
          rw [List.length_cons, List.replicate_succ, execAll_cons]
          exact (run_cons_of_step rfl _).trans (ih (table.exec w))

/-! ## The sequential reference -/

/-- One call that is applied before the next one starts. -/
def applyCall (settings : HealthSettings) (id : String) (table : ModelsTable F) :
    Call F → Except Exc (ModelsTable F)
  | .failure call =>
      (markFailure settings table id call).map fun w => table.execAll w.toList
  | .success call => .ok (table.exec (markSuccess id call))

/-- The calls one after the other; a call that raises has no result. -/
def sequential (settings : HealthSettings) (id : String) (table : ModelsTable F) :
    List (Call F) → Except Exc (ModelsTable F)
  | [] => .ok table
  | call :: rest =>
      (applyCall settings id table call).bind fun table' => sequential settings id table' rest

/-- The columns that are compared. -/
structure HealthView where
  consecutiveFailures : Option Int
  backoffLevel : Option Int
  isHealthy : Option Int
  cooldownIsNull : Bool
deriving DecidableEq, Repr

/-- The compared columns of a row. -/
def healthView (row : ModelRow F) : HealthView where
  consecutiveFailures := row.consecutiveFailures
  backoffLevel := row.backoffLevel
  isHealthy := row.isHealthy
  cooldownIsNull := row.cooldownUntil.isNone

/-- The compared columns of the model's row. -/
def viewOf (id : String) (table : ModelsTable F) : Option HealthView :=
  (table.row? id).map healthView

/-- The drained row agrees with the sequential reference. -/
def Agrees (settings : HealthSettings) (id : String) (table : ModelsTable F)
    (s : System F) : Prop :=
  ∃ t, sequential settings id table s.issued = .ok t ∧ viewOf id s.drained = viewOf id t

/-- A failure that is about to be enqueued read a level that leads to the same next
level as the one the row will have when its `UPDATE` is applied. -/
def FreshRead (settings : HealthSettings) (id : String) (s : System F) : Event F → Prop
  | .enqueue caller =>
      ∀ call level, s.reads caller = some (call, level) →
        (∃ iso, call.isoAfterMinutes (settings.healthCooldownMinutes *
          powerOfTwo (nextBackoff settings level)) = .ok iso) →
        ∀ stored, readBackoff s.drained id = some stored →
          min (level + 1) settings.healthMaxBackoffExponent =
            min (stored + 1) settings.healthMaxBackoffExponent
  | _ => True

/-! ## The compared columns under the statements -/

/-- What a failure does to the compared columns. -/
def HealthView.fail (nextBackoff threshold : Int) (view : HealthView) : HealthView where
  consecutiveFailures := view.consecutiveFailures.map (· + 1)
  backoffLevel := some nextBackoff
  isHealthy :=
    match view.consecutiveFailures with
    | some failures => if threshold ≤ failures + 1 then some 0 else view.isHealthy
    | none => view.isHealthy
  cooldownIsNull := false

/-- What a success leaves in the compared columns. -/
def HealthView.recovered : HealthView where
  consecutiveFailures := some 0
  backoffLevel := some 0
  isHealthy := some 1
  cooldownIsNull := true

/-- A failure acts on the compared columns alone. -/
theorem viewOf_exec_failure (table : ModelsTable F) (id now error : String)
    (next : Int) (cooldownUntil : String) (threshold : Int) :
    viewOf id (table.exec (.failure id now error next cooldownUntil threshold)) =
      (viewOf id table).map (HealthView.fail next threshold) := by
  unfold viewOf ModelsTable.row? ModelsTable.exec
  rw [rowOf_apply_failure, Option.map_map, Option.map_map]
  rfl

/-- A success leaves the same columns whatever was there. -/
theorem viewOf_exec_markSuccess (table : ModelsTable F) (id : String)
    (call : SuccessCall F) :
    viewOf id (table.exec (markSuccess id call)) =
      (viewOf id table).map fun _ => HealthView.recovered := by
  unfold viewOf ModelsTable.row? ModelsTable.exec markSuccess
  rw [rowOf_apply_success, Option.map_map, Option.map_map]
  rfl

omit [FloatArith F] in
/-- The backoff level is one of the compared columns. -/
theorem readBackoff_eq (table : ModelsTable F) (id : String) :
    readBackoff table id = (viewOf id table).map fun view => view.backoffLevel.getD 0 := by
  unfold readBackoff viewOf
  rw [Option.map_map]
  rfl

theorem drained_enqueue (s : System F) (w : ModelWrite F) :
    s.table.execAll (s.queue ++ [w]) = s.drained.exec w := by
  rw [execAll_append]
  rfl

theorem sequential_snoc (settings : HealthSettings) (id : String) (table : ModelsTable F)
    (calls : List (Call F)) (call : Call F) :
    sequential settings id table (calls ++ [call]) =
      (sequential settings id table calls).bind fun t => applyCall settings id t call := by
  induction calls generalizing table with
  | nil =>
      simp only [List.nil_append, sequential, Except.bind]
      cases applyCall settings id table call <;> rfl
  | cons first rest ih =>
      simp only [List.cons_append, sequential]
      cases applyCall settings id table first with
      | error err => rfl
      | ok t => exact ih t

omit [FloatArith F] in
/-- A failure is enqueued exactly when the end of the cooldown is representable. -/
theorem failureWrite_eq_ok_iff {settings : HealthSettings} {id : String}
    {call : FailureCall} {level : Int} {w : ModelWrite F} :
    failureWrite settings id call level = .ok w ↔
      ∃ iso, call.isoAfterMinutes (settings.healthCooldownMinutes *
          powerOfTwo (nextBackoff settings level)) = .ok iso ∧
        w = .failure id call.now (String.ofList (call.error.toList.take 500))
          (nextBackoff settings level) iso settings.healthConsecutiveFailuresThreshold := by
  unfold failureWrite
  dsimp only
  cases call.isoAfterMinutes (settings.healthCooldownMinutes *
      powerOfTwo (nextBackoff settings level)) with
  | error err => simp [Except.map]
  | ok iso =>
      simp only [Except.map, Except.ok.injEq, exists_eq_left']
      exact eq_comm

omit [FloatArith F] in
/-- What `mark_failure` enqueues is a failure of its model. -/
theorem markFailure_eq_ok_some {settings : HealthSettings} {table : ModelsTable F}
    {id : String} {call : FailureCall} {w : ModelWrite F}
    (h : markFailure settings table id call = .ok (some w)) :
    ∃ error next iso, w = .failure id call.now error next iso
      settings.healthConsecutiveFailuresThreshold := by
  unfold markFailure at h
  cases hread : readBackoff table id with
  | none =>
      rw [hread] at h
      cases h
  | some level =>
      simp only [hread] at h
      cases hwrite : failureWrite (F := F) settings id call level with
      | error err =>
          rw [hwrite] at h
          cases h
      | ok w' =>
          rw [hwrite] at h
          cases h
          obtain ⟨iso, -, rfl⟩ := failureWrite_eq_ok_iff.mp hwrite
          exact ⟨_, _, iso, rfl⟩

/-! ## Agreement with the reference -/

/-- A state with the same queue result and the same calls agrees all the same. -/
theorem agrees_congr {settings : HealthSettings} {id : String} {table : ModelsTable F}
    {s s' : System F} (hdrained : s'.drained = s.drained) (hissued : s'.issued = s.issued) :
    Agrees settings id table s' ↔ Agrees settings id table s := by
  unfold Agrees
  rw [hdrained, hissued]

/-- Enqueuing a success keeps the agreement. -/
theorem agrees_success {settings : HealthSettings} {id : String} {table : ModelsTable F}
    {s s' : System F} {call : SuccessCall F} (hagrees : Agrees settings id table s)
    (hdrained : s'.drained = s.drained.exec (markSuccess id call))
    (hissued : s'.issued = s.issued ++ [.success call]) : Agrees settings id table s' := by
  obtain ⟨t, hseq, hview⟩ := hagrees
  refine ⟨t.exec (markSuccess id call), ?_, ?_⟩
  · rw [hissued, sequential_snoc, hseq]
    rfl
  · rw [hdrained, viewOf_exec_markSuccess, viewOf_exec_markSuccess, hview]

/-- Enqueuing a failure keeps the agreement exactly when its next level is the one
the reference computes. -/
theorem agrees_failure_iff {settings : HealthSettings} {id : String}
    {table : ModelsTable F} {s s' : System F} {call : FailureCall} {level : Int}
    {w : ModelWrite F} (hagrees : Agrees settings id table s)
    (hwrite : failureWrite settings id call level = .ok w)
    (hdrained : s'.drained = s.drained.exec w)
    (hissued : s'.issued = s.issued ++ [.failure call]) :
    Agrees settings id table s' ↔ ∀ stored, readBackoff s.drained id = some stored →
      nextBackoff settings level = nextBackoff settings stored := by
  obtain ⟨t, hseq, hview⟩ := hagrees
  obtain ⟨iso, hiso, rfl⟩ := failureWrite_eq_ok_iff.mp hwrite
  have hread : readBackoff t id = readBackoff s.drained id := by
    rw [readBackoff_eq, readBackoff_eq, hview]
  have hsequential : sequential settings id table s'.issued =
      applyCall settings id t (.failure call) := by
    rw [hissued, sequential_snoc, hseq]
    rfl
  unfold Agrees
  rw [hsequential, hdrained, viewOf_exec_failure]
  cases hstored : readBackoff s.drained id with
  | none =>
      -- the model is not stored: neither side changes anything
      have hnone : viewOf id t = none := by
        have h := readBackoff_eq t id
        rw [hread, hstored] at h
        exact Option.map_eq_none_iff.mp h.symm
      rw [hview, hnone]
      refine iff_of_true ⟨t, ?_, hnone.symm⟩ nofun
      simp [applyCall, markFailure, hread, hstored, Except.map]
  | some stored =>
      have hreference : applyCall settings id t (.failure call) =
          (failureWrite settings id call stored).map fun w => t.exec w := by
        simp only [applyCall, markFailure, hread, hstored]
        cases failureWrite (F := F) settings id call stored <;> rfl
      rw [hreference]
      constructor
      · rintro ⟨t', hok, hview'⟩ stored' hstored'
        cases hstored'
        cases hw : failureWrite (F := F) settings id call stored with
        | error err =>
            rw [hw] at hok
            cases hok
        | ok w' =>
            rw [hw] at hok
            cases hok
            obtain ⟨iso', -, rfl⟩ := failureWrite_eq_ok_iff.mp hw
            rw [viewOf_exec_failure, hview] at hview'
            cases hrow : viewOf id t with
            | none =>
                rw [readBackoff_eq, hview, hrow] at hstored
                cases hstored
            | some view =>
                rw [hrow] at hview'
                have hlevels := congrArg (Option.map HealthView.backoffLevel) hview'
                simpa [HealthView.fail] using hlevels
      · intro hfresh
        have hsame := hfresh stored rfl
        have hw : failureWrite (F := F) settings id call stored = .ok (.failure id call.now
            (String.ofList (call.error.toList.take 500)) (nextBackoff settings level) iso
            settings.healthConsecutiveFailuresThreshold) := by
          rw [failureWrite_eq_ok_iff, ← hsame]
          exact ⟨iso, hiso, rfl⟩
        rw [hw]
        refine ⟨_, rfl, ?_⟩
        rw [viewOf_exec_failure, hview]

/-- A step keeps the agreement with the reference exactly when the level it uses is
fresh. -/
theorem agrees_step_iff {settings : HealthSettings} {id : String} {table : ModelsTable F}
    {s s' : System F} {e : Event F} (hstep : step settings id s e = some s')
    (hagrees : Agrees settings id table s) :
    Agrees settings id table s' ↔ FreshRead settings id s e := by
  cases e with
  | read caller call =>
      have hsame : s'.drained = s.drained ∧ s'.issued = s.issued := by
        simp only [step] at hstep
        split at hstep
        · cases hstep
        · split at hstep <;> cases hstep <;> exact ⟨rfl, rfl⟩
      exact iff_of_true ((agrees_congr hsame.1 hsame.2).mpr hagrees) trivial
  | success call =>
      cases hstep
      exact iff_of_true (agrees_success hagrees (drained_enqueue s _) rfl) trivial
  | drain =>
      have hsame : s'.drained = s.drained ∧ s'.issued = s.issued := by
        simp only [step] at hstep
        split at hstep
        · cases hstep
        · rename_i w rest hqueue
          cases hstep
          refine ⟨?_, rfl⟩
          unfold System.drained
          rw [hqueue]
          rfl
      exact iff_of_true ((agrees_congr hsame.1 hsame.2).mpr hagrees) trivial
  | enqueue caller =>
      simp only [step] at hstep
      cases hreads : s.reads caller with
      | none =>
          rw [hreads] at hstep
          cases hstep
      | some pair =>
          obtain ⟨call, level⟩ := pair
          rw [hreads] at hstep
          simp only at hstep
          cases hwrite : failureWrite (F := F) settings id call level with
          | error err =>
              rw [hwrite] at hstep
              cases hstep
              refine iff_of_true ((agrees_congr rfl rfl).mpr hagrees) ?_
              intro call' level' hpair hrepresentable
              rw [hreads] at hpair
              cases hpair
              obtain ⟨iso, hiso⟩ := hrepresentable
              rw [failureWrite_eq_ok_iff.mpr ⟨iso, hiso, rfl⟩] at hwrite
              cases hwrite
          | ok w =>
              rw [hwrite] at hstep
              cases hstep
              refine (agrees_failure_iff hagrees hwrite ?_ rfl).trans ?_
              · exact drained_enqueue s w
              constructor
              · intro hfresh call' level' hpair _
                rw [hreads] at hpair
                cases hpair
                exact hfresh
              · intro hfresh
                obtain ⟨iso, hiso, -⟩ := failureWrite_eq_ok_iff.mp hwrite
                exact hfresh call level hreads ⟨iso, hiso⟩

/-- A run agrees with the sequential reference after every prefix exactly when
every failure it enqueues was computed from a fresh level. -/
theorem marks_agree_iff_fresh {settings : HealthSettings} {id : String}
    {table : ModelsTable F} {events : List (Event F)} {s : System F}
    (hrun : run (step settings id) (System.start table) events = some s) :
    (∀ es₁ es₂ s₁, events = es₁ ++ es₂ →
      run (step settings id) (System.start table) es₁ = some s₁ →
        Agrees settings id table s₁) ↔
      Guarded (step settings id) (FreshRead settings id) (System.start table) events :=
  forall_prefix_iff_guarded (fun _ => True) (Agrees settings id table)
    (fun _ _ _ _ _ => trivial) (fun _ _ _ hstep _ hagrees => agrees_step_iff hstep hagrees)
    hrun trivial ⟨table, rfl, rfl⟩

end Calls

/-! ## Two failures before the writer catches up -/

/-- A discovered model. -/
def discoveredModel : DiscoveredModel Rat where
  id := "m"
  name := "m"
  providerId := "p"
  providerModelId := "m"
  providerBaseUrl := ""
  providerApiKeyEnv := ""

/-- The table after its discovery. -/
def oneModel : ModelsTable Rat where
  rows := [discoveredModel.newRow "t0"]
  ids_nodup := by decide

/-- The default health settings. -/
def defaultSettings : HealthSettings where
  healthCooldownMinutes := 30
  healthMaxBackoffExponent := 4
  healthConsecutiveFailuresThreshold := 3

/-- A failure at a time whose cooldown end is representable. -/
def timeoutFailure : FailureCall where
  now := "t1"
  error := "timeout"
  isoAfterMinutes _ := .ok "t2"

/-- Two failures with the writer draining in between agree with the reference. -/
theorem marks_agree_drained_run :
    ∃ s, run (step defaultSettings "m") (System.start oneModel)
        [.read 0 timeoutFailure, .enqueue 0, .drain, .read 0 timeoutFailure,
          .enqueue 0] = some s ∧
      Agrees defaultSettings "m" oneModel s := by
  have hrun : run (step defaultSettings "m") (System.start oneModel)
      [.read 0 timeoutFailure, .enqueue 0, .drain, .read 0 timeoutFailure,
        .enqueue 0] = some _ := rfl
  refine ⟨_, hrun, (marks_agree_iff_fresh hrun).mpr ?_ _ [] _ (List.append_nil _).symm hrun⟩
  refine ⟨trivial, fun s₁ h₁ => ?_⟩
  cases h₁
  refine ⟨?_, fun s₂ h₂ => ?_⟩
  · intro call level hread _ stored hstored
    cases hread
    cases hstored
    rfl
  cases h₂
  refine ⟨trivial, fun s₃ h₃ => ?_⟩
  cases h₃
  refine ⟨trivial, fun s₄ h₄ => ?_⟩
  cases h₄
  refine ⟨?_, fun _ _ => trivial⟩
  intro call level hread _ stored hstored
  cases hread
  cases hstored
  rfl

/-- Two failures enqueued before the writer applies the first: the drained row has
counted both, but its backoff level is that of one. -/
theorem second_failure_reads_stale_level :
    ∃ s t, run (step defaultSettings "m") (System.start oneModel)
        [.read 0 timeoutFailure, .enqueue 0, .read 0 timeoutFailure, .enqueue 0, .drain,
          .drain] = some s ∧
      s.queue = [] ∧
      sequential defaultSettings "m" oneModel s.issued = .ok t ∧
      viewOf "m" s.table = some ⟨some 2, some 1, some 1, false⟩ ∧
      viewOf "m" t = some ⟨some 2, some 2, some 1, false⟩ :=
  ⟨_, _, rfl, rfl, rfl, rfl, rfl⟩

end Health
end FreeLunch
