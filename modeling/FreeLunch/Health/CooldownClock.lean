import FreeLunch.Health.CooldownWatch
import FreeLunch.Python.Calendar

/-!
# Cooldowns on the clock

The end of a cooldown is computed by `mark_failure` from the clock, stored as a text, and
compared as a text with the clock of a later request.  The failure that set it has gone through
the queue of the writer, beside all other operations on the `models` table.

Main results:

- Theorem `clocked_watchStep`: every stored cooldown was computed from the clock of a failure.
- Theorem `routed_after_cooldown`: while it stands, routing offers the model exactly from the
  second after its end on, if nothing else is against it.
-/

namespace FreeLunch
namespace Health

open FreeLunch.Runtime Python Store Routing Writes Runs

section Clock

variable {F : Type} [FloatArith F]

/-! ## Where a cooldown comes from -/

/-- The cooldown was computed by a failure of the model that was started, at some level. -/
def HasOrigin (events : List (WatchEvent F)) (id cooldown : String) : Prop :=
  ∃ (settings : HealthSettings) (failure : FailureEvent) (level : Int) (cooldownUntil : DateTime),
    .activity (.start (.markFailure settings id failure.call)) ∈ events ∧
      0 ≤ level ∧ level ≤ settings.healthMaxBackoffExponent ∧
      cooldownUntil.microseconds = failure.cooldownNow.microseconds +
        cooldownMinutes settings level * microsecondsPerMinute ∧
      cooldown = cooldownUntil.isoZ

/-- A statement that records a failure of the model has a level, and a cooldown from the
clock. -/
def Sound (events : List (WatchEvent F)) (id : String) (w : ModelWrite F) : Prop :=
  ∀ now error next cooldownUntil threshold,
    w = .failure id now error next cooldownUntil threshold →
      0 ≤ next ∧ HasOrigin events id cooldownUntil

/-- The failures of the model read the clock, under exponents that are not negative. -/
def ReadsClock (id : String) (events : List (WatchEvent F)) : Prop :=
  ∀ settings call, .activity (.start (.markFailure settings id call)) ∈ events →
    0 ≤ settings.healthMaxBackoffExponent ∧ ∃ failure : FailureEvent, call = failure.call

/-- The stored level of a model is not negative. -/
def LevelStored (id : String) (table : ModelsTable F) : Prop :=
  ∀ row, table.row? id = some row → 0 ≤ row.backoffLevel.getD 0

/-- What is enqueued, stored and noted comes from the clock. -/
structure Clocked (events : List (WatchEvent F)) (id : String) (s : Watched F) : Prop where
  pending : s.activity.Pending (Sound events id)
  level : LevelStored id s.activity.table
  noted : ∀ cooldown, s.pending = some cooldown → HasOrigin events id cooldown
  stands : Stands id s.activity.table s.pending

omit [FloatArith F] in
/-- What `mark_failure` enqueues. -/
theorem sound_markFailure {events : List (WatchEvent F)} {id : String} {table : ModelsTable F}
    (hclock : ReadsClock id events) (hlevel : LevelStored id table) {settings : HealthSettings}
    {call : FailureCall}
    (hstarted : .activity (.start (.markFailure settings id call)) ∈ events)
    {w : ModelWrite F} (h : markFailure settings table id call = .ok (some w)) :
    Sound events id w := by
  obtain ⟨hexponent, failure, rfl⟩ := hclock settings call hstarted
  unfold markFailure at h
  cases hread : readBackoff table id with
  | none =>
      rw [hread] at h
      cases h
  | some level =>
      rw [hread] at h
      obtain ⟨w', hwrite, hw⟩ := map_ok_iff.mp h
      cases hw
      obtain ⟨iso, hiso, rfl⟩ := failureWrite_eq_ok_iff.mp hwrite
      have hnonneg : 0 ≤ level := by
        unfold readBackoff at hread
        obtain ⟨row, hrow, rfl⟩ := Option.map_eq_some_iff.mp hread
        exact hlevel row hrow
      have hnext : 0 ≤ nextBackoff settings level := by
        unfold nextBackoff
        omega
      have hmost : nextBackoff settings level ≤ settings.healthMaxBackoffExponent :=
        min_le_right _ _
      rw [cast_cooldownMinutes settings hnext] at hiso
      obtain ⟨cooldownUntil, hdate, hend⟩ := isoAfterMinutes_eq_ok_iff.mp hiso
      intro now error next cooldown threshold hw
      obtain ⟨-, -, -, rfl, rfl, -⟩ := ModelWrite.failure.inj hw
      exact ⟨hnext, settings, failure, _, cooldownUntil, hstarted, hnext, hmost, hdate,
        hend.symm⟩

omit [FloatArith F] in
/-- What an operation enqueues. -/
theorem sound_writes {events : List (WatchEvent F)} {id : String} {table : ModelsTable F}
    (hclock : ReadsClock id events) (hlevel : LevelStored id table) {op : Inventory.Operation F}
    (hstarted : .activity (.start op) ∈ events) : ∀ w ∈ op.writes table, Sound events id w := by
  intro w hw now error next cooldown threshold hfailure
  subst hfailure
  cases op with
  | markFailure settings other call =>
      unfold Inventory.Operation.writes at hw
      dsimp only at hw
      cases hmark : markFailure settings table other call with
      | error exc =>
          rw [hmark] at hw
          cases hw
      | ok enqueued =>
          rw [hmark, Option.mem_toList] at hw
          cases hw
          have hother : other = id := by
            obtain ⟨_, _, _, hwrite⟩ := markFailure_eq_ok_some hmark
            cases hwrite
            rfl
          subst hother
          exact sound_markFailure hclock hlevel hstarted hmark now error next cooldown threshold rfl
  | _ => cases Inventory.enqueues_of_mem_writes hw

/-! ## One step -/

/-- A statement keeps the stored level of the model from being negative. -/
theorem levelStored_exec {events : List (WatchEvent F)} {id : String} {table : ModelsTable F}
    {w : ModelWrite F} (hw : Sound events id w) (h : LevelStored id table) :
    LevelStored id (table.exec w) := by
  intro row hrow
  have hread : (table.exec w).row? id = w.onRow id (table.row? id) := rowOf_apply w id table.rows
  rw [hread] at hrow
  cases w with
  | upsert model now =>
      unfold ModelWrite.onRow at hrow
      dsimp only at hrow
      split at hrow
      · cases hold : table.row? id with
        | none =>
            rw [hold] at hrow
            cases hrow
            exact le_rfl
        | some old =>
            rw [hold] at hrow
            cases hrow
            exact h old hold
      · exact h row hrow
  | failure other now error next cooldown threshold =>
      obtain ⟨old, hold, hset⟩ := Option.map_eq_some_iff.mp hrow
      split at hset
      · next hselects =>
          have hother : other = id :=
            (of_decide_eq_true hselects).symm.trans (of_decide_eq_true (hasId_of_rowOf hold))
          subst hother
          subst hset
          exact (hw now error next cooldown threshold rfl).1
      · subst hset
        exact h old hold
  | success other now latencyMs ttfbMs probedAt =>
      obtain ⟨old, hold, hset⟩ := Option.map_eq_some_iff.mp hrow
      split at hset
      · subst hset
        exact le_rfl
      · subst hset
        exact h old hold
  | _ =>
      obtain ⟨old, hold, hset⟩ := Option.map_eq_some_iff.mp hrow
      split at hset
      · subst hset
        exact h old hold
      · subst hset
        exact h old hold

omit [FloatArith F] in
/-- A cooldown that is noted when a statement is executed has an origin. -/
theorem hasOrigin_pendingAfter {events : List (WatchEvent F)} {id : String}
    {table : ModelsTable F} {w : ModelWrite F} (hw : Sound events id w) {pending : Option String}
    (h : ∀ cooldown, pending = some cooldown → HasOrigin events id cooldown) :
    ∀ cooldown, pendingAfter id table w pending = some cooldown →
      HasOrigin events id cooldown := by
  intro cooldown hnoted
  unfold pendingAfter at hnoted
  cases w with
  | failure other now error next cooldownUntil threshold =>
      dsimp only at hnoted
      by_cases hother : other = id
      · subst hother
        rw [if_pos rfl] at hnoted
        obtain ⟨-, -, rfl⟩ := Option.map_eq_some_iff.mp hnoted
        exact (hw now error next cooldownUntil threshold rfl).2
      · rw [if_neg hother] at hnoted
        exact h cooldown hnoted
  | success other now latencyMs ttfbMs probedAt =>
      dsimp only at hnoted
      by_cases hother : other = id
      · rw [if_pos hother] at hnoted
        cases hnoted
      · rw [if_neg hother] at hnoted
        exact h cooldown hnoted
  | _ => exact h cooldown hnoted

/-- Every step keeps what is enqueued, stored and noted to the clock. -/
theorem clocked_watchStep {events : List (WatchEvent F)} {id : String} {s s' : Watched F}
    {e : WatchEvent F} (hclock : ReadsClock id events) (hstep : watchStep id s e = some s')
    (he : e ∈ events) (h : Clocked events id s) : Clocked events id s' := by
  have hstands := stands_watchStep hstep h.stands
  cases e with
  | select settings now staleNow =>
      cases hstep
      exact ⟨h.pending, h.level, h.noted, hstands⟩
  | activity e =>
      unfold watchStep at hstep
      obtain ⟨activity, hactivity, rfl⟩ := Option.map_eq_some_iff.mp hstep
      have hpending : activity.Pending (Sound events id) := by
        refine Inventory.pending_step hactivity (fun op hop => ?_) h.pending
        subst hop
        exact sound_writes hclock h.level he
      cases e with
      | start op =>
          cases hactivity
          exact ⟨hpending, h.level, h.noted, hstands⟩
      | emit task =>
          have htable : activity.table = s.activity.table := by
            unfold Inventory.step at hactivity
            dsimp only at hactivity
            split at hactivity
            · cases hactivity
              rfl
            · cases hactivity
          refine ⟨hpending, ?_, h.noted, hstands⟩
          dsimp only
          rw [htable]
          exact h.level
      | drain =>
          unfold Inventory.step at hactivity
          dsimp only at hactivity
          cases hqueue : s.activity.queue with
          | nil =>
              rw [hqueue] at hactivity
              cases hactivity
          | cons w rest =>
              rw [hqueue] at hactivity
              cases hactivity
              have hw : Sound events id w := h.pending.queued w (by
                rw [hqueue]
                exact List.mem_cons_self)
              refine ⟨hpending, levelStored_exec hw h.level, ?_, hstands⟩
              unfold notedAfter
              rw [hqueue]
              exact hasOrigin_pendingAfter hw h.noted

/-! ## Routing -/

/-- A row with a cooldown is eligible when it is without one, from the second after its end
on. -/
theorem eligible_iff_of_cooldown {now cooldownUntil : DateTime} {req : RoutingRequirements F}
    {row : ModelRow F} (hcooldown : row.cooldownUntil = some cooldownUntil.isoZ) :
    eligible now.isoZ req row = true ↔
      eligible now.isoZ req { row with cooldownUntil := none } = true ∧
        cooldownUntil.second < now.second := by
  rw [eligible_iff, eligible_iff, hcooldown]
  simp only [Option.some.injEq, forall_eq', isoZ_lt_iff, reduceCtorEq, false_imp_iff,
    implies_true, true_and]
  tauto

/-- The last failure of a model set a cooldown from the clock that it read.  As long as no
success and no other failure of the model is executed, routing offers the model exactly from
the second after that cooldown on, whatever else is done to the table. -/
theorem routed_after_cooldown {id : String} {table : ModelsTable F} {s : Watched F}
    {events : List (WatchEvent F)} (hlevel : LevelStored id table)
    (hclock : ReadsClock id events)
    (hrun : run (watchStep id) (Watched.start ⟨table, [], []⟩) events = some s)
    {cooldown : String} (hpending : s.pending = some cooldown) :
    ∃ (settings : HealthSettings) (failure : FailureEvent) (level : Int) (row : ModelRow F),
      .activity (.start (.markFailure settings id failure.call)) ∈ events ∧
      0 ≤ level ∧ level ≤ settings.healthMaxBackoffExponent ∧
      s.activity.table.row? id = some row ∧
      ∀ (now : DateTime) (req : RoutingRequirements F),
        eligible now.isoZ req row = true ↔
          eligible now.isoZ req { row with cooldownUntil := none } = true ∧
            (failure.cooldownNow.second : Int) + 60 * cooldownMinutes settings level <
              now.second := by
  have hstart : Clocked events id (Watched.start ⟨table, [], []⟩) := by
    refine ⟨⟨?_, ?_⟩, hlevel, ?_, ?_⟩
    · intro w hw
      cases hw
    · intro writes hwrites
      cases hwrites
    · intro cooldown hnone
      cases hnone
    · intro cooldown hnone
      cases hnone
  have hend := run_guarded_invariant (Clocked events id)
    (fun _ _ _ hstep he h => clocked_watchStep hclock hstep he h) hrun
    (guarded_of_forall_mem (fun _ he => he) _) hstart
  obtain ⟨settings, failure, level, cooldownUntil, hstarted, hleast, hmost, hdate, rfl⟩ :=
    hend.noted cooldown hpending
  obtain ⟨row, hrow, hcooldown⟩ := hend.stands _ hpending
  refine ⟨settings, failure, level, row, hstarted, hleast, hmost, hrow, fun now req => ?_⟩
  have hsecond : (cooldownUntil.second : ℤ) =
      failure.cooldownNow.second + 60 * cooldownMinutes settings level :=
    second_of_minutes hdate
  rw [eligible_iff_of_cooldown hcooldown, ← hsecond, Int.ofNat_lt]

end Clock

/-! ## Samples -/

theorem readsClock_failedProbe : ReadsClock "a" failedProbe := by
  intro settings call hmem
  unfold failedProbe at hmem
  simp only [List.mem_cons, WatchEvent.activity.injEq, Inventory.Event.start.injEq, reduceCtorEq,
    List.not_mem_nil, or_false, Inventory.Operation.markFailure.injEq, true_and] at hmem
  obtain ⟨rfl, rfl⟩ := hmem
  exact ⟨by decide, newYearFailure, rfl⟩

theorem levelStored_sampleTable : LevelStored "a" sampleTable := by
  intro row hrow
  cases hrow
  decide

/-- After the failed probe of the model "a" routing offers it again by the clock of the
failure. -/
theorem routed_after_cooldown_sample :
    ∃ (settings : HealthSettings) (failure : FailureEvent) (level : Int) (row : ModelRow Rat),
      .activity (.start (.markFailure settings "a" failure.call)) ∈ failedProbe ∧
      0 ≤ level ∧ level ≤ settings.healthMaxBackoffExponent ∧
      ((run (watchStep "a") (Watched.start sampleActivity) failedProbe).get
        (by decide +kernel)).activity.table.row? "a" = some row ∧
      ∀ (now : DateTime) (req : RoutingRequirements Rat),
        eligible now.isoZ req row = true ↔
          eligible now.isoZ req { row with cooldownUntil := none } = true ∧
            (failure.cooldownNow.second : Int) + 60 * cooldownMinutes settings level <
              now.second := by
  have hpending : ((run (watchStep "a") (Watched.start sampleActivity) failedProbe).get
      (by decide +kernel)).pending = some "2024-01-01T01:00:00Z" := by
    decide +kernel
  exact routed_after_cooldown levelStored_sampleTable readsClock_failedProbe
    (Option.some_get _).symm hpending

end Health
end FreeLunch
