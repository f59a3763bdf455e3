import FreeLunch.Health.Marks
import FreeLunch.Python.DateTime
import FreeLunch.Routing.RankingDominance
import FreeLunch.Runtime.FromEnv

/-!
# The cooldowns of consecutive failures

`mark_failure` with `_iso_after_minutes` on real dates: the level grows by one with each
failure up to the exponent, and the cooldown doubles with it.

Main results:

- Theorem `markFailure_records_iff`: one failure is recorded exactly when the end of its
  cooldown is before the year 10000.
- Theorem `recordsFailures_iff`: so is each of any number of consecutive failures.

Current gaps:

- The failures follow each other with their updates applied in between.
-/

namespace FreeLunch
namespace Health

open FreeLunch.Runtime Python Store Routing Writes

/-! ## Real dates -/

/-- `_iso_after_minutes`.  The span is rounded to microseconds. -/
def isoAfterMinutes (now : DateTime) (minutes : Rat) : Except Exc String := do
  let date ← now.add (roundHalfEven (minutes * microsecondsPerMinute))
  return date.isoZ

/-- One failure: its error text and the two times that `mark_failure` reads. -/
structure FailureEvent where
  now : DateTime
  cooldownNow : DateTime
  error : String

/-- The call of `mark_failure`. -/
def FailureEvent.call (failure : FailureEvent) : FailureCall where
  now := failure.now.isoZ
  error := failure.error
  isoAfterMinutes := isoAfterMinutes failure.cooldownNow

/-- The levels that are stored: new rows and successes have level 0, and a failure stores the
next one. -/
inductive StoredLevel (F : Type) [Runtime F] : Int → Prop where
  | reset : StoredLevel F 0
  | failure {level : Int} {settings : HealthSettings} (hlevel : StoredLevel F level)
      (hexponent : Admitted F .healthMaxBackoffExponent settings.healthMaxBackoffExponent) :
      StoredLevel F (nextBackoff settings level)

/-- The stored levels are the numbers from zero on. -/
theorem storedLevel_iff {F : Type} [Runtime F] {level : Int} :
    StoredLevel F level ↔ 0 ≤ level := by
  constructor
  · intro h
    induction h with
    | reset => exact Int.le_refl 0
    | @failure level settings _ hexponent ih =>
        have hnonneg := (admitted_of_clamped (fun _ => rfl) fun _ => rfl).mp hexponent
        unfold nextBackoff
        omega
  · intro h
    obtain ⟨n, rfl⟩ := Int.eq_ofNat_of_zero_le h
    clear h
    induction n with
    | zero => exact .reset
    | succ n ih =>
        have hexponent : Admitted F .healthMaxBackoffExponent (n + 1 : Nat) :=
          (admitted_of_clamped (fun _ => rfl) fun _ => rfl).mpr (by omega)
        have hnext : nextBackoff ⟨1, (n + 1 : Nat), 1⟩ n = (n + 1 : Nat) := by
          unfold nextBackoff
          dsimp only
          omega
        rw [← hnext]
        exact .failure ih hexponent

/-! ## One failure -/

theorem roundHalfEven_intCast (n : Int) : roundHalfEven n = n := by
  unfold roundHalfEven
  simp

theorem isoAfterMinutes_eq_ok_iff {now : DateTime} {minutes : Int} {text : String} :
    isoAfterMinutes now minutes = .ok text ↔
      ∃ date : DateTime, date.microseconds = now.microseconds + minutes * microsecondsPerMinute ∧
        date.isoZ = text := by
  have hspan : roundHalfEven ((minutes : Rat) * microsecondsPerMinute) =
      minutes * microsecondsPerMinute := by
    rw [← Int.cast_mul, roundHalfEven_intCast]
  unfold isoAfterMinutes
  rw [hspan]
  constructor
  · intro h
    obtain ⟨date, hdate, htext⟩ := bind_ok_iff.mp h
    exact ⟨date, add_eq_ok_iff.mp hdate, Except.ok.inj htext⟩
  · rintro ⟨date, hdate, rfl⟩
    exact bind_ok_iff.mpr ⟨date, add_eq_ok_iff.mpr hdate, rfl⟩

/-- The length of a cooldown at a level, in minutes. -/
def cooldownMinutes (settings : HealthSettings) (level : Int) : Int :=
  settings.healthCooldownMinutes * 2 ^ level.toNat

theorem cast_cooldownMinutes (settings : HealthSettings) {level : Int} (h : 0 ≤ level) :
    (settings.healthCooldownMinutes : Rat) * powerOfTwo level =
      (cooldownMinutes settings level : Int) := by
  unfold powerOfTwo cooldownMinutes
  rw [if_pos h]
  push_cast
  rfl

section Failures

variable {F : Type} [FloatArith F]

/-- A failure is recorded at a level: the call completes, and what it enqueues ends the
cooldown after its length. -/
def Records (settings : HealthSettings) (id : String) (table : ModelsTable F) (next : Int)
    (failure : FailureEvent) (w : ModelWrite F) : Prop :=
  markFailure settings table id failure.call = .ok (some w) ∧
    ∃ cooldownUntil : DateTime,
      cooldownUntil.microseconds = failure.cooldownNow.microseconds +
        cooldownMinutes settings next * microsecondsPerMinute ∧
      w = .failure id failure.now.isoZ (String.ofList (failure.error.toList.take 500)) next
        cooldownUntil.isoZ settings.healthConsecutiveFailuresThreshold

/-- The cooldown of a failure ends before the year 10000. -/
def CooldownFits (settings : HealthSettings) (next : Int) (failure : FailureEvent) : Prop :=
  failure.cooldownNow.microseconds + cooldownMinutes settings next * microsecondsPerMinute <
    endOfCalendar

omit [FloatArith F] in
/-- A failure is recorded at the next level exactly when its cooldown fits. -/
theorem markFailure_records_iff {settings : HealthSettings} {table : ModelsTable F}
    {id : String} {level : Int} (hlevel : readBackoff table id = some level)
    (hnext : 0 ≤ nextBackoff settings level) (hminutes : 0 ≤ settings.healthCooldownMinutes)
    (failure : FailureEvent) :
    (∃ w, Records settings id table (nextBackoff settings level) failure w) ↔
      CooldownFits settings (nextBackoff settings level) failure := by
  have hread : markFailure settings table id failure.call =
      (failureWrite settings id failure.call level).map some := by
    unfold markFailure
    rw [hlevel]
  have hiso : failure.call.isoAfterMinutes (settings.healthCooldownMinutes *
      powerOfTwo (nextBackoff settings level)) = isoAfterMinutes failure.cooldownNow
        (cooldownMinutes settings (nextBackoff settings level) : Int) := by
    rw [cast_cooldownMinutes settings hnext]
    rfl
  constructor
  · rintro ⟨w, -, cooldownUntil, hdate, -⟩
    have hrange := cooldownUntil.inRange.2
    unfold CooldownFits
    omega
  · intro hfits
    have hnow := failure.cooldownNow.inRange.1
    have hlength : 0 ≤ cooldownMinutes settings (nextBackoff settings level) *
        microsecondsPerMinute :=
      Int.mul_nonneg (Int.mul_nonneg hminutes (Int.pow_nonneg (by decide))) (by decide)
    let cooldownUntil : DateTime := ⟨failure.cooldownNow.microseconds +
      cooldownMinutes settings (nextBackoff settings level) * microsecondsPerMinute,
      by omega, hfits⟩
    refine ⟨_, ?_, cooldownUntil, rfl, rfl⟩
    rw [hread]
    have hdate := hiso.trans (isoAfterMinutes_eq_ok_iff.mpr ⟨cooldownUntil, rfl, rfl⟩)
    have hwrite : failureWrite (F := F) settings id failure.call level =
        .ok (.failure id failure.now.isoZ (String.ofList (failure.error.toList.take 500))
          (nextBackoff settings level) cooldownUntil.isoZ
          settings.healthConsecutiveFailuresThreshold) :=
      failureWrite_eq_ok_iff.mpr ⟨cooldownUntil.isoZ, hdate, rfl⟩
    rw [hwrite]
    rfl

/-! ## Consecutive failures -/

/-- Each of a number of consecutive failures is recorded at the level after the one that is
stored, with its update applied before the next one. -/
def RecordsFailures (settings : HealthSettings) (id : String) :
    ModelsTable F → Int → List FailureEvent → Prop
  | _, _, [] => True
  | table, level, failure :: rest =>
      ∃ w, Records settings id table (nextBackoff settings level) failure w ∧
        RecordsFailures settings id (table.exec w) (nextBackoff settings level) rest

/-- The level after a number of failures. -/
def levelAfter (settings : HealthSettings) (level : Int) (failures : Nat) : Int :=
  min (level + failures) settings.healthMaxBackoffExponent

/-- A recorded failure stores its level. -/
theorem readBackoff_of_records {settings : HealthSettings} {table : ModelsTable F}
    {id : String} {next : Int} {failure : FailureEvent} {w : ModelWrite F} {level : Int}
    (hlevel : readBackoff table id = some level)
    (h : Records settings id table next failure w) :
    readBackoff (table.exec w) id = some next := by
  obtain ⟨-, cooldownUntil, -, rfl⟩ := h
  rw [readBackoff_eq, viewOf_exec_failure]
  rw [readBackoff_eq] at hlevel
  obtain ⟨view, hview, -⟩ := Option.map_eq_some_iff.mp hlevel
  rw [hview]
  rfl

/-- The failures are recorded exactly when the cooldown of each fits. -/
theorem recordsFailures_iff_fits {settings : HealthSettings}
    (hminutes : 0 ≤ settings.healthCooldownMinutes)
    {id : String} (failures : List FailureEvent) : ∀ {table : ModelsTable F} {level : Int},
    readBackoff table id = some level → 0 ≤ level →
      level ≤ settings.healthMaxBackoffExponent →
      (RecordsFailures settings id table level failures ↔
        ∀ i failure, failures[i]? = some failure →
          CooldownFits settings (levelAfter settings level (i + 1)) failure) := by
  induction failures with
  | nil =>
      intro table level _ _ _
      exact iff_of_true trivial (by simp)
  | cons first rest ih =>
      intro table level hlevel hlow hhigh
      have hnextLow : 0 ≤ nextBackoff settings level := by
        unfold nextBackoff
        omega
      have hnextHigh : nextBackoff settings level ≤ settings.healthMaxBackoffExponent := by
        unfold nextBackoff
        omega
      have hfirst : levelAfter settings level (0 + 1) = nextBackoff settings level := rfl
      have hlater : ∀ i : Nat, levelAfter settings (nextBackoff settings level) (i + 1) =
          levelAfter settings level (i + 1 + 1) := by
        intro i
        unfold levelAfter nextBackoff
        omega
      have hone := markFailure_records_iff hlevel hnextLow hminutes first
      constructor
      · rintro ⟨w, hw, hrest⟩ i failure hi
        cases i with
        | zero =>
            cases hi
            exact hone.mp ⟨w, hw⟩
        | succ i =>
            have hstored := readBackoff_of_records hlevel hw
            rw [← hlater]
            exact (ih hstored hnextLow hnextHigh).mp hrest i failure hi
      · intro hfits
        obtain ⟨w, hw⟩ := hone.mpr (hfits 0 first rfl)
        refine ⟨w, hw, (ih (readBackoff_of_records hlevel hw) hnextLow hnextHigh).mpr ?_⟩
        intro i failure hi
        rw [hlater]
        exact hfits (i + 1) failure hi

/-- Consecutive failures of a stored model are recorded, with the settings that can be
configured, exactly when each cooldown ends before the year 10000. -/
theorem recordsFailures_iff [Runtime F] {settings : HealthSettings}
    (hminutes : Admitted F .healthCooldownMinutes settings.healthCooldownMinutes)
    {table : ModelsTable F} {id : String} {level : Int} (hread : readBackoff table id = some level)
    (hlevel : StoredLevel F level) (hle : level ≤ settings.healthMaxBackoffExponent)
    (failures : List FailureEvent) :
    RecordsFailures settings id table level failures ↔
      ∀ i failure, failures[i]? = some failure →
        failure.cooldownNow.microseconds + settings.healthCooldownMinutes *
            2 ^ (min (level + (i + 1 : Nat)) settings.healthMaxBackoffExponent).toNat *
              microsecondsPerMinute < endOfCalendar := by
  have hminutes' := (admitted_of_clamped (fun _ => rfl) fun _ => rfl).mp hminutes
  exact recordsFailures_iff_fits (by omega) failures hread
    (storedLevel_iff.mp hlevel) hle

end Failures

/-! ## Samples -/

/-- A failure at the start of the year 2024. -/
def newYearFailure : FailureEvent where
  now := newYear
  cooldownNow := newYear
  error := "HTTP 500"

/-- The default settings with another exponent. -/
def backoffSettings (maxBackoffExponent : Int) : HealthSettings where
  healthCooldownMinutes := 30
  healthMaxBackoffExponent := maxBackoffExponent
  healthConsecutiveFailuresThreshold := 3

/-- With the default settings two failures are recorded. -/
theorem recordsFailures_sample :
    RecordsFailures (backoffSettings 4) "a" sampleTable 0 [newYearFailure, newYearFailure] := by
  refine (recordsFailures_iff (admitted_iff.mpr (.inr rfl)) rfl .reset (by decide)
    [newYearFailure, newYearFailure]).mpr ?_
  intro i failure hi
  have hindex : i < 2 := (List.getElem?_eq_some_iff.mp hi).1
  have hfailure := List.mem_of_getElem? hi
  simp only [List.mem_cons, List.not_mem_nil, or_false, or_self] at hfailure
  subst hfailure
  obtain rfl | rfl : i = 0 ∨ i = 1 := by omega
  · decide
  · decide

/-- Level 27 is stored after 27 failures with the exponent 40; the next failure raises. -/
theorem long_backoff_raises :
    Admitted Rat .healthCooldownMinutes (backoffSettings 40).healthCooldownMinutes ∧
      Admitted Rat .healthMaxBackoffExponent (backoffSettings 40).healthMaxBackoffExponent ∧
      readBackoff (sampleTable.exec (.failure "a" "" "" 27 "" 3)) "a" = some 27 ∧
      StoredLevel Rat 27 ∧
      markFailure (backoffSettings 40) (sampleTable.exec (.failure "a" "" "" 27 "" 3)) "a"
        newYearFailure.call = .error (.overflowError "date value out of range") := by
  refine ⟨admitted_iff.mpr (.inr rfl), admitted_iff.mpr (.inr rfl), ?_,
    storedLevel_iff.mpr (by decide), ?_⟩
  · decide +kernel
  · decide +kernel

end Health
end FreeLunch
