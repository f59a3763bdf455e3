import FreeLunch.Inventory.Activity

/-!
# The failure counter and the health flag

`mark_failure` makes a model unhealthy when its failure counter reaches the threshold, and
`mark_success` resets the counter together with the flag.  The upsert of `run_discovery`
sets the flag and leaves the counter.  This module follows both columns through every
interleaving of the operations with the writer, under a fixed threshold and adapters that
report their models healthy.

Main results:

- Theorem `settled_apply_iff`: a statement keeps the two columns in agreement unless it
  refreshes a model that has reached the threshold.
- Theorem `settled_iff_no_refresh`: a run from a fresh database keeps them in agreement
  throughout exactly when none of its upserts does so.
-/

namespace FreeLunch
namespace Inventory

open Runs Python Store Health Routing

/-! ## Fixed settings -/

section Threshold

variable {F : Type} [FloatArith F]

/-- A statement of an application whose threshold is `t` and whose adapters report
healthy models. -/
def UnderThreshold (t : Int) : ModelWrite F → Prop
  | .upsert model _ => model.isHealthy = some 1
  | .failure _ _ _ _ _ threshold => threshold = t
  | _ => True

/-- An operation of such an application. -/
def Operation.UnderThreshold (t : Int) : Operation F → Prop
  | .discovery _ providers =>
      ∀ provider ∈ providers, ∀ model ∈ provider.models, model.isHealthy = some 1
  | .markFailure settings _ _ => settings.healthConsecutiveFailuresThreshold = t
  | _ => True

/-- An event of such an application. -/
def Event.UnderThreshold (t : Int) : Event F → Prop
  | .start op => op.UnderThreshold t
  | _ => True

/-- The steps of such an application. -/
def stepUnder (t : Int) (s : System F) (e : { e : Event F // e.UnderThreshold t }) :
    Option (System F) :=
  step s e.val

/-- A fresh database and nothing in progress. -/
def System.fresh : System F where
  table := ⟨[], List.nodup_nil⟩
  queue := []
  inProgress := []

omit [FloatArith F] in
/-- The operations of such an application enqueue statements of it. -/
theorem underThreshold_writes {t : Int} {op : Operation F} (hop : op.UnderThreshold t)
    (table : ModelsTable F) : ∀ w ∈ op.writes table, Inventory.UnderThreshold t w := by
  intro w hw
  cases enqueues_of_mem_writes hw with
  | enable id => trivial
  | disable id => trivial
  | upsert hprovider hmodel => exact hop _ hprovider _ hmodel
  | markNotSeen providerId seenIds => trivial
  | setScore id compositeScore => trivial
  | unroutableProbe id => trivial
  | failure error nextBackoff cooldownUntil => exact hop
  | success id call => trivial
  | deactivateProvider providerId => trivial

/-! ## One statement -/

/-- The model has failed `t` times in a row or more. -/
def Exhausted (t : Int) (row : ModelRow F) : Prop :=
  ∃ failures, row.consecutiveFailures = some failures ∧ t ≤ failures

/-- A row whose failures have reached the threshold is unhealthy. -/
def SettledRow (t : Int) (row : ModelRow F) : Prop :=
  Exhausted t row → row.isHealthy = some 0

/-- Every row is. -/
def Settled (t : Int) (rows : List (ModelRow F)) : Prop :=
  ∀ row ∈ rows, SettledRow t row

/-- The statement is an upsert of a stored model that has reached the threshold. -/
def RefreshesExhausted (t : Int) (rows : List (ModelRow F)) (w : ModelWrite F) : Prop :=
  ∃ model now, w = .upsert model now ∧ ∃ row ∈ rows, row.id = model.id ∧ Exhausted t row

theorem not_exhausted_newRow {t : Int} (ht : 1 ≤ t) (model : DiscoveredModel F)
    (now : String) : ¬ Exhausted t (model.newRow now) := by
  rintro ⟨failures, hfailures, hle⟩
  cases hfailures
  omega

omit [FloatArith F] in
/-- A failure counts up and, at the threshold, makes the model unhealthy. -/
theorem settledRow_failureUpdate (t : Int) (now error : String) (next : Int)
    (cooldownUntil : String) (row : ModelRow F) :
    SettledRow t (failureUpdate now error next cooldownUntil t row) := by
  rintro ⟨failures, hfailures, hle⟩
  unfold failureUpdate at hfailures ⊢
  cases hold : row.consecutiveFailures with
  | none => simp [hold] at hfailures
  | some before =>
      simp only [hold, Option.map_some, Option.some.injEq] at hfailures
      have hreached : t ≤ before + 1 := by
        rw [hfailures]
        exact hle
      simp [hreached]

theorem settledRow_successUpdate {t : Int} (ht : 1 ≤ t) (now : String)
    (latencyMs ttfbMs : Option F) (probedAt : Option String) (row : ModelRow F) :
    SettledRow t (successUpdate now latencyMs ttfbMs probedAt row) := by
  rintro ⟨failures, hfailures, hle⟩
  cases hfailures
  omega

/-- Every statement that is no upsert keeps a row settled. -/
theorem settledRow_set {t : Int} (ht : 1 ≤ t) {w : ModelWrite F} (hw : UnderThreshold t w)
    (hupsert : ∀ model now, w ≠ .upsert model now) {row : ModelRow F}
    (h : SettledRow t row) : SettledRow t (w.set row) := by
  cases w with
  | upsert model now => exact absurd rfl (hupsert model now)
  | setActive id isActive => exact h
  | markNotSeen providerId seenIds => exact h
  | deactivateProvider providerId => exact h
  | setScore id compositeScore scoreUpdatedAt => exact h
  | failure id now error next cooldownUntil threshold =>
      have hthreshold : threshold = t := hw
      rw [hthreshold]
      exact settledRow_failureUpdate t now error next cooldownUntil row
  | success id now latencyMs ttfbMs probedAt =>
      exact settledRow_successUpdate ht now latencyMs ttfbMs probedAt row

omit [FloatArith F] in
/-- A refreshed row keeps its counter and becomes healthy. -/
theorem settledRow_refresh_iff {t : Int} {model : DiscoveredModel F}
    (hmodel : model.isHealthy = some 1) (now : String) (row : ModelRow F) :
    SettledRow t (model.refresh now row) ↔ ¬ Exhausted t row := by
  have hhealthy : (model.refresh now row).isHealthy = some 1 := hmodel
  have hexhausted : Exhausted t (model.refresh now row) ↔ Exhausted t row := Iff.rfl
  unfold SettledRow
  rw [hhealthy, hexhausted]
  simp

/-- A statement keeps the rows settled unless it refreshes an exhausted model. -/
theorem settled_apply_iff {t : Int} (ht : 1 ≤ t) {w : ModelWrite F}
    (hw : UnderThreshold t w) {rows : List (ModelRow F)} (h : Settled t rows) :
    Settled t (w.apply rows) ↔ ¬ RefreshesExhausted t rows w := by
  rcases apply_cases w rows with happly | ⟨model, now, rfl, hnone, happly⟩
  · rw [happly]
    constructor
    · rintro hafter ⟨model, now, rfl, row, hrow, hid, hexhausted⟩
      have hmem : model.refresh now row ∈ Tables.updateWhere (ModelWrite.selects
          (.upsert model now)) (ModelWrite.set (.upsert model now)) rows :=
        Tables.mem_updateWhere.mpr ⟨row, hrow, if_pos (decide_eq_true hid)⟩
      exact (settledRow_refresh_iff hw now row).mp (hafter _ hmem) hexhausted
    · intro hnot row hrow
      obtain ⟨old, hold, hset⟩ := Tables.mem_updateWhere.mp hrow
      by_cases hselects : w.selects old = true
      · rw [if_pos hselects] at hset
        rw [← hset]
        by_cases hupsert : ∃ model now, w = .upsert model now
        · obtain ⟨model, now, rfl⟩ := hupsert
          refine (settledRow_refresh_iff hw now old).mpr fun hexhausted => ?_
          exact hnot ⟨model, now, rfl, old, hold, of_decide_eq_true hselects, hexhausted⟩
        · refine settledRow_set ht hw (fun model now heq => ?_) (h old hold)
          exact hupsert ⟨model, now, heq⟩
      · rw [if_neg hselects] at hset
        rw [← hset]
        exact h old hold
  · -- a model that is stored for the first time has not failed yet
    rw [happly]
    refine iff_of_true ?_ ?_
    · intro row hrow
      rcases List.mem_append.mp hrow with hold | hnew
      · exact h row hold
      · rw [List.mem_singleton.mp hnew]
        intro hexhausted
        exact absurd hexhausted (not_exhausted_newRow ht model now)
    · rintro ⟨model', now', heq, row, hrow, hid, -⟩
      cases heq
      have hsome : (Tables.lookup ModelRow.id model.id rows).isSome = true :=
        Tables.lookup_isSome_iff.mpr (List.mem_map.mpr ⟨row, hrow, hid⟩)
      unfold rowOf at hnone
      rw [hnone] at hsome
      cases hsome

/-! ## Every run -/

/-- The step does not apply an upsert of a stored model that has reached the threshold. -/
def NoRefresh (t : Int) (s : System F) (e : { e : Event F // e.UnderThreshold t }) : Prop :=
  e.val = .drain → ∀ w rest, s.queue = w :: rest → ¬ RefreshesExhausted t s.table.rows w

theorem pending_stepUnder {t : Int} {s s' : System F}
    {e : { e : Event F // e.UnderThreshold t }} (hstep : stepUnder t s e = some s')
    (h : s.Pending (UnderThreshold t)) : s'.Pending (UnderThreshold t) := by
  refine pending_step hstep (fun op hop => ?_) h
  have hunder : e.val.UnderThreshold t := e.property
  rw [hop] at hunder
  exact underThreshold_writes hunder s.table

/-- A step keeps the stored rows settled exactly when it refreshes no exhausted model. -/
theorem settled_stepUnder_iff {t : Int} (ht : 1 ≤ t) {s s' : System F}
    {e : { e : Event F // e.UnderThreshold t }} (hstep : stepUnder t s e = some s')
    (hpending : s.Pending (UnderThreshold t)) (h : Settled t s.table.rows) :
    Settled t s'.table.rows ↔ NoRefresh t s e := by
  obtain ⟨e, he⟩ := e
  unfold stepUnder at hstep
  unfold NoRefresh
  cases e with
  | start op =>
      cases hstep
      refine iff_of_true h fun hdrain => ?_
      cases hdrain
  | emit task =>
      simp only [step] at hstep
      split at hstep
      · cases hstep
        refine iff_of_true h fun hdrain => ?_
        cases hdrain
      · cases hstep
  | drain =>
      simp only [step] at hstep
      split at hstep
      · cases hstep
      · rename_i w rest hqueue
        cases hstep
        have hw : Inventory.UnderThreshold t w := hpending.queued w (hqueue ▸ List.mem_cons_self)
        refine (settled_apply_iff ht hw h).trans ?_
        constructor
        · intro hnot _ w' rest' hqueue'
          rw [hqueue] at hqueue'
          cases hqueue'
          exact hnot
        · intro hno
          exact hno rfl w rest hqueue

/-- From a fresh database, every model that has reached the threshold is unhealthy in
every state of a run exactly when no step of the run refreshes such a model. -/
theorem settled_iff_no_refresh {t : Int} (ht : 1 ≤ t)
    {es : List { e : Event F // e.UnderThreshold t }} {s : System F}
    (hrun : run (stepUnder t) System.fresh es = some s) :
    (∀ es₁ es₂ s₁, es = es₁ ++ es₂ → run (stepUnder t) System.fresh es₁ = some s₁ →
      Settled t s₁.table.rows) ↔
      Guarded (stepUnder t) (NoRefresh t) System.fresh es := by
  refine forall_prefix_iff_guarded (System.Pending (UnderThreshold t))
    (fun s => Settled t s.table.rows) ?_ ?_ hrun ?_ ?_
  · intro s e s' hstep h
    exact pending_stepUnder hstep h
  · intro s e s' hstep hpending h
    exact settled_stepUnder_iff ht hstep hpending h
  · refine ⟨?_, ?_⟩ <;> simp [System.fresh]
  · intro row hrow
    cases hrow

end Threshold

/-! ## Discovered, failed, discovered again -/

/-- The threshold of the sample. -/
def sampleHealthSettings : HealthSettings where
  healthCooldownMinutes := 30
  healthMaxBackoffExponent := 4
  healthConsecutiveFailuresThreshold := 3

/-- Discovery reports the model `a`. -/
def discoverA : Operation Rat :=
  .discovery "t1" [{ name := "p", models := [reportedModel] }]

/-- A failure of the model `a`. -/
def failA : Operation Rat :=
  .markFailure sampleHealthSettings "a"
    { now := "t2", error := "HTTP 500", isoAfterMinutes := fun _ => .ok "t3" }

theorem underThreshold_discoverA : discoverA.UnderThreshold 3 := by
  simp only [discoverA, Operation.UnderThreshold, List.forall_mem_cons, List.not_mem_nil,
    false_implies, implies_true, and_true]
  rfl

/-- The model `a` is discovered and fails three times. -/
def failedThrice : List { e : Event Rat // e.UnderThreshold 3 } :=
  [⟨.start discoverA, underThreshold_discoverA⟩, ⟨.emit 0, trivial⟩, ⟨.emit 0, trivial⟩,
    ⟨.drain, trivial⟩, ⟨.drain, trivial⟩,
    ⟨.start failA, rfl⟩, ⟨.emit 1, trivial⟩, ⟨.drain, trivial⟩,
    ⟨.start failA, rfl⟩, ⟨.emit 2, trivial⟩, ⟨.drain, trivial⟩,
    ⟨.start failA, rfl⟩, ⟨.emit 3, trivial⟩, ⟨.drain, trivial⟩]

/-- Then it is discovered again. -/
def rediscovered : List { e : Event Rat // e.UnderThreshold 3 } :=
  failedThrice ++
    [⟨.start discoverA, underThreshold_discoverA⟩, ⟨.emit 4, trivial⟩, ⟨.drain, trivial⟩]

/-- What the row of the model `a` says of its health after a run. -/
def healthAfter (es : List { e : Event Rat // e.UnderThreshold 3 }) :
    Option (Option Int × Option Int) :=
  (run (stepUnder 3) System.fresh es).bind fun s =>
    (s.table.row? "a").map fun row => (row.consecutiveFailures, row.isHealthy)

example : healthAfter failedThrice = some (some 3, some 0) := by decide +kernel

/-- A run without a refresh of the failed model keeps the columns in agreement. -/
theorem settled_iff_no_refresh_sample :
    ∃ s, run (stepUnder 3) System.fresh failedThrice = some s ∧
      ((∀ es₁ es₂ s₁, failedThrice = es₁ ++ es₂ →
        run (stepUnder 3) System.fresh es₁ = some s₁ → Settled 3 s₁.table.rows) ↔
        Guarded (stepUnder 3) (NoRefresh 3) System.fresh failedThrice) := by
  refine ⟨_, rfl, ?_⟩
  exact settled_iff_no_refresh (by decide) rfl

/-- The second discovery makes the failed model healthy: not every reachable table is
settled. -/
theorem rediscovery_heals :
    ¬ ∀ (es : List { e : Event Rat // e.UnderThreshold 3 }) s,
      run (stepUnder 3) System.fresh es = some s → Settled 3 s.table.rows := by
  intro h
  have hhealth : healthAfter rediscovered = some (some 3, some 1) := by decide +kernel
  unfold healthAfter at hhealth
  obtain ⟨s, hrun, hrow⟩ := Option.bind_eq_some_iff.mp hhealth
  obtain ⟨row, hstored, hcolumns⟩ := Option.map_eq_some_iff.mp hrow
  obtain ⟨hfailures, hhealthy⟩ := Prod.mk.inj hcolumns
  have hmem : row ∈ s.table.rows := (row?_eq_some_iff.mp hstored).1
  have hunhealthy := h rediscovered s hrun row hmem ⟨3, hfailures, by decide⟩
  rw [hhealthy] at hunhealthy
  cases hunhealthy

end Inventory
end FreeLunch
