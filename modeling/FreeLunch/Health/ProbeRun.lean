import FreeLunch.Health.Marks
import FreeLunch.Health.ProbeBudget
import FreeLunch.Health.ProbeSelection
import FreeLunch.Store.Writer

/-!
# One probe batch

`_run_probe_batch` of `src/health.py` with all that it shares: the tasks of `probe_one` at their
await points, their counters and reservations, the writer queue and the writer thread.  A `put`
on a full queue stops the event loop until the thread takes a statement; a statement whose
parameters cannot be bound ends the thread.

The calls of `provider.probe` and the statements that were applied are recorded in the state; no
function of the source reads them.

Main results:

- Theorem `length_run_le`: no run takes more than eight steps for each candidate.
- Theorem `kept_run`: the counters, reservations and statements follow the phases of the tasks.
- Theorem `exists_step`: a batch that has not finished goes on.
- Theorem `runProbeBatch_spec`: a batch whose statements can be bound ends with its counts, its
  probes and one update and one log row for each probed model.

Current gaps:

- Nothing else is enqueued while the batch runs.
- Texts of the database and of the clock are bound without a check.
-/

namespace FreeLunch
namespace Health
namespace ProbeRun

open Runs Threads Python Store FreeLunch.Runtime

/-! ## Tasks and statements -/

/-- A row of `request_log` that a probe writes. -/
structure ProbeRow (F : Type) extends LogRow where
  requestId : String
  selectedModelId : String
  latencyMs : Option F
  ttfbMs : Option F
  success : Bool
  errorMessage : Option String

/-- A statement that the batch enqueues. -/
inductive Statement (F : Type) where
  | model (write : ModelWrite F)
  | log (row : ProbeRow F)

/-- How a call of `provider.probe` ends, with the day on which it does. -/
inductive Outcome (F : Type) where
  | result (call : SuccessCall F) (utcDay : Nat)
  | exception (call : FailureCall) (utcDay : Nat)

/-- Where `probe_one` stands: at an await point, in front of a `put`, or at its end. -/
inductive Phase (F : Type) where
  | waiting
  | deactivating
  | locking
  | acquiring
  | probing (requestId : String)
  | marking (write : ModelWrite F) (row : ProbeRow F)
  | logging (row : ProbeRow F)
  | skipped
  | recovered
  | failed
  | raised

/-- `probe_one` of a candidate. -/
structure Task (F : Type) where
  target : ProbeTarget
  phase : Phase F

/-- `counts`, without `considered`. -/
structure Counts where
  probed : Nat := 0
  recovered : Nat := 0
  failed : Nat := 0
  skipped : Nat := 0

/-- What the tasks and the writer thread share. -/
structure Shared (F : Type) where
  counts : Counts
  budgetUsage : List (String × Nat)
  calls : List ProbeTarget
  queue : List (Statement F)
  writerAlive : Bool
  models : ModelsTable F
  requestLog : List (ProbeRow F)
  applied : List (Statement F)

/-- The state of a batch. -/
structure State (F : Type) where
  tasks : List (Task F)
  shared : Shared F

/-- The arguments of `_run_probe_batch` and what it runs on: the adapters with a `probe`, how
each probe ends, which text has no lone surrogate, and the capacity of the writer queue. -/
structure Batch (F : Type) where
  settings : Settings F
  registry : ProviderRegistry
  requestSource : RequestSource
  candidates : List ProbeTarget
  utcDay : Nat
  hasProbe : AdapterObject → Bool
  outcome : ProbeTarget → Outcome F
  encodable : String → Bool
  lowPriorityLogQueueSize : Nat

/-- `self._queue.maxsize`. -/
def Batch.maxsize {F : Type} (batch : Batch F) : Nat :=
  max batch.lowPriorityLogQueueSize 1 + highPriorityQueueReserve

/-- One step: a task goes on to its next stop, or the writer thread takes a statement. -/
inductive Event where
  | turn (task : Nat)
  | drain
deriving DecidableEq, Repr

/-! ### Phases -/

section Phases

variable {F : Type}

/-- The task stands in front of a `put`, and no other task runs. -/
def Phase.isPutting : Phase F → Bool
  | .deactivating | .marking .. | .logging _ => true
  | _ => false

/-- The task holds the semaphore. -/
def Phase.isHolding : Phase F → Bool
  | .probing _ | .marking .. | .logging _ => true
  | _ => false

/-- The task has called `provider.probe`. -/
def Phase.isProbed : Phase F → Bool
  | .probing _ | .marking .. | .logging _ | .recovered | .failed | .raised => true
  | _ => false

/-- The task has reserved a probe. -/
def Phase.isReserved : Phase F → Bool
  | .acquiring => true
  | phase => phase.isProbed

/-- The health update is enqueued. -/
def Phase.isMarked : Phase F → Bool
  | .logging _ | .recovered | .failed => true
  | _ => false

/-- The log row is enqueued. -/
def Phase.isLogged : Phase F → Bool
  | .recovered | .failed => true
  | _ => false

def Phase.isSkipped : Phase F → Bool
  | .skipped => true
  | _ => false

def Phase.isRecovered : Phase F → Bool
  | .recovered => true
  | _ => false

def Phase.isFailed : Phase F → Bool
  | .failed => true
  | _ => false

/-- `probe_one` has ended. -/
def Phase.isDone : Phase F → Bool
  | .skipped | .recovered | .failed | .raised => true
  | _ => false

/-- How many steps are left at most, those of the writer thread included. -/
def Phase.weight : Phase F → Nat
  | .waiting => 8
  | .locking => 7
  | .acquiring => 6
  | .probing _ => 5
  | .marking .. => 4
  | .logging _ => 2
  | .deactivating => 2
  | _ => 0

end Phases

/-! ## Statements of the writer thread -/

section Writer

variable {F : Type} [FloatArith F]

/-- The parameters that may be rejected. -/
def Statement.parameters : Statement F → List (PyValue F)
  | .model (.failure _ _ error nextBackoff _ threshold) =>
      [.str error, .int nextBackoff, .int threshold]
  | .model _ => []
  | .log row => row.errorMessage.toList.map .str

/-- What a statement does. -/
def Statement.apply (shared : Shared F) (statement : Statement F) : Shared F :=
  match statement with
  | .model write => { shared with
      models := shared.models.exec write
      applied := shared.applied ++ [statement] }
  | .log row => { shared with
      requestLog := shared.requestLog ++ [row]
      applied := shared.applied ++ [statement] }

/-- `conn.execute` and `conn.commit`. -/
def Statement.execute (encodable : String → Bool) (shared : Shared F) (statement : Statement F) :
    Except Exc (Shared F) := do
  let _ ← statement.parameters.mapM (bindParam encodable)
  return statement.apply shared

/-- `_run` with the next statement: an exception ends the thread. -/
def drain (encodable : String → Bool) (shared : Shared F) : Option (Shared F) :=
  match shared.queue with
  | [] => none
  | statement :: rest =>
      if shared.writerAlive then
        match statement.execute encodable { shared with queue := rest } with
        | .ok shared => some shared
        | .error _ => some { shared with queue := rest, writerAlive := false }
      else none

end Writer

/-! ## The steps of `probe_one` -/

section Steps

variable {F : Type} [Runtime F] [FloatArith F]

/-- The settings of `mark_failure`. -/
def healthSettings (settings : Settings F) : HealthSettings where
  healthCooldownMinutes := settings.int .healthCooldownMinutes
  healthMaxBackoffExponent := settings.int .healthMaxBackoffExponent
  healthConsecutiveFailuresThreshold := settings.int .healthConsecutiveFailuresThreshold

/-- `counts["skipped"] += 1`. -/
def Shared.skip (shared : Shared F) : Shared F :=
  { shared with counts := { shared.counts with skipped := shared.counts.skipped + 1 } }

/-- `db.writer.enqueue`. -/
def Shared.enqueue (shared : Shared F) (statement : Statement F) : Shared F :=
  { shared with queue := shared.queue ++ [statement] }

/-- `get_provider_probe_usage`. -/
def Batch.storedUsage (batch : Batch F) (requestLog : List (ProbeRow F)) (providerId : String) :
    Nat :=
  getProviderProbeUsage (requestLog.map ProbeRow.toLogRow) providerId batch.utcDay

/-- The value of `budget_usage[provider_id]` after `setdefault`. -/
def Batch.usage (batch : Batch F) (shared : Shared F) (providerId : String) : Nat :=
  (dictGet shared.budgetUsage providerId).getD (batch.storedUsage shared.requestLog providerId)

/-- The checks in front of `budget_lock`. -/
def checkProvider (batch : Batch F) (shared : Shared F) (target : ProbeTarget) :
    Phase F × Shared F :=
  if batch.settings.isProviderActiveProbeEnabled target.providerId then
    match batch.registry.get F target.providerId with
    | .error _ => (.deactivating, shared)
    | .ok provider =>
        if batch.hasProbe provider then (.locking, shared) else (.skipped, shared.skip)
  else (.skipped, shared.skip)

/-- The section under `budget_lock`. -/
def reserve (batch : Batch F) (shared : Shared F) (target : ProbeTarget) : Phase F × Shared F :=
  let usage := batch.usage shared target.providerId
  if budgetLimit batch.settings target.providerId ≤ usage then
    (.skipped, { shared.skip with
      budgetUsage := dictSet shared.budgetUsage target.providerId usage })
  else
    (.acquiring, { shared with
      budgetUsage := dictSet shared.budgetUsage target.providerId (usage + 1) })

/-- The name of `request_source`. -/
def sourceText : RequestSource → String
  | .client => "client"
  | .probe => "probe"
  | .bootstrap => "bootstrap"

/-- `provider.probe` is called. -/
def callProbe (batch : Batch F) (shared : Shared F) (target : ProbeTarget) :
    Phase F × Shared F :=
  let probed := shared.counts.probed + 1
  (.probing (sourceText batch.requestSource ++ "-" ++ target.id ++ "-" ++ toString probed),
    { shared with
      counts := { shared.counts with probed := probed }
      calls := shared.calls ++ [target] })

/-- The log row of a probe that has ended. -/
def probeRow (batch : Batch F) (target : ProbeTarget) (requestId : String) : ProbeRow F :=
  match batch.outcome target with
  | .result call utcDay =>
      { providerId := target.providerId, requestSource := batch.requestSource, utcDay := utcDay
        requestId := requestId, selectedModelId := target.id, latencyMs := call.latencyMs
        ttfbMs := call.ttfbMs, success := true, errorMessage := none }
  | .exception call utcDay =>
      { providerId := target.providerId, requestSource := batch.requestSource, utcDay := utcDay
        requestId := requestId, selectedModelId := target.id, latencyMs := none, ttfbMs := none
        success := false, errorMessage := some (String.ofList (call.error.toList.take 500)) }

/-- The probe has ended: `mark_success` or `mark_failure` up to its `put`. -/
def markProbe (batch : Batch F) (shared : Shared F) (target : ProbeTarget) (requestId : String) :
    Phase F :=
  let row := probeRow batch target requestId
  match batch.outcome target with
  | .result call _ => .marking (markSuccess target.id call) row
  | .exception call _ =>
      match markFailure (healthSettings batch.settings) shared.models target.id call with
      | .ok (some write) => .marking write row
      | .ok none => .logging row
      | .error _ => .raised

/-- The end of `probe_one` after its log row. -/
def countProbe (shared : Shared F) (row : ProbeRow F) : Phase F × Shared F :=
  if row.success then
    (.recovered, { shared with
      counts := { shared.counts with recovered := shared.counts.recovered + 1 } })
  else
    (.failed, { shared with counts := { shared.counts with failed := shared.counts.failed + 1 } })

/-- The task goes on to its next stop. -/
def advance (batch : Batch F) (shared : Shared F) (task : Task F) : Phase F × Shared F :=
  match task.phase with
  | .waiting => checkProvider batch shared task.target
  | .deactivating =>
      (.skipped, (shared.enqueue (.model (.setActive task.target.id false))).skip)
  | .locking => reserve batch shared task.target
  | .acquiring => callProbe batch shared task.target
  | .probing requestId => (markProbe batch shared task.target requestId, shared)
  | .marking write row => (.logging row, shared.enqueue (.model write))
  | .logging row => countProbe (shared.enqueue (.log row)) row
  | phase => (phase, shared)

/-- The tasks that hold the semaphore. -/
def State.held (s : State F) : Nat :=
  s.tasks.countP fun task => task.phase.isHolding

/-- A task stands in front of a `put`. -/
def State.isBlocked (s : State F) : Bool :=
  s.tasks.any fun task => task.phase.isPutting

/-- The task can go on: the queue has room for its `put`, or no task is in the middle of a
section and its await is over. -/
def isReady (batch : Batch F) (s : State F) (phase : Phase F) : Bool :=
  if phase.isPutting then decide (s.shared.queue.length < batch.maxsize)
  else
    !s.isBlocked && !phase.isDone &&
      match phase with
      | .acquiring => decide ((s.held : Int) < batch.settings.int .healthProbeConcurrency)
      | _ => true

/-- One step. -/
def step (batch : Batch F) (s : State F) : Event → Option (State F)
  | .turn k =>
      s.tasks[k]?.bind fun task =>
        if isReady batch s task.phase then
          let next := advance batch s.shared task
          some { tasks := s.tasks.set k { task with phase := next.1 }, shared := next.2 }
        else none
  | .drain => (drain batch.encodable s.shared).map fun shared => { s with shared := shared }

/-- A batch with a drained queue starts on a database. -/
def start (batch : Batch F) (models : ModelsTable F) (requestLog : List (ProbeRow F)) :
    State F where
  tasks := batch.candidates.map fun target => ⟨target, .waiting⟩
  shared := {
    counts := {}
    budgetUsage := []
    calls := []
    queue := []
    writerAlive := true
    models := models
    requestLog := requestLog
    applied := [] }

end Steps

/-! ## What a step can do -/

section Advances

variable {F : Type} [Runtime F] [FloatArith F]

/-- The provider is probed: probing is enabled, and it is routable with a `probe`. -/
def Batch.probes (batch : Batch F) (providerId : String) : Bool :=
  batch.settings.isProviderActiveProbeEnabled providerId &&
    match batch.registry.get F providerId with
    | .ok provider => batch.hasProbe provider
    | .error _ => false

/-- `sqlite3` can bind the parameters of a statement. -/
def Statement.Binds (encodable : String → Bool) (statement : Statement F) : Prop :=
  ∃ values, statement.parameters.mapM (bindParam encodable) = .ok values

/-- The statement is a health update of a model. -/
def Statement.updates (id : String) : Statement F → Bool
  | .model (.success other ..) => other == id
  | .model (.failure other ..) => other == id
  | _ => false

/-- The statement is a log row with a property. -/
def Statement.logs (p : ProbeRow F → Bool) : Statement F → Bool
  | .log row => p row
  | .model _ => false

/-- What a phase says about its candidate. -/
def Phase.Sound (batch : Batch F) (target : ProbeTarget) : Phase F → Prop
  | .deactivating => batch.probes target.providerId = false
  | .marking write row =>
      (Statement.model write).Binds batch.encodable ∧
        (Statement.model write).updates target.id = true ∧
        (Statement.log row).Binds batch.encodable ∧
        row.selectedModelId = target.id ∧ row.providerId = target.providerId
  | .logging row =>
      (Statement.log row).Binds batch.encodable ∧
        row.selectedModelId = target.id ∧ row.providerId = target.providerId
  | .raised => False
  | _ => True

/-- What a task does that goes on. -/
inductive Advances (batch : Batch F) (shared : Shared F) (target : ProbeTarget) :
    Phase F → Phase F → Shared F → Prop where
  | refused (h : batch.probes target.providerId = false) :
      Advances batch shared target .waiting .skipped shared.skip
  | unroutable (h : batch.probes target.providerId = false) :
      Advances batch shared target .waiting .deactivating shared
  | admitted : Advances batch shared target .waiting .locking shared
  | exhausted (h : budgetLimit batch.settings target.providerId ≤
        batch.usage shared target.providerId) :
      Advances batch shared target .locking .skipped { shared.skip with
        budgetUsage := dictSet shared.budgetUsage target.providerId
          (batch.usage shared target.providerId) }
  | reserved (h : (batch.usage shared target.providerId : Int) <
        budgetLimit batch.settings target.providerId) :
      Advances batch shared target .locking .acquiring { shared with
        budgetUsage := dictSet shared.budgetUsage target.providerId
          (batch.usage shared target.providerId + 1) }
  | called (requestId : String) :
      Advances batch shared target .acquiring (.probing requestId) { shared with
        counts := { shared.counts with probed := shared.counts.probed + 1 }
        calls := shared.calls ++ [target] }
  | ended {requestId : String} {write : ModelWrite F} {row : ProbeRow F}
      (h : Phase.Sound batch target (.marking write row)) :
      Advances batch shared target (.probing requestId) (.marking write row) shared
  | deactivated (h : Phase.Sound batch target (Phase.deactivating : Phase F)) :
      Advances batch shared target .deactivating .skipped
        (shared.enqueue (.model (.setActive target.id false))).skip
  | marked {write : ModelWrite F} {row : ProbeRow F}
      (h : Phase.Sound batch target (.marking write row)) :
      Advances batch shared target (.marking write row) (.logging row)
        (shared.enqueue (.model write))
  | recovered {row : ProbeRow F} (h : Phase.Sound batch target (.logging row)) :
      Advances batch shared target (.logging row) .recovered
        { shared.enqueue (.log row) with
          counts := { shared.counts with recovered := shared.counts.recovered + 1 } }
  | failed {row : ProbeRow F} (h : Phase.Sound batch target (.logging row)) :
      Advances batch shared target (.logging row) .failed
        { shared.enqueue (.log row) with
          counts := { shared.counts with failed := shared.counts.failed + 1 } }

/-- The cooldowns of the failures are representable dates. -/
def Batch.CooldownsFit (batch : Batch F) : Prop :=
  ∀ target ∈ batch.candidates, ∀ call utcDay, batch.outcome target = .exception call utcDay →
    ∀ level, ∃ iso, call.isoAfterMinutes
      ((healthSettings batch.settings).healthCooldownMinutes *
        powerOfTwo (nextBackoff (healthSettings batch.settings) level)) = .ok iso

/-- `sqlite3` can bind what a failed probe writes: the text of its exception has no lone surrogate
among the first 500 characters, and the numbers have 64 bits. -/
def Batch.FailureBinds (batch : Batch F) (models : ModelsTable F) (target : ProbeTarget) : Prop :=
  ∀ call utcDay, batch.outcome target = .exception call utcDay →
    batch.encodable (String.ofList (call.error.toList.take 500)) = true ∧
      FitsInt64 (batch.settings.int .healthConsecutiveFailuresThreshold) ∧
      ∀ level, readBackoff models target.id = some level →
        FitsInt64 (nextBackoff (healthSettings batch.settings) level)

theorem checkProvider_advances (batch : Batch F) (shared : Shared F) (target : ProbeTarget) :
    Advances batch shared target .waiting (checkProvider batch shared target).1
      (checkProvider batch shared target).2 := by
  unfold checkProvider
  by_cases henabled : batch.settings.isProviderActiveProbeEnabled target.providerId = true
  · rw [if_pos henabled]
    cases hget : batch.registry.get F target.providerId with
    | error exc =>
        refine .unroutable ?_
        unfold Batch.probes
        rw [hget, Bool.and_false]
    | ok provider =>
        dsimp only
        by_cases hprobe : batch.hasProbe provider = true
        · rw [if_pos hprobe]
          exact .admitted
        · rw [if_neg hprobe]
          refine .refused ?_
          unfold Batch.probes
          rw [hget]
          dsimp only
          rw [Bool.eq_false_iff.mpr hprobe, Bool.and_false]
  · rw [if_neg henabled]
    refine .refused ?_
    unfold Batch.probes
    rw [Bool.eq_false_iff.mpr henabled, Bool.false_and]

theorem reserve_advances (batch : Batch F) (shared : Shared F) (target : ProbeTarget) :
    Advances batch shared target .locking (reserve batch shared target).1
      (reserve batch shared target).2 := by
  unfold reserve
  dsimp only
  split
  · rename_i hlimit
    exact .exhausted hlimit
  · rename_i hlimit
    exact .reserved (Int.not_le.mp hlimit)

omit [Runtime F] in
theorem binds_failure (encodable : String → Bool) {error : String} {nextBackoff threshold : Int}
    (htext : encodable error = true) (hnext : FitsInt64 nextBackoff)
    (hthreshold : FitsInt64 threshold) (id now cooldownUntil : String) :
    (Statement.model (.failure id now error nextBackoff cooldownUntil threshold) :
      Statement F).Binds encodable :=
  ⟨_, Writes.mapM_cons_ok_iff.mpr ⟨_, _, if_pos htext,
    Writes.mapM_cons_ok_iff.mpr ⟨_, _, dif_pos hnext,
      Writes.mapM_cons_ok_iff.mpr ⟨_, _, dif_pos hthreshold, rfl, rfl⟩, rfl⟩, rfl⟩⟩

omit [Runtime F] in
theorem binds_log (batch : Batch F) {target : ProbeTarget} {models : ModelsTable F}
    (hbinds : batch.FailureBinds models target) (requestId : String) :
    (Statement.log (probeRow batch target requestId)).Binds batch.encodable := by
  unfold probeRow
  cases houtcome : batch.outcome target with
  | result call utcDay => exact ⟨[], rfl⟩
  | exception call utcDay =>
      obtain ⟨htext, -⟩ := hbinds call utcDay houtcome
      exact ⟨[_], Writes.mapM_cons_ok_iff.mpr ⟨_, _, if_pos htext, rfl, rfl⟩⟩

omit [Runtime F] [FloatArith F] in
theorem probeRow_names (batch : Batch F) (target : ProbeTarget) (requestId : String) :
    (probeRow batch target requestId).selectedModelId = target.id ∧
      (probeRow batch target requestId).providerId = target.providerId := by
  unfold probeRow
  cases batch.outcome target with
  | result call utcDay => exact ⟨rfl, rfl⟩
  | exception call utcDay => exact ⟨rfl, rfl⟩

/-- A probe of a stored model that ends is marked. -/
theorem markProbe_sound {batch : Batch F} {shared : Shared F} {target : ProbeTarget}
    (hstored : (shared.models.row? target.id).isSome = true)
    (hfits : ∀ call utcDay, batch.outcome target = .exception call utcDay →
      ∀ level, ∃ iso, call.isoAfterMinutes
        ((healthSettings batch.settings).healthCooldownMinutes *
          powerOfTwo (nextBackoff (healthSettings batch.settings) level)) = .ok iso)
    (hbinds : batch.FailureBinds shared.models target) (requestId : String) :
    ∃ write, markProbe batch shared target requestId =
        .marking write (probeRow batch target requestId) ∧
      Phase.Sound batch target (.marking write (probeRow batch target requestId)) := by
  have hrow := binds_log batch hbinds requestId
  have hnames := probeRow_names batch target requestId
  unfold markProbe
  cases houtcome : batch.outcome target with
  | result call utcDay =>
      exact ⟨_, rfl, ⟨[], rfl⟩, beq_self_eq_true _, hrow, hnames⟩
  | exception call utcDay =>
      obtain ⟨row, hread⟩ := Option.isSome_iff_exists.mp hstored
      have hlevel : readBackoff shared.models target.id = some (row.backoffLevel.getD 0) := by
        unfold readBackoff
        rw [hread, Option.map_some]
      obtain ⟨iso, hiso⟩ := hfits call utcDay houtcome (row.backoffLevel.getD 0)
      have hwrite : failureWrite (F := F) (healthSettings batch.settings) target.id call
          (row.backoffLevel.getD 0) = .ok (.failure target.id call.now
            (String.ofList (call.error.toList.take 500))
            (nextBackoff (healthSettings batch.settings) (row.backoffLevel.getD 0)) iso
            (batch.settings.int .healthConsecutiveFailuresThreshold)) :=
        failureWrite_eq_ok_iff.mpr ⟨iso, hiso, rfl⟩
      obtain ⟨htext, hthreshold, hnext⟩ := hbinds call utcDay houtcome
      have hmarked := (congrArg (Except.map some) hwrite : _ = Except.ok (some _))
      have hread : markFailure (F := F) (healthSettings batch.settings) shared.models target.id
          call = (failureWrite (healthSettings batch.settings) target.id call
            (row.backoffLevel.getD 0)).map some := by
        unfold markFailure
        rw [hlevel]
      dsimp only
      rw [hread, hmarked]
      exact ⟨_, rfl, binds_failure batch.encodable htext (hnext _ hlevel) hthreshold _ _ _,
        beq_self_eq_true target.id, hrow, hnames⟩

/-- Every step of a task is one of these. -/
theorem advance_advances {batch : Batch F} {shared : Shared F} {task : Task F}
    (hsound : task.phase.Sound batch task.target) (hdone : task.phase.isDone = false)
    (hmark : ∀ requestId, task.phase = .probing requestId →
      ∃ write, markProbe batch shared task.target requestId =
          .marking write (probeRow batch task.target requestId) ∧
        Phase.Sound batch task.target (.marking write (probeRow batch task.target requestId))) :
    Advances batch shared task.target task.phase (advance batch shared task).1
      (advance batch shared task).2 := by
  obtain ⟨target, phase⟩ := task
  cases phase with
  | waiting => exact checkProvider_advances batch shared target
  | deactivating => exact .deactivated hsound
  | locking => exact reserve_advances batch shared target
  | acquiring => exact .called _
  | probing requestId =>
      obtain ⟨write, hwrite, hsound⟩ := hmark requestId rfl
      change Advances batch shared target _ (markProbe batch shared target requestId) shared
      rw [hwrite]
      exact .ended hsound
  | marking write row => exact .marked hsound
  | logging row =>
      change Advances batch shared target _ (countProbe (shared.enqueue (.log row)) row).1
        (countProbe (shared.enqueue (.log row)) row).2
      unfold countProbe
      by_cases hsuccess : row.success = true
      · rw [if_pos hsuccess]
        exact .recovered hsound
      · rw [if_neg hsuccess]
        exact .failed hsound
  | skipped => exact nomatch hdone
  | recovered => exact nomatch hdone
  | failed => exact nomatch hdone
  | raised => exact nomatch hdone

end Advances

/-! ## What the shared variables count -/

/-- The write on `models` of a statement. -/
def Statement.write? {F : Type} : Statement F → Option (ModelWrite F)
  | .model write => some write
  | .log _ => none

/-- The log row of a statement. -/
def Statement.row? {F : Type} : Statement F → Option (ProbeRow F)
  | .model _ => none
  | .log row => some row

/-- The statements of the batch, those on the queue at the end. -/
def Shared.written {F : Type} (shared : Shared F) : List (Statement F) :=
  shared.applied ++ shared.queue

section Counting

variable {F : Type} [Runtime F] [FloatArith F] {batch : Batch F}

/-- A quantity is the number of tasks of some candidates at some phases. -/
def Tracks (m : Shared F → Nat) (q : ProbeTarget → Bool) (r : Phase F → Bool) (s : State F) :
    Prop :=
  m s.shared = s.tasks.countP fun task => q task.target && r task.phase

/-- A quantity changes with the phase of the task that goes on. -/
def Follows (batch : Batch F) (m : Shared F → Nat) (q : ProbeTarget → Bool)
    (r : Phase F → Bool) : Prop :=
  ∀ (shared : Shared F) (target : ProbeTarget) (phase next : Phase F) (shared' : Shared F),
    Advances batch shared target phase next shared' →
      m shared' + (if q target && r phase then 1 else 0) =
        m shared + if q target && r next then 1 else 0

/-- The state after a task went on. -/
def State.turned (s : State F) (k : Nat) (task : Task F) (next : Phase F) (shared : Shared F) :
    State F where
  tasks := s.tasks.set k { task with phase := next }
  shared := shared

theorem Follows.turned {m : Shared F → Nat} {q : ProbeTarget → Bool} {r : Phase F → Bool}
    (h : Follows batch m q r) {s : State F} {k : Nat} {task : Task F} {next : Phase F}
    {shared : Shared F} (htask : s.tasks[k]? = some task)
    (hadvances : Advances batch s.shared task.target task.phase next shared)
    (hs : Tracks m q r s) : Tracks m q r (s.turned k task next shared) := by
  have hfollows := h _ _ _ _ _ hadvances
  have hset := countP_set_add (fun task : Task F => q task.target && r task.phase)
    { task with phase := next } htask
  dsimp only at hset
  unfold Tracks at hs
  change m shared = (s.tasks.set k { task with phase := next }).countP
    fun task => q task.target && r task.phase
  omega

theorem follows_probed :
    Follows batch (fun shared => shared.counts.probed) (fun _ => true) Phase.isProbed := by
  intro shared target phase next shared' h
  cases h <;> rfl

theorem follows_recovered :
    Follows batch (fun shared => shared.counts.recovered) (fun _ => true) Phase.isRecovered := by
  intro shared target phase next shared' h
  cases h <;> rfl

theorem follows_failed :
    Follows batch (fun shared => shared.counts.failed) (fun _ => true) Phase.isFailed := by
  intro shared target phase next shared' h
  cases h <;> rfl

theorem follows_skipped :
    Follows batch (fun shared => shared.counts.skipped) (fun _ => true) Phase.isSkipped := by
  intro shared target phase next shared' h
  cases h <;> rfl

theorem follows_calls (q : ProbeTarget → Bool) :
    Follows batch (fun shared => shared.calls.countP q) q Phase.isProbed := by
  intro shared target phase next shared' h
  cases h with
  | called requestId =>
      dsimp only
      rw [List.countP_append, List.countP_singleton]
      cases q target <;> rfl
  | _ => simp [Phase.isProbed, Shared.skip, Shared.enqueue]

omit [Runtime F] [FloatArith F] in
theorem written_enqueue (shared : Shared F) (statement : Statement F) :
    (shared.enqueue statement).written = shared.written ++ [statement] := by
  unfold Shared.written Shared.enqueue
  rw [List.append_assoc]

omit [Runtime F] [FloatArith F] in
/-- A statement updates one model. -/
theorem updates_eq {statement : Statement F} {id : String} (h : statement.updates id = true)
    (other : String) : statement.updates other = (id == other) := by
  cases statement with
  | log row => exact nomatch h
  | model write =>
      cases write with
      | success stored => rw [← beq_iff_eq.mp h]; rfl
      | failure stored => rw [← beq_iff_eq.mp h]; rfl
      | _ => exact nomatch h

/-- Each task that is marked has one health update. -/
theorem follows_updates (id : String) :
    Follows batch (fun shared => shared.written.countP (Statement.updates id))
      (fun target => target.id == id) Phase.isMarked := by
  intro shared target phase next shared' h
  cases h with
  | deactivated hsound =>
      change (shared.enqueue _).written.countP _ + _ = _
      rw [written_enqueue, List.countP_append]
      simp [Statement.updates, Phase.isMarked]
  | @marked write row hsound =>
      dsimp only
      rw [written_enqueue, List.countP_append, List.countP_singleton,
        updates_eq hsound.2.1 id]
      simp [Phase.isMarked]
  | recovered hsound =>
      change (shared.enqueue _).written.countP _ + _ = _
      rw [written_enqueue, List.countP_append]
      simp [Statement.updates, Phase.isMarked]
  | failed hsound =>
      change (shared.enqueue _).written.countP _ + _ = _
      rw [written_enqueue, List.countP_append]
      simp [Statement.updates, Phase.isMarked]
  | _ => rfl

/-- Each task that is logged has one row. -/
theorem follows_logs (q : String → String → Bool) :
    Follows batch
      (fun shared => shared.written.countP
        (Statement.logs fun row => q row.selectedModelId row.providerId))
      (fun target => q target.id target.providerId) Phase.isLogged := by
  intro shared target phase next shared' h
  have hlogged : ∀ {row : ProbeRow F}, Phase.Sound batch target (.logging row) →
      (shared.enqueue (.log row)).written.countP
          (Statement.logs fun row => q row.selectedModelId row.providerId) =
        shared.written.countP (Statement.logs fun row => q row.selectedModelId row.providerId) +
          if q target.id target.providerId then 1 else 0 := by
    intro row hsound
    rw [written_enqueue, List.countP_append, List.countP_singleton]
    change _ + (if q row.selectedModelId row.providerId then 1 else 0) = _
    rw [hsound.2.1, hsound.2.2]
  cases h with
  | deactivated hsound =>
      change (shared.enqueue _).written.countP _ + _ = _
      rw [written_enqueue, List.countP_append]
      simp [Statement.logs, Phase.isLogged]
  | marked hsound =>
      dsimp only
      rw [written_enqueue, List.countP_append]
      simp [Statement.logs, Phase.isLogged]
  | recovered hsound =>
      change (shared.enqueue _).written.countP _ + _ = _
      rw [hlogged hsound]
      simp [Phase.isLogged]
  | failed hsound =>
      change (shared.enqueue _).written.countP _ + _ = _
      rw [hlogged hsound]
      simp [Phase.isLogged]
  | _ => simp [Phase.isLogged, Shared.written, Shared.skip]

/-- The counters, the calls and the statements follow the phases of the tasks. -/
structure Counted (s : State F) : Prop where
  probed : Tracks (fun shared => shared.counts.probed) (fun _ => true) Phase.isProbed s
  recovered : Tracks (fun shared => shared.counts.recovered) (fun _ => true) Phase.isRecovered s
  failed : Tracks (fun shared => shared.counts.failed) (fun _ => true) Phase.isFailed s
  skipped : Tracks (fun shared => shared.counts.skipped) (fun _ => true) Phase.isSkipped s
  calls : ∀ q, Tracks (fun shared => shared.calls.countP q) q Phase.isProbed s
  updates : ∀ id, Tracks (fun shared => shared.written.countP (Statement.updates id))
    (fun target => target.id == id) Phase.isMarked s
  logs : ∀ q : String → String → Bool, Tracks
    (fun shared => shared.written.countP
      (Statement.logs fun row => q row.selectedModelId row.providerId))
    (fun target => q target.id target.providerId) Phase.isLogged s

theorem Counted.turned {s : State F} (hs : Counted s) {k : Nat} {task : Task F} {next : Phase F}
    {shared : Shared F} (htask : s.tasks[k]? = some task)
    (hadvances : Advances batch s.shared task.target task.phase next shared) :
    Counted (s.turned k task next shared) where
  probed := follows_probed.turned htask hadvances hs.probed
  recovered := follows_recovered.turned htask hadvances hs.recovered
  failed := follows_failed.turned htask hadvances hs.failed
  skipped := follows_skipped.turned htask hadvances hs.skipped
  calls := fun q => (follows_calls q).turned htask hadvances (hs.calls q)
  updates := fun id => (follows_updates id).turned htask hadvances (hs.updates id)
  logs := fun q => (follows_logs q).turned htask hadvances (hs.logs q)

omit [Runtime F] [FloatArith F] in
theorem Tracks.of_eq {m : Shared F → Nat} {q : ProbeTarget → Bool} {r : Phase F → Bool}
    {s : State F} (h : Tracks m q r s) {shared : Shared F} (hm : m shared = m s.shared) :
    Tracks m q r { s with shared := shared } :=
  hm.trans h

omit [Runtime F] [FloatArith F] in
/-- The writer thread changes none of these. -/
theorem Counted.of_eq {s : State F} (hs : Counted s) {shared : Shared F}
    (hcounts : shared.counts = s.shared.counts) (hcalls : shared.calls = s.shared.calls)
    (hwritten : shared.written = s.shared.written) : Counted { s with shared := shared } where
  probed := hs.probed.of_eq (congrArg Counts.probed hcounts)
  recovered := hs.recovered.of_eq (congrArg Counts.recovered hcounts)
  failed := hs.failed.of_eq (congrArg Counts.failed hcounts)
  skipped := hs.skipped.of_eq (congrArg Counts.skipped hcounts)
  calls := fun q => (hs.calls q).of_eq (congrArg (List.countP q) hcalls)
  updates := fun id => (hs.updates id).of_eq (congrArg (List.countP _) hwritten)
  logs := fun q => (hs.logs q).of_eq (congrArg (List.countP _) hwritten)

end Counting

/-! ## Reservations -/

section Budgets

variable {F : Type} [Runtime F] [FloatArith F] {batch : Batch F}

/-- The probes that are reserved for a provider. -/
def State.reservedFor (s : State F) (providerId : String) : Nat :=
  s.tasks.countP fun task => task.target.providerId == providerId && task.phase.isReserved

/-- The candidates of a provider that are skipped. -/
def State.skippedFor (s : State F) (providerId : String) : Nat :=
  s.tasks.countP fun task => task.target.providerId == providerId && task.phase.isSkipped

/-- The counter of a provider holds its stored usage and its reservations; they stay within the
budget, and a candidate is skipped only when the budget is used up. -/
structure Budgeted (batch : Batch F) (requestLog : List (ProbeRow F)) (s : State F)
    (providerId : String) : Prop where
  usage : batch.usage s.shared providerId =
    batch.storedUsage requestLog providerId + s.reservedFor providerId
  unused : dictGet s.shared.budgetUsage providerId = none → s.reservedFor providerId = 0
  within : (s.reservedFor providerId : Int) ≤
    max 0 (budgetLimit batch.settings providerId - batch.storedUsage requestLog providerId)
  exhausted : batch.probes providerId = true → 0 < s.skippedFor providerId →
    budgetLimit batch.settings providerId ≤
      (batch.storedUsage requestLog providerId + s.reservedFor providerId : Nat)

variable {requestLog : List (ProbeRow F)} {s : State F} {providerId : String}

omit [FloatArith F] in
/-- What changes neither the counter nor the reservations keeps them. -/
theorem Budgeted.of_same {s' : State F} (hs : Budgeted batch requestLog s providerId)
    (husage : batch.usage s'.shared providerId = batch.usage s.shared providerId)
    (hdict : dictGet s'.shared.budgetUsage providerId =
      dictGet s.shared.budgetUsage providerId)
    (hreserved : s'.reservedFor providerId = s.reservedFor providerId)
    (hskipped : batch.probes providerId = true →
      s'.skippedFor providerId = s.skippedFor providerId) :
    Budgeted batch requestLog s' providerId where
  usage := by rw [husage, hreserved, hs.usage]
  unused := by
    intro hnone
    rw [hdict] at hnone
    rw [hreserved, hs.unused hnone]
  within := by
    rw [hreserved]
    exact hs.within
  exhausted := by
    intro hprobes hpos
    rw [hskipped hprobes] at hpos
    rw [hreserved]
    exact hs.exhausted hprobes hpos

omit [FloatArith F] in
/-- A counter that is set follows the reservations that are added to it. -/
theorem Budgeted.of_set {s' : State F} {n : Nat} (hs : Budgeted batch requestLog s providerId)
    (hdict : dictGet s'.shared.budgetUsage providerId =
      some (batch.usage s.shared providerId + n))
    (hreserved : s'.reservedFor providerId = s.reservedFor providerId + n)
    (hwithin : (s.reservedFor providerId + n : Int) ≤
      max 0 (budgetLimit batch.settings providerId - batch.storedUsage requestLog providerId))
    (hexhausted : batch.probes providerId = true → 0 < s'.skippedFor providerId →
      budgetLimit batch.settings providerId ≤
        (batch.storedUsage requestLog providerId + (s.reservedFor providerId + n) : Nat)) :
    Budgeted batch requestLog s' providerId where
  usage := by
    unfold Batch.usage
    rw [hdict, Option.getD_some, hs.usage, hreserved, Nat.add_assoc]
  unused := by
    intro hnone
    rw [hdict] at hnone
    exact nomatch hnone
  within := by
    rw [hreserved, Nat.cast_add]
    exact hwithin
  exhausted := by
    rw [hreserved]
    exact hexhausted

omit [Runtime F] [FloatArith F] in
theorem reservedFor_turned {k : Nat} {task : Task F} (htask : s.tasks[k]? = some task)
    (next : Phase F) (shared : Shared F) (providerId : String) :
    (s.turned k task next shared).reservedFor providerId +
        (if task.target.providerId == providerId && task.phase.isReserved then 1 else 0) =
      s.reservedFor providerId +
        if task.target.providerId == providerId && next.isReserved then 1 else 0 :=
  countP_set_add
    (fun task : Task F => task.target.providerId == providerId && task.phase.isReserved)
    { task with phase := next } htask

omit [Runtime F] [FloatArith F] in
theorem skippedFor_turned {k : Nat} {task : Task F} (htask : s.tasks[k]? = some task)
    (next : Phase F) (shared : Shared F) (providerId : String) :
    (s.turned k task next shared).skippedFor providerId +
        (if task.target.providerId == providerId && task.phase.isSkipped then 1 else 0) =
      s.skippedFor providerId +
        if task.target.providerId == providerId && next.isSkipped then 1 else 0 :=
  countP_set_add
    (fun task : Task F => task.target.providerId == providerId && task.phase.isSkipped)
    { task with phase := next } htask

omit [Runtime F] [FloatArith F] in
theorem usage_congr (batch : Batch F) {shared shared' : Shared F}
    (hdict : dictGet shared'.budgetUsage providerId = dictGet shared.budgetUsage providerId)
    (hlog : shared'.requestLog = shared.requestLog) :
    batch.usage shared' providerId = batch.usage shared providerId := by
  unfold Batch.usage
  rw [hdict, hlog]

/-- A task that goes on keeps the reservations of every provider in order. -/
theorem Budgeted.turned (hs : Budgeted batch requestLog s providerId) {k : Nat} {task : Task F}
    {next : Phase F} {shared : Shared F} (htask : s.tasks[k]? = some task)
    (hadvances : Advances batch s.shared task.target task.phase next shared) :
    Budgeted batch requestLog (s.turned k task next shared) providerId := by
  have hreserved := reservedFor_turned htask next shared providerId
  have hskipped := skippedFor_turned htask next shared providerId
  generalize hphase : task.phase = phase at hadvances hreserved hskipped
  -- a candidate that is not probed is no candidate of a provider that is
  have hother : batch.probes task.target.providerId = false → batch.probes providerId = true →
      (task.target.providerId == providerId) = false := by
    intro hrefused hprobes
    rw [beq_eq_false_iff_ne]
    intro heq
    rw [heq, hprobes] at hrefused
    exact nomatch hrefused
  cases hadvances with
  | refused h =>
      refine hs.of_same rfl rfl (by simpa [Phase.isReserved, Phase.isProbed] using hreserved) ?_
      intro hprobes
      simpa [hother h hprobes] using hskipped
  | deactivated h =>
      refine hs.of_same rfl rfl (by simpa [Phase.isReserved, Phase.isProbed] using hreserved) ?_
      intro hprobes
      simpa [hother h hprobes] using hskipped
  | exhausted h =>
      by_cases hp : task.target.providerId = providerId
      · subst hp
        refine hs.of_set (n := 0) ((dictGet_dictSet _ _ _ _).trans (if_pos rfl)) ?_ hs.within ?_
        · simpa [Phase.isReserved, Phase.isProbed] using hreserved
        · intro _ _
          rw [Nat.add_zero, ← hs.usage]
          exact h
      · have hdict := (dictGet_dictSet s.shared.budgetUsage task.target.providerId providerId
          (batch.usage s.shared task.target.providerId)).trans (if_neg hp)
        refine hs.of_same (usage_congr batch hdict rfl) hdict ?_ fun _ => ?_
        · simpa [hp] using hreserved
        · simpa [hp] using hskipped
  | reserved h =>
      by_cases hp : task.target.providerId = providerId
      · subst hp
        have husage := hs.usage
        refine hs.of_set (n := 1) ((dictGet_dictSet _ _ _ _).trans (if_pos rfl)) ?_ ?_ ?_
        · simpa [Phase.isReserved, Phase.isProbed] using hreserved
        · omega
        · intro hprobes hpos
          have hsame : (s.turned k task .acquiring { s.shared with
              budgetUsage := dictSet s.shared.budgetUsage task.target.providerId
                (batch.usage s.shared task.target.providerId + 1) }).skippedFor
                  task.target.providerId = s.skippedFor task.target.providerId := by
            simpa [Phase.isSkipped] using hskipped
          rw [hsame] at hpos
          have hlimit := hs.exhausted hprobes hpos
          omega
      · have hdict := (dictGet_dictSet s.shared.budgetUsage task.target.providerId providerId
          (batch.usage s.shared task.target.providerId + 1)).trans (if_neg hp)
        refine hs.of_same (usage_congr batch hdict rfl) hdict ?_ fun _ => ?_
        · simpa [hp] using hreserved
        · simpa [hp] using hskipped
  | _ =>
      exact hs.of_same rfl rfl (by simpa [Phase.isReserved, Phase.isProbed] using hreserved)
        fun _ => by simpa [Phase.isSkipped] using hskipped

omit [Runtime F] [FloatArith F] in
/-- A row of another provider does not count. -/
theorem storedUsage_append_of_ne (batch : Batch F) (rows : List (ProbeRow F)) {row : ProbeRow F}
    {providerId : String} (h : row.providerId ≠ providerId) :
    batch.storedUsage (rows ++ [row]) providerId = batch.storedUsage rows providerId := by
  unfold Batch.storedUsage
  rw [List.map_append, List.map_singleton, getProviderProbeUsage_append]
  have hnone : getProviderProbeUsage [row.toLogRow] providerId batch.utcDay = 0 := by
    simp [getProviderProbeUsage, h]
  rw [hnone, Nat.add_zero]

/-- The writer thread adds no row to a counter that is still to be read. -/
theorem Budgeted.applied (hs : Budgeted batch requestLog s providerId) (hcounted : Counted s)
    {statement : Statement F} {rest : List (Statement F)}
    (hqueue : s.shared.queue = statement :: rest) :
    Budgeted batch requestLog
      { s with shared := statement.apply { s.shared with queue := rest } } providerId := by
  cases statement with
  | model write => exact hs.of_same rfl rfl rfl fun _ => rfl
  | log row =>
      refine hs.of_same ?_ rfl rfl fun _ => rfl
      change (dictGet s.shared.budgetUsage providerId).getD
        (batch.storedUsage (s.shared.requestLog ++ [row]) providerId) = batch.usage _ _
      unfold Batch.usage
      cases hdict : dictGet s.shared.budgetUsage providerId with
      | some usage => rfl
      | none =>
          -- nothing is reserved for the provider, so the row is not its row
          refine storedUsage_append_of_ne batch _ fun hrow => ?_
          have hlogs : s.shared.written.countP
              (Statement.logs fun row => row.providerId == providerId) =
                s.tasks.countP fun task =>
                  task.target.providerId == providerId && task.phase.isLogged :=
            hcounted.logs fun _ other => other == providerId
          have hpos : 0 < s.shared.written.countP
              (Statement.logs fun row => row.providerId == providerId) := by
            refine List.countP_pos_iff.mpr ⟨.log row, ?_, beq_iff_eq.mpr hrow⟩
            unfold Shared.written
            rw [hqueue]
            exact List.mem_append_right _ List.mem_cons_self
          have hle : (s.tasks.countP fun task =>
              task.target.providerId == providerId && task.phase.isLogged) ≤
                s.reservedFor providerId := by
            refine List.countP_mono_left fun task _ htask => ?_
            rw [Bool.and_eq_true] at htask ⊢
            refine ⟨htask.1, ?_⟩
            cases hphase : task.phase <;> simp [hphase, Phase.isLogged, Phase.isReserved,
              Phase.isProbed] at htask ⊢
          have hnone := hs.unused hdict
          omega

end Budgets

/-! ## The invariant -/

section Invariant

variable {F : Type} [Runtime F] [FloatArith F]

/-- What holds throughout a batch on a database whose statements can be bound. -/
structure Kept (batch : Batch F) (models : ModelsTable F) (requestLog : List (ProbeRow F))
    (s : State F) : Prop where
  targets : s.tasks.map Task.target = batch.candidates
  sound : ∀ task ∈ s.tasks, task.phase.Sound batch task.target
  stored : ∀ target ∈ batch.candidates, (s.shared.models.row? target.id).isSome = true
  alive : s.shared.writerAlive = true
  binds : ∀ statement ∈ s.shared.queue, statement.Binds batch.encodable
  counted : Counted s
  budgeted : ∀ providerId, Budgeted batch requestLog s providerId
  models : s.shared.models = models.execAll (s.shared.applied.filterMap Statement.write?)
  requestLog : s.shared.requestLog = requestLog ++ s.shared.applied.filterMap Statement.row?

/-- The condition on a step: what a probe that has failed writes can be bound. -/
def Bindable (batch : Batch F) (s : State F) : Event → Prop
  | .turn k => ∀ task requestId, s.tasks[k]? = some task → task.phase = .probing requestId →
      batch.FailureBinds s.shared.models task.target
  | .drain => True

variable {batch : Batch F} {models : ModelsTable F} {requestLog : List (ProbeRow F)} {s : State F}

theorem kept_start (hstored : ∀ target ∈ batch.candidates, (models.row? target.id).isSome = true) :
    Kept batch models requestLog (start batch models requestLog) := by
  have hnone : ∀ (q : ProbeTarget → Bool) (r : Phase F → Bool), r .waiting = false →
      (start batch models requestLog).tasks.countP (fun task => q task.target && r task.phase) =
        0 := by
    intro q r hr
    refine List.countP_eq_zero.mpr fun task htask => ?_
    obtain ⟨target, -, rfl⟩ := List.mem_map.mp htask
    simp [hr]
  have htracks : ∀ (m : Shared F → Nat) (q : ProbeTarget → Bool) (r : Phase F → Bool),
      m (start batch models requestLog).shared = 0 → r .waiting = false →
        Tracks m q r (start batch models requestLog) :=
    fun m q r hm hr => hm.trans (hnone q r hr).symm
  refine {
    targets := ?_
    sound := ?_
    stored := hstored
    alive := rfl
    binds := fun _ h => nomatch h
    counted := ?_
    budgeted := fun providerId => ?_
    models := rfl
    requestLog := (List.append_nil _).symm }
  · change (batch.candidates.map _).map _ = _
    rw [List.map_map]
    exact List.map_id _
  · intro task htask
    obtain ⟨target, -, rfl⟩ := List.mem_map.mp htask
    exact trivial
  · exact {
      probed := htracks _ _ _ rfl rfl
      recovered := htracks _ _ _ rfl rfl
      failed := htracks _ _ _ rfl rfl
      skipped := htracks _ _ _ rfl rfl
      calls := fun _ => htracks _ _ _ rfl rfl
      updates := fun _ => htracks _ _ _ rfl rfl
      logs := fun _ => htracks _ _ _ rfl rfl }
  · have hreserved : (start batch models requestLog).reservedFor providerId = 0 :=
      hnone (fun target => target.providerId == providerId) Phase.isReserved rfl
    have hskipped : (start batch models requestLog).skippedFor providerId = 0 :=
      hnone (fun target => target.providerId == providerId) Phase.isSkipped rfl
    refine { usage := ?_, unused := fun _ => hreserved, within := ?_, exhausted := ?_ }
    · rw [hreserved]
      rfl
    · rw [hreserved]
      exact Int.le_max_left 0 _
    · intro _ hpos
      rw [hskipped] at hpos
      exact absurd hpos (Nat.lt_irrefl 0)

/-- A task that goes on leaves the database to the writer thread. -/
theorem advances_database {shared shared' : Shared F} {target : ProbeTarget}
    {phase next : Phase F} (h : Advances batch shared target phase next shared') :
    shared'.writerAlive = shared.writerAlive ∧ shared'.models = shared.models ∧
      shared'.requestLog = shared.requestLog ∧ shared'.applied = shared.applied := by
  cases h <;> exact ⟨rfl, rfl, rfl, rfl⟩

/-- What a task enqueues can be bound. -/
theorem advances_queue {shared shared' : Shared F} {target : ProbeTarget} {phase next : Phase F}
    (h : Advances batch shared target phase next shared') :
    ∀ statement ∈ shared'.queue,
      statement ∈ shared.queue ∨ statement.Binds batch.encodable := by
  have henqueue : ∀ {statement : Statement F}, statement.Binds batch.encodable →
      ∀ other ∈ shared.queue ++ [statement],
        other ∈ shared.queue ∨ other.Binds batch.encodable := by
    intro statement hbinds other hother
    rcases List.mem_append.mp hother with hold | hnew
    · exact .inl hold
    · rw [List.mem_singleton.mp hnew]
      exact .inr hbinds
  cases h with
  | deactivated h => exact henqueue ⟨[], rfl⟩
  | marked h => exact henqueue h.1
  | recovered h => exact henqueue h.1
  | failed h => exact henqueue h.1
  | _ => exact fun _ hold => .inl hold

theorem advances_sound {shared shared' : Shared F} {target : ProbeTarget} {phase next : Phase F}
    (h : Advances batch shared target phase next shared') : next.Sound batch target := by
  cases h with
  | unroutable h => exact h
  | ended h => exact h
  | marked h => exact h.2.2
  | _ => exact trivial

theorem Kept.turned (hs : Kept batch models requestLog s) {k : Nat} {task : Task F}
    {next : Phase F} {shared : Shared F} (htask : s.tasks[k]? = some task)
    (hadvances : Advances batch s.shared task.target task.phase next shared) :
    Kept batch models requestLog (s.turned k task next shared) := by
  obtain ⟨halive, hmodels, hrequestLog, happlied⟩ := advances_database hadvances
  refine {
    targets := ?_
    sound := ?_
    stored := ?_
    alive := halive.trans hs.alive
    binds := ?_
    counted := hs.counted.turned htask hadvances
    budgeted := fun providerId => (hs.budgeted providerId).turned htask hadvances
    models := ?_
    requestLog := ?_ }
  · change (s.tasks.set k { task with phase := next }).map Task.target = _
    obtain ⟨hk, htask⟩ := List.getElem?_eq_some_iff.mp htask
    rw [List.map_set, ← hs.targets, ← htask]
    dsimp only
    rw [← List.getElem_map Task.target (h := by rwa [List.length_map]), List.set_getElem_self]
  · intro other hother
    rcases List.mem_or_eq_of_mem_set hother with hold | hnew
    · exact hs.sound other hold
    · rw [hnew]
      exact advances_sound hadvances
  · change ∀ target ∈ batch.candidates, (shared.models.row? target.id).isSome = true
    rw [hmodels]
    exact hs.stored
  · intro statement hstatement
    rcases advances_queue hadvances statement hstatement with hold | hbinds
    · exact hs.binds statement hold
    · exact hbinds
  · change shared.models = _
    rw [hmodels, hs.models]
    change _ = models.execAll (shared.applied.filterMap _)
    rw [happlied]
  · change shared.requestLog = requestLog ++ shared.applied.filterMap _
    rw [hrequestLog, happlied, hs.requestLog]

omit [Runtime F] in
/-- A statement that can be bound is applied. -/
theorem drain_of_binds {encodable : String → Bool} {shared : Shared F}
    {statement : Statement F} {rest : List (Statement F)}
    (hqueue : shared.queue = statement :: rest) (halive : shared.writerAlive = true)
    (hbinds : statement.Binds encodable) :
    drain encodable shared = some (statement.apply { shared with queue := rest }) := by
  obtain ⟨values, hvalues⟩ := hbinds
  have hexecute : statement.execute encodable { shared with queue := rest } =
      .ok (statement.apply { shared with queue := rest }) := by
    unfold Statement.execute
    rw [hvalues]
    rfl
  unfold drain
  rw [hqueue]
  dsimp only
  rw [if_pos halive, hexecute]

omit [Runtime F] in
/-- A row stays stored. -/
theorem isSome_row?_exec {table : ModelsTable F} {id : String} (write : ModelWrite F)
    (h : (table.row? id).isSome = true) : ((table.exec write).row? id).isSome = true := by
  change (rowOf id (write.apply table.rows)).isSome = true
  rw [rowOf_apply]
  unfold ModelsTable.row? at h
  cases hrow : rowOf id table.rows with
  | none =>
      rw [hrow] at h
      exact nomatch h
  | some row =>
      cases write with
      | upsert model now =>
          change (if id = model.id then some _ else some row).isSome = true
          split <;> rfl
      | _ => rfl

theorem Kept.drained (hs : Kept batch models requestLog s) {statement : Statement F}
    {rest : List (Statement F)} (hqueue : s.shared.queue = statement :: rest) :
    Kept batch models requestLog
      { s with shared := statement.apply { s.shared with queue := rest } } := by
  have happlied : (statement.apply { s.shared with queue := rest }).applied =
      s.shared.applied ++ [statement] := by
    cases statement <;> rfl
  have hrest : (statement.apply { s.shared with queue := rest }).queue = rest := by
    cases statement <;> rfl
  refine {
    targets := hs.targets
    sound := hs.sound
    stored := ?_
    alive := ?_
    binds := ?_
    counted := ?_
    budgeted := fun providerId => (hs.budgeted providerId).applied hs.counted hqueue
    models := ?_
    requestLog := ?_ }
  · intro target htarget
    cases statement with
    | model write => exact isSome_row?_exec write (hs.stored target htarget)
    | log row => exact hs.stored target htarget
  · cases statement <;> exact hs.alive
  · intro other hother
    rw [hrest] at hother
    refine hs.binds other ?_
    rw [hqueue]
    exact List.mem_cons_of_mem _ hother
  · refine hs.counted.of_eq ?_ ?_ ?_
    · cases statement <;> rfl
    · cases statement <;> rfl
    · unfold Shared.written
      rw [happlied, hrest, hqueue, List.append_assoc]
      rfl
  · dsimp only
    rw [happlied, List.filterMap_append, execAll_append, ← hs.models]
    cases statement <;> rfl
  · dsimp only
    rw [happlied, List.filterMap_append, ← List.append_assoc, ← hs.requestLog]
    cases statement with
    | model write => exact (List.append_nil _).symm
    | log row => rfl

omit [Runtime F] [FloatArith F] in
/-- A phase at which a task can go on is not its end. -/
theorem isDone_of_isReady {phase : Phase F} (h : isReady batch s phase = true) :
    phase.isDone = false := by
  unfold isReady at h
  cases hdone : phase.isDone with
  | false => rfl
  | true =>
      rw [hdone] at h
      cases phase <;> simp [Phase.isPutting, Phase.isDone] at h hdone

theorem step_turn_eq_some {k : Nat} {s' : State F} :
    step batch s (.turn k) = some s' ↔
      ∃ task, s.tasks[k]? = some task ∧ isReady batch s task.phase = true ∧
        s.turned k task (advance batch s.shared task).1 (advance batch s.shared task).2 = s' := by
  constructor
  · intro h
    obtain ⟨task, htask, h⟩ := Option.bind_eq_some_iff.mp h
    obtain ⟨hready, h⟩ := Option.ite_none_right_eq_some.mp h
    exact ⟨task, htask, hready, Option.some.inj h⟩
  · rintro ⟨task, htask, hready, rfl⟩
    exact Option.bind_eq_some_iff.mpr ⟨task, htask, if_pos hready⟩

/-- A step whose writes can be bound keeps the invariant. -/
theorem kept_step (hfits : batch.CooldownsFit) {event : Event} {s' : State F}
    (hstep : step batch s event = some s') (hguard : Bindable batch s event)
    (hs : Kept batch models requestLog s) : Kept batch models requestLog s' := by
  cases event with
  | turn k =>
      obtain ⟨task, htask, hready, rfl⟩ := step_turn_eq_some.mp hstep
      have hmem := List.mem_of_getElem? htask
      have htarget : task.target ∈ batch.candidates := by
        rw [← hs.targets]
        exact List.mem_map_of_mem hmem
      refine hs.turned htask (advance_advances (hs.sound task hmem) (isDone_of_isReady hready) ?_)
      intro requestId hphase
      exact markProbe_sound (hs.stored _ htarget) (hfits _ htarget)
        (hguard task requestId htask hphase) requestId
  | drain =>
      obtain ⟨shared, hdrain, rfl⟩ := Option.map_eq_some_iff.mp hstep
      cases hqueue : s.shared.queue with
      | nil =>
          unfold drain at hdrain
          rw [hqueue] at hdrain
          exact nomatch hdrain
      | cons statement rest =>
          have hbinds := hs.binds statement (by rw [hqueue]; exact List.mem_cons_self)
          rw [drain_of_binds hqueue hs.alive hbinds] at hdrain
          cases hdrain
          exact hs.drained hqueue

/-- The invariant holds throughout a run whose writes can be bound. -/
theorem kept_run (hfits : batch.CooldownsFit)
    (hstored : ∀ target ∈ batch.candidates, (models.row? target.id).isSome = true)
    {events : List Event} {t : State F}
    (hrun : run (step batch) (start batch models requestLog) events = some t)
    (hguard : Guarded (step batch) (Bindable batch) (start batch models requestLog) events) :
    Kept batch models requestLog t :=
  run_guarded_invariant (Kept batch models requestLog)
    (fun _ _ _ hstep hguard hs => kept_step hfits hstep hguard hs) hrun hguard
    (kept_start hstored)

end Invariant

/-! ## Every run ends -/

section Termination

variable {F : Type} [Runtime F] [FloatArith F] {batch : Batch F}

/-- Replacing one element changes a sum by that element alone. -/
theorem sum_set_add {α : Type} (f : α → Nat) {l : List α} {i : Nat} {a : α} (b : α)
    (h : l[i]? = some a) : ((l.set i b).map f).sum + f a = (l.map f).sum + f b := by
  induction l generalizing i with
  | nil => exact nomatch h
  | cons first rest ih =>
      cases i with
      | zero =>
          cases h
          rw [List.set_cons_zero, List.map_cons, List.map_cons, List.sum_cons, List.sum_cons]
          omega
      | succ i =>
          have hrest := ih h
          rw [List.set_cons_succ, List.map_cons, List.map_cons, List.sum_cons, List.sum_cons]
          omega

/-- How many steps are left at most. -/
def State.weight (s : State F) : Nat :=
  (s.tasks.map fun task => task.phase.weight).sum + s.shared.queue.length

theorem Advances.weight_lt {shared shared' : Shared F} {target : ProbeTarget}
    {phase next : Phase F} (h : Advances batch shared target phase next shared') :
    next.weight + shared'.queue.length < phase.weight + shared.queue.length := by
  cases h <;> simp only [Phase.weight, Shared.skip, Shared.enqueue, List.length_append,
    List.length_singleton] <;> omega

/-- A task that goes on leaves fewer steps, that of its statement included. -/
theorem weight_advance (batch : Batch F) (shared : Shared F) {task : Task F}
    (hdone : task.phase.isDone = false) :
    (advance batch shared task).1.weight + (advance batch shared task).2.queue.length <
      task.phase.weight + shared.queue.length := by
  obtain ⟨target, phase⟩ := task
  cases phase with
  | waiting =>
      have hadvance : advance batch shared ⟨target, .waiting⟩ =
          checkProvider batch shared target := rfl
      rw [hadvance]
      exact (checkProvider_advances batch shared target).weight_lt
  | deactivating =>
      change 0 + (shared.queue ++ [_]).length < 2 + shared.queue.length
      rw [List.length_append, List.length_singleton]
      omega
  | locking =>
      have hadvance : advance batch shared ⟨target, .locking⟩ =
          reserve batch shared target := rfl
      rw [hadvance]
      exact (reserve_advances batch shared target).weight_lt
  | acquiring => exact Nat.add_lt_add_right (by decide : 5 < 6) _
  | probing requestId =>
      have hweight : (markProbe batch shared target requestId).weight ≤ 4 := by
        unfold markProbe
        dsimp only
        split
        · exact Nat.le_refl 4
        · split
          · exact Nat.le_refl 4
          · exact (by decide : 2 ≤ 4)
          · exact Nat.zero_le 4
      exact Nat.add_lt_add_right (Nat.lt_succ_of_le hweight) _
  | marking write row =>
      change 2 + (shared.queue ++ [_]).length < 4 + shared.queue.length
      rw [List.length_append, List.length_singleton]
      omega
  | logging row =>
      change (countProbe (shared.enqueue (.log row)) row).1.weight +
        (countProbe (shared.enqueue (.log row)) row).2.queue.length < 2 + shared.queue.length
      have hcount : (countProbe (shared.enqueue (.log row)) row).1.weight +
          (countProbe (shared.enqueue (.log row)) row).2.queue.length =
            0 + (shared.queue ++ [Statement.log row]).length := by
        unfold countProbe
        split <;> rfl
      rw [hcount, List.length_append, List.length_singleton]
      omega
  | skipped => exact nomatch hdone
  | recovered => exact nomatch hdone
  | failed => exact nomatch hdone
  | raised => exact nomatch hdone

omit [Runtime F] in
/-- The writer thread takes a statement from the queue. -/
theorem length_drain {encodable : String → Bool} {shared shared' : Shared F}
    (h : drain encodable shared = some shared') :
    shared'.queue.length + 1 = shared.queue.length := by
  unfold drain at h
  cases hqueue : shared.queue with
  | nil =>
      rw [hqueue] at h
      exact nomatch h
  | cons statement rest =>
      rw [hqueue] at h
      obtain ⟨-, h⟩ := Option.ite_none_right_eq_some.mp h
      split at h
      · rename_i after hexecute
        cases h
        obtain ⟨values, -, happly⟩ := Writes.bind_ok_iff.mp hexecute
        cases happly
        cases statement <;> rfl
      · cases h
        rfl

/-- Every step leaves fewer steps. -/
theorem weight_step {s s' : State F} {event : Event} (h : step batch s event = some s') :
    s'.weight < s.weight := by
  cases event with
  | turn k =>
      obtain ⟨task, htask, hready, rfl⟩ := step_turn_eq_some.mp h
      have hlower := weight_advance batch s.shared (isDone_of_isReady hready)
      have hset := sum_set_add (fun task : Task F => task.phase.weight)
        { task with phase := (advance batch s.shared task).1 } htask
      dsimp only at hset
      unfold State.weight State.turned
      dsimp only
      omega
  | drain =>
      obtain ⟨shared, hdrain, rfl⟩ := Option.map_eq_some_iff.mp h
      have hlength := length_drain hdrain
      unfold State.weight
      dsimp only
      omega

omit [Runtime F] [FloatArith F] in
theorem weight_start (models : ModelsTable F) (requestLog : List (ProbeRow F)) :
    (start batch models requestLog).weight = 8 * batch.candidates.length := by
  change ((batch.candidates.map _).map _).sum + 0 = _
  rw [List.map_map]
  change (batch.candidates.map fun _ => 8).sum + 0 = _
  rw [List.map_const', List.sum_replicate_nat]
  omega

/-- No run takes more than eight steps for each candidate. -/
theorem length_run_le {models : ModelsTable F} {requestLog : List (ProbeRow F)}
    {events : List Event} {t : State F}
    (hrun : run (step batch) (start batch models requestLog) events = some t) :
    events.length ≤ 8 * batch.candidates.length := by
  have hle := length_add_measure_le (fun _ _ _ => weight_step) hrun
  rw [weight_start] at hle
  omega

end Termination

/-! ## No run is stuck -/

section Progress

variable {F : Type} [Runtime F] [FloatArith F] {batch : Batch F} {s : State F}

/-- Every `probe_one` has ended, and the queue is drained. -/
def State.Finished (s : State F) : Prop :=
  (∀ task ∈ s.tasks, task.phase.isDone = true) ∧ s.shared.queue = []

theorem exists_turn {task : Task F} (hmem : task ∈ s.tasks)
    (hready : isReady batch s task.phase = true) :
    ∃ event s', step batch s event = some s' := by
  obtain ⟨k, hk⟩ := List.mem_iff_getElem?.mp hmem
  exact ⟨.turn k, _, step_turn_eq_some.mpr ⟨task, hk, hready, rfl⟩⟩

/-- A batch that has not finished goes on: the writer thread takes a statement, a task puts one,
or a task in front of no `put` goes on, one that holds the semaphore if need be. -/
theorem exists_step {models : ModelsTable F} {requestLog : List (ProbeRow F)}
    (hconcurrency : 1 ≤ batch.settings.int .healthProbeConcurrency)
    (hs : Kept batch models requestLog s) (hfinished : ¬s.Finished) :
    ∃ event s', step batch s event = some s' := by
  cases hqueue : s.shared.queue with
  | cons statement rest =>
      have hbinds := hs.binds statement (by rw [hqueue]; exact List.mem_cons_self)
      exact ⟨.drain, _, Option.map_eq_some_iff.mpr
        ⟨_, drain_of_binds hqueue hs.alive hbinds, rfl⟩⟩
  | nil =>
      have hroom : decide (s.shared.queue.length < batch.maxsize) = true := by
        rw [hqueue]
        refine decide_eq_true ?_
        unfold Batch.maxsize
        rw [List.length_nil]
        omega
      have hopen : ∃ task ∈ s.tasks, task.phase.isDone = false := by
        by_contra hall
        refine hfinished ⟨fun task hmem => ?_, hqueue⟩
        by_contra hdone
        exact hall ⟨task, hmem, Bool.not_eq_true _ ▸ hdone⟩
      cases hblocked : s.isBlocked with
      | true =>
          obtain ⟨task, hmem, hputting⟩ := List.any_eq_true.mp hblocked
          refine exists_turn hmem ?_
          unfold isReady
          rw [if_pos hputting]
          exact hroom
      | false =>
          have hfree : ∀ task ∈ s.tasks, task.phase.isPutting = false := by
            intro task hmem
            exact Bool.not_eq_true _ ▸ List.any_eq_false.mp hblocked task hmem
          have hready : ∀ task ∈ s.tasks, task.phase.isDone = false →
              (task.phase = .acquiring →
                (s.held : Int) < batch.settings.int .healthProbeConcurrency) →
              isReady batch s task.phase = true := by
            intro task hmem hdone hsemaphore
            unfold isReady
            rw [if_neg (by rw [hfree task hmem]; decide), hblocked, hdone]
            split
            · rename_i hphase
              rw [decide_eq_true (hsemaphore hphase)]
              rfl
            · rfl
          obtain ⟨task, hmem, hdone⟩ := hopen
          by_cases hsemaphore : (s.held : Int) < batch.settings.int .healthProbeConcurrency
          · exact exists_turn hmem (hready task hmem hdone fun _ => hsemaphore)
          · -- the semaphore is held by a probe, which can end
            have hheld : 0 < s.held := by omega
            obtain ⟨holder, hholder, hholding⟩ := List.countP_pos_iff.mp hheld
            have hputting := hfree holder hholder
            refine exists_turn hholder (hready holder hholder ?_ ?_)
            · cases hphase : holder.phase <;>
                simp [hphase, Phase.isHolding, Phase.isPutting, Phase.isDone] at hholding hputting ⊢
            · intro hphase
              rw [hphase] at hholding
              exact nomatch hholding

end Progress

/-! ## What a batch does -/

section Spec

variable {F : Type} [Runtime F] [FloatArith F] {batch : Batch F}

/-- What a batch has done to a database when it has finished. -/
structure BatchSpec (batch : Batch F) (models : ModelsTable F) (requestLog : List (ProbeRow F))
    (shared : Shared F) : Prop where
  considered : batch.candidates.length = shared.counts.probed + shared.counts.skipped
  probed : shared.counts.probed = shared.counts.recovered + shared.counts.failed
  issued : ∀ providerId, batch.probes providerId = true →
    (shared.calls.countP (fun target => target.providerId == providerId) : Int) =
      min (batch.candidates.countP (fun target => target.providerId == providerId) : Int)
        (max 0 (budgetLimit batch.settings providerId - batch.storedUsage requestLog providerId))
  models : shared.models = models.execAll (shared.applied.filterMap Statement.write?)
  updated : ∀ target ∈ shared.calls, shared.applied.countP (Statement.updates target.id) = 1
  logged : ∀ target ∈ shared.calls,
    shared.requestLog.countP (fun row => row.selectedModelId == target.id) =
      requestLog.countP (fun row => row.selectedModelId == target.id) + 1

omit [Runtime F] [FloatArith F] in
/-- Tasks at phases that fall into two kinds. -/
theorem countP_split {tasks : List (Task F)} (q : ProbeTarget → Bool) {r r₁ r₂ : Phase F → Bool}
    (h : ∀ task ∈ tasks, (if r task.phase then 1 else 0) =
      (if r₁ task.phase then 1 else 0) + if r₂ task.phase then 1 else 0) :
    (tasks.countP fun task => q task.target && r task.phase) =
      (tasks.countP fun task => q task.target && r₁ task.phase) +
        tasks.countP fun task => q task.target && r₂ task.phase := by
  induction tasks with
  | nil => rfl
  | cons task rest ih =>
      rw [List.forall_mem_cons] at h
      rw [List.countP_cons, List.countP_cons, List.countP_cons, ih h.2]
      cases q task.target with
      | false =>
          simp only [Bool.false_and, Bool.false_eq_true, if_false]
          omega
      | true =>
          simp only [Bool.true_and]
          omega

/-- The phases of the tasks of a batch that has finished. -/
theorem Kept.ended {models : ModelsTable F} {requestLog : List (ProbeRow F)} {s : State F}
    (hs : Kept batch models requestLog s) (hfinished : s.Finished) :
    ∀ task ∈ s.tasks, task.phase = .skipped ∨ task.phase = .recovered ∨ task.phase = .failed := by
  intro task hmem
  have hdone := hfinished.1 task hmem
  have hsound := hs.sound task hmem
  cases hphase : task.phase with
  | skipped => exact .inl rfl
  | recovered => exact .inr (.inl rfl)
  | failed => exact .inr (.inr rfl)
  | raised =>
      rw [hphase] at hsound
      exact hsound.elim
  | _ =>
      rw [hphase] at hdone
      exact nomatch hdone

omit [Runtime F] [FloatArith F] in
theorem countP_logs (p : ProbeRow F → Bool) (statements : List (Statement F)) :
    (statements.filterMap Statement.row?).countP p = statements.countP (Statement.logs p) := by
  rw [List.countP_filterMap]
  refine List.countP_congr fun statement _ => ?_
  cases statement <;> rfl

/-- At the end each candidate was probed or skipped. -/
theorem Kept.countP_candidates {models : ModelsTable F} {requestLog : List (ProbeRow F)}
    {s : State F} (hs : Kept batch models requestLog s) (hfinished : s.Finished)
    (q : ProbeTarget → Bool) :
    batch.candidates.countP q =
      (s.tasks.countP fun task => q task.target && task.phase.isProbed) +
        s.tasks.countP fun task => q task.target && task.phase.isSkipped := by
  have htargets : batch.candidates.countP q =
      s.tasks.countP fun task => q task.target && true := by
    rw [← hs.targets, List.countP_map]
    refine List.countP_congr fun task _ => ?_
    rw [Bool.and_true]
    rfl
  rw [htargets]
  refine countP_split q (r := fun _ => true) fun task hmem => ?_
  rcases hs.ended hfinished task hmem with h | h | h <;> rw [h] <;> rfl

/-- At the end the candidates that were probed are those with a reservation, those with a health
update and those with a log row. -/
theorem Kept.countP_probed {models : ModelsTable F} {requestLog : List (ProbeRow F)}
    {s : State F} (hs : Kept batch models requestLog s) (hfinished : s.Finished)
    (q : ProbeTarget → Bool) {r : Phase F → Bool} (hskipped : r .skipped = false)
    (hrecovered : r .recovered = true) (hfailed : r .failed = true) :
    (s.tasks.countP fun task => q task.target && r task.phase) =
      s.tasks.countP fun task => q task.target && task.phase.isProbed := by
  refine List.countP_congr fun task hmem => ?_
  rcases hs.ended hfinished task hmem with h | h | h
  · rw [h, hskipped]
    rfl
  · rw [h, hrecovered]
    rfl
  · rw [h, hfailed]
    rfl

/-- A model that was probed is the candidate of one probe. -/
theorem Kept.probed_once {models : ModelsTable F} {requestLog : List (ProbeRow F)} {s : State F}
    (hdistinct : (batch.candidates.map ProbeTarget.id).Nodup)
    (hs : Kept batch models requestLog s) (hfinished : s.Finished) {target : ProbeTarget}
    (hmem : target ∈ s.shared.calls) :
    (s.tasks.countP fun task => (task.target.id == target.id) && task.phase.isProbed) = 1 := by
  have hcalls : s.shared.calls.countP (fun other => other.id == target.id) =
      s.tasks.countP fun task => (task.target.id == target.id) && task.phase.isProbed :=
    hs.counted.calls fun other => other.id == target.id
  have hpos : 0 < s.shared.calls.countP fun other => other.id == target.id :=
    List.countP_pos_iff.mpr ⟨target, hmem, beq_self_eq_true _⟩
  have hle : batch.candidates.countP (fun other => other.id == target.id) ≤ 1 := by
    have hcount := List.nodup_iff_count_le_one.mp hdistinct target.id
    rw [List.count_eq_countP, List.countP_map] at hcount
    exact hcount
  rw [hs.countP_candidates hfinished] at hle
  omega

/-- The invariant gives the contract when the batch has finished. -/
theorem Kept.batchSpec {models : ModelsTable F} {requestLog : List (ProbeRow F)} {s : State F}
    (hdistinct : (batch.candidates.map ProbeTarget.id).Nodup)
    (hs : Kept batch models requestLog s) (hfinished : s.Finished) :
    BatchSpec batch models requestLog s.shared := by
  have hwritten : s.shared.written = s.shared.applied := by
    unfold Shared.written
    rw [hfinished.2, List.append_nil]
  constructor
  · have hprobed := hs.counted.probed
    have hskipped := hs.counted.skipped
    have hall := hs.countP_candidates hfinished fun _ => true
    rw [List.countP_true] at hall
    rw [hall]
    exact (congrArg₂ (· + ·) hprobed hskipped).symm
  · have hall : (s.tasks.countP fun task => true && task.phase.isProbed) =
        (s.tasks.countP fun task => true && task.phase.isRecovered) +
          s.tasks.countP fun task => true && task.phase.isFailed := by
      refine countP_split (fun _ => true) fun task hmem => ?_
      rcases hs.ended hfinished task hmem with h | h | h <;> rw [h] <;> rfl
    exact (hs.counted.probed.trans hall).trans
      (congrArg₂ (· + ·) hs.counted.recovered hs.counted.failed).symm
  · intro providerId hprobes
    have hbudgeted := hs.budgeted providerId
    have hreserved : (s.tasks.countP fun task =>
        task.target.providerId == providerId && task.phase.isProbed) =
          s.reservedFor providerId :=
      (hs.countP_probed hfinished (fun target => target.providerId == providerId)
        (r := Phase.isReserved) rfl rfl rfl).symm
    have hcalls : s.shared.calls.countP (fun target => target.providerId == providerId) =
        s.reservedFor providerId :=
      (hs.counted.calls fun target => target.providerId == providerId).trans hreserved
    have hall : batch.candidates.countP (fun target => target.providerId == providerId) =
        s.reservedFor providerId + s.skippedFor providerId :=
      (hs.countP_candidates hfinished fun target => target.providerId == providerId).trans
        (congrArg (· + _) hreserved)
    have hwithin := hbudgeted.within
    have hexhausted := hbudgeted.exhausted hprobes
    rw [hcalls, hall]
    omega
  · exact hs.models
  · intro target hmem
    rw [← hwritten]
    exact ((hs.counted.updates target.id).trans
      (hs.countP_probed hfinished (fun other => other.id == target.id)
        (r := Phase.isMarked) rfl rfl rfl)).trans (hs.probed_once hdistinct hfinished hmem)
  · intro target hmem
    rw [hs.requestLog, List.countP_append, countP_logs, ← hwritten]
    refine congrArg _ ?_
    exact ((hs.counted.logs fun id _ => id == target.id).trans
      (hs.countP_probed hfinished (fun other => other.id == target.id)
        (r := Phase.isLogged) rfl rfl rfl)).trans (hs.probed_once hdistinct hfinished hmem)

/-- One batch on a database that holds its candidates, whatever the outcomes of the probes and
the order in which the tasks and the writer thread go on: no run is longer than eight steps for
each candidate, a batch that has not finished goes on, and when it has, its counts add up, each
probed provider had as many probes as its candidates and its budget allow, and each probed model
has one health update and one log row.  In every step that ends a failed probe, what it writes
can be bound. -/
theorem runProbeBatch_spec {models : ModelsTable F} {requestLog : List (ProbeRow F)}
    (hdistinct : (batch.candidates.map ProbeTarget.id).Nodup)
    (hstored : ∀ target ∈ batch.candidates, (models.row? target.id).isSome = true)
    (hconcurrency : 1 ≤ batch.settings.int .healthProbeConcurrency) (hfits : batch.CooldownsFit)
    {events : List Event} {t : State F}
    (hrun : run (step batch) (start batch models requestLog) events = some t)
    (hguard : Guarded (step batch) (Bindable batch) (start batch models requestLog) events) :
    events.length ≤ 8 * batch.candidates.length ∧
      (¬t.Finished → ∃ event s', step batch t event = some s') ∧
      (t.Finished → BatchSpec batch models requestLog t.shared) := by
  have hkept := kept_run hfits hstored hrun hguard
  exact ⟨length_run_le hrun, exists_step hconcurrency hkept,
    fun hfinished => hkept.batchSpec hdistinct hfinished⟩

end Spec

/-! ## Samples -/

/-- Once every task has ended and the writer thread as well, nothing goes on. -/
theorem step_of_dead {F : Type} [Runtime F] [FloatArith F] {batch : Batch F} {s : State F}
    (hdone : ∀ task ∈ s.tasks, task.phase.isDone = true) (hdead : s.shared.writerAlive = false)
    (event : Event) : step batch s event = none := by
  cases hstep : step batch s event with
  | none => rfl
  | some s' =>
      cases event with
      | turn k =>
          obtain ⟨task, htask, hready, -⟩ := step_turn_eq_some.mp hstep
          have hopen := isDone_of_isReady hready
          rw [hdone task (List.mem_of_getElem? htask)] at hopen
          exact nomatch hopen
      | drain =>
          obtain ⟨shared, hdrain, -⟩ := Option.map_eq_some_iff.mp hstep
          unfold drain at hdrain
          rw [hdead] at hdrain
          cases hqueue : s.shared.queue with
          | nil =>
              rw [hqueue] at hdrain
              exact nomatch hdrain
          | cons statement rest =>
              rw [hqueue] at hdrain
              exact nomatch hdrain

/-- A stored model. -/
def storedModel : DiscoveredModel Exact where
  id := "m"
  name := "m"
  providerId := "openrouter"
  providerModelId := "m"
  providerBaseUrl := "https://openrouter.ai/api/v1"
  providerApiKeyEnv := "OPENROUTER_API_KEY"

/-- A table of one model. -/
def oneModel : ModelsTable Exact where
  rows := [storedModel.newRow "2024-01-02T03:04:05Z"]
  ids_nodup := List.nodup_singleton _

/-- A batch of one candidate; the replacement character stands for a lone surrogate. -/
def oneProbe (outcome : Outcome Exact) : Batch Exact where
  settings := settingsWithOpenrouter []
  registry := ProviderRegistry.empty.insert "openrouter"
    { name := "openrouter", apiKey := "key", apiBase := "https://openrouter.ai/api/v1" } true true
  requestSource := .probe
  candidates := [⟨"m", "openrouter", "m"⟩]
  utcDay := 0
  hasProbe _ := true
  outcome _ := outcome
  encodable text := !text.toList.contains '\ufffd'
  lowPriorityLogQueueSize := 1

theorem stored_oneProbe (outcome : Outcome Exact) :
    ∀ target ∈ (oneProbe outcome).candidates, (oneModel.row? target.id).isSome = true := by
  intro target hmem
  rw [List.mem_singleton.mp hmem]
  decide

/-- A probe that succeeds. -/
def answeredProbe : Batch Exact :=
  oneProbe (.result { now := "2024-01-02T03:04:06Z" } 0)

/-- The batch ends with one probe, one update and one row. -/
theorem runProbeBatch_answered : ∃ t,
    run (step answeredProbe) (start answeredProbe oneModel [])
      [.turn 0, .turn 0, .turn 0, .turn 0, .turn 0, .drain, .turn 0, .drain] = some t ∧
    t.Finished ∧ BatchSpec answeredProbe oneModel [] t.shared ∧ t.shared.counts.recovered = 1 := by
  have hguard : ∀ s event, Bindable answeredProbe s event := by
    intro s event
    cases event with
    | turn k => exact fun _ _ _ _ _ _ houtcome => nomatch houtcome
    | drain => exact trivial
  have hfits : answeredProbe.CooldownsFit := fun _ _ _ _ houtcome => nomatch houtcome
  have hrun : ((run (step answeredProbe) (start answeredProbe oneModel [])
      [.turn 0, .turn 0, .turn 0, .turn 0, .turn 0, .drain, .turn 0, .drain]).any fun t =>
        (t.tasks.all fun task => task.phase.isDone) && t.shared.queue.isEmpty &&
          t.shared.counts.recovered == 1) = true := by
    decide +kernel
  obtain ⟨t, ht, hend⟩ := (Option.any_eq_true _ _).mp hrun
  rw [Bool.and_eq_true, Bool.and_eq_true] at hend
  obtain ⟨⟨hdone, hqueue⟩, hrecovered⟩ := hend
  have hfinished : t.Finished := ⟨List.all_eq_true.mp hdone, List.isEmpty_iff.mp hqueue⟩
  refine ⟨t, ht, hfinished, ?_, beq_iff_eq.mp hrecovered⟩
  exact (runProbeBatch_spec (by decide) (stored_oneProbe _) (by decide) hfits ht
    (guarded_of_forall hguard _ _)).2.2 hfinished

/-- A probe that raises an exception whose text has a lone surrogate. -/
def surrogateProbe : Batch Exact :=
  oneProbe (.exception
    { now := "2024-01-02T03:04:06Z", error := "bad model \ufffd"
      isoAfterMinutes := fun _ => .ok "2024-01-02T03:14:06Z" } 0)

/-- The update of the failure ends the writer thread, and the log row stays on the queue. -/
theorem surrogate_ends_writer :
    ¬ ∀ (batch : Batch Exact) (models : ModelsTable Exact) (requestLog : List (ProbeRow Exact)),
      (batch.candidates.map ProbeTarget.id).Nodup →
      (∀ target ∈ batch.candidates, (models.row? target.id).isSome = true) →
      1 ≤ batch.settings.int .healthProbeConcurrency → batch.CooldownsFit →
      ∀ (events : List Event) (t : State Exact),
        run (step batch) (start batch models requestLog) events = some t →
        events.length ≤ 8 * batch.candidates.length ∧
          (¬t.Finished → ∃ event s', step batch t event = some s') ∧
          (t.Finished → BatchSpec batch models requestLog t.shared) := by
  intro h
  have hfits : surrogateProbe.CooldownsFit := by
    intro target _ call utcDay houtcome level
    cases houtcome
    exact ⟨_, rfl⟩
  have hrun : ((run (step surrogateProbe) (start surrogateProbe oneModel [])
      [.turn 0, .turn 0, .turn 0, .turn 0, .turn 0, .turn 0, .drain]).any fun t =>
        (t.tasks.all fun task => task.phase.isDone) && !t.shared.queue.isEmpty &&
          !t.shared.writerAlive) = true := by
    decide +kernel
  obtain ⟨t, ht, hend⟩ := (Option.any_eq_true _ _).mp hrun
  rw [Bool.and_eq_true, Bool.and_eq_true, Bool.not_eq_true', Bool.not_eq_true'] at hend
  obtain ⟨⟨hdone, hqueue⟩, hdead⟩ := hend
  obtain ⟨-, hgoes, -⟩ := h surrogateProbe oneModel [] (by decide) (stored_oneProbe _)
    (by decide) hfits _ t ht
  have hunfinished : ¬t.Finished := by
    intro hfinished
    rw [hfinished.2] at hqueue
    exact nomatch hqueue
  obtain ⟨event, s', hstep⟩ := hgoes hunfinished
  rw [step_of_dead (List.all_eq_true.mp hdone) hdead event] at hstep
  exact nomatch hstep

end ProbeRun
end Health
end FreeLunch
