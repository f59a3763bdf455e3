import FreeLunch.Foundations.Runs
import FreeLunch.Foundations.Threads
import FreeLunch.Python.Value
import FreeLunch.Runtime.Reload

/-!
# The daily probe budget

`_run_probe_batch` and `get_provider_probe_usage` of `src/health.py`, with the batches
of `run_health_checks` and `bootstrap_health_check` interleaved on the event loop.  A
batch reads the day when it starts and keeps a counter for each provider, seeded from the
log when the first of its candidates reserves a probe.  A probe is logged when it
completes, and the writer thread applies the row later.

The calls of `provider.probe` and the batch that last reserved a probe are recorded in
the state; no function of the source reads them.

Main results:

- Theorem `probe_calls_within_budget`: in every run whose reservations are made on counts
  that miss nothing, no provider is probed more often on a day than its budget allows.
-/

namespace FreeLunch
namespace Health

open Runs Threads Python FreeLunch.Runtime

/-! ## The log -/

/-- `request_source`. -/
inductive RequestSource where
  | client
  | probe
  | bootstrap
deriving DecidableEq, Repr

/-- The columns of `request_log` that the budget reads, with the day of the timestamp. -/
structure LogRow where
  providerId : String
  requestSource : RequestSource
  utcDay : Nat
deriving DecidableEq, Repr

/-- `get_provider_probe_usage`. -/
def getProviderProbeUsage (requestLog : List LogRow) (providerId : String) (utcDay : Nat) :
    Nat :=
  requestLog.countP fun row =>
    row.providerId == providerId
      && (row.requestSource == .probe || row.requestSource == .bootstrap)
      && row.utcDay == utcDay

/-! ## Batches -/

/-- Where `probe_one` of a candidate stands. -/
inductive ProbePhase where
  | waiting
  | reserved
  | probing
  | done
deriving DecidableEq, Repr

/-- `probe_one` of a candidate of a batch. -/
structure ProbeTask where
  batch : Nat
  providerId : String
  phase : ProbePhase
deriving DecidableEq, Repr

/-- The variables that the tasks of a batch share. -/
structure ProbeBatch where
  requestSource : RequestSource
  utcDay : Nat
  budgetUsage : List (String × Nat)
deriving DecidableEq, Repr

/-- The value of `budget_usage[provider_id]` after `setdefault`. -/
def ProbeBatch.usage (batch : ProbeBatch) (requestLog : List LogRow) (providerId : String) :
    Nat :=
  (dictGet batch.budgetUsage providerId).getD
    (getProviderProbeUsage requestLog providerId batch.utcDay)

/-- `budget_usage[provider_id] = usage`. -/
def ProbeBatch.setUsage (batch : ProbeBatch) (providerId : String) (usage : Nat) :
    ProbeBatch :=
  { batch with budgetUsage := dictSet batch.budgetUsage providerId usage }

/-- The log, the writer queue and the batches started so far. -/
structure ProbeState where
  today : Nat
  requestLog : List LogRow
  queue : List LogRow
  batches : List ProbeBatch
  tasks : List ProbeTask
  calls : List (String × Nat)
  lastReserver : String → Option Nat

/-- What happens on the event loop and on the writer thread. -/
inductive ProbeEvent where
  /-- `run_health_checks` selects candidates of these providers. -/
  | runHealthChecks (providerIds : List String)
  /-- `bootstrap_health_check` selects candidates of these providers. -/
  | bootstrapHealthCheck (providerIds : List String)
  /-- The provider may not be probed, is not routable or has no `probe`. -/
  | skip (task : Nat)
  /-- The section under `budget_lock`. -/
  | reserve (task : Nat)
  /-- The semaphore is acquired and `provider.probe` called. -/
  | probe (task : Nat)
  /-- The call returns or raises; `logged` unless `mark_failure` raises as well. -/
  | complete (task : Nat) (logged : Bool)
  /-- A client request is logged. -/
  | client (providerId : String)
  /-- The writer thread takes the next row, and inserts it if the insert succeeds. -/
  | drain (inserted : Bool)
  | midnight
deriving DecidableEq, Repr

section Steps

variable {F : Type}

/-- `settings.health_daily_request_budget_by_provider.get(provider_id, 0)`. -/
def budgetLimit (settings : Settings F) (providerId : String) : Int :=
  (dictGet settings.healthDailyRequestBudgetByProvider providerId).getD 0

/-- The start of `_run_probe_batch`. -/
def runProbeBatch (requestSource : RequestSource) (providerIds : List String)
    (s : ProbeState) : ProbeState :=
  if providerIds.isEmpty then s
  else
    { s with
      batches := s.batches ++ [⟨requestSource, s.today, []⟩]
      tasks := s.tasks ++ providerIds.map fun id => ⟨s.batches.length, id, .waiting⟩ }

/-- The task, if it stands at the phase. -/
def ProbeState.taskAt (s : ProbeState) (k : Nat) (phase : ProbePhase) : Option ProbeTask :=
  s.tasks[k]?.filter fun task => task.phase == phase

/-- The task moves on to a phase. -/
def ProbeState.move (s : ProbeState) (k : Nat) (task : ProbeTask) (phase : ProbePhase) :
    ProbeState :=
  { s with tasks := s.tasks.set k { task with phase := phase } }

/-- The section of `probe_one` under `budget_lock`. -/
def reserveBudget (settings : Settings F) (s : ProbeState) (k : Nat) (task : ProbeTask)
    (batch : ProbeBatch) : ProbeState :=
  let usage := batch.usage s.requestLog task.providerId
  if budgetLimit settings task.providerId ≤ usage then
    { s.move k task .done with
      batches := s.batches.set task.batch (batch.setUsage task.providerId usage) }
  else
    { s.move k task .reserved with
      batches := s.batches.set task.batch (batch.setUsage task.providerId (usage + 1))
      lastReserver := Function.update s.lastReserver task.providerId (some task.batch) }

/-- The calls of the batch that hold the semaphore. -/
def ProbeState.held (s : ProbeState) (batch : Nat) : Nat :=
  s.tasks.countP fun task => task.batch == batch && task.phase == .probing

/-- One event. -/
def probeStep (settings : Settings F) (s : ProbeState) : ProbeEvent → Option ProbeState
  | .runHealthChecks providerIds => some (runProbeBatch .probe providerIds s)
  | .bootstrapHealthCheck providerIds => some (runProbeBatch .bootstrap providerIds s)
  | .skip k => (s.taskAt k .waiting).map fun task => s.move k task .done
  | .reserve k =>
      (s.taskAt k .waiting).bind fun task =>
        s.batches[task.batch]?.map fun batch => reserveBudget settings s k task batch
  | .probe k =>
      (s.taskAt k .reserved).bind fun task =>
        if (s.held task.batch : Int) < settings.int .healthProbeConcurrency then
          some { s.move k task .probing with calls := s.calls ++ [(task.providerId, s.today)] }
        else none
  | .complete k logged =>
      (s.taskAt k .probing).bind fun task =>
        s.batches[task.batch]?.map fun batch =>
          { s.move k task .done with
            queue :=
              if logged then s.queue ++ [⟨task.providerId, batch.requestSource, s.today⟩]
              else s.queue }
  | .client providerId =>
      some { s with queue := s.queue ++ [⟨providerId, .client, s.today⟩] }
  | .drain inserted =>
      s.queue.head?.map fun row =>
        { s with
          requestLog := if inserted then s.requestLog ++ [row] else s.requestLog
          queue := s.queue.tail }
  | .midnight => some { s with today := s.today + 1 }

end Steps

/-! ## Counts that miss nothing -/

/-- The calls of `provider.probe` on a day. -/
def ProbeState.callsOn (s : ProbeState) (providerId : String) (utcDay : Nat) : Nat :=
  s.calls.count (providerId, utcDay)

/-- The tasks of a provider at a phase. -/
def ProbeState.inPhase (s : ProbeState) (providerId : String) (phase : ProbePhase) : Nat :=
  s.tasks.countP fun task => task.providerId == providerId && task.phase == phase

/-- Every probe of the provider that was reserved is in the log. -/
def ProbeState.AllLogged (s : ProbeState) (providerId : String) : Prop :=
  s.inPhase providerId .reserved = 0 ∧ s.inPhase providerId .probing = 0 ∧
    getProviderProbeUsage s.queue providerId s.today = 0

/-- The count the task compares with the limit misses no probe: a new counter is seeded
on the day of its batch when every probe is logged, and an old one belongs to the batch
that reserved last. -/
def ProbeState.Counted (s : ProbeState) (task : ProbeTask) (batch : ProbeBatch) : Prop :=
  (dictGet batch.budgetUsage task.providerId = none →
    batch.utcDay = s.today ∧ s.AllLogged task.providerId) ∧
  (dictGet batch.budgetUsage task.providerId ≠ none →
    s.lastReserver task.providerId = some task.batch)

/-- A task that reserves a probe is `Counted`, and every completed probe gets its row. -/
def CountsEveryProbe {F : Type} (settings : Settings F) (s : ProbeState) : ProbeEvent → Prop
  | .reserve k => ∀ task batch, s.taskAt k .waiting = some task →
      s.batches[task.batch]? = some batch →
      (batch.usage s.requestLog task.providerId : Int) < budgetLimit settings task.providerId →
      s.Counted task batch
  | .complete _ logged => logged = true
  | .drain inserted => inserted = true
  | _ => True

/-- No batch is under way, and the calls made so far are in the log and within the
budgets. -/
structure AtRest {F : Type} (settings : Settings F) (s : ProbeState) : Prop where
  queue : s.queue = []
  batches : s.batches = []
  tasks : s.tasks = []
  lastReserver : ∀ providerId, s.lastReserver providerId = none
  within : ∀ providerId utcDay,
    s.callsOn providerId utcDay ≤ (budgetLimit settings providerId).toNat
  past : ∀ providerId utcDay, s.today < utcDay → s.callsOn providerId utcDay = 0
  logged : ∀ providerId,
    s.callsOn providerId s.today ≤ getProviderProbeUsage s.requestLog providerId s.today

/-! ## What a move and a row change -/

theorem taskAt_eq_some {s : ProbeState} {k : Nat} {phase : ProbePhase} {task : ProbeTask} :
    s.taskAt k phase = some task ↔ s.tasks[k]? = some task ∧ task.phase = phase := by
  unfold ProbeState.taskAt
  rw [Option.filter_eq_some_iff, beq_iff_eq]

/-- A move takes the task out of its phase and into the next one. -/
theorem inPhase_set {s : ProbeState} {k : Nat} {phase : ProbePhase} {task : ProbeTask}
    (h : s.taskAt k phase = some task) (next : ProbePhase) (providerId : String)
    (target : ProbePhase) :
    ((s.tasks.set k { task with phase := next }).countP fun task =>
        task.providerId == providerId && task.phase == target) +
        (if task.providerId = providerId ∧ phase = target then 1 else 0) =
      s.inPhase providerId target +
        (if task.providerId = providerId ∧ next = target then 1 else 0) := by
  obtain ⟨htask, rfl⟩ := taskAt_eq_some.mp h
  have hset := countP_set_add
    (fun task => task.providerId == providerId && task.phase == target)
    { task with phase := next } htask
  rw [ProbeState.inPhase]
  simpa only [Bool.and_eq_true, beq_iff_eq] using hset

theorem getProviderProbeUsage_append (rows : List LogRow) (row : LogRow) (providerId : String)
    (utcDay : Nat) :
    getProviderProbeUsage (rows ++ [row]) providerId utcDay =
      getProviderProbeUsage rows providerId utcDay +
        getProviderProbeUsage [row] providerId utcDay := by
  unfold getProviderProbeUsage
  rw [List.countP_append]

/-- The row of a completed probe counts for its provider on its day. -/
theorem getProviderProbeUsage_probe {requestSource : RequestSource}
    (h : requestSource ≠ .client) (id providerId : String) (utcDay : Nat) :
    getProviderProbeUsage [⟨id, requestSource, utcDay⟩] providerId utcDay =
      if id = providerId then 1 else 0 := by
  cases requestSource with
  | client => exact absurd rfl h
  | probe => simp [getProviderProbeUsage, List.countP_cons]
  | bootstrap => simp [getProviderProbeUsage, List.countP_cons]

/-! ## The invariant -/

/-- No budget is exceeded, the day's calls are in the log, on their way to it or under
way, and the batch that reserved last for a provider counts them with its reservations. -/
structure Accounted {F : Type} (settings : Settings F) (s : ProbeState) : Prop where
  within : ∀ providerId utcDay,
    s.callsOn providerId utcDay ≤ (budgetLimit settings providerId).toNat
  past : ∀ providerId utcDay, s.today < utcDay → s.callsOn providerId utcDay = 0
  logged : ∀ providerId, s.callsOn providerId s.today ≤
    getProviderProbeUsage s.requestLog providerId s.today +
      getProviderProbeUsage s.queue providerId s.today + s.inPhase providerId .probing
  counted : ∀ providerId b, s.lastReserver providerId = some b →
    ∃ batch usage, s.batches[b]? = some batch ∧
      dictGet batch.budgetUsage providerId = some usage ∧
      s.callsOn providerId s.today + s.inPhase providerId .reserved ≤ usage ∧
      usage ≤ (budgetLimit settings providerId).toNat
  unreserved : ∀ providerId, s.lastReserver providerId = none →
    s.inPhase providerId .reserved = 0
  sources : ∀ batch ∈ s.batches, batch.requestSource ≠ .client

section Invariant

variable {F : Type} {settings : Settings F} {s : ProbeState}

theorem accounted_of_atRest (h : AtRest settings s) : Accounted settings s := by
  have hphase : ∀ providerId phase, s.inPhase providerId phase = 0 := by
    intro providerId phase
    rw [ProbeState.inPhase, h.tasks, List.countP_nil]
  refine ⟨h.within, h.past, ?_, ?_, ?_, ?_⟩
  · intro providerId
    have hlogged := h.logged providerId
    omega
  · intro providerId b hlast
    rw [h.lastReserver providerId] at hlast
    cases hlast
  · intro providerId hlast
    exact hphase providerId .reserved
  · intro batch hbatch
    rw [h.batches] at hbatch
    cases hbatch

/-- A batch starts with every candidate waiting and no counter. -/
theorem accounted_runProbeBatch {requestSource : RequestSource}
    (hsource : requestSource ≠ .client) (providerIds : List String)
    (hinv : Accounted settings s) :
    Accounted settings (runProbeBatch requestSource providerIds s) := by
  unfold runProbeBatch
  by_cases hnone : providerIds.isEmpty = true
  · rw [if_pos hnone]
    exact hinv
  · rw [if_neg hnone]
    have hphase : ∀ providerId phase, phase ≠ .waiting →
        ((s.tasks ++ providerIds.map fun id =>
            (⟨s.batches.length, id, .waiting⟩ : ProbeTask)).countP fun task =>
          task.providerId == providerId && task.phase == phase) =
        s.inPhase providerId phase := by
      intro providerId phase hne
      rw [List.countP_append, List.countP_map, ProbeState.inPhase, Nat.add_eq_left,
        List.countP_eq_zero]
      intro id hid hboth
      rw [Function.comp_apply, Bool.and_eq_true, beq_iff_eq, beq_iff_eq] at hboth
      exact hne hboth.2.symm
    refine ⟨hinv.within, hinv.past, ?_, ?_, ?_, ?_⟩
    · intro providerId
      have hlogged := hinv.logged providerId
      rw [← hphase providerId .probing (by decide)] at hlogged
      exact hlogged
    · intro providerId b hlast
      obtain ⟨batch, usage, hbatch, husage, hcalls, hlimit⟩ := hinv.counted providerId b hlast
      rw [← hphase providerId .reserved (by decide)] at hcalls
      refine ⟨batch, usage, ?_, husage, hcalls, hlimit⟩
      exact List.getElem?_append_left (List.getElem?_eq_some_iff.mp hbatch).1 ▸ hbatch
    · intro providerId hlast
      have hzero := hinv.unreserved providerId hlast
      rw [← hphase providerId .reserved (by decide)] at hzero
      exact hzero
    · intro batch hbatch
      rcases List.mem_append.mp hbatch with hold | hnew
      · exact hinv.sources batch hold
      · rw [List.mem_singleton.mp hnew]
        exact hsource

/-- A candidate that is skipped was neither reserved nor probing. -/
theorem accounted_skip {k : Nat} {task : ProbeTask} (htask : s.taskAt k .waiting = some task)
    (hinv : Accounted settings s) : Accounted settings (s.move k task .done) := by
  have hphase : ∀ providerId phase, phase ≠ .waiting → phase ≠ .done →
      (s.move k task .done).inPhase providerId phase = s.inPhase providerId phase := by
    intro providerId phase hwaiting hdone
    have hset := inPhase_set htask .done providerId phase
    rw [if_neg fun h => hwaiting h.2.symm, if_neg fun h => hdone h.2.symm] at hset
    exact hset
  refine ⟨hinv.within, hinv.past, ?_, ?_, ?_, hinv.sources⟩
  · intro providerId
    rw [hphase providerId .probing (by decide) (by decide)]
    exact hinv.logged providerId
  · intro providerId b hlast
    rw [hphase providerId .reserved (by decide) (by decide)]
    exact hinv.counted providerId b hlast
  · intro providerId hlast
    rw [hphase providerId .reserved (by decide) (by decide)]
    exact hinv.unreserved providerId hlast

/-- Setting the counter of a provider in a batch leaves the other counters. -/
theorem exists_usage_set {task : ProbeTask} {batch old : ProbeBatch} {b usage : Nat}
    {providerId : String} (hbatch : s.batches[task.batch]? = some batch)
    (hold : s.batches[b]? = some old) (husage : dictGet old.budgetUsage providerId = some usage)
    (hother : task.batch = b → task.providerId ≠ providerId) (n : Nat) :
    ∃ new, (s.batches.set task.batch (batch.setUsage task.providerId n))[b]? = some new ∧
      dictGet new.budgetUsage providerId = some usage := by
  by_cases hb : task.batch = b
  · rw [hb, hold, Option.some.injEq] at hbatch
    refine ⟨batch.setUsage task.providerId n, ?_, ?_⟩
    · rw [← hb]
      exact List.getElem?_set_self (List.getElem?_eq_some_iff.mp (hb ▸ hold)).1
    · rw [ProbeBatch.setUsage, dictGet_dictSet, if_neg (hother hb), ← hbatch]
      exact husage
  · refine ⟨old, ?_, husage⟩
    rw [List.getElem?_set_ne hb]
    exact hold

theorem getElem?_setUsage {task : ProbeTask} {batch : ProbeBatch}
    (hbatch : s.batches[task.batch]? = some batch) (n : Nat) :
    (s.batches.set task.batch (batch.setUsage task.providerId n))[task.batch]? =
        some (batch.setUsage task.providerId n) ∧
      dictGet (batch.setUsage task.providerId n).budgetUsage task.providerId = some n := by
  constructor
  · exact List.getElem?_set_self (List.getElem?_eq_some_iff.mp hbatch).1
  · rw [ProbeBatch.setUsage, dictGet_dictSet, if_pos rfl]

/-- Setting a counter leaves what the batches are for. -/
theorem sources_setUsage {task : ProbeTask} {batch : ProbeBatch}
    (hbatch : s.batches[task.batch]? = some batch) (hinv : Accounted settings s) (n : Nat) :
    ∀ new ∈ s.batches.set task.batch (batch.setUsage task.providerId n),
      new.requestSource ≠ .client := by
  intro new hnew
  rcases List.mem_or_eq_of_mem_set hnew with hmem | rfl
  · exact hinv.sources new hmem
  · exact hinv.sources batch (List.mem_of_getElem? hbatch)

/-- Turning a task away keeps the counters: the one that is seeded belongs to no
reservation. -/
theorem accounted_exhausted {k : Nat} {task : ProbeTask} {batch : ProbeBatch}
    (htask : s.taskAt k .waiting = some task) (hbatch : s.batches[task.batch]? = some batch)
    (hinv : Accounted settings s) :
    Accounted settings { s.move k task .done with
      batches := s.batches.set task.batch
        (batch.setUsage task.providerId (batch.usage s.requestLog task.providerId)) } := by
  obtain ⟨hwithin, hpast, hlogged, hcounted, hunreserved, -⟩ := accounted_skip htask hinv
  refine ⟨hwithin, hpast, hlogged, ?_, hunreserved, sources_setUsage hbatch hinv _⟩
  intro providerId b hlast
  obtain ⟨old, usage, hold, husage, hcalls, hlimit⟩ := hcounted providerId b hlast
  by_cases hsame : task.batch = b ∧ task.providerId = providerId
  · -- the counter that is read is set to what it was
    obtain ⟨rfl, rfl⟩ := hsame
    obtain ⟨hset, hget⟩ := getElem?_setUsage hbatch (batch.usage s.requestLog task.providerId)
    have hread : batch.usage s.requestLog task.providerId = usage := by
      have hold' : s.batches[task.batch]? = some old := hold
      rw [hbatch, Option.some.injEq] at hold'
      rw [ProbeBatch.usage, hold', husage, Option.getD_some]
    rw [hread] at hset hget ⊢
    exact ⟨_, usage, hset, hget, hcalls, hlimit⟩
  · obtain ⟨new, hnew, hget⟩ := exists_usage_set hbatch hold husage
      (fun hb hp => hsame ⟨hb, hp⟩) (batch.usage s.requestLog task.providerId)
    exact ⟨new, usage, hnew, hget, hcalls, hlimit⟩

/-- The count that a counted task reads covers the calls of the day and the reservations. -/
theorem covered_of_counted {task : ProbeTask} {batch : ProbeBatch}
    (hbatch : s.batches[task.batch]? = some batch) (hcount : s.Counted task batch)
    (hinv : Accounted settings s) :
    s.callsOn task.providerId s.today + s.inPhase task.providerId .reserved ≤
      batch.usage s.requestLog task.providerId := by
  by_cases hseen : dictGet batch.budgetUsage task.providerId = none
  · obtain ⟨hday, hnone, hidle, hqueue⟩ := hcount.1 hseen
    have hlogged := hinv.logged task.providerId
    rw [hidle, hqueue] at hlogged
    rw [hnone, ProbeBatch.usage, hseen, Option.getD_none, hday]
    exact hlogged
  · obtain ⟨old, usage, hold, husage, hcalls, -⟩ :=
      hinv.counted task.providerId task.batch (hcount.2 hseen)
    rw [hbatch, Option.some.injEq] at hold
    rw [ProbeBatch.usage, hold, husage, Option.getD_some]
    exact hcalls

/-- A counted task adds its reservation to a counter that covers the others. -/
theorem accounted_reserve {k : Nat} {task : ProbeTask} {batch : ProbeBatch}
    (htask : s.taskAt k .waiting = some task) (hbatch : s.batches[task.batch]? = some batch)
    (hroom : (batch.usage s.requestLog task.providerId : Int) <
      budgetLimit settings task.providerId)
    (hcount : s.Counted task batch) (hinv : Accounted settings s) :
    Accounted settings { s.move k task .reserved with
      batches := s.batches.set task.batch
        (batch.setUsage task.providerId (batch.usage s.requestLog task.providerId + 1))
      lastReserver := Function.update s.lastReserver task.providerId (some task.batch) } := by
  have hreserved := fun providerId => inPhase_set htask .reserved providerId .reserved
  have hprobing := fun providerId => inPhase_set htask .reserved providerId .probing
  have hcovered := covered_of_counted hbatch hcount hinv
  refine ⟨hinv.within, hinv.past, ?_, ?_, ?_, sources_setUsage hbatch hinv _⟩
  · intro providerId
    have hset := hprobing providerId
    simp only [reduceCtorEq, and_false, if_false, Nat.add_zero] at hset
    exact (hinv.logged providerId).trans_eq (by rw [← hset]; rfl)
  · intro providerId b hupdate
    have hlast : Function.update s.lastReserver task.providerId (some task.batch) providerId =
        some b := hupdate
    have hset := hreserved providerId
    simp only [reduceCtorEq, and_false, if_false, Nat.add_zero, and_true] at hset
    by_cases hp : task.providerId = providerId
    · subst hp
      rw [Function.update_self, Option.some.injEq] at hlast
      subst hlast
      obtain ⟨hnew, hget⟩ :=
        getElem?_setUsage hbatch (batch.usage s.requestLog task.providerId + 1)
      refine ⟨_, _, hnew, hget, ?_, by omega⟩
      rw [if_pos rfl] at hset
      have hafter : s.callsOn task.providerId s.today +
          (s.inPhase task.providerId .reserved + 1) ≤
          batch.usage s.requestLog task.providerId + 1 := by
        omega
      rw [← hset] at hafter
      exact hafter
    · rw [Function.update_of_ne (Ne.symm hp)] at hlast
      rw [if_neg hp, Nat.add_zero] at hset
      obtain ⟨old, usage, hold, husage, hcalls, hlimit⟩ := hinv.counted providerId b hlast
      rw [← hset] at hcalls
      obtain ⟨new, hnew, hget⟩ := exists_usage_set hbatch hold husage (fun _ => hp)
        (batch.usage s.requestLog task.providerId + 1)
      exact ⟨new, usage, hnew, hget, hcalls, hlimit⟩
  · intro providerId hupdate
    have hlast : Function.update s.lastReserver task.providerId (some task.batch) providerId =
        none := hupdate
    have hset := hreserved providerId
    by_cases hp : task.providerId = providerId
    · rw [← hp, Function.update_self] at hlast
      cases hlast
    · rw [Function.update_of_ne (Ne.symm hp)] at hlast
      have hzero := hinv.unreserved providerId hlast
      simp only [hp, false_and, if_false, Nat.add_zero] at hset
      rw [← hset] at hzero
      exact hzero

/-- A call turns a reservation of its provider into a probe under way. -/
theorem accounted_probe {k : Nat} {task : ProbeTask}
    (htask : s.taskAt k .reserved = some task) (hinv : Accounted settings s) :
    Accounted settings { s.move k task .probing with
      calls := s.calls ++ [(task.providerId, s.today)] } := by
  have hcalls : ∀ providerId utcDay,
      (s.calls ++ [(task.providerId, s.today)]).count (providerId, utcDay) =
        s.callsOn providerId utcDay +
          if task.providerId = providerId ∧ s.today = utcDay then 1 else 0 := by
    intro providerId utcDay
    rw [List.count_append, List.count_singleton, ProbeState.callsOn]
    simp only [beq_iff_eq, Prod.mk.injEq]
  have hreserved := fun providerId => inPhase_set htask .probing providerId .reserved
  have hprobing := fun providerId => inPhase_set htask .probing providerId .probing
  simp only [reduceCtorEq, and_false, if_false, Nat.add_zero, and_true] at hreserved hprobing
  have hone := hreserved task.providerId
  rw [if_pos rfl] at hone
  have hroom : s.callsOn task.providerId s.today + 1 ≤
      (budgetLimit settings task.providerId).toNat := by
    cases hlast : s.lastReserver task.providerId with
    | none =>
        have hzero := hinv.unreserved task.providerId hlast
        omega
    | some b =>
        obtain ⟨batch, usage, -, -, hcovered, hlimit⟩ := hinv.counted task.providerId b hlast
        omega
  refine ⟨?_, ?_, ?_, ?_, ?_, hinv.sources⟩
  · intro providerId utcDay
    refine (hcalls providerId utcDay).trans_le ?_
    by_cases hp : task.providerId = providerId ∧ s.today = utcDay
    · obtain ⟨rfl, rfl⟩ := hp
      rw [if_pos ⟨rfl, rfl⟩]
      exact hroom
    · rw [if_neg hp, Nat.add_zero]
      exact hinv.within providerId utcDay
  · intro providerId utcDay hlater
    have hlater' : s.today < utcDay := hlater
    refine (hcalls providerId utcDay).trans ?_
    rw [if_neg fun h => by omega, Nat.add_zero]
    exact hinv.past providerId utcDay hlater'
  · intro providerId
    have hlogged := hinv.logged providerId
    have hset := hprobing providerId
    have hsum := hcalls providerId s.today
    simp only [and_true] at hsum
    have hgoal : (s.calls ++ [(task.providerId, s.today)]).count (providerId, s.today) ≤
        getProviderProbeUsage s.requestLog providerId s.today +
          getProviderProbeUsage s.queue providerId s.today +
          ((s.tasks.set k { task with phase := .probing }).countP fun task =>
            task.providerId == providerId && task.phase == .probing) := by
      omega
    exact hgoal
  · intro providerId b hlast
    obtain ⟨batch, usage, hbatch, husage, hcovered, hlimit⟩ :=
      hinv.counted providerId b hlast
    refine ⟨batch, usage, hbatch, husage, ?_, hlimit⟩
    have hset := hreserved providerId
    have hsum := hcalls providerId s.today
    simp only [and_true] at hsum
    have hgoal : (s.calls ++ [(task.providerId, s.today)]).count (providerId, s.today) +
        ((s.tasks.set k { task with phase := .probing }).countP fun task =>
          task.providerId == providerId && task.phase == .reserved) ≤ usage := by
      omega
    exact hgoal
  · intro providerId hlast
    have hzero := hinv.unreserved providerId hlast
    have hset := hreserved providerId
    have hgoal : ((s.tasks.set k { task with phase := .probing }).countP fun task =>
        task.providerId == providerId && task.phase == .reserved) = 0 := by
      omega
    exact hgoal

/-- A completed probe leaves its row in the queue. -/
theorem accounted_complete {k : Nat} {task : ProbeTask} {batch : ProbeBatch}
    (htask : s.taskAt k .probing = some task) (hbatch : s.batches[task.batch]? = some batch)
    (hinv : Accounted settings s) :
    Accounted settings { s.move k task .done with
      queue := s.queue ++ [⟨task.providerId, batch.requestSource, s.today⟩] } := by
  have hsource := hinv.sources batch (List.mem_of_getElem? hbatch)
  have hreserved := fun providerId => inPhase_set htask .done providerId .reserved
  have hprobing := fun providerId => inPhase_set htask .done providerId .probing
  simp only [reduceCtorEq, and_false, if_false, Nat.add_zero, and_true] at hreserved hprobing
  refine ⟨hinv.within, hinv.past, ?_, ?_, ?_, hinv.sources⟩
  · intro providerId
    have hlogged := hinv.logged providerId
    have hset := hprobing providerId
    have hrow := getProviderProbeUsage_append s.queue
      ⟨task.providerId, batch.requestSource, s.today⟩ providerId s.today
    rw [getProviderProbeUsage_probe hsource] at hrow
    have hgoal : s.callsOn providerId s.today ≤
        getProviderProbeUsage s.requestLog providerId s.today +
          getProviderProbeUsage (s.queue ++ [⟨task.providerId, batch.requestSource, s.today⟩])
            providerId s.today +
          ((s.tasks.set k { task with phase := .done }).countP fun task =>
            task.providerId == providerId && task.phase == .probing) := by
      omega
    exact hgoal
  · intro providerId b hlast
    obtain ⟨old, usage, hold, husage, hcovered, hlimit⟩ := hinv.counted providerId b hlast
    rw [← hreserved providerId] at hcovered
    exact ⟨old, usage, hold, husage, hcovered, hlimit⟩
  · intro providerId hlast
    have hzero := hinv.unreserved providerId hlast
    rw [← hreserved providerId] at hzero
    exact hzero

/-- A row of a client request counts for no probe. -/
theorem accounted_client (providerId : String) (hinv : Accounted settings s) :
    Accounted settings { s with queue := s.queue ++ [⟨providerId, .client, s.today⟩] } := by
  refine ⟨hinv.within, hinv.past, ?_, hinv.counted, hinv.unreserved, hinv.sources⟩
  intro id
  have hrow : getProviderProbeUsage [⟨providerId, .client, s.today⟩] id s.today = 0 := by
    simp [getProviderProbeUsage]
  have happend := getProviderProbeUsage_append s.queue ⟨providerId, .client, s.today⟩ id s.today
  rw [hrow, Nat.add_zero] at happend
  exact happend ▸ hinv.logged id

/-- The writer thread moves a row from the queue to the log. -/
theorem accounted_drain {row : LogRow} (hhead : s.queue.head? = some row)
    (hinv : Accounted settings s) :
    Accounted settings
      { s with requestLog := s.requestLog ++ [row], queue := s.queue.tail } := by
  refine ⟨hinv.within, hinv.past, ?_, hinv.counted, hinv.unreserved, hinv.sources⟩
  intro providerId
  have hlogged := hinv.logged providerId
  have hqueue : getProviderProbeUsage s.queue providerId s.today =
      getProviderProbeUsage [row] providerId s.today +
        getProviderProbeUsage s.queue.tail providerId s.today := by
    rw [← List.cons_head?_tail hhead, ← List.singleton_append]
    exact List.countP_append
  have happend := getProviderProbeUsage_append s.requestLog row providerId s.today
  have hgoal : s.callsOn providerId s.today ≤
      getProviderProbeUsage (s.requestLog ++ [row]) providerId s.today +
        getProviderProbeUsage s.queue.tail providerId s.today +
        s.inPhase providerId .probing := by
    omega
  exact hgoal

/-- A new day starts without calls; the counters of the old one only overcount. -/
theorem accounted_midnight (hinv : Accounted settings s) :
    Accounted settings { s with today := s.today + 1 } := by
  have hnone : ∀ providerId, s.callsOn providerId (s.today + 1) = 0 := by
    intro providerId
    exact hinv.past providerId (s.today + 1) (Nat.lt_succ_self s.today)
  refine ⟨hinv.within, ?_, ?_, ?_, hinv.unreserved, hinv.sources⟩
  · intro providerId utcDay hlater
    exact hinv.past providerId utcDay (Nat.lt_of_succ_lt hlater)
  · intro providerId
    exact (hnone providerId).trans_le (Nat.zero_le _)
  · intro providerId b hlast
    obtain ⟨batch, usage, hbatch, husage, hcovered, hlimit⟩ :=
      hinv.counted providerId b hlast
    refine ⟨batch, usage, hbatch, husage, ?_, hlimit⟩
    have hgoal : s.callsOn providerId (s.today + 1) + s.inPhase providerId .reserved ≤
        usage := by
      rw [hnone providerId]
      omega
    exact hgoal

/-- A step that counts every probe keeps the accounts. -/
theorem accounted_step {event : ProbeEvent} {s' : ProbeState}
    (hstep : probeStep settings s event = some s') (hguard : CountsEveryProbe settings s event)
    (hinv : Accounted settings s) : Accounted settings s' := by
  cases event with
  | runHealthChecks providerIds =>
      obtain rfl : runProbeBatch .probe providerIds s = s' := Option.some.inj hstep
      exact accounted_runProbeBatch (by decide) providerIds hinv
  | bootstrapHealthCheck providerIds =>
      obtain rfl : runProbeBatch .bootstrap providerIds s = s' := Option.some.inj hstep
      exact accounted_runProbeBatch (by decide) providerIds hinv
  | skip k =>
      obtain ⟨task, htask, rfl⟩ := Option.map_eq_some_iff.mp hstep
      exact accounted_skip htask hinv
  | reserve k =>
      obtain ⟨task, htask, hrest⟩ := Option.bind_eq_some_iff.mp hstep
      obtain ⟨batch, hbatch, rfl⟩ := Option.map_eq_some_iff.mp hrest
      by_cases hlimit : budgetLimit settings task.providerId ≤
          batch.usage s.requestLog task.providerId
      · rw [reserveBudget, if_pos hlimit]
        exact accounted_exhausted htask hbatch hinv
      · rw [reserveBudget, if_neg hlimit]
        have hroom := Int.not_le.mp hlimit
        exact accounted_reserve htask hbatch hroom (hguard task batch htask hbatch hroom) hinv
  | probe k =>
      obtain ⟨task, htask, hrest⟩ := Option.bind_eq_some_iff.mp hstep
      obtain ⟨-, hsome⟩ := Option.ite_none_right_eq_some.mp hrest
      obtain rfl := Option.some.inj hsome
      exact accounted_probe htask hinv
  | complete k logged =>
      obtain ⟨task, htask, hrest⟩ := Option.bind_eq_some_iff.mp hstep
      obtain ⟨batch, hbatch, rfl⟩ := Option.map_eq_some_iff.mp hrest
      have hlogged : logged = true := hguard
      rw [hlogged]
      exact accounted_complete htask hbatch hinv
  | client providerId =>
      obtain rfl := Option.some.inj hstep
      exact accounted_client providerId hinv
  | drain inserted =>
      obtain ⟨row, hhead, rfl⟩ := Option.map_eq_some_iff.mp hstep
      have hinserted : inserted = true := hguard
      rw [hinserted]
      exact accounted_drain hhead hinv
  | midnight =>
      obtain rfl := Option.some.inj hstep
      exact accounted_midnight hinv

end Invariant

/-! ## Runs -/

/-- From a state at rest, a run whose reservations and log rows count every probe calls
`provider.probe` no more often on any day than the provider's budget; a budget below zero
allows no call. -/
theorem probe_calls_within_budget {F : Type} {settings : Settings F} {s t : ProbeState}
    {events : List ProbeEvent} (hrest : AtRest settings s)
    (hguard : Guarded (probeStep settings) (CountsEveryProbe settings) s events)
    (hrun : run (probeStep settings) s events = some t) (providerId : String)
    (utcDay : Nat) :
    (t.callsOn providerId utcDay : Int) ≤ max (budgetLimit settings providerId) 0 := by
  have hinv : Accounted settings t :=
    run_guarded_invariant (Accounted settings) (fun _ _ _ => accounted_step) hrun hguard
      (accounted_of_atRest hrest)
  have hwithin := hinv.within providerId utcDay
  omega

/-- No probe has been made. -/
def noProbes : ProbeState where
  today := 0
  requestLog := []
  queue := []
  batches := []
  tasks := []
  calls := []
  lastReserver _ := none

theorem atRest_noProbes {F : Type} (settings : Settings F) : AtRest settings noProbes := by
  refine ⟨rfl, rfl, rfl, fun _ => rfl, ?_, fun _ _ _ => rfl, ?_⟩
  · intro providerId utcDay
    exact Nat.zero_le _
  · intro providerId
    exact Nat.zero_le _

/-- One probe of `openrouter` a day. -/
def oneProbeADay : Settings Exact :=
  { settingsWithOpenrouter [] with
    healthDailyRequestBudgetByProvider := [("openrouter", 1)] }

/-- A health check of two candidates. -/
def loneBatch : List ProbeEvent :=
  [.runHealthChecks ["openrouter", "openrouter"], .reserve 0, .reserve 1, .probe 0,
    .complete 0 true, .drain true]

theorem guarded_loneBatch :
    Guarded (probeStep oneProbeADay) (CountsEveryProbe oneProbeADay) noProbes loneBatch := by
  refine ⟨trivial, ?_⟩
  rintro _ ⟨⟩
  refine ⟨?_, ?_⟩
  · intro task batch htask hbatch _
    obtain rfl : (⟨0, "openrouter", .waiting⟩ : ProbeTask) = task := Option.some.inj htask
    obtain rfl : (⟨.probe, 0, []⟩ : ProbeBatch) = batch := Option.some.inj hbatch
    refine ⟨fun _ => ⟨rfl, by decide, by decide, by decide⟩, ?_⟩
    intro hseen
    exact absurd rfl hseen
  · rintro _ ⟨⟩
    refine ⟨?_, ?_⟩
    · intro task batch htask hbatch _
      obtain rfl : (⟨0, "openrouter", .waiting⟩ : ProbeTask) = task := Option.some.inj htask
      obtain rfl : (⟨.probe, 0, [("openrouter", 1)]⟩ : ProbeBatch) = batch :=
        Option.some.inj hbatch
      refine ⟨?_, fun _ => rfl⟩
      intro hnone
      cases hnone
    · rintro _ ⟨⟩
      refine ⟨trivial, ?_⟩
      rintro _ ⟨⟩
      refine ⟨rfl, ?_⟩
      rintro _ ⟨⟩
      refine ⟨rfl, ?_⟩
      rintro _ ⟨⟩
      trivial

/-- A batch that runs alone probes one of its two candidates. -/
theorem probe_calls_within_budget_sample :
    ∃ t, run (probeStep oneProbeADay) noProbes loneBatch = some t ∧
      (t.callsOn "openrouter" 0 : Int) ≤ max (budgetLimit oneProbeADay "openrouter") 0 := by
  have hrun : ∃ t, run (probeStep oneProbeADay) noProbes loneBatch = some t := ⟨_, rfl⟩
  obtain ⟨t, ht⟩ := hrun
  exact ⟨t, ht, probe_calls_within_budget (atRest_noProbes oneProbeADay) guarded_loneBatch ht
    "openrouter" 0⟩

/-- A health check and a bootstrap check that overlap each reserve the only probe. -/
theorem overlapping_batches_exceed_budget :
    ¬ ∀ (settings : Settings Exact) (s t : ProbeState) (events : List ProbeEvent),
      AtRest settings s → run (probeStep settings) s events = some t →
        ∀ providerId utcDay,
          (t.callsOn providerId utcDay : Int) ≤ max (budgetLimit settings providerId) 0 := by
  intro h
  have hwithin := h oneProbeADay noProbes _
    [.runHealthChecks ["openrouter"], .bootstrapHealthCheck ["openrouter"], .reserve 0,
      .reserve 1, .probe 0, .probe 1]
    (atRest_noProbes oneProbeADay) rfl "openrouter" 0
  exact absurd hwithin (by decide)

end Health
end FreeLunch
