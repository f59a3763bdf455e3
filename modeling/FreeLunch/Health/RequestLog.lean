import FreeLunch.Foundations.Aggregates
import FreeLunch.Foundations.PrunedLogs
import FreeLunch.Foundations.Runs
import FreeLunch.Health.ProbeBudget
import FreeLunch.Health.TokenReview
import FreeLunch.Python.Calendar
import FreeLunch.Runtime.FromEnv

/-!
# The request log and its maintenance

The `request_log` table with its timestamps as texts, the daily `prune_old_logs` of
`src/db.py`, and what reads the log: `get_provider_probe_usage`, `get_probe_budget_summary` and
`get_recent_probe_activity` of `src/health.py` and the review of context failovers.  The job
computes its cutoff first and deletes later; rows are inserted in between.

Main results:

- Theorem `storedProbeUsage_eq`: counting by the first ten characters of the timestamps counts
  by days.
- Theorem `complete_run`: whatever the job deletes, the log stays complete for the days that
  are retained.
- Theorem `reports_after_run`: every report is the one over all rows that were ever inserted.
- Theorem `recentProbeActivity_adds_up`: the activity report counts the probes of its hours, and
  its groups add up.

Current gaps:

- The columns that no report reads are left out.
-/

namespace FreeLunch
namespace Health

open FreeLunch.Runtime Python Store Writes Runs PrunedLogs Aggregates

/-! ## Rows and reports -/

/-- A row of the `request_log` table, with its provider. -/
structure LoggedRow extends RequestLogRow where
  providerId : String

/-- `request_source IN ('probe', 'bootstrap')`. -/
def LoggedRow.isProbe (row : LoggedRow) : Bool :=
  row.requestSource == "probe" || row.requestSource == "bootstrap"

/-- `substr(timestamp, 1, 10)`. -/
def LoggedRow.day (row : LoggedRow) : List Char :=
  row.timestamp.toList.take 10

/-- `strftime("%Y-%m-%d")`, which does not fill up the year. -/
def strftimeDay (now : DateTime) : String :=
  let (year, month, day) := ordToYmd now.ordinal
  toString year ++ "-" ++ zeroFilled 2 month ++ "-" ++ zeroFilled 2 day

/-- `get_provider_probe_usage` on the stored texts. -/
def storedProbeUsage (requestLog : List LoggedRow) (providerId utcDay : String) : ℕ :=
  requestLog.countP fun row =>
    row.providerId == providerId && row.isProbe && row.day == utcDay.toList

/-- An entry of `get_probe_budget_summary`. -/
structure BudgetEntry where
  providerId : String
  utcDay : String
  limit : Int
  used : ℕ
  remaining : Int
deriving DecidableEq

/-- `get_probe_budget_summary`, in the order of the providers. -/
def getProbeBudgetSummary {F : Type} (requestLog : List LoggedRow) (settings : Settings F)
    (now : DateTime) : List BudgetEntry :=
  (settings.healthDailyRequestBudgetByProvider.insertionSort fun a b => a.1 ≤ b.1).map
    fun (providerId, limit) =>
      let used := storedProbeUsage requestLog providerId (strftimeDay now)
      { providerId, utcDay := strftimeDay now, limit, used, remaining := max (limit - used) 0 }

/-- `COUNT(*)`, the two sums over `success`, and `MAX(timestamp)` of some rows. -/
structure ProbeTotals where
  totalRequests : ℕ
  successes : ℕ
  failures : ℕ
  lastProbeAt : Option String
deriving DecidableEq

/-- The aggregates of some rows. -/
def probeTotals (rows : List LoggedRow) : ProbeTotals where
  totalRequests := rows.length
  successes := rows.countP fun row => row.success == some (sqlBool true)
  failures := rows.countP fun row => row.success == some (sqlBool false)
  lastProbeAt := (rows.map (·.timestamp)).max?

/-- The report of `get_recent_probe_activity`. -/
structure ProbeActivity where
  lookbackHours : Int
  since : String
  totals : ProbeTotals
  bySource : List (String × ProbeTotals)
  byProvider : List (String × ProbeTotals)
deriving DecidableEq

/-- The aggregates of each group. -/
def groupTotals (key : LoggedRow → String) (rows : List LoggedRow) :
    List (String × ProbeTotals) :=
  (groupKeys key rows).map fun k => (k, probeTotals (groupOf key rows k))

/-- The microseconds of an hour. -/
def microsecondsPerHour : Int := 3600000000

/-- The rows of the probes since a time. -/
def probesSince (requestLog : List LoggedRow) (since : String) : List LoggedRow :=
  requestLog.filter fun row => row.isProbe && decide (since ≤ row.timestamp)

/-- `get_recent_probe_activity`. -/
def getRecentProbeActivity (requestLog : List LoggedRow) (now : DateTime) (lookbackHours : Int) :
    Except Exc ProbeActivity := do
  let since ← now.sub (max lookbackHours 1 * microsecondsPerHour)
  let rows := probesSince requestLog since.isoZ
  return {
    lookbackHours := max lookbackHours 1
    since := since.isoZ
    totals := probeTotals rows
    bySource := groupTotals (·.requestSource) rows
    byProvider := groupTotals (·.providerId) rows }

/-- `_review_since_iso`, and the review of the context failovers. -/
def getContextFailoverRecoveries {F : Type} [Runtime F] (table : StoredTable F)
    (requestLog : List LoggedRow) (now : DateTime) (reviewDays : Int) :
    Except Exc ContextFailoverRecoveries := do
  let since ← now.sub (max reviewDays 1 * microsecondsPerDay)
  contextFailoverRecoveries table since.isoZ (requestLog.map LoggedRow.toRequestLogRow)

/-! ## Maintenance -/

/-- The clock, the log, and the cutoff of a job that has not deleted yet. -/
structure LogState where
  now : DateTime
  requestLog : List LoggedRow
  cutoff : Option String

/-- What happens to the log. -/
inductive LogEvent (F : Type) where
  /-- The writer executes an `INSERT`. -/
  | insert (row : LoggedRow)
  /-- `maintenance_job` starts under these settings: `prune_old_logs` computes its cutoff. -/
  | startPrune (settings : Settings F)
  /-- `prune_old_logs` executes its `DELETE`. -/
  | delete
  /-- Time passes. -/
  | later (now : DateTime)
  /-- The process ends, and the next one starts. -/
  | restart

section Maintenance

variable {F : Type}

/-- The cutoff of `prune_old_logs`. -/
def pruneCutoff (now : DateTime) (retentionDays : Int) : Except Exc String := do
  let cutoff ← now.sub (retentionDays * microsecondsPerDay)
  return cutoff.isoZ

/-- One event.  A job whose cutoff is out of range raises. -/
def logStep (s : LogState) : LogEvent F → Option LogState
  | .insert row => some { s with requestLog := s.requestLog ++ [row] }
  | .startPrune settings =>
      match s.cutoff, pruneCutoff s.now (settings.int .loggingRequestLogRetentionDays) with
      | some _, _ => none
      | none, .ok cutoff => some { s with cutoff := some cutoff }
      | none, .error _ => some s
  | .delete =>
      match s.cutoff with
      | none => none
      | some cutoff =>
          some { s with
            requestLog := prune (fun row => row.timestamp) cutoff s.requestLog, cutoff := none }
  | .later now => if s.now.microseconds ≤ now.microseconds then some { s with now := now } else none
  | .restart => some { s with cutoff := none }

/-- The rows that an event inserts. -/
def LogEvent.rows : LogEvent F → List LoggedRow
  | .insert row => [row]
  | _ => []

/-- The rows that were inserted, in order. -/
def insertedRows (events : List (LogEvent F)) : List LoggedRow :=
  events.flatMap LogEvent.rows

/-- The job keeps the rows of some days. -/
def LogEvent.Retains (days : ℕ) : LogEvent F → Prop
  | .startPrune settings => (days : Int) ≤ settings.int .loggingRequestLogRetentionDays
  | _ => True

/-! ## What the job leaves -/

/-- From the retained days on, the log has all the rows, and no job is about to delete any. -/
structure Retained (days : ℕ) (all : List LoggedRow) (s : LogState) : Prop where
  complete : ∀ least : String,
    (∀ u : DateTime, u.second + 86400 * days ≤ s.now.second → u.isoZ ≤ least) →
      Complete (fun row : LoggedRow => row.timestamp) least s.requestLog all
  pending : ∀ cutoff, s.cutoff = some cutoff →
    ∃ u : DateTime, cutoff = u.isoZ ∧ u.second + 86400 * days ≤ s.now.second

theorem retained_of_idle (days : ℕ) {s : LogState} (hidle : s.cutoff = none) :
    Retained days s.requestLog s := by
  refine ⟨fun least _ => complete_refl least s.requestLog, fun cutoff hcutoff => ?_⟩
  rw [hidle] at hcutoff
  cases hcutoff

/-- A cutoff is as many days back as are retained, or more. -/
theorem pruneCutoff_spec {now : DateTime} {retentionDays : Int} {cutoff : String} {days : ℕ}
    (h : pruneCutoff now retentionDays = .ok cutoff) (hdays : (days : Int) ≤ retentionDays) :
    ∃ u : DateTime, cutoff = u.isoZ ∧ u.second + 86400 * days ≤ now.second := by
  unfold pruneCutoff at h
  obtain ⟨u, hsub, hcutoff⟩ := bind_ok_iff.mp h
  refine ⟨u, (Except.ok.inj hcutoff).symm, ?_⟩
  rw [sub_eq_ok_iff] at hsub
  have hsecond := second_of_shift (t := now) (u := u) (n := -(86400 * retentionDays)) (by
    unfold microsecondsPerDay at hsub
    omega)
  omega

/-- One event. -/
theorem retained_step {days : ℕ} {all : List LoggedRow} {s s' : LogState} {event : LogEvent F}
    (h : Retained days all s) (hretains : event.Retains days) (hstep : logStep s event = some s') :
    Retained days (all ++ event.rows) s' := by
  cases event with
  | insert row =>
      cases hstep
      exact ⟨fun least hleast => (h.complete least hleast).append [row], h.pending⟩
  | startPrune settings =>
      have hrows : (LogEvent.startPrune settings).rows = [] := rfl
      rw [hrows, List.append_nil]
      unfold logStep at hstep
      dsimp only at hstep
      cases hbusy : s.cutoff with
      | some cutoff =>
          rw [hbusy] at hstep
          cases hstep
      | none =>
          rw [hbusy] at hstep
          cases hcutoff : pruneCutoff s.now (settings.int .loggingRequestLogRetentionDays) with
          | error exc =>
              rw [hcutoff] at hstep
              cases hstep
              exact h
          | ok cutoff =>
              rw [hcutoff] at hstep
              cases hstep
              refine ⟨h.complete, fun other hother => ?_⟩
              cases hother
              exact pruneCutoff_spec hcutoff hretains
  | delete =>
      have hrows : (LogEvent.delete : LogEvent F).rows = [] := rfl
      rw [hrows, List.append_nil]
      unfold logStep at hstep
      dsimp only at hstep
      cases hcutoff : s.cutoff with
      | none =>
          rw [hcutoff] at hstep
          cases hstep
      | some cutoff =>
          rw [hcutoff] at hstep
          cases hstep
          obtain ⟨u, rfl, hu⟩ := h.pending cutoff hcutoff
          exact ⟨fun least hleast => (h.complete least hleast).prune (hleast u hu), nofun⟩
  | later now =>
      have hrows : (LogEvent.later now : LogEvent F).rows = [] := rfl
      rw [hrows, List.append_nil]
      unfold logStep at hstep
      dsimp only at hstep
      by_cases hle : s.now.microseconds ≤ now.microseconds
      · rw [if_pos hle] at hstep
        cases hstep
        have hsecond : s.now.second ≤ now.second := by
          unfold DateTime.second
          omega
        refine ⟨fun least hleast => h.complete least fun u hu => hleast u (hu.trans hsecond),
          fun cutoff hcutoff => ?_⟩
        obtain ⟨u, hu, hback⟩ := h.pending cutoff hcutoff
        exact ⟨u, hu, hback.trans hsecond⟩
      · rw [if_neg hle] at hstep
        cases hstep
  | restart =>
      cases hstep
      have hrows : (LogEvent.restart : LogEvent F).rows = [] := rfl
      rw [hrows, List.append_nil]
      exact ⟨h.complete, nofun⟩

/-- In a run whose jobs keep the rows of some days, the log stays complete for these. -/
theorem complete_run {days : ℕ} {all : List LoggedRow} {s t : LogState}
    {events : List (LogEvent F)} (h : Retained days all s)
    (hretains : ∀ event ∈ events, event.Retains days) (hrun : run logStep s events = some t) :
    Retained days (all ++ insertedRows events) t := by
  induction events generalizing s all with
  | nil =>
      cases hrun
      rw [insertedRows, List.flatMap_nil, List.append_nil]
      exact h
  | cons event events ih =>
      obtain ⟨between, hstep, hrest⟩ := run_cons_eq_some.mp hrun
      obtain ⟨hfirst, hlater⟩ := List.forall_mem_cons.mp hretains
      have hend := ih (retained_step h hfirst hstep) hlater hrest
      rw [List.append_assoc] at hend
      exact hend

/-! ## Days as texts -/

/-- A year of four digits is written alike by `isoformat` and `strftime`. -/
theorem toString_year {year : ℕ} (hleast : 1000 ≤ year) (hmost : year < 10 ^ 4) :
    toString year = zeroFilled 4 year := by
  have hdigits : ∀ n, 10 ≤ n → Nat.toDigits 10 n =
      Nat.toDigits 10 (n / 10) ++ [Nat.digitChar (n % 10)] := fun n hn =>
    Nat.toDigits_of_base_le (by decide) hn
  have hlength : (Nat.toDigits 10 year).length = 4 := by
    rw [hdigits year (by omega), hdigits (year / 10) (by omega),
      hdigits (year / 10 / 10) (by omega), Nat.toDigits_of_lt_base (by omega)]
    rfl
  unfold zeroFilled List.leftpad
  rw [hlength]
  rfl

/-- The day of a row is the first ten characters of its date. -/
theorem toList_strftimeDay {now : DateTime} (hyear : 1000 ≤ (ordToYmd now.ordinal).1) :
    (strftimeDay now).toList = dayText now.ordinal := by
  unfold strftimeDay dayText
  dsimp only
  rw [toString_year hyear (ordToYmd_lt now.ordinal_lt).1]

theorem take_isoZ (t : DateTime) : t.isoZ.toList.take 10 = dayText t.ordinal := by
  rw [toList_isoZ, List.take_left' (length_dayText t.ordinal_lt)]

theorem dayText_inj {a b : ℕ} (ha : a < 3652059) (hb : b < 3652059) :
    dayText a = dayText b ↔ a = b := by
  refine ⟨fun h => ?_, fun h => congrArg dayText h⟩
  rcases lt_trichotomy a b with hlt | heq | hgt
  · exact absurd h (ne_of_lt (dayText_lt hlt hb))
  · exact heq
  · exact absurd h.symm (ne_of_lt (dayText_lt hgt ha))

/-- A row with the date of its timestamp, as the probe budget sees it. -/
def LoggedRow.dated (row : LoggedRow) (t : DateTime) : LogRow where
  providerId := row.providerId
  requestSource :=
    if row.requestSource = "probe" then .probe
    else if row.requestSource = "bootstrap" then .bootstrap else .client
  utcDay := t.ordinal

/-- On rows whose timestamps are dates, the query counts the probes of a day. -/
theorem storedProbeUsage_eq {rows : List (LoggedRow × DateTime)}
    (hdates : ∀ row ∈ rows, row.1.timestamp = row.2.isoZ) (providerId : String) {now : DateTime}
    (hyear : 1000 ≤ (ordToYmd now.ordinal).1) :
    storedProbeUsage (rows.map Prod.fst) providerId (strftimeDay now) =
      getProviderProbeUsage (rows.map fun row => row.1.dated row.2) providerId now.ordinal := by
  unfold storedProbeUsage getProviderProbeUsage
  rw [List.countP_map, List.countP_map]
  refine List.countP_congr fun ⟨row, t⟩ hrow => ?_
  have hday : row.day = dayText t.ordinal := by
    unfold LoggedRow.day
    rw [hdates _ hrow, take_isoZ]
  simp only [Function.comp_apply, LoggedRow.dated, LoggedRow.isProbe, hday,
    toList_strftimeDay hyear, Bool.and_eq_true, Bool.or_eq_true, beq_iff_eq,
    dayText_inj t.ordinal_lt now.ordinal_lt]
  by_cases hprobe : row.requestSource = "probe"
  · simp [hprobe]
  · by_cases hbootstrap : row.requestSource = "bootstrap"
    · simp [hbootstrap]
    · simp [hprobe, hbootstrap]

/-! ## What the reports read -/

/-- The first moment of a day, as a text. -/
def startOfDay (now : DateTime) : String :=
  String.ofList (dayText now.ordinal)

theorem startOfDay_le {now : DateTime} {text : String}
    (h : text.toList.take 10 = dayText now.ordinal) : startOfDay now ≤ text := by
  unfold startOfDay
  rw [String.le_iff_toList_le, String.toList_ofList, ← h]
  exact not_lt.mp (List.take_prefix 10 text.toList).le

/-- A date at least a day back comes before the day. -/
theorem isoZ_le_startOfDay {now u : DateTime} {days : ℕ} (hdays : 1 ≤ days)
    (h : u.second + 86400 * days ≤ now.second) : u.isoZ ≤ startOfDay now := by
  have hbefore : u.ordinal < now.ordinal := by
    unfold DateTime.ordinal
    omega
  apply le_of_lt
  unfold startOfDay
  rw [String.lt_iff, String.toList_ofList, toList_isoZ, ← List.append_nil (dayText now.ordinal),
    Numerals.append_lt_append_iff
      (by rw [length_dayText u.ordinal_lt, length_dayText now.ordinal_lt])]
  exact .inl (dayText_lt hbefore now.ordinal_lt)

/-- The usage of a day is read from its start on. -/
theorem readsFrom_storedProbeUsage (providerId : String) {now : DateTime}
    (hyear : 1000 ≤ (ordToYmd now.ordinal).1) :
    ReadsFrom (fun row : LoggedRow => row.timestamp) (startOfDay now)
      fun log => storedProbeUsage log providerId (strftimeDay now) := by
  unfold storedProbeUsage
  simp only [List.countP_eq_length_filter]
  refine readsFrom_filter (fun row hrow => ?_) List.length
  rw [Bool.and_eq_true, beq_iff_eq, toList_strftimeDay hyear] at hrow
  exact startOfDay_le hrow.2

/-- The activity is read from the start of its window on. -/
theorem readsFrom_getRecentProbeActivity {now since : DateTime} {lookbackHours : Int}
    (hsince : now.sub (max lookbackHours 1 * microsecondsPerHour) = .ok since) :
    ReadsFrom (fun row : LoggedRow => row.timestamp) since.isoZ
      fun log => getRecentProbeActivity log now lookbackHours := by
  unfold getRecentProbeActivity
  rw [hsince]
  refine readsFrom_filter (fun row hrow => ?_) fun rows => (.ok
    { lookbackHours := max lookbackHours 1, since := since.isoZ, totals := probeTotals rows
      bySource := groupTotals (·.requestSource) rows
      byProvider := groupTotals (·.providerId) rows } : Except Exc ProbeActivity)
  rw [Bool.and_eq_true, decide_eq_true_iff] at hrow
  exact hrow.2

/-- The review is read from the start of its window on. -/
theorem readsFrom_contextFailoverRecoveries [Runtime F] (table : StoredTable F) (since : String) :
    ReadsFrom (fun row : LoggedRow => row.timestamp) since
      fun log => contextFailoverRecoveries table since (log.map LoggedRow.toRequestLogRow) := by
  have hwindow : ∀ log : List LoggedRow,
      windowRows table since ((rowsFrom (fun row => row.timestamp) since log).map
          LoggedRow.toRequestLogRow) =
        windowRows table since (log.map LoggedRow.toRequestLogRow) := by
    intro log
    unfold windowRows rowsFrom
    rw [List.filterMap_map, List.filterMap_map, List.filterMap_filter]
    refine List.filterMap_congr fun row _ => ?_
    by_cases hrow : since ≤ row.timestamp
    · simp [hrow]
    · simp [hrow, failoverRow]
  intro log
  unfold contextFailoverRecoveries failoverRows
  dsimp only
  rw [hwindow]

/-! ## Reports after a run -/

/-- The settings of a gateway that keeps its log for a day. -/
def prunedDaily : Settings Exact :=
  { oneProbeADay with int := fun _ => 1 }

/-- The row of a probe that succeeded. -/
def probedRow : LoggedRow where
  id := ⟨0, fitsInt64_zero⟩
  requestId := some "probe-a-1"
  timestamp := "2024-01-01T00:00:00Z"
  requestSource := "probe"
  selectedModelId := "a"
  selectedProviderModelId := none
  selectedTokenizerFamily := none
  attemptIndex := some (sqlBool false)
  selectedContextWindow := none
  success := some (sqlBool true)
  gatewayErrorCategory := none
  providerId := "openrouter"

/-- Whatever the job deleted in a run, under settings that the gateway can have, the budgets
and the activity of the last day are those over all rows ever inserted, and so is a review
over days that the job retains. -/
theorem reports_after_run [Runtime F] {s t : LogState} {events : List (LogEvent F)}
    (hidle : s.cutoff = none)
    (hadmitted : ∀ settings : Settings F, .startPrune settings ∈ events →
      Admitted F .loggingRequestLogRetentionDays (settings.int .loggingRequestLogRetentionDays))
    (hrun : run logStep s events = some t) (hyear : 1000 ≤ (ordToYmd t.now.ordinal).1) :
    (∀ settings : Settings F, getProbeBudgetSummary t.requestLog settings t.now =
        getProbeBudgetSummary (s.requestLog ++ insertedRows events) settings t.now) ∧
      (∀ lookbackHours ≤ 24, getRecentProbeActivity t.requestLog t.now lookbackHours =
        getRecentProbeActivity (s.requestLog ++ insertedRows events) t.now lookbackHours) ∧
      ∀ (table : StoredTable F) (reviewDays : Int),
        (∀ event ∈ events, event.Retains (max reviewDays 1).toNat) →
          getContextFailoverRecoveries table t.requestLog t.now reviewDays =
            getContextFailoverRecoveries table (s.requestLog ++ insertedRows events) t.now
              reviewDays := by
  have hleast : ∀ event ∈ events, event.Retains 1 := by
    intro event hevent
    cases event with
    | startPrune settings =>
        exact (admitted_of_clamped (fun _ => rfl) fun _ => rfl).mp (hadmitted settings hevent)
    | _ => trivial
  have hday := complete_run (retained_of_idle 1 hidle) hleast hrun
  refine ⟨fun settings => ?_, fun lookbackHours hhours => ?_, fun table reviewDays hretains => ?_⟩
  · have husage : ∀ providerId, storedProbeUsage t.requestLog providerId (strftimeDay t.now) =
        storedProbeUsage (s.requestLog ++ insertedRows events) providerId (strftimeDay t.now) :=
      fun providerId => (readsFrom_storedProbeUsage providerId hyear).eq_of_complete
        (hday.complete _ fun _ hu => isoZ_le_startOfDay le_rfl hu)
    unfold getProbeBudgetSummary
    simp only [husage]
  · cases hsince : t.now.sub (max lookbackHours 1 * microsecondsPerHour) with
    | error exc =>
        unfold getRecentProbeActivity
        rw [hsince]
        rfl
    | ok since =>
        refine (readsFrom_getRecentProbeActivity hsince).eq_of_complete
          (hday.complete _ fun u hu => isoZ_le_iff.mpr ?_)
        have hsecond := second_of_shift (t := t.now) (u := since)
          (n := -(3600 * max lookbackHours 1)) (by
            rw [sub_eq_ok_iff.mp hsince]
            unfold microsecondsPerHour
            omega)
        omega
  · unfold getContextFailoverRecoveries
    cases hsince : t.now.sub (max reviewDays 1 * microsecondsPerDay) with
    | error exc => rfl
    | ok since =>
        have hwindow := complete_run (retained_of_idle _ hidle) hretains hrun
        refine (readsFrom_contextFailoverRecoveries table since.isoZ).eq_of_complete
          (hwindow.complete _ fun u hu => isoZ_le_iff.mpr ?_)
        have hsecond := second_of_shift (t := t.now) (u := since)
          (n := -(86400 * max reviewDays 1)) (by
            rw [sub_eq_ok_iff.mp hsince]
            unfold microsecondsPerDay
            omega)
        omega

/-- A probe of two days before, the day's probe, and a job that deletes the former. -/
def pruningEvents : List (LogEvent Exact) :=
  [.insert { probedRow with timestamp := "2023-12-30T12:00:00Z" }, .insert probedRow,
    .startPrune prunedDaily, .delete]

/-- The job deletes a row, and the budget of the day is what it would be with that row. -/
theorem reports_after_run_pruning :
    ∃ t, run logStep ⟨newYear, [], none⟩ pruningEvents = some t ∧ t.requestLog.length = 1 ∧
      getProbeBudgetSummary t.requestLog prunedDaily t.now =
        getProbeBudgetSummary ([] ++ insertedRows pruningEvents) prunedDaily t.now := by
  have htest : (run logStep ⟨newYear, [], none⟩ pruningEvents).any (fun t =>
      t.requestLog.length == 1 && decide (1000 ≤ (ordToYmd t.now.ordinal).1)) = true := by
    decide +kernel
  obtain ⟨t, hrun, hend⟩ := (Option.any_eq_true _ _).mp htest
  rw [Bool.and_eq_true, beq_iff_eq, decide_eq_true_iff] at hend
  have hadmitted : ∀ settings : Settings Exact, .startPrune settings ∈ pruningEvents →
      Admitted Exact .loggingRequestLogRetentionDays
        (settings.int .loggingRequestLogRetentionDays) := by
    intro settings hmem
    simp only [pruningEvents, List.mem_cons, List.not_mem_nil, or_false, reduceCtorEq, false_or,
      LogEvent.startPrune.injEq] at hmem
    subst hmem
    exact admitted_iff.mpr (.inl rfl)
  exact ⟨t, hrun, hend.1, (reports_after_run rfl hadmitted hrun hend.2).1 prunedDaily⟩

end Maintenance

/-! ## The activity report -/

/-- Each of the three `INSERT` statements stores 0 or 1. -/
def LoggedRow.Settled (row : LoggedRow) : Prop :=
  row.success = some (sqlBool true) ∨ row.success = some (sqlBool false)

/-- The totals of some groups, each with a row, add up to totals. -/
structure AddsUp (groups : List (String × ProbeTotals)) (totals : ProbeTotals) : Prop where
  totalRequests : (groups.map fun group => group.2.totalRequests).sum = totals.totalRequests
  successes : (groups.map fun group => group.2.successes).sum = totals.successes
  failures : (groups.map fun group => group.2.failures).sum = totals.failures
  lastProbeAt : (groups.filterMap fun group => group.2.lastProbeAt).max? = totals.lastProbeAt
  names_nodup : (groups.map Prod.fst).Nodup
  names_sorted : (groups.map Prod.fst).Pairwise (· ≤ ·)
  settled : ∀ group ∈ groups, 0 < group.2.totalRequests ∧
    group.2.successes + group.2.failures = group.2.totalRequests

/-- Every row is a success or a failure. -/
theorem successes_add_failures {rows : List LoggedRow} (h : ∀ row ∈ rows, row.Settled) :
    (probeTotals rows).successes + (probeTotals rows).failures =
      (probeTotals rows).totalRequests := by
  unfold probeTotals
  dsimp only
  induction rows with
  | nil => rfl
  | cons row rest ih =>
      obtain ⟨hrow, hrest⟩ := List.forall_mem_cons.mp h
      have htail := ih hrest
      rw [List.countP_cons, List.countP_cons, List.length_cons, ← htail]
      have hsuccess : (some (sqlBool true) == some (sqlBool false)) = false := by decide
      have hfailure : (some (sqlBool false) == some (sqlBool true)) = false := by decide
      rcases hrow with hrow | hrow
      · simp only [hrow, beq_self_eq_true, hsuccess, if_true, Bool.false_eq_true, if_false]
        omega
      · simp only [hrow, beq_self_eq_true, hfailure, if_true, Bool.false_eq_true, if_false]
        omega

theorem addsUp_groupTotals (key : LoggedRow → String) {rows : List LoggedRow}
    (h : ∀ row ∈ rows, row.Settled) : AddsUp (groupTotals key rows) (probeTotals rows) := by
  have hnames : (groupTotals key rows).map Prod.fst = groupKeys key rows := by
    unfold groupTotals
    rw [List.map_map]
    exact List.map_id _
  constructor
  · have hsum := sum_countP_groups key (fun _ => true) rows
    simp only [List.countP_true] at hsum
    rw [groupTotals, List.map_map]
    exact hsum
  · rw [groupTotals, List.map_map]
    exact sum_countP_groups key _ rows
  · rw [groupTotals, List.map_map]
    exact sum_countP_groups key _ rows
  · rw [groupTotals, List.filterMap_map]
    exact max?_groups key _ rows
  · rw [hnames]
    exact nodup_groupKeys key rows
  · rw [hnames]
    exact sorted_groupKeys key rows
  · intro group hgroup
    obtain ⟨k, hk, rfl⟩ := List.mem_map.mp hgroup
    obtain ⟨row, hrow, rfl⟩ := mem_groupKeys_iff.mp hk
    refine ⟨List.length_pos_of_mem (List.mem_filter.mpr ⟨hrow, by simp⟩), ?_⟩
    exact successes_add_failures fun other hother => h other (List.mem_of_mem_filter hother)

/-- The report counts the probes of the last hours, and the totals of the sources and of the
providers add up to it. -/
theorem recentProbeActivity_adds_up {rows : List (LoggedRow × DateTime)}
    (hdates : ∀ row ∈ rows, row.1.timestamp = row.2.isoZ)
    (hsettled : ∀ row ∈ rows, row.1.Settled) {now : DateTime} {lookbackHours : Int}
    {activity : ProbeActivity}
    (h : getRecentProbeActivity (rows.map Prod.fst) now lookbackHours = .ok activity) :
    activity.totals.totalRequests = (rows.countP fun row => row.1.isProbe &&
        decide (now.second ≤ row.2.second + 3600 * (max lookbackHours 1).toNat)) ∧
      activity.totals.successes + activity.totals.failures = activity.totals.totalRequests ∧
      AddsUp activity.bySource activity.totals ∧ AddsUp activity.byProvider activity.totals ∧
      ∀ source ∈ activity.bySource, source.1 = "probe" ∨ source.1 = "bootstrap" := by
  unfold getRecentProbeActivity at h
  obtain ⟨since, hsub, hactivity⟩ := bind_ok_iff.mp h
  have hreport := Except.ok.inj hactivity
  subst hreport
  have hsecond := second_of_shift (t := now) (u := since)
    (n := -(3600 * max lookbackHours 1)) (by
      rw [sub_eq_ok_iff.mp hsub]
      unfold microsecondsPerHour
      omega)
  have hprobes : ∀ row ∈ probesSince (rows.map Prod.fst) since.isoZ, row.Settled := by
    intro row hrow
    obtain ⟨⟨logged, t⟩, hmem, rfl⟩ := List.mem_map.mp (List.mem_of_mem_filter hrow)
    exact hsettled _ hmem
  refine ⟨?_, successes_add_failures hprobes, addsUp_groupTotals _ hprobes,
    addsUp_groupTotals _ hprobes, fun source hsource => ?_⟩
  · unfold probeTotals probesSince
    dsimp only
    rw [← List.countP_eq_length_filter, List.countP_map]
    refine List.countP_congr fun row hrow => ?_
    have hwindow : since.isoZ ≤ row.1.timestamp ↔
        now.second ≤ row.2.second + 3600 * (max lookbackHours 1).toNat := by
      rw [hdates row hrow, isoZ_le_iff]
      omega
    simp only [Function.comp_apply, hwindow]
  · obtain ⟨name, hname, rfl⟩ := List.mem_map.mp hsource
    obtain ⟨row, hrow, rfl⟩ := mem_groupKeys_iff.mp hname
    have hkind := (List.mem_filter.mp hrow).2
    rw [Bool.and_eq_true, LoggedRow.isProbe, Bool.or_eq_true, beq_iff_eq, beq_iff_eq] at hkind
    exact hkind.1

/-- Some hours before the year begins. -/
def hoursBefore (n : Fin 100) : DateTime where
  microseconds := newYear.microseconds - 3600000000 * n.val
  inRange := by
    have hn := n.isLt
    have hyear : newYear.microseconds = 63839664000000000 := rfl
    unfold endOfCalendar maxOrdinal microsecondsPerDay
    omega

/-- Probes of two sources and two providers, one of which failed, a request of a client, and a
probe that is older than a day. -/
def mixedLog : List (LoggedRow × DateTime) :=
  [({ probedRow with timestamp := "2023-12-30T18:00:00Z" }, hoursBefore 30),
    ({ probedRow with requestSource := "bootstrap", timestamp := "2023-12-31T22:00:00Z" },
      hoursBefore 2),
    ({ probedRow with requestSource := "client", timestamp := "2023-12-31T22:00:00Z" },
      hoursBefore 2),
    ({ probedRow with
        timestamp := "2023-12-31T23:00:00Z", providerId := "groq"
        success := some (sqlBool false) },
      hoursBefore 1),
    (probedRow, hoursBefore 0)]

/-- Three of the five rows are in the report of a day. -/
theorem recentProbeActivity_adds_up_sample :
    ∃ activity, getRecentProbeActivity (mixedLog.map Prod.fst) newYear 24 = .ok activity ∧
      activity.totals.totalRequests = 3 ∧
      activity.totals.successes + activity.totals.failures = activity.totals.totalRequests ∧
      AddsUp activity.bySource activity.totals ∧ AddsUp activity.byProvider activity.totals ∧
      activity.bySource.length = 2 ∧ activity.byProvider.length = 2 := by
  have hgroups : (getRecentProbeActivity (mixedLog.map Prod.fst) newYear 24).toOption.map
      (fun activity => (activity.bySource.length, activity.byProvider.length)) = some (2, 2) := by
    decide +kernel
  obtain ⟨activity, h⟩ : ∃ activity,
      getRecentProbeActivity (mixedLog.map Prod.fst) newYear 24 = .ok activity := ⟨_, rfl⟩
  have hdates : ∀ row ∈ mixedLog, row.1.timestamp = row.2.isoZ := by
    decide +kernel
  have hsettled : ∀ row ∈ mixedLog, row.1.Settled := by
    unfold LoggedRow.Settled
    decide
  obtain ⟨htotal, hsettles, hsources, hproviders, -⟩ :=
    recentProbeActivity_adds_up hdates hsettled h
  rw [h] at hgroups
  obtain ⟨hsourceCount, hproviderCount⟩ := Prod.mk.inj (Option.some.inj hgroups)
  refine ⟨activity, h, ?_, hsettles, hsources, hproviders, hsourceCount, hproviderCount⟩
  rw [htotal]
  decide +kernel

end Health
end FreeLunch
