import FreeLunch.Foundations.Runs
import FreeLunch.Python.Exact
import Mathlib.Data.List.Basic

/-!
# The database writer thread

All application writes go through `DBWriter`: producers `enqueue` tasks on a
bounded FIFO queue and one consumer thread executes them.  This module models
the class of `src/db.py` as a transition system.  A producer's `enqueue` takes
its source steps one at a time (admission under the lock, `put_nowait`, the
undo when the queue is full), and the consumer loop `_run` takes its own (`get`,
`execute` with `commit`, and the `finally` block), so runs of the system are the
interleavings of both.

SQLite is a parameter that either applies a statement or raises.

Main results:

- Theorem `run_accounting`: in every reachable state the accepted items are
  the attempted ones, then the one in hand, then the queue, in this order.
- Theorem `servesAll_iff_tasks_succeed`: the consumer can serve everything that
  was accepted exactly when no accepted statement raises.

Current gaps:

- `stop` also joins the thread with a timeout; only its sentinel is modelled.
- The connection and its two `PRAGMA` statements, with which `_run` begins, are left out; the
  consumer starts at its loop.
-/

namespace FreeLunch
namespace Store

open Runs Python

/-! ## Tasks, SQLite and the shared state -/

/-- `DB_SCHEMA_VERSION` aside, the reserve of queue slots for metadata writes. -/
def highPriorityQueueReserve : Nat := 256

/-- A statement with its parameters, as `enqueue` packs it. -/
structure WriteTask (P : Type) where
  sql : String
  params : List P
  isLowPriorityLog : Bool := false
deriving DecidableEq, Repr

/-- A connection of the standard `sqlite3` module: both calls either return with
the next database or raise. -/
structure Sqlite (Db P Err : Type) where
  execute : Db → String → List P → Except Err Db
  commit : Db → Except Err Db

/-- The body of the `try` in `_run`: `conn.execute(...)`, then `conn.commit()`. -/
def Sqlite.attempt {Db P Err : Type} (conn : Sqlite Db P Err) (db : Db)
    (task : WriteTask P) : Except Err Db := do
  let db' ← conn.execute db task.sql task.params
  conn.commit db'

/-- The fields of a `DBWriter`, with its `queue.Queue` spelled out: the items
(`none` is the stop sentinel), the capacity and the unfinished-task counter. -/
structure DBWriter (P : Type) where
  lowPriorityLogEnabled : Bool
  lowPriorityLogQueueSize : Nat
  pendingLowPriorityLogs : Nat
  droppedLowPriorityLogs : Nat
  queue : List (Option (WriteTask P))
  maxsize : Nat
  unfinishedTasks : Nat
deriving DecidableEq, Repr

/-- `DBWriter.__init__`. -/
def DBWriter.init (P : Type) (lowPriorityLogEnabled : Bool)
    (lowPriorityLogQueueSize : Int) : DBWriter P where
  lowPriorityLogEnabled := lowPriorityLogEnabled
  lowPriorityLogQueueSize := max lowPriorityLogQueueSize.toNat 1
  pendingLowPriorityLogs := 0
  droppedLowPriorityLogs := 0
  queue := []
  maxsize := max lowPriorityLogQueueSize.toNat 1 + highPriorityQueueReserve
  unfinishedTasks := 0

/-- Where the consumer thread stands in `_run`.  `settling` is the `finally`
block, which remembers whether the statement raised; a raised exception leaves
the loop after it. -/
inductive Consumer (P : Type) where
  | waiting
  | holding (task : WriteTask P)
  | settling (task : WriteTask P) (raised : Bool)
  | stopped
  | dead
deriving DecidableEq, Repr

/-- Where one producer thread stands in `enqueue`. -/
inductive Producer (P : Type) where
  | idle
  | admitted (task : WriteTask P)
  | full
deriving DecidableEq, Repr

/-- The writer, its thread, the producers and the database.  The last three
fields are history: every item put on the queue, every task attempted, and the
number of `task_done` calls. -/
structure System (P Db : Type) where
  writer : DBWriter P
  consumer : Consumer P
  producers : Nat → Producer P
  db : Db
  accepted : List (Option (WriteTask P))
  attempted : List (WriteTask P)
  taskDoneCalls : Nat

/-- A started writer on a database. -/
def System.start {P Db : Type} (lowPriorityLogEnabled : Bool)
    (lowPriorityLogQueueSize : Int) (db : Db) : System P Db where
  writer := .init P lowPriorityLogEnabled lowPriorityLogQueueSize
  consumer := .waiting
  producers := fun _ => .idle
  db := db
  accepted := []
  attempted := []
  taskDoneCalls := 0

/-! ## Steps -/

/-- One step of a producer thread, of the consumer thread or of the owner. -/
inductive Event (P : Type) where
  /-- `enqueue` of a request log: the section under the lock. -/
  | admission (thread : Nat) (task : WriteTask P)
  /-- `enqueue` of a request log: `put_nowait`. -/
  | putNowait (thread : Nat)
  /-- `enqueue` of a request log: the handler of `queue.Full`. -/
  | undo (thread : Nat)
  /-- `enqueue` of any other task: the blocking `put`. -/
  | put (task : WriteTask P)
  /-- `stop`: the blocking `put(None)`. -/
  | stop
  /-- `set_low_priority_log_policy`. -/
  | setPolicy (enabled : Bool) (queueSize : Int)
  /-- `_run`: the blocking `get`. -/
  | get
  /-- `_run`: the body of the `try`. -/
  | execute
  /-- `_run`: the `finally` block. -/
  | settle
deriving DecidableEq, Repr

/-- The events of the consumer thread. -/
def Event.isConsumer {P : Type} : Event P → Bool
  | .get | .execute | .settle => true
  | _ => false

section Steps

variable {P Db Err : Type}

/-- `queue.Queue.put` of one item once there is room for it. -/
def System.putItem (s : System P Db) (item : Option (WriteTask P)) : System P Db :=
  { s with
    writer := { s.writer with
      queue := s.writer.queue ++ [item]
      unfinishedTasks := s.writer.unfinishedTasks + 1 }
    accepted := s.accepted ++ [item] }

/-- Move one producer thread to its next position. -/
def System.setProducer (s : System P Db) (thread : Nat) (position : Producer P) :
    System P Db :=
  { s with producers := Function.update s.producers thread position }

/-- The section of `enqueue` under the lock: reject the log or count it. -/
def System.admission (s : System P Db) (thread : Nat) (task : WriteTask P) : System P Db :=
  let w := s.writer
  if !w.lowPriorityLogEnabled then
    { s with writer := { w with droppedLowPriorityLogs := w.droppedLowPriorityLogs + 1 } }
  else if w.lowPriorityLogQueueSize ≤ w.pendingLowPriorityLogs then
    { s with writer := { w with droppedLowPriorityLogs := w.droppedLowPriorityLogs + 1 } }
  else
    { s with
      writer := { w with pendingLowPriorityLogs := w.pendingLowPriorityLogs + 1 } }
      |>.setProducer thread (.admitted task)

/-- The handler of `queue.Full`: uncount the log and report it as dropped. -/
def System.undo (s : System P Db) (thread : Nat) : System P Db :=
  let w := s.writer
  { s with
    writer := { w with
      pendingLowPriorityLogs := w.pendingLowPriorityLogs - 1
      droppedLowPriorityLogs := w.droppedLowPriorityLogs + 1 } }
    |>.setProducer thread .idle

/-- The `finally` block of `_run`: release the low-priority slot, then
`task_done()`.  A pending exception then ends the thread. -/
def System.settle (s : System P Db) (task : WriteTask P) (raised : Bool) :
    System P Db :=
  let w := s.writer
  { s with
    writer := { w with
      pendingLowPriorityLogs :=
        if task.isLowPriorityLog then w.pendingLowPriorityLogs - 1
        else w.pendingLowPriorityLogs
      unfinishedTasks := w.unfinishedTasks - 1 }
    consumer := if raised then .dead else .waiting
    taskDoneCalls := s.taskDoneCalls + 1 }

/-- Taking one item off the queue; the sentinel is acknowledged at once and ends
the loop. -/
def System.take (s : System P Db) : Option (System P Db) :=
  match s.writer.queue with
  | [] => none
  | some task :: rest =>
      some { s with
        writer := { s.writer with queue := rest }
        consumer := .holding task }
  | none :: rest =>
      some { s with
        writer := { s.writer with
          queue := rest
          unfinishedTasks := s.writer.unfinishedTasks - 1 }
        consumer := .stopped
        taskDoneCalls := s.taskDoneCalls + 1 }

/-- Executing the task in hand.  A statement that raises changes nothing. -/
def System.perform (conn : Sqlite Db P Err) (s : System P Db) (task : WriteTask P) :
    System P Db :=
  match conn.attempt s.db task with
  | .ok db' =>
      { s with
        db := db'
        consumer := .settling task false
        attempted := s.attempted ++ [task] }
  | .error _ =>
      { s with
        consumer := .settling task true
        attempted := s.attempted ++ [task] }

/-- The step relation: `none` where the thread is elsewhere or would block. -/
def step (conn : Sqlite Db P Err) (s : System P Db) : Event P → Option (System P Db)
  | .admission thread task =>
      match s.producers thread with
      | .idle => if task.isLowPriorityLog then some (s.admission thread task) else none
      | _ => none
  | .putNowait thread =>
      match s.producers thread with
      | .admitted task =>
          if s.writer.queue.length < s.writer.maxsize then
            some ((s.putItem (some task)).setProducer thread .idle)
          else some (s.setProducer thread .full)
      | _ => none
  | .undo thread =>
      match s.producers thread with
      | .full => some (s.undo thread)
      | _ => none
  | .put task =>
      if !task.isLowPriorityLog && s.writer.queue.length < s.writer.maxsize then
        some (s.putItem (some task))
      else none
  | .stop =>
      if s.writer.queue.length < s.writer.maxsize then some (s.putItem none) else none
  | .setPolicy enabled queueSize =>
      some { s with
        writer := { s.writer with
          lowPriorityLogEnabled := enabled
          lowPriorityLogQueueSize := max queueSize.toNat 1 } }
  | .get =>
      match s.consumer with
      | .waiting => s.take
      | _ => none
  | .execute =>
      match s.consumer with
      | .holding task => some (s.perform conn task)
      | _ => none
  | .settle =>
      match s.consumer with
      | .settling task raised => some (s.settle task raised)
      | _ => none

/-- `flush` returns when `queue.join` does: no task is unfinished. -/
def System.Flushed (s : System P Db) : Prop :=
  s.writer.unfinishedTasks = 0

/-! ## The ledger: an abstract single-consumer queue -/

/-- What the accounting of the writer is about: the queue, the consumer, the
database and the three histories, without locks, counters and producers. -/
structure Ledger (P Db : Type) where
  consumer : Consumer P
  queue : List (Option (WriteTask P))
  unfinishedTasks : Nat
  db : Db
  accepted : List (Option (WriteTask P))
  attempted : List (WriteTask P)
  taskDoneCalls : Nat

/-- The ledger of a system. -/
def System.ledger (s : System P Db) : Ledger P Db where
  consumer := s.consumer
  queue := s.writer.queue
  unfinishedTasks := s.writer.unfinishedTasks
  db := s.db
  accepted := s.accepted
  attempted := s.attempted
  taskDoneCalls := s.taskDoneCalls

/-- Everything one step of the system can do to its ledger. -/
inductive Ledger.Step (conn : Sqlite Db P Err) : Ledger P Db → Ledger P Db → Prop where
  | skip (l : Ledger P Db) : Step conn l l
  | put (l : Ledger P Db) (item : Option (WriteTask P)) :
      Step conn l { l with
        queue := l.queue ++ [item]
        unfinishedTasks := l.unfinishedTasks + 1
        accepted := l.accepted ++ [item] }
  | takeTask {l : Ledger P Db} {task : WriteTask P} {rest : List (Option (WriteTask P))}
      (hconsumer : l.consumer = .waiting) (hqueue : l.queue = some task :: rest) :
      Step conn l { l with queue := rest, consumer := .holding task }
  | takeStop {l : Ledger P Db} {rest : List (Option (WriteTask P))}
      (hconsumer : l.consumer = .waiting) (hqueue : l.queue = none :: rest) :
      Step conn l { l with
        queue := rest
        unfinishedTasks := l.unfinishedTasks - 1
        consumer := .stopped
        taskDoneCalls := l.taskDoneCalls + 1 }
  | performed {l : Ledger P Db} {task : WriteTask P} {db' : Db}
      (hconsumer : l.consumer = .holding task) (hok : conn.attempt l.db task = .ok db') :
      Step conn l { l with
        db := db'
        consumer := .settling task false
        attempted := l.attempted ++ [task] }
  | raised {l : Ledger P Db} {task : WriteTask P} {err : Err}
      (hconsumer : l.consumer = .holding task) (herr : conn.attempt l.db task = .error err) :
      Step conn l { l with
        consumer := .settling task true
        attempted := l.attempted ++ [task] }
  | settle {l : Ledger P Db} {task : WriteTask P} {raised : Bool}
      (hconsumer : l.consumer = .settling task raised) :
      Step conn l { l with
        unfinishedTasks := l.unfinishedTasks - 1
        consumer := if raised then .dead else .waiting
        taskDoneCalls := l.taskDoneCalls + 1 }

@[simp]
theorem ledger_setProducer (s : System P Db) (thread : Nat) (position : Producer P) :
    (s.setProducer thread position).ledger = s.ledger :=
  rfl

@[simp]
theorem ledger_admission (s : System P Db) (thread : Nat) (task : WriteTask P) :
    (s.admission thread task).ledger = s.ledger := by
  simp only [System.admission]
  split
  · rfl
  · split <;> rfl

/-- Every step of the writer system is a step of its ledger. -/
theorem step_ledger {conn : Sqlite Db P Err} {s s' : System P Db} {e : Event P}
    (h : step conn s e = some s') : Ledger.Step conn s.ledger s'.ledger := by
  cases e with
  | admission thread task =>
      simp only [step] at h
      split at h <;> try contradiction
      split at h <;> cases h
      rw [ledger_admission]
      exact .skip _
  | putNowait thread =>
      simp only [step] at h
      split at h <;> try contradiction
      rename_i task _
      split at h <;> cases h
      · exact .put s.ledger (some task)
      · exact .skip _
  | undo thread =>
      simp only [step] at h
      split at h <;> cases h
      exact .skip _
  | put task =>
      simp only [step] at h
      split at h <;> cases h
      exact .put s.ledger (some task)
  | stop =>
      simp only [step] at h
      split at h <;> cases h
      exact .put s.ledger none
  | setPolicy enabled queueSize =>
      cases h
      exact .skip _
  | get =>
      simp only [step] at h
      split at h <;> try contradiction
      rename_i hconsumer
      simp only [System.take] at h
      split at h <;> cases h <;> rename_i hqueue
      · exact .takeTask hconsumer hqueue
      · exact .takeStop hconsumer hqueue
  | execute =>
      simp only [step] at h
      split at h <;> cases h
      rename_i task hconsumer
      simp only [System.perform]
      split <;> rename_i hattempt
      · exact .performed hconsumer hattempt
      · exact .raised hconsumer hattempt
  | settle =>
      simp only [step] at h
      split at h <;> cases h
      rename_i task raised hconsumer
      exact .settle hconsumer

/-! ## Accounting of accepted, attempted and acknowledged items -/

/-- Apply a list of tasks in FIFO order; the first statement that raises ends it. -/
def Sqlite.replay (conn : Sqlite Db P Err) : Db → List (WriteTask P) → Except Err Db
  | db, [] => .ok db
  | db, task :: rest => (conn.attempt db task).bind fun db' => conn.replay db' rest

/-- The item off the queue that is not among the attempted tasks. -/
def Consumer.inHand : Consumer P → List (Option (WriteTask P))
  | .holding task => [some task]
  | .stopped => [none]
  | _ => []

/-- Items off the queue for which `task_done` has not been called. -/
def Consumer.unacknowledged : Consumer P → Nat
  | .holding _ | .settling _ _ => 1
  | _ => 0

/-- A statement has raised in this thread. -/
def Consumer.raised : Consumer P → Bool
  | .settling _ true | .dead => true
  | _ => false

/-- The accounting of the writer over a database that started as `db₀`. -/
structure Ledger.Accounting (conn : Sqlite Db P Err) (db₀ : Db) (l : Ledger P Db) :
    Prop where
  accepted_eq : l.accepted = l.attempted.map some ++ l.consumer.inHand ++ l.queue
  unfinished_eq : l.unfinishedTasks = l.queue.length + l.consumer.unacknowledged
  acknowledged_eq : l.taskDoneCalls + l.unfinishedTasks = l.accepted.length
  applied : l.consumer.raised = false → conn.replay db₀ l.attempted = .ok l.db
  failed : l.consumer.raised = true → ∃ err, conn.replay db₀ l.attempted = .error err

theorem replay_append (conn : Sqlite Db P Err) (db : Db) (tasks rest : List (WriteTask P)) :
    conn.replay db (tasks ++ rest) =
      (conn.replay db tasks).bind fun db' => conn.replay db' rest := by
  induction tasks generalizing db with
  | nil => rfl
  | cons task tasks ih =>
      simp only [List.cons_append, Sqlite.replay]
      cases conn.attempt db task with
      | error err => rfl
      | ok db' => exact ih db'

/-- Replaying one more task after a successful replay is one more attempt. -/
theorem replay_snoc {conn : Sqlite Db P Err} {db₀ db : Db} {tasks : List (WriteTask P)}
    (h : conn.replay db₀ tasks = .ok db) (task : WriteTask P) :
    conn.replay db₀ (tasks ++ [task]) = conn.attempt db task := by
  rw [replay_append, h]
  show (conn.attempt db task).bind (fun db' => Except.ok db') = conn.attempt db task
  cases conn.attempt db task <;> rfl

/-- A ledger step keeps the accounting. -/
theorem ledgerStep_accounting {conn : Sqlite Db P Err} {db₀ : Db} {l l' : Ledger P Db}
    (hstep : Ledger.Step conn l l') (hinv : l.Accounting conn db₀) :
    l'.Accounting conn db₀ := by
  have haccepted := hinv.accepted_eq
  have hunfinished := hinv.unfinished_eq
  have hacknowledged := hinv.acknowledged_eq
  have happlied := hinv.applied
  cases hstep with
  | skip => exact hinv
  | put item =>
      refine ⟨?_, ?_, ?_, hinv.applied, hinv.failed⟩
      · simp [haccepted]
      · simp only [List.length_append, List.length_singleton]
        omega
      · simp only [List.length_append, List.length_singleton]
        omega
  | takeTask hconsumer hqueue =>
      rw [hconsumer] at haccepted hunfinished happlied
      rw [hqueue] at haccepted hunfinished
      refine ⟨?_, ?_, hacknowledged, happlied, nofun⟩
      · simpa [Consumer.inHand] using haccepted
      · simpa [Consumer.unacknowledged] using hunfinished
  | takeStop hconsumer hqueue =>
      rw [hconsumer] at haccepted hunfinished happlied
      rw [hqueue] at haccepted hunfinished
      simp only [Consumer.unacknowledged, List.length_cons] at hunfinished
      refine ⟨?_, ?_, ?_, happlied, nofun⟩
      · simpa [Consumer.inHand] using haccepted
      · simp only [Consumer.unacknowledged]
        omega
      · simp only
        omega
  | performed hconsumer hok =>
      rw [hconsumer] at haccepted hunfinished happlied
      refine ⟨?_, hunfinished, hacknowledged, fun _ => ?_, nofun⟩
      · simpa [Consumer.inHand] using haccepted
      · rw [replay_snoc (happlied rfl), hok]
  | raised hconsumer herr =>
      rw [hconsumer] at haccepted hunfinished happlied
      refine ⟨?_, hunfinished, hacknowledged, nofun, fun _ => ?_⟩
      · simpa [Consumer.inHand] using haccepted
      · exact ⟨_, (replay_snoc (happlied rfl) _).trans herr⟩
  | @settle task raised hconsumer =>
      have hfailed := hinv.failed
      rw [hconsumer] at haccepted hunfinished happlied hfailed
      simp only [Consumer.unacknowledged] at hunfinished
      cases raised with
      | false =>
          refine ⟨?_, ?_, ?_, fun _ => happlied rfl, nofun⟩
          · simpa [Consumer.inHand] using haccepted
          · simp only [Bool.false_eq_true, if_false, Consumer.unacknowledged]
            omega
          · simp only
            omega
      | true =>
          refine ⟨?_, ?_, ?_, nofun, fun _ => hfailed rfl⟩
          · simpa [Consumer.inHand] using haccepted
          · simp only [if_true, Consumer.unacknowledged]
            omega
          · simp only
            omega

/-- Every run from a started writer keeps the accounting. -/
theorem run_accounting {conn : Sqlite Db P Err} {enabled : Bool} {size : Int} {db₀ : Db}
    {events : List (Event P)} {s : System P Db}
    (hrun : run (step conn) (System.start enabled size db₀) events = some s) :
    s.ledger.Accounting conn db₀ := by
  refine run_invariant (fun s : System P Db => s.ledger.Accounting conn db₀)
    (fun s e s' hs hinv => ledgerStep_accounting (step_ledger hs) hinv) hrun ?_
  exact ⟨rfl, rfl, rfl, fun _ => rfl, nofun⟩

/-- The attempted tasks were applied to the database, all or all but the last, which raised. -/
def Ledger.Applied (conn : Sqlite Db P Err) (db₀ : Db) (l : Ledger P Db) : Prop :=
  (l.consumer.raised = false ∧ conn.replay db₀ l.attempted = .ok l.db) ∨
    (l.consumer.raised = true ∧ ∃ before task err, l.attempted = before ++ [task] ∧
      conn.replay db₀ before = .ok l.db ∧ conn.attempt l.db task = .error err)

/-- A ledger step applies a task or has it raise. -/
theorem ledgerStep_applied {conn : Sqlite Db P Err} {db₀ : Db} {l l' : Ledger P Db}
    (hstep : Ledger.Step conn l l') (h : l.Applied conn db₀) : l'.Applied conn db₀ := by
  have halive : ∀ consumer, l.consumer = consumer → consumer.raised = false →
      conn.replay db₀ l.attempted = .ok l.db := by
    rintro consumer rfl halive
    rcases h with ⟨-, hok⟩ | ⟨hraised, -⟩
    · exact hok
    · rw [halive] at hraised
      cases hraised
  cases hstep with
  | skip => exact h
  | put item => exact h
  | takeTask hconsumer hqueue => exact .inl ⟨rfl, halive _ hconsumer rfl⟩
  | takeStop hconsumer hqueue => exact .inl ⟨rfl, halive _ hconsumer rfl⟩
  | performed hconsumer hok =>
      exact .inl ⟨rfl, (replay_snoc (halive _ hconsumer rfl) _).trans hok⟩
  | raised hconsumer herr =>
      exact .inr ⟨rfl, l.attempted, _, _, rfl, halive _ hconsumer rfl, herr⟩
  | @settle task raised hconsumer =>
      rcases h with ⟨hraised, hok⟩ | ⟨hraised, hlast⟩
      · rw [hconsumer] at hraised
        cases raised with
        | false => exact .inl ⟨rfl, hok⟩
        | true => cases hraised
      · rw [hconsumer] at hraised
        cases raised with
        | false => cases hraised
        | true => exact .inr ⟨rfl, hlast⟩

/-- Every run from a started writer keeps track of what was applied. -/
theorem run_applied {conn : Sqlite Db P Err} {enabled : Bool} {size : Int} {db₀ : Db}
    {events : List (Event P)} {s : System P Db}
    (hrun : run (step conn) (System.start enabled size db₀) events = some s) :
    s.ledger.Applied conn db₀ := by
  refine run_invariant (fun s : System P Db => s.ledger.Applied conn db₀)
    (fun s e s' hs hinv => ledgerStep_applied (step_ledger hs) hinv) hrun ?_
  exact .inl ⟨rfl, rfl⟩

/-- Nothing is left over where the writer has drained without having been stopped: every
accepted task was attempted. -/
theorem attempted_of_flushed {conn : Sqlite Db P Err} {enabled : Bool} {size : Int} {db₀ : Db}
    {events : List (Event P)} {s : System P Db}
    (hrun : run (step conn) (System.start enabled size db₀) events = some s)
    (hflushed : s.Flushed) {tasks : List (WriteTask P)} (haccepted : s.accepted = tasks.map some) :
    s.attempted = tasks := by
  have hinv := run_accounting hrun
  have heq : s.accepted = s.attempted.map some ++ s.consumer.inHand ++ s.writer.queue :=
    hinv.accepted_eq
  have hunfinished : s.writer.unfinishedTasks =
      s.writer.queue.length + s.consumer.unacknowledged := hinv.unfinished_eq
  unfold System.Flushed at hflushed
  have hqueue : s.writer.queue = [] := List.length_eq_zero_iff.mp (by omega)
  have hhand : s.consumer.inHand = [] := by
    cases hconsumer : s.consumer with
    | holding task =>
        rw [hconsumer] at hunfinished
        simp only [Consumer.unacknowledged] at hunfinished
        omega
    | stopped =>
        rw [haccepted, hqueue, hconsumer, List.append_nil] at heq
        have hmem : none ∈ tasks.map some := by
          rw [heq]
          exact List.mem_append_right _ List.mem_cons_self
        obtain ⟨task, -, hnone⟩ := List.mem_map.mp hmem
        cases hnone
    | waiting => rfl
    | settling task raised => rfl
    | dead => rfl
  rw [haccepted, hqueue, hhand, List.append_nil, List.append_nil] at heq
  exact (List.map_injective_iff.mpr (fun _ _ => Option.some.inj) heq).symm

/-! ## Serving everything that was accepted -/

/-- The tasks ahead of the first stop sentinel. -/
def dueTasks : List (Option (WriteTask P)) → List (WriteTask P)
  | some task :: rest => task :: dueTasks rest
  | _ => []

/-- The tasks `enqueue` accepted before `stop` was requested. -/
def System.due (s : System P Db) : List (WriteTask P) :=
  dueTasks s.accepted

/-- The consumer, left alone, attempts every accepted task exactly once and in
order, acknowledges each of them once, and then waits with nothing unfinished
or has acknowledged the stop sentinel. -/
def ServesAll (conn : Sqlite Db P Err) (s : System P Db) : Prop :=
  ∃ events s', (∀ e ∈ events, e.isConsumer = true) ∧
    run (step conn) s events = some s' ∧
    s'.attempted = s.due ∧
    ((s'.consumer = .waiting ∧ s'.Flushed ∧ s'.taskDoneCalls = s.due.length) ∨
      (s'.consumer = .stopped ∧ s'.taskDoneCalls = s.due.length + 1))

theorem dueTasks_map_append (tasks : List (WriteTask P))
    (items : List (Option (WriteTask P))) :
    dueTasks (tasks.map some ++ items) = tasks ++ dueTasks items := by
  induction tasks with
  | nil => rfl
  | cons task tasks ih => simp [dueTasks, ih]

/-- The due tasks are the attempted ones followed by those still ahead of the
sentinel. -/
theorem Ledger.Accounting.due_eq {conn : Sqlite Db P Err} {db₀ : Db} {s : System P Db}
    (hinv : s.ledger.Accounting conn db₀) :
    s.due = s.attempted ++ dueTasks (s.consumer.inHand ++ s.writer.queue) := by
  have h : s.accepted = s.attempted.map some ++ s.consumer.inHand ++ s.writer.queue :=
    hinv.accepted_eq
  rw [System.due, h, List.append_assoc, dueTasks_map_append]

/-- Every item off the queue of a waiting or stopped consumer is acknowledged. -/
theorem Ledger.Accounting.taskDoneCalls_eq {conn : Sqlite Db P Err} {db₀ : Db}
    {s : System P Db} (hinv : s.ledger.Accounting conn db₀)
    (hidle : s.consumer.unacknowledged = 0) :
    s.taskDoneCalls = s.attempted.length + s.consumer.inHand.length := by
  have haccepted : s.accepted = s.attempted.map some ++ s.consumer.inHand ++ s.writer.queue :=
    hinv.accepted_eq
  have hunfinished : s.writer.unfinishedTasks =
      s.writer.queue.length + s.consumer.unacknowledged := hinv.unfinished_eq
  have hacknowledged : s.taskDoneCalls + s.writer.unfinishedTasks = s.accepted.length :=
    hinv.acknowledged_eq
  rw [haccepted, List.length_append, List.length_append, List.length_map] at hacknowledged
  omega

/-- Where the consumer gets on its own with the tasks ahead of it: it waits on an
empty queue or has met the sentinel. -/
def Serves (conn : Sqlite Db P Err) (s : System P Db) (tasks : List (WriteTask P)) :
    Prop :=
  ∃ events s', (∀ e ∈ events, e.isConsumer = true) ∧
    run (step conn) s events = some s' ∧ s'.attempted = s.attempted ++ tasks ∧
    ((s'.consumer = .waiting ∧ s'.writer.queue = []) ∨ s'.consumer = .stopped)

/-- One consumer step in front of a serving run. -/
theorem Serves.head {conn : Sqlite Db P Err} {s s' : System P Db} {e : Event P}
    {tasks rest : List (WriteTask P)} (hconsumer : e.isConsumer = true)
    (hstep : step conn s e = some s') (hrest : Serves conn s' rest)
    (hattempted : s'.attempted ++ rest = s.attempted ++ tasks) : Serves conn s tasks := by
  rcases hrest with ⟨events, t, hall, hrun, ht, hend⟩
  refine ⟨e :: events, t, ?_, ?_, ?_, hend⟩
  · simpa [hconsumer] using hall
  · rw [run_cons_of_step hstep, hrun]
  · rw [ht, hattempted]

theorem step_settle_of_settling {conn : Sqlite Db P Err} {s : System P Db}
    {task : WriteTask P} {raised : Bool} (h : s.consumer = .settling task raised) :
    step conn s .settle = some (s.settle task raised) := by
  simp [step, h]

theorem step_execute_of_ok {conn : Sqlite Db P Err} {s : System P Db} {db' : Db}
    {task : WriteTask P} (h : s.consumer = .holding task)
    (hok : conn.attempt s.db task = .ok db') :
    step conn s .execute = some { s with
      db := db'
      consumer := .settling task false
      attempted := s.attempted ++ [task] } := by
  simp [step, h, System.perform, hok]

theorem step_get_of_task {conn : Sqlite Db P Err} {s : System P Db} {task : WriteTask P}
    {rest : List (Option (WriteTask P))} (h : s.consumer = .waiting)
    (hqueue : s.writer.queue = some task :: rest) :
    step conn s .get = some { s with
      writer := { s.writer with queue := rest }
      consumer := .holding task } := by
  simp [step, h, System.take, hqueue]

theorem step_get_of_stop {conn : Sqlite Db P Err} {s : System P Db}
    {rest : List (Option (WriteTask P))} (h : s.consumer = .waiting)
    (hqueue : s.writer.queue = none :: rest) :
    step conn s .get = some { s with
      writer := { s.writer with
        queue := rest
        unfinishedTasks := s.writer.unfinishedTasks - 1 }
      consumer := .stopped
      taskDoneCalls := s.taskDoneCalls + 1 } := by
  simp [step, h, System.take, hqueue]

/-- A replay that succeeds on a nonempty list attempts its head successfully. -/
theorem replay_cons_eq_ok {conn : Sqlite Db P Err} {db db' : Db} {task : WriteTask P}
    {tasks : List (WriteTask P)} (h : conn.replay db (task :: tasks) = .ok db') :
    ∃ db₁, conn.attempt db task = .ok db₁ ∧ conn.replay db₁ tasks = .ok db' := by
  simp only [Sqlite.replay] at h
  cases hattempt : conn.attempt db task with
  | error err => simp [hattempt, Except.bind] at h
  | ok db₁ =>
      rw [hattempt] at h
      exact ⟨db₁, rfl, h⟩

/-- From a task in hand: execute it, settle it, and serve what follows. -/
theorem serves_holding {conn : Sqlite Db P Err} {s : System P Db} {db₁ : Db}
    {task : WriteTask P} {tasks : List (WriteTask P)}
    (hconsumer : s.consumer = .holding task) (hattempt : conn.attempt s.db task = .ok db₁)
    (hrest : ∀ s' : System P Db, s'.consumer = .waiting → s'.db = db₁ →
      s'.writer.queue = s.writer.queue → Serves conn s' tasks) :
    Serves conn s (task :: tasks) := by
  let s₁ : System P Db := { s with
    db := db₁
    consumer := .settling task false
    attempted := s.attempted ++ [task] }
  have hsettled : Serves conn s₁ tasks :=
    .head rfl (step_settle_of_settling rfl) (hrest (s₁.settle task false) rfl rfl rfl) rfl
  refine .head rfl (step_execute_of_ok hconsumer hattempt) hsettled ?_
  simp

/-- From a waiting consumer, by induction on the queue: one round of `get`,
`execute` and `settle` for each task. -/
theorem serves_waiting {conn : Sqlite Db P Err} {s : System P Db} {db' : Db}
    (hconsumer : s.consumer = .waiting)
    (hok : conn.replay s.db (dueTasks s.writer.queue) = .ok db') :
    Serves conn s (dueTasks s.writer.queue) := by
  generalize hqueue : s.writer.queue = queue at hok ⊢
  induction queue generalizing s with
  | nil => exact ⟨[], s, by simp, rfl, by simp [dueTasks], .inl ⟨hconsumer, hqueue⟩⟩
  | cons item rest ih =>
      cases item with
      | none =>
          exact ⟨[.get], _, by simp [Event.isConsumer],
            run_cons_of_step (step_get_of_stop hconsumer hqueue) [], by simp [dueTasks],
            .inr rfl⟩
      | some task =>
          rcases replay_cons_eq_ok hok with ⟨db₁, hattempt, hrest⟩
          refine .head rfl (step_get_of_task hconsumer hqueue)
            (serves_holding rfl hattempt fun s' hwaiting hdb hqueue' => ?_) rfl
          exact ih hwaiting hqueue' (by rw [hdb, hrest])

/-- A serving run from a state with the accounting serves all that is due. -/
theorem Serves.servesAll {conn : Sqlite Db P Err} {db₀ : Db} {s : System P Db}
    {tasks : List (WriteTask P)} (hinv : s.ledger.Accounting conn db₀)
    (hdue : s.due = s.attempted ++ tasks) (hserves : Serves conn s tasks) :
    ServesAll conn s := by
  rcases hserves with ⟨events, s', hall, hrun, hattempted, hend⟩
  have hinv' : s'.ledger.Accounting conn db₀ :=
    run_invariant (fun s : System P Db => s.ledger.Accounting conn db₀)
      (fun s e s' hs hi => ledgerStep_accounting (step_ledger hs) hi) hrun hinv
  have hunfinished : s'.writer.unfinishedTasks =
      s'.writer.queue.length + s'.consumer.unacknowledged := hinv'.unfinished_eq
  refine ⟨events, s', hall, hrun, hattempted.trans hdue.symm, ?_⟩
  rcases hend with ⟨hwaiting, hempty⟩ | hstopped
  · refine .inl ⟨hwaiting, ?_, ?_⟩
    · simp [System.Flushed, hunfinished, hempty, hwaiting, Consumer.unacknowledged]
    · rw [hinv'.taskDoneCalls_eq (by rw [hwaiting]; rfl), hattempted, hdue, hwaiting]
      simp [Consumer.inHand]
  · refine .inr ⟨hstopped, ?_⟩
    rw [hinv'.taskDoneCalls_eq (by rw [hstopped]; rfl), hattempted, hdue, hstopped]
    simp [Consumer.inHand]

/-- With the accounting, a replay of the due tasks that succeeds leaves the
consumer alive and replays the rest of them on the current database. -/
theorem Ledger.Accounting.replay_rest {conn : Sqlite Db P Err} {db₀ db' : Db}
    {s : System P Db} (hinv : s.ledger.Accounting conn db₀)
    (hok : conn.replay db₀ s.due = .ok db') :
    s.consumer.raised = false ∧
      conn.replay s.db (dueTasks (s.consumer.inHand ++ s.writer.queue)) = .ok db' := by
  rw [hinv.due_eq, replay_append] at hok
  cases hraised : s.consumer.raised with
  | true =>
      rcases hinv.failed hraised with ⟨err, herr⟩
      have herr' : conn.replay db₀ s.attempted = .error err := herr
      rw [herr'] at hok
      cases hok
  | false =>
      have happlied : conn.replay db₀ s.attempted = .ok s.db := hinv.applied hraised
      rw [happlied] at hok
      exact ⟨rfl, hok⟩

/-- When no due statement raises, the consumer serves all of them. -/
theorem servesAll_of_replay {conn : Sqlite Db P Err} {db₀ db' : Db} {s : System P Db}
    (hinv : s.ledger.Accounting conn db₀) (hok : conn.replay db₀ s.due = .ok db') :
    ServesAll conn s := by
  obtain ⟨halive, hrest⟩ := hinv.replay_rest hok
  have hdue := hinv.due_eq
  cases hconsumer : s.consumer with
  | waiting =>
      rw [hconsumer] at hrest hdue
      exact (serves_waiting hconsumer hrest).servesAll hinv hdue
  | holding task =>
      rw [hconsumer] at hrest hdue
      rcases replay_cons_eq_ok hrest with ⟨db₁, hattempt, hqueue⟩
      change conn.replay db₁ (dueTasks s.writer.queue) = .ok db' at hqueue
      change s.due = s.attempted ++ task :: dueTasks s.writer.queue at hdue
      refine (serves_holding hconsumer hattempt fun s' hwaiting hdb hsame => ?_).servesAll
        hinv hdue
      rw [← hsame] at hqueue ⊢
      rw [← hdb] at hqueue
      exact serves_waiting hwaiting hqueue
  | settling task raised =>
      rw [hconsumer] at hrest hdue halive
      cases raised with
      | true => cases halive
      | false =>
          have hserves : Serves conn s (dueTasks s.writer.queue) :=
            .head rfl (step_settle_of_settling hconsumer) (serves_waiting rfl hrest) rfl
          exact hserves.servesAll hinv hdue
  | stopped =>
      rw [hconsumer] at hdue
      have hserves : Serves conn s [] :=
        ⟨[], s, by simp, rfl, by simp, .inr hconsumer⟩
      exact hserves.servesAll hinv hdue
  | dead =>
      rw [hconsumer] at halive
      cases halive

/-- The consumer of a started writer can serve everything that was accepted, in
order and exactly once, if and only if no accepted statement raises when the
accepted statements are applied in order. -/
theorem servesAll_iff_tasks_succeed {conn : Sqlite Db P Err} {enabled : Bool} {size : Int}
    {db₀ : Db} {events : List (Event P)} {s : System P Db}
    (hrun : run (step conn) (System.start enabled size db₀) events = some s) :
    ServesAll conn s ↔ ∃ db', conn.replay db₀ s.due = .ok db' := by
  have hinv := run_accounting hrun
  constructor
  · rintro ⟨more, s', -, hmore, hattempted, hend⟩
    have hinv' := run_accounting ((run_append_of_run hrun more).trans hmore)
    have halive : s'.consumer.raised = false := by
      rcases hend with ⟨hwaiting, -⟩ | ⟨hstopped, -⟩
      · rw [hwaiting]
        rfl
      · rw [hstopped]
        rfl
    exact ⟨s'.db, hattempted ▸ hinv'.applied halive⟩
  · rintro ⟨db', hok⟩
    exact servesAll_of_replay hinv hok

/-- A dead consumer takes no step. -/
theorem run_of_dead {conn : Sqlite Db P Err} {s s' : System P Db} {events : List (Event P)}
    (hdead : s.consumer = .dead) (hall : ∀ e ∈ events, e.isConsumer = true)
    (hrun : run (step conn) s events = some s') : s' = s := by
  cases events with
  | nil =>
      cases hrun
      rfl
  | cons e rest =>
      rcases run_cons_eq_some.mp hrun with ⟨t, hstep, -⟩
      have hconsumer : e.isConsumer = true := hall e List.mem_cons_self
      cases e <;> simp [Event.isConsumer] at hconsumer <;> simp [step, hdead] at hstep

/-- Once the consumer is dead nothing more is served. -/
theorem not_servesAll_of_dead {conn : Sqlite Db P Err} {s : System P Db}
    (hdead : s.consumer = .dead) : ¬ ServesAll conn s := by
  rintro ⟨events, s', hall, hrun, -, hend⟩
  rw [run_of_dead hdead hall hrun, hdead] at hend
  rcases hend with ⟨hwaiting, -⟩ | ⟨hstopped, -⟩ <;> contradiction

end Steps

/-! ## Parameters that SQLite does not bind -/

/-- One more than the greatest integer `sqlite3` stores. -/
def integerBound : Int := 9223372036854775808

/-- The values `sqlite3` binds: lists, dictionaries and integers outside the
signed 64-bit range raise. -/
def bindable {F : Type} : PyValue F → Bool
  | .int n => decide (-integerBound ≤ n) && decide (n < integerBound)
  | .list _ | .dict _ => false
  | _ => true

/-- A connection that records the statements whose parameters can be bound. -/
def recordingConnection : Sqlite (List String) (PyValue Exact) Exc where
  execute db sql params :=
    if params.all bindable then .ok (db ++ [sql])
    else .error (.other "Error binding parameter")
  commit db := .ok db

/-- A request log whose token count came from the upstream as a list. -/
def unbindableLog : WriteTask (PyValue Exact) where
  sql := "INSERT INTO request_log"
  params := [.str "request", .list [.int 1]]
  isLowPriorityLog := true

/-- A metadata write. -/
def metadataWrite : WriteTask (PyValue Exact) where
  sql := "UPDATE models"
  params := [.int 1, .str "model"]

/-- The writer serves the accepted tasks of a run whose statements can be bound. -/
theorem servesAll_bindable_run :
    ∃ s, run (step recordingConnection) (System.start true 5000 [])
        [.put metadataWrite, .get, .put metadataWrite, .execute] = some s ∧
      ServesAll recordingConnection s := by
  have hrun : run (step recordingConnection) (System.start true 5000 [])
      [.put metadataWrite, .get, .put metadataWrite, .execute] = some _ := rfl
  exact ⟨_, hrun, (servesAll_iff_tasks_succeed hrun).mpr
    ⟨["UPDATE models", "UPDATE models"], rfl⟩⟩

/-- One request log that cannot be bound ends the writer: the metadata write
accepted after it is never attempted. -/
theorem unbindable_log_kills_writer :
    ∃ s, run (step recordingConnection) (System.start true 5000 [])
        [.admission 0 unbindableLog, .putNowait 0, .put metadataWrite, .get, .execute,
          .settle] = some s ∧
      s.due = [unbindableLog, metadataWrite] ∧ s.attempted = [unbindableLog] ∧
      s.consumer = .dead ∧ ¬ ServesAll recordingConnection s :=
  ⟨_, rfl, rfl, rfl, rfl, not_servesAll_of_dead rfl⟩

end Store
end FreeLunch
