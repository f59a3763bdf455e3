import FreeLunch.Store.Writer

/-!
# The reserve of the writer queue

The queue of `DBWriter` has room for the request logs and `HIGH_PRIORITY_QUEUE_RESERVE`
more tasks.  The room is fixed at construction; how many logs may be pending is a policy
that `set_low_priority_log_policy` replaces at startup and on every reload.

Main results:

- Theorem `run_slots`: the pending counter is the number of producers between their
  admission and their return, plus the logs on the queue and in the consumer's hand.
- Theorem `reserve_kept_iff`: the reserve is kept in every reachable state exactly when no
  policy admits more logs than the writer was constructed for.

Current gaps:

- A stop sentinel on the queue counts as a task that is no log.
-/

namespace FreeLunch
namespace Store

open Runs Python

section Reserve

variable {P Db Err : Type}

/-! ## Slots -/

/-- An item of the queue that is a request log. -/
def isLog : Option (WriteTask P) → Bool
  | some task => task.isLowPriorityLog
  | none => false

/-- The request logs on the queue. -/
def System.lowPriorityQueued (s : System P Db) : Nat :=
  s.writer.queue.countP isLog

/-- The other items on the queue. -/
def System.highPriorityQueued (s : System P Db) : Nat :=
  s.writer.queue.countP fun item => !isLog item

/-- The request log the consumer has taken and not yet released. -/
def Consumer.logsHeld : Consumer P → Nat
  | .holding task | .settling task _ => if task.isLowPriorityLog then 1 else 0
  | _ => 0

/-- The threads `busy` are inside the low-priority branch of `enqueue`, and every slot that
counts as pending is theirs, on the queue or with the consumer. -/
structure Slots (s : System P Db) (busy : List Nat) : Prop where
  nodup : busy.Nodup
  mem_iff : ∀ thread, thread ∈ busy ↔ s.producers thread ≠ .idle
  logs : ∀ thread task, s.producers thread = .admitted task → task.isLowPriorityLog = true
  pending_eq : s.writer.pendingLowPriorityLogs =
    busy.length + s.consumer.logsHeld + s.lowPriorityQueued

/-- Every item on the queue is a log or none. -/
theorem length_queue (s : System P Db) :
    s.writer.queue.length = s.lowPriorityQueued + s.highPriorityQueued := by
  unfold System.lowPriorityQueued System.highPriorityQueued
  induction s.writer.queue with
  | nil => rfl
  | cons item rest ih =>
      rw [List.length_cons, List.countP_cons, List.countP_cons]
      cases isLog item <;> simp <;> omega

theorem mem_cons_iff_update {s : System P Db} {busy : List Nat}
    (hmem : ∀ thread, thread ∈ busy ↔ s.producers thread ≠ .idle) (thread : Nat)
    {position : Producer P} (hposition : position ≠ .idle) (other : Nat) :
    other ∈ thread :: busy ↔
      Function.update s.producers thread position other ≠ .idle := by
  by_cases hother : other = thread
  · simp [hother, hposition]
  · simp [hother, hmem]

theorem mem_erase_iff_update {s : System P Db} {busy : List Nat} (hnodup : busy.Nodup)
    (hmem : ∀ thread, thread ∈ busy ↔ s.producers thread ≠ .idle) (thread other : Nat) :
    other ∈ busy.erase thread ↔ Function.update s.producers thread .idle other ≠ .idle := by
  rw [hnodup.mem_erase_iff]
  by_cases hother : other = thread
  · simp [hother]
  · simp [hother, hmem]

/-- A producer that returns leaves the busy ones. -/
theorem length_erase_busy {s : System P Db} {busy : List Nat} (hslots : Slots s busy)
    {thread : Nat} (h : s.producers thread ≠ .idle) :
    busy.length = (busy.erase thread).length + 1 := by
  have hmem := (hslots.mem_iff thread).mpr h
  have hpos := List.length_pos_of_mem hmem
  rw [List.length_erase_of_mem hmem]
  omega

/-- Only logs are admitted, whatever position a producer moves to. -/
theorem Slots.logs_update {s : System P Db} {busy : List Nat} (hslots : Slots s busy)
    {thread : Nat} {position : Producer P}
    (hposition : ∀ task, position = .admitted task → task.isLowPriorityLog = true)
    (other : Nat) (task : WriteTask P)
    (h : Function.update s.producers thread position other = .admitted task) :
    task.isLowPriorityLog = true := by
  by_cases hsame : other = thread
  · rw [hsame, Function.update_self] at h
    exact hposition task h
  · rw [Function.update_of_ne hsame] at h
    exact hslots.logs other task h

/-- A producer that is admitted takes a slot. -/
theorem Slots.admitted {s s' : System P Db} {busy : List Nat} (hslots : Slots s busy)
    {thread : Nat} {task : WriteTask P} (hidle : s.producers thread = .idle)
    (hlow : task.isLowPriorityLog = true)
    (hproducers : s'.producers = Function.update s.producers thread (.admitted task))
    (hpending : s'.writer.pendingLowPriorityLogs = s.writer.pendingLowPriorityLogs + 1)
    (hconsumer : s'.consumer = s.consumer) (hqueue : s'.writer.queue = s.writer.queue) :
    Slots s' (thread :: busy) where
  nodup := List.nodup_cons.mpr ⟨fun h => (hslots.mem_iff thread).mp h hidle, hslots.nodup⟩
  mem_iff := by
    rw [hproducers]
    exact mem_cons_iff_update hslots.mem_iff thread (by simp)
  logs := by
    rw [hproducers]
    refine hslots.logs_update fun other hother => ?_
    cases hother
    exact hlow
  pending_eq := by
    have hslot := hslots.pending_eq
    unfold System.lowPriorityQueued at hslot ⊢
    rw [hpending, hconsumer, hqueue, List.length_cons]
    omega

/-- A producer that returns gives its slot to the queue or back. -/
theorem Slots.returned {s s' : System P Db} {busy : List Nat} (hslots : Slots s busy)
    {thread : Nat} (hbusy : s.producers thread ≠ .idle)
    (hproducers : s'.producers = Function.update s.producers thread .idle)
    (hconsumer : s'.consumer = s.consumer)
    (hpending : s'.writer.pendingLowPriorityLogs + s.lowPriorityQueued + 1 =
      s.writer.pendingLowPriorityLogs + s'.lowPriorityQueued) :
    Slots s' (busy.erase thread) where
  nodup := hslots.nodup.erase _
  mem_iff := by
    rw [hproducers]
    exact mem_erase_iff_update hslots.nodup hslots.mem_iff thread
  logs := by
    rw [hproducers]
    exact hslots.logs_update fun other hother => nomatch hother
  pending_eq := by
    have hlength := length_erase_busy hslots hbusy
    have hslot := hslots.pending_eq
    rw [hconsumer]
    omega

/-- A busy producer that stays so keeps its slot. -/
theorem Slots.moved {s s' : System P Db} {busy : List Nat} (hslots : Slots s busy)
    {thread : Nat} {position : Producer P} (hbusy : s.producers thread ≠ .idle)
    (hproducers : s'.producers = Function.update s.producers thread position)
    (hstill : position ≠ .idle)
    (hposition : ∀ task, position = .admitted task → task.isLowPriorityLog = true)
    (hwriter : s'.writer = s.writer) (hconsumer : s'.consumer = s.consumer) :
    Slots s' busy where
  nodup := hslots.nodup
  mem_iff := by
    intro other
    rw [hproducers]
    by_cases hsame : other = thread
    · simp [hsame, hslots.mem_iff, hbusy, hstill]
    · simp [hsame, hslots.mem_iff]
  logs := by
    rw [hproducers]
    exact hslots.logs_update hposition
  pending_eq := by
    unfold System.lowPriorityQueued
    rw [hwriter, hconsumer]
    exact hslots.pending_eq

/-- One step of the writer moves slots from place to place. -/
theorem slots_step {conn : Sqlite Db P Err} {s s' : System P Db} {e : Event P}
    (hstep : step conn s e = some s') {busy : List Nat} (hslots : Slots s busy) :
    ∃ busy', Slots s' busy' := by
  obtain ⟨hnodup, hmem, hlogs, hpending⟩ := id hslots
  cases e with
  | admission thread task =>
      simp only [step] at hstep
      split at hstep <;> try contradiction
      rename_i hidle
      split at hstep
      · rename_i hlow
        cases hstep
        unfold System.admission
        dsimp only
        split
        · exact ⟨busy, hnodup, hmem, hlogs, hpending⟩
        · split
          · exact ⟨busy, hnodup, hmem, hlogs, hpending⟩
          · exact ⟨_, hslots.admitted hidle hlow rfl rfl rfl rfl⟩
      · cases hstep
  | putNowait thread =>
      simp only [step] at hstep
      split at hstep <;> try contradiction
      rename_i task hadmitted
      have hbusy : s.producers thread ≠ .idle := by simp [hadmitted]
      have hlow := hlogs thread task hadmitted
      split at hstep
      · cases hstep
        refine ⟨_, hslots.returned hbusy rfl rfl ?_⟩
        have hqueued : ((s.putItem (some task)).setProducer thread .idle).lowPriorityQueued =
            s.lowPriorityQueued + 1 := by
          simp [System.lowPriorityQueued, System.setProducer, System.putItem, isLog, hlow]
        rw [hqueued]
        exact Nat.add_assoc _ _ _
      · cases hstep
        exact ⟨_, hslots.moved hbusy rfl (by simp) (by simp) rfl rfl⟩
  | undo thread =>
      simp only [step] at hstep
      split at hstep <;> try contradiction
      rename_i hfull
      cases hstep
      have hbusy : s.producers thread ≠ .idle := by simp [hfull]
      have hlength := length_erase_busy hslots hbusy
      refine ⟨_, hslots.returned hbusy rfl rfl ?_⟩
      change s.writer.pendingLowPriorityLogs - 1 + s.lowPriorityQueued + 1 =
        s.writer.pendingLowPriorityLogs + s.lowPriorityQueued
      omega
  | put task =>
      simp only [step] at hstep
      split at hstep <;> try contradiction
      rename_i hroom
      cases hstep
      have hhigh : task.isLowPriorityLog = false := by
        simp only [Bool.and_eq_true, Bool.not_eq_true'] at hroom
        exact hroom.1
      refine ⟨busy, hnodup, hmem, hlogs, ?_⟩
      simpa [System.lowPriorityQueued, System.putItem, isLog, hhigh] using hpending
  | stop =>
      simp only [step] at hstep
      split at hstep <;> try contradiction
      cases hstep
      refine ⟨busy, hnodup, hmem, hlogs, ?_⟩
      simpa [System.lowPriorityQueued, System.putItem, isLog] using hpending
  | setPolicy enabled queueSize =>
      cases hstep
      exact ⟨busy, hnodup, hmem, hlogs, hpending⟩
  | get =>
      simp only [step] at hstep
      split at hstep <;> try contradiction
      rename_i hwaiting
      simp only [System.take] at hstep
      refine ⟨busy, ?_⟩
      rw [hwaiting] at hpending
      split at hstep
      · cases hstep
      · rename_i task rest hqueue
        cases hstep
        refine ⟨hnodup, hmem, hlogs, ?_⟩
        simp only [System.lowPriorityQueued, hqueue, List.countP_cons, isLog,
          Consumer.logsHeld] at hpending ⊢
        cases hlow : task.isLowPriorityLog <;> simp [hlow] at hpending ⊢ <;> omega
      · rename_i rest hqueue
        cases hstep
        refine ⟨hnodup, hmem, hlogs, ?_⟩
        simpa [System.lowPriorityQueued, hqueue, isLog, Consumer.logsHeld] using hpending
  | execute =>
      simp only [step] at hstep
      split at hstep <;> try contradiction
      rename_i task hholding
      cases hstep
      refine ⟨busy, ?_⟩
      rw [hholding] at hpending
      simp only [System.perform]
      split <;> exact ⟨hnodup, hmem, hlogs, hpending⟩
  | settle =>
      simp only [step] at hstep
      split at hstep <;> try contradiction
      rename_i task raised hsettling
      cases hstep
      refine ⟨busy, hnodup, hmem, hlogs, ?_⟩
      have hheld : (s.settle task raised).consumer.logsHeld = 0 := by
        cases raised <;> rfl
      rw [hsettling] at hpending
      rw [hheld]
      simp only [System.settle, System.lowPriorityQueued, Consumer.logsHeld] at hpending ⊢
      split <;> rename_i hlow <;> simp only [hlow, if_true] at hpending
      · omega
      · simpa [hlow] using hpending

/-- In every reachable state the pending counter counts slots. -/
theorem run_slots {conn : Sqlite Db P Err} {enabled : Bool} {size : Int} {db₀ : Db}
    {events : List (Event P)} {s : System P Db}
    (hrun : run (step conn) (System.start enabled size db₀) events = some s) :
    ∃ busy, Slots s busy := by
  refine run_invariant (fun s : System P Db => ∃ busy, Slots s busy) ?_ hrun ?_
  · rintro s e s' hstep ⟨busy, hslots⟩
    exact slots_step hstep hslots
  · refine ⟨[], List.nodup_nil, ?_, ?_, rfl⟩
    · simp [System.start]
    · simp [System.start]

/-! ## Policies -/

/-- The policy changes of an event are among those of `Policy`. -/
def Event.Obeys (Policy : Bool → Int → Prop) : Event P → Prop
  | .setPolicy enabled queueSize => Policy enabled queueSize
  | _ => True

/-- What a step does to the capacity, the pending counter and the policy: the capacity
stays, the counter grows only up to the limit of an enabled policy, and only a change of
policy changes the limit. -/
structure PolicyStep (s s' : System P Db) (e : Event P) : Prop where
  maxsize : s'.writer.maxsize = s.writer.maxsize
  pending : s'.writer.pendingLowPriorityLogs ≤ s.writer.pendingLowPriorityLogs ∨
    s.writer.lowPriorityLogEnabled = true ∧
      s'.writer.pendingLowPriorityLogs ≤ s.writer.lowPriorityLogQueueSize
  policy : s'.writer.lowPriorityLogEnabled = s.writer.lowPriorityLogEnabled ∧
      s'.writer.lowPriorityLogQueueSize = s.writer.lowPriorityLogQueueSize ∨
    ∃ enabled queueSize, e = .setPolicy enabled queueSize ∧
      s'.writer.lowPriorityLogEnabled = enabled ∧
      s'.writer.lowPriorityLogQueueSize = max queueSize.toNat 1

theorem policyStep_of_step {conn : Sqlite Db P Err} {s s' : System P Db} {e : Event P}
    (hstep : step conn s e = some s') : PolicyStep s s' e := by
  cases e with
  | admission thread task =>
      simp only [step] at hstep
      split at hstep <;> try contradiction
      split at hstep <;> cases hstep
      unfold System.admission
      dsimp only
      split
      · exact ⟨rfl, .inl (Nat.le_refl _), .inl ⟨rfl, rfl⟩⟩
      · rename_i henabled
        split
        · exact ⟨rfl, .inl (Nat.le_refl _), .inl ⟨rfl, rfl⟩⟩
        · rename_i hroom
          refine ⟨rfl, .inr ⟨by simpa using henabled, ?_⟩, .inl ⟨rfl, rfl⟩⟩
          change s.writer.pendingLowPriorityLogs + 1 ≤ s.writer.lowPriorityLogQueueSize
          omega
  | putNowait thread =>
      simp only [step] at hstep
      split at hstep <;> try contradiction
      split at hstep <;> cases hstep <;>
        exact ⟨rfl, .inl (Nat.le_refl _), .inl ⟨rfl, rfl⟩⟩
  | undo thread =>
      simp only [step] at hstep
      split at hstep <;> cases hstep
      exact ⟨rfl, .inl (Nat.sub_le _ _), .inl ⟨rfl, rfl⟩⟩
  | put task =>
      simp only [step] at hstep
      split at hstep <;> cases hstep
      exact ⟨rfl, .inl (Nat.le_refl _), .inl ⟨rfl, rfl⟩⟩
  | stop =>
      simp only [step] at hstep
      split at hstep <;> cases hstep
      exact ⟨rfl, .inl (Nat.le_refl _), .inl ⟨rfl, rfl⟩⟩
  | setPolicy enabled queueSize =>
      cases hstep
      exact ⟨rfl, .inl (Nat.le_refl _), .inr ⟨enabled, queueSize, rfl, rfl, rfl⟩⟩
  | get =>
      simp only [step] at hstep
      split at hstep <;> try contradiction
      simp only [System.take] at hstep
      split at hstep <;> cases hstep <;>
        exact ⟨rfl, .inl (Nat.le_refl _), .inl ⟨rfl, rfl⟩⟩
  | execute =>
      simp only [step] at hstep
      split at hstep <;> cases hstep
      simp only [System.perform]
      split <;> exact ⟨rfl, .inl (Nat.le_refl _), .inl ⟨rfl, rfl⟩⟩
  | settle =>
      simp only [step] at hstep
      split at hstep <;> cases hstep
      refine ⟨rfl, .inl ?_, .inl ⟨rfl, rfl⟩⟩
      simp only [System.settle]
      split <;> omega

/-- A writer built for `limit` logs none of whose enabled policies admits more. -/
structure Limited (limit : Nat) (s : System P Db) : Prop where
  maxsize : s.writer.maxsize = limit + highPriorityQueueReserve
  pending : s.writer.pendingLowPriorityLogs ≤ limit
  policy : s.writer.lowPriorityLogEnabled = true → s.writer.lowPriorityLogQueueSize ≤ limit

theorem limited_step {conn : Sqlite Db P Err} {limit : Nat} {s s' : System P Db} {e : Event P}
    (hstep : step conn s e = some s')
    (hobeys : e.Obeys fun enabled queueSize => enabled = true → max queueSize.toNat 1 ≤ limit)
    (h : Limited limit s) : Limited limit s' := by
  obtain ⟨hmaxsize, hpending, hpolicy⟩ := policyStep_of_step hstep
  refine ⟨hmaxsize.trans h.maxsize, ?_, ?_⟩
  · rcases hpending with hless | ⟨henabled, hless⟩
    · exact Nat.le_trans hless h.pending
    · exact Nat.le_trans hless (h.policy henabled)
  · rcases hpolicy with ⟨henabled, hsize⟩ | ⟨enabled, queueSize, rfl, henabled, hsize⟩
    · rw [henabled, hsize]
      exact h.policy
    · rw [henabled, hsize]
      exact hobeys

/-- The reserve is free of request logs, and a writer whose reserve is not full of other
tasks accepts one more at once. -/
def System.ReserveKept (conn : Sqlite Db P Err) (s : System P Db) : Prop :=
  s.lowPriorityQueued ≤ s.writer.maxsize - highPriorityQueueReserve ∧
    (s.highPriorityQueued < highPriorityQueueReserve →
      ∀ task : WriteTask P, task.isLowPriorityLog = false →
        ∃ s', step conn s (.put task) = some s')

theorem Limited.reserveKept {conn : Sqlite Db P Err} {limit : Nat} {s : System P Db}
    (h : Limited limit s) {busy : List Nat} (hslots : Slots s busy) : s.ReserveKept conn := by
  have hpending := hslots.pending_eq
  have hlimit := h.pending
  have hmaxsize := h.maxsize
  refine ⟨by omega, ?_⟩
  intro hhigh task htask
  have hroom : s.writer.queue.length < s.writer.maxsize := by
    rw [length_queue]
    omega
  simp [step, htask, hroom]

/-! ## Filling the queue with logs -/

/-- One request log, admitted and put on the queue by thread 0. -/
def logTask : WriteTask P where
  sql := "INSERT INTO request_log"
  params := []
  isLowPriorityLog := true

/-- The steps of `n` calls that each enqueue a log. -/
def fillingSteps : Nat → List (Event P)
  | 0 => []
  | n + 1 => .admission 0 logTask :: .putNowait 0 :: fillingSteps n

/-- As long as the policy and the queue have room, every log is accepted. -/
theorem run_fillingSteps (conn : Sqlite Db P Err) (n : Nat) {s : System P Db}
    (hidle : s.producers 0 = .idle) (henabled : s.writer.lowPriorityLogEnabled = true)
    (hpolicy : s.writer.pendingLowPriorityLogs + n ≤ s.writer.lowPriorityLogQueueSize)
    (hroom : s.writer.queue.length + n ≤ s.writer.maxsize) :
    ∃ s', run (step conn) s (fillingSteps n) = some s' ∧
      s'.lowPriorityQueued = s.lowPriorityQueued + n ∧
      s'.highPriorityQueued = s.highPriorityQueued ∧ s'.writer.maxsize = s.writer.maxsize := by
  induction n generalizing s with
  | zero => exact ⟨s, rfl, rfl, rfl, rfl⟩
  | succ n ih =>
      have hless : ¬ s.writer.lowPriorityLogQueueSize ≤ s.writer.pendingLowPriorityLogs := by
        omega
      have hfits : s.writer.queue.length < s.writer.maxsize := by omega
      let s₁ : System P Db := { s with
        writer := { s.writer with
          pendingLowPriorityLogs := s.writer.pendingLowPriorityLogs + 1 }
        producers := Function.update s.producers 0 (.admitted logTask) }
      let s₂ : System P Db := (s₁.putItem (some logTask)).setProducer 0 .idle
      have hadmission : step conn s (.admission 0 logTask) = some s₁ := by
        simp [step, hidle, logTask, System.admission, henabled, hless, System.setProducer, s₁]
      have hput : step conn s₁ (.putNowait 0) = some s₂ := by
        simp [step, s₁, s₂, hfits]
      have hqueued : s₂.lowPriorityQueued = s.lowPriorityQueued + 1 := by
        simp [System.lowPriorityQueued, s₂, s₁, System.putItem, System.setProducer, isLog,
          logTask]
      have hothers : s₂.highPriorityQueued = s.highPriorityQueued := by
        simp [System.highPriorityQueued, s₂, s₁, System.putItem, System.setProducer, isLog,
          logTask]
      obtain ⟨s', hrun, hlow, hhigh, hmaxsize⟩ := ih (s := s₂) (by simp [s₂, System.setProducer])
        henabled
        (by
          change s.writer.pendingLowPriorityLogs + 1 + n ≤ s.writer.lowPriorityLogQueueSize
          omega)
        (by
          change (s.writer.queue ++ [some logTask]).length + n ≤ s.writer.maxsize
          rw [List.length_append, List.length_singleton]
          omega)
      refine ⟨s', ?_, ?_, hhigh.trans hothers, hmaxsize⟩
      · rw [fillingSteps, run_cons_of_step hadmission, run_cons_of_step hput, hrun]
      · rw [hlow, hqueued]
        omega

/-! ## The reserve -/

/-- In every reachable state the reserve is kept, whatever the interleaving, exactly when no
policy that is applied with logging enabled admits more logs than the writer was built
for. -/
theorem reserve_kept_iff (conn : Sqlite Db P Err) (Policy : Bool → Int → Prop)
    (enabled : Bool) (size : Int) (db₀ : Db) :
    (∀ (events : List (Event P)) (s : System P Db), (∀ e ∈ events, e.Obeys Policy) →
        run (step conn) (System.start enabled size db₀) events = some s →
          s.ReserveKept conn) ↔
      ∀ queueSize, Policy true queueSize → max queueSize.toNat 1 ≤ max size.toNat 1 := by
  constructor
  · intro hkept queueSize hpolicy
    by_contra hmore
    rw [Nat.not_le] at hmore
    let s₁ : System P Db := { System.start enabled size db₀ with
      writer := { DBWriter.init P enabled size with
        lowPriorityLogEnabled := true
        lowPriorityLogQueueSize := max queueSize.toNat 1 } }
    have hset : step conn (System.start enabled size db₀) (.setPolicy true queueSize) =
        some s₁ := rfl
    obtain ⟨s', hrun, hlow, -, hmaxsize⟩ := run_fillingSteps conn (max size.toNat 1 + 1)
      (s := s₁) rfl rfl
      (by
        change 0 + (max size.toNat 1 + 1) ≤ max queueSize.toNat 1
        omega)
      (by
        change 0 + (max size.toNat 1 + 1) ≤ max size.toNat 1 + highPriorityQueueReserve
        unfold highPriorityQueueReserve
        omega)
    have hobeys : ∀ n, ∀ e ∈ (fillingSteps n : List (Event P)), e.Obeys Policy := by
      intro n
      induction n with
      | zero => simp [fillingSteps]
      | succ n ih =>
          intro e he
          simp only [fillingSteps, List.mem_cons] at he
          rcases he with rfl | rfl | hrest
          · trivial
          · trivial
          · exact ih e hrest
    have hall : ∀ e ∈ Event.setPolicy true queueSize :: fillingSteps (max size.toNat 1 + 1),
        (e : Event P).Obeys Policy := by
      rw [List.forall_mem_cons]
      exact ⟨hpolicy, hobeys _⟩
    have hbound := (hkept _ s' hall (by rw [run_cons_of_step hset, hrun])).1
    have hzero : s₁.lowPriorityQueued = 0 := rfl
    have hcapacity : s₁.writer.maxsize = max size.toNat 1 + highPriorityQueueReserve := rfl
    omega
  · intro hpolicies events s hobeys hrun
    obtain ⟨busy, hslots⟩ := run_slots hrun
    have hlimited : Limited (max size.toNat 1) s := by
      refine run_guarded_invariant (Limited (max size.toNat 1))
        (fun _ _ _ hstep hguard h => limited_step hstep hguard h) hrun
        (guarded_of_forall_mem ?_ _) ⟨rfl, Nat.zero_le _, fun _ => Nat.le_refl _⟩
      intro e he
      have hobey := hobeys e he
      cases e with
      | setPolicy enabled queueSize =>
          rintro rfl
          exact hpolicies queueSize hobey
      | _ => trivial
    exact hlimited.reserveKept hslots

end Reserve

/-- A writer built for 5000 logs and configured for 6000 can hold nothing but logs: with no
other task on the queue, a metadata write blocks. -/
theorem logs_fill_reserve :
    ∃ s, run (step recordingConnection) (System.start true 5000 [])
        (.setPolicy true 6000 :: fillingSteps 5256) = some s ∧
      s.writer.maxsize - highPriorityQueueReserve < s.lowPriorityQueued ∧
      s.highPriorityQueued = 0 ∧ step recordingConnection s (.put metadataWrite) = none := by
  have hset : step recordingConnection (System.start true 5000 []) (.setPolicy true 6000) =
      some _ := rfl
  obtain ⟨s, hrun, hlow, hhigh, hmaxsize⟩ := run_fillingSteps recordingConnection 5256
    (s := { System.start true 5000 [] with
      writer := { DBWriter.init (PyValue Exact) true 5000 with
        lowPriorityLogEnabled := true, lowPriorityLogQueueSize := 6000 } })
    rfl rfl (by decide) (by decide)
  have hlow' : s.lowPriorityQueued = 5256 := hlow
  have hmaxsize' : s.writer.maxsize = 5256 := hmaxsize
  have hlength : s.writer.queue.length = 5256 := by
    rw [length_queue, hlow', hhigh]
    rfl
  refine ⟨s, (run_cons_of_step hset _).trans hrun, ?_, hhigh, ?_⟩
  · rw [hlow', hmaxsize']
    decide
  · simp [step, hlength, hmaxsize']

end Store
end FreeLunch
