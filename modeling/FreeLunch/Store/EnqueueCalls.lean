import FreeLunch.Store.QueueReserve

/-!
# The calls of `enqueue`

Producers call `enqueue` one call at a time.  A call for a request log is admitted or
rejected under the lock, then put on the queue without waiting or undone; any other call
waits until the queue has room.  This module numbers the calls in the order in which they
begin, runs them on the writer system, and follows each of them to what it returns and to
the moment its task is executed.

Main results:

- Theorem `tracks_run`: the calls account for the writer's positions, queue and counters.
- Theorem `enqueue_accounted`: what the counters count, which tasks are executed, and in
  which order.

Current gaps:

- `stop` takes no part: after the sentinel nothing is executed.
-/

namespace FreeLunch
namespace Store

open Runs Python

/-! ## Calls -/

/-- Where a call of `enqueue` stands: it waits in `put`, it stands between its admission and
its return, or it has returned. -/
inductive Stage where
  | blocked
  | admitted
  | full
  | rejected
  | undone
  | queued
deriving DecidableEq, Repr

/-- What a call that returned has returned. -/
def Stage.result : Stage → Option Bool
  | .queued => some true
  | .rejected | .undone => some false
  | _ => none

/-- The call has returned `False`. -/
def Stage.dropped : Stage → Bool
  | .rejected | .undone => true
  | _ => false

/-- The call took a slot and has not given it back itself. -/
def Stage.holdsSlot : Stage → Bool
  | .admitted | .full | .queued => true
  | _ => false

/-- The stages a call for a log can reach, and those of any other call. -/
def Stage.Suits (isLowPriorityLog : Bool) : Stage → Prop
  | .blocked => isLowPriorityLog = false
  | .queued => True
  | _ => isLowPriorityLog = true

/-- A call of `enqueue`. -/
structure Call (P : Type) where
  thread : Nat
  task : WriteTask P
  stage : Stage

/-- The writer system with the calls in the order in which they began, a call's number
being its place, and the numbers of those whose tasks were put on the queue, in the order
of their `put`. -/
structure Traced (P Db : Type) where
  system : System P Db
  calls : List (Call P)
  order : List Nat

/-- One step of a producer, of the owner or of the consumer thread. -/
inductive TracedEvent (P : Type) where
  /-- A thread that is in no call begins one. -/
  | enqueue (thread : Nat) (task : WriteTask P)
  /-- The next step of a call in progress. -/
  | proceed (call : Nat)
  | setPolicy (enabled : Bool) (queueSize : Int)
  | get
  | execute
  | settle

section Calls

variable {P Db Err : Type}

/-- Where the low-priority branch of `enqueue` stands in a call. -/
def Call.position (call : Call P) : Producer P :=
  match call.stage with
  | .admitted => .admitted call.task
  | .full => .full
  | _ => .idle

/-- A started writer and no call yet. -/
def Traced.start (lowPriorityLogEnabled : Bool) (lowPriorityLogQueueSize : Int) (db : Db) :
    Traced P Db where
  system := .start lowPriorityLogEnabled lowPriorityLogQueueSize db
  calls := []
  order := []

/-- The thread is inside a call. -/
def Traced.inCall (t : Traced P Db) (thread : Nat) : Bool :=
  t.calls.any fun call => call.thread == thread && call.stage.result.isNone

/-- A call reaches a stage, in a system that has taken the step. -/
def Traced.advance (t : Traced P Db) (system : System P Db) (number : Nat) (call : Call P)
    (stage : Stage) : Traced P Db where
  system := system
  calls := t.calls.set number { call with stage := stage }
  order := if stage = .queued then t.order ++ [number] else t.order

/-- The first step of a call for a log: the section under the lock. -/
def Traced.beginLog (conn : Sqlite Db P Err) (t : Traced P Db) (thread : Nat)
    (task : WriteTask P) : Option (Traced P Db) :=
  (step conn t.system (.admission t.calls.length task)).map fun system =>
    { t with
      system := system
      calls := t.calls ++ [⟨thread, task,
        match system.producers t.calls.length with
        | .idle => .rejected
        | _ => .admitted⟩] }

/-- The next step of call `number`. -/
def Traced.proceed (conn : Sqlite Db P Err) (t : Traced P Db) (number : Nat) (call : Call P) :
    Option (Traced P Db) :=
  match call.stage with
  | .blocked =>
      (step conn t.system (.put call.task)).map fun system => t.advance system number call .queued
  | .admitted =>
      (step conn t.system (.putNowait number)).map fun system =>
        t.advance system number call
          (match system.producers number with
          | .idle => .queued
          | _ => .full)
  | .full =>
      (step conn t.system (.undo number)).map fun system => t.advance system number call .undone
  | _ => none

/-- The step relation. -/
def traceStep (conn : Sqlite Db P Err) (t : Traced P Db) :
    TracedEvent P → Option (Traced P Db)
  | .enqueue thread task =>
      if t.inCall thread then none
      else if task.isLowPriorityLog then t.beginLog conn thread task
      else some { t with calls := t.calls ++ [⟨thread, task, .blocked⟩] }
  | .proceed number => t.calls[number]?.bind (t.proceed conn number)
  | .setPolicy enabled queueSize =>
      (step conn t.system (.setPolicy enabled queueSize)).map fun system =>
        { t with system := system }
  | .get => (step conn t.system .get).map fun system => { t with system := system }
  | .execute => (step conn t.system .execute).map fun system => { t with system := system }
  | .settle => (step conn t.system .settle).map fun system => { t with system := system }

/-! ## What a step does to the calls -/

/-- The fields of the system that the calls account for. -/
structure SameTrace (s s' : System P Db) : Prop where
  producers : s'.producers = s.producers
  accepted : s'.accepted = s.accepted
  dropped : s'.writer.droppedLowPriorityLogs = s.writer.droppedLowPriorityLogs

/-- What a step does: a call begins, a call in progress reaches its next stage, or the
owner or the consumer acts. -/
inductive CallStep (t t' : Traced P Db) : Prop where
  | begins (call : Call P) (hfree : t.inCall call.thread = false)
      (hsuits : call.stage.Suits call.task.isLowPriorityLog) (hstage : call.stage ≠ .queued)
      (hcalls : t'.calls = t.calls ++ [call]) (horder : t'.order = t.order)
      (hproducers : t'.system.producers =
        Function.update t.system.producers t.calls.length call.position)
      (haccepted : t'.system.accepted = t.system.accepted)
      (hdropped : t'.system.writer.droppedLowPriorityLogs =
        t.system.writer.droppedLowPriorityLogs + if call.stage.dropped then 1 else 0)
  | advances (number : Nat) (call : Call P) (stage : Stage)
      (hcall : t.calls[number]? = some call) (hresult : call.stage.result = none)
      (hsuits : stage.Suits call.task.isLowPriorityLog)
      (hcalls : t'.calls = t.calls.set number { call with stage := stage })
      (horder : t'.order = if stage = .queued then t.order ++ [number] else t.order)
      (hproducers : t'.system.producers =
        Function.update t.system.producers number
          { call with stage := stage : Call P }.position)
      (haccepted : t'.system.accepted =
        if stage = .queued then t.system.accepted ++ [some call.task] else t.system.accepted)
      (hdropped : t'.system.writer.droppedLowPriorityLogs =
        t.system.writer.droppedLowPriorityLogs + if stage.dropped then 1 else 0)
  | other (hsame : SameTrace t.system t'.system) (hcalls : t'.calls = t.calls)
      (horder : t'.order = t.order)

/-- The thread and the task of a call, which never change. -/
def Traced.threadOf (t : Traced P Db) (number : Nat) : Option Nat :=
  t.calls[number]?.map Call.thread

/-- The task of a call. -/
def Traced.taskOf (t : Traced P Db) (number : Nat) : Option (WriteTask P) :=
  t.calls[number]?.map Call.task

/-- The calls account for the system. -/
structure Tracks (t : Traced P Db) : Prop where
  producers : ∀ number,
    t.system.producers number = (t.calls[number]?.map Call.position).getD .idle
  suits : ∀ call ∈ t.calls, call.stage.Suits call.task.isLowPriorityLog
  accepted : t.system.accepted = t.order.map t.taskOf
  nodup : t.order.Nodup
  mem_order : ∀ number, number ∈ t.order ↔
    ∃ call, t.calls[number]? = some call ∧ call.stage = .queued
  dropped : t.system.writer.droppedLowPriorityLogs =
    t.calls.countP fun call => call.stage.dropped
  turns : ∀ (i j : Nat) (a b : Call P), i < j → t.calls[i]? = some a → t.calls[j]? = some b →
    a.thread = b.thread → a.stage.result ≠ none
  fifo : t.order.Pairwise fun i j => t.threadOf i = t.threadOf j → i < j

/-- Steps of the owner and the consumer leave the producers, the accepted items and the
dropped logs alone. -/
theorem sameTrace_of_step {conn : Sqlite Db P Err} {s s' : System P Db} {e : Event P}
    (hstep : step conn s e = some s')
    (he : e.isConsumer = true ∨ ∃ enabled queueSize, e = .setPolicy enabled queueSize) :
    SameTrace s s' := by
  rcases he with hconsumer | ⟨enabled, queueSize, rfl⟩
  · cases e <;> simp only [Event.isConsumer] at hconsumer <;> try contradiction
    · simp only [step] at hstep
      split at hstep <;> try contradiction
      simp only [System.take] at hstep
      split at hstep <;> cases hstep <;> exact ⟨rfl, rfl, rfl⟩
    · simp only [step] at hstep
      split at hstep <;> cases hstep
      simp only [System.perform]
      split <;> exact ⟨rfl, rfl, rfl⟩
    · simp only [step] at hstep
      split at hstep <;> cases hstep
      exact ⟨rfl, rfl, rfl⟩
  · cases hstep
    exact ⟨rfl, rfl, rfl⟩

/-- A position that is taken anyway. -/
theorem update_position {t : Traced P Db} (h : Tracks t) {number : Nat} {call : Call P}
    (hcall : t.calls[number]? = some call) {position : Producer P}
    (hposition : call.position = position) :
    Function.update t.system.producers number position = t.system.producers := by
  have hproducer := h.producers number
  simp only [hcall, Option.map_some, Option.getD_some] at hproducer
  rw [← hposition, ← hproducer, Function.update_eq_self]

theorem callStep_of_step {conn : Sqlite Db P Err} {t t' : Traced P Db} {e : TracedEvent P}
    (hstep : traceStep conn t e = some t') (h : Tracks t) : CallStep t t' := by
  have hnew : t.system.producers t.calls.length = .idle := by
    rw [h.producers]
    simp
  cases e with
  | enqueue thread task =>
      simp only [traceStep] at hstep
      split at hstep
      · cases hstep
      · rename_i hfree
        rw [Bool.not_eq_true] at hfree
        split at hstep
        · rename_i hlow
          obtain ⟨system, hsystem, rfl⟩ := Option.map_eq_some_iff.mp hstep
          simp only [step, hnew, hlow, if_true, Option.some.injEq] at hsystem
          subst hsystem
          unfold System.admission
          dsimp only
          split
          · refine .begins ⟨thread, task, .rejected⟩ hfree hlow (by simp) ?_ rfl ?_ rfl rfl
            · simp [hnew]
            · simp [Call.position, ← hnew]
          · split
            · refine .begins ⟨thread, task, .rejected⟩ hfree hlow (by simp) ?_ rfl ?_ rfl rfl
              · simp [hnew]
              · simp [Call.position, ← hnew]
            · refine .begins ⟨thread, task, .admitted⟩ hfree hlow (by simp) ?_ rfl ?_ rfl rfl
              · simp [System.setProducer]
              · simp [System.setProducer, Call.position]
        · rename_i hhigh
          cases hstep
          refine .begins ⟨thread, task, .blocked⟩ hfree ?_ (by simp) rfl rfl ?_ rfl rfl
          · simpa [Stage.Suits] using hhigh
          · simp [Call.position, ← hnew]
  | proceed number =>
      simp only [traceStep] at hstep
      obtain ⟨call, hcall, hproceed⟩ := Option.bind_eq_some_iff.mp hstep
      have hsuits := h.suits call (List.mem_of_getElem? hcall)
      have hproducer := h.producers number
      simp only [hcall, Option.map_some, Option.getD_some, Call.position] at hproducer
      unfold Traced.proceed at hproceed
      cases hstage : call.stage with
      | blocked =>
          simp only [hstage] at hproceed hproducer
          obtain ⟨system, hsystem, rfl⟩ := Option.map_eq_some_iff.mp hproceed
          simp only [step] at hsystem
          split at hsystem <;> cases hsystem
          refine .advances number call .queued hcall (by simp [hstage, Stage.result]) trivial rfl
            rfl ?_ rfl rfl
          have hposition : call.position = .idle := by simp [Call.position, hstage]
          exact (update_position h hcall hposition).symm
      | admitted =>
          rw [hstage] at hsuits
          simp only [hstage] at hproceed hproducer
          obtain ⟨system, hsystem, rfl⟩ := Option.map_eq_some_iff.mp hproceed
          simp only [step, hproducer] at hsystem
          split at hsystem <;> cases hsystem
          · have hidle : (((t.system.putItem (some call.task)).setProducer number
                .idle).producers number) = .idle := by simp [System.setProducer]
            rw [hidle]
            exact .advances number call .queued hcall (by simp [hstage, Stage.result]) trivial
              rfl rfl rfl rfl rfl
          · have hfull : (t.system.setProducer number .full).producers number = .full := by
              simp [System.setProducer]
            rw [hfull]
            exact .advances number call .full hcall (by simp [hstage, Stage.result]) hsuits
              rfl rfl rfl rfl rfl
      | full =>
          rw [hstage] at hsuits
          simp only [hstage] at hproceed hproducer
          obtain ⟨system, hsystem, rfl⟩ := Option.map_eq_some_iff.mp hproceed
          simp only [step, hproducer, Option.some.injEq] at hsystem
          subst hsystem
          exact .advances number call .undone hcall (by simp [hstage, Stage.result]) hsuits
            rfl rfl rfl rfl rfl
      | rejected => simp [hstage] at hproceed
      | undone => simp [hstage] at hproceed
      | queued => simp [hstage] at hproceed
  | setPolicy enabled queueSize =>
      simp only [traceStep] at hstep
      obtain ⟨system, hsystem, rfl⟩ := Option.map_eq_some_iff.mp hstep
      exact .other (sameTrace_of_step hsystem (.inr ⟨enabled, queueSize, rfl⟩)) rfl rfl
  | get =>
      obtain ⟨system, hsystem, rfl⟩ := Option.map_eq_some_iff.mp hstep
      exact .other (sameTrace_of_step hsystem (.inl rfl)) rfl rfl
  | execute =>
      obtain ⟨system, hsystem, rfl⟩ := Option.map_eq_some_iff.mp hstep
      exact .other (sameTrace_of_step hsystem (.inl rfl)) rfl rfl
  | settle =>
      obtain ⟨system, hsystem, rfl⟩ := Option.map_eq_some_iff.mp hstep
      exact .other (sameTrace_of_step hsystem (.inl rfl)) rfl rfl

/-! ## The calls account for the system -/

/-- A call that begins keeps the accounting. -/
theorem Tracks.begins {t t' : Traced P Db} (h : Tracks t) {call : Call P}
    (hfree : t.inCall call.thread = false)
    (hsuits : call.stage.Suits call.task.isLowPriorityLog) (hstage : call.stage ≠ .queued)
    (hcalls : t'.calls = t.calls ++ [call]) (horder : t'.order = t.order)
    (hproducers : t'.system.producers =
      Function.update t.system.producers t.calls.length call.position)
    (haccepted : t'.system.accepted = t.system.accepted)
    (hdropped : t'.system.writer.droppedLowPriorityLogs =
      t.system.writer.droppedLowPriorityLogs + if call.stage.dropped then 1 else 0) :
    Tracks t' := by
  have hold : ∀ number, number < t.calls.length → t'.calls[number]? = t.calls[number]? := by
    intro number hnumber
    rw [hcalls, List.getElem?_append_left hnumber]
  have hlast : t'.calls[t.calls.length]? = some call := by
    rw [hcalls]
    simp
  have hbeyond : ∀ number, t.calls.length < number → t'.calls[number]? = none := by
    intro number hnumber
    rw [hcalls, List.getElem?_eq_none]
    rw [List.length_append, List.length_singleton]
    exact hnumber
  have hmember : ∀ number ∈ t.order, number < t.calls.length := by
    intro number hnumber
    obtain ⟨other, hother, -⟩ := (h.mem_order number).mp hnumber
    exact (List.getElem?_eq_some_iff.mp hother).1
  constructor
  case producers =>
    intro number
    rw [hproducers]
    rcases Nat.lt_trichotomy number t.calls.length with hless | rfl | hmore
    · rw [Function.update_of_ne (Nat.ne_of_lt hless), h.producers, hold number hless]
    · rw [Function.update_self, hlast]
      rfl
    · rw [Function.update_of_ne (Nat.ne_of_gt hmore), h.producers, hbeyond number hmore,
        List.getElem?_eq_none (Nat.le_of_lt hmore)]
  case suits =>
    intro other hother
    rw [hcalls, List.mem_append, List.mem_singleton] at hother
    rcases hother with hother | rfl
    · exact h.suits other hother
    · exact hsuits
  case accepted =>
    rw [haccepted, h.accepted, horder]
    refine List.map_congr_left fun number hnumber => ?_
    unfold Traced.taskOf
    rw [hold number (hmember number hnumber)]
  case nodup =>
    rw [horder]
    exact h.nodup
  case mem_order =>
    intro number
    rw [horder, h.mem_order]
    rcases Nat.lt_trichotomy number t.calls.length with hless | rfl | hmore
    · rw [hold number hless]
    · rw [hlast]
      simp [hstage]
    · rw [hbeyond number hmore, List.getElem?_eq_none (Nat.le_of_lt hmore)]
  case dropped =>
    rw [hdropped, h.dropped, hcalls, List.countP_append]
    simp
  case turns =>
    intro i j a b hij ha hb hthread
    have hi : i < t.calls.length := by
      by_contra hmore
      have hbound := (List.getElem?_eq_some_iff.mp hb).1
      rw [hcalls, List.length_append, List.length_singleton] at hbound
      omega
    rw [hold i hi] at ha
    rcases Nat.lt_trichotomy j t.calls.length with hless | rfl | hmore
    · rw [hold j hless] at hb
      exact h.turns i j a b hij ha hb hthread
    · rw [hlast, Option.some.injEq] at hb
      intro hnone
      unfold Traced.inCall at hfree
      rw [List.any_eq_false] at hfree
      apply hfree a (List.mem_of_getElem? ha)
      simp [hthread, ← hb, hnone]
    · rw [hbeyond j hmore] at hb
      cases hb
  case fifo =>
    rw [horder]
    refine h.fifo.imp_of_mem fun {i j} hi hj hfifo hsame => hfifo ?_
    unfold Traced.threadOf at hsame ⊢
    rwa [hold i (hmember i hi), hold j (hmember j hj)] at hsame

/-- A call that reaches its next stage keeps the accounting. -/
theorem Tracks.advances {t t' : Traced P Db} (h : Tracks t) {number : Nat} {call : Call P}
    {stage : Stage} (hcall : t.calls[number]? = some call) (hresult : call.stage.result = none)
    (hsuits : stage.Suits call.task.isLowPriorityLog)
    (hcalls : t'.calls = t.calls.set number { call with stage := stage })
    (horder : t'.order = if stage = .queued then t.order ++ [number] else t.order)
    (hproducers : t'.system.producers =
      Function.update t.system.producers number { call with stage := stage : Call P }.position)
    (haccepted : t'.system.accepted =
      if stage = .queued then t.system.accepted ++ [some call.task] else t.system.accepted)
    (hdropped : t'.system.writer.droppedLowPriorityLogs =
      t.system.writer.droppedLowPriorityLogs + if stage.dropped then 1 else 0) :
    Tracks t' := by
  obtain ⟨hbound, hget⟩ := List.getElem?_eq_some_iff.mp hcall
  have hself : t'.calls[number]? = some { call with stage := stage } := by
    rw [hcalls, List.getElem?_set_self hbound]
  have hother : ∀ i, i ≠ number → t'.calls[i]? = t.calls[i]? := by
    intro i hi
    rw [hcalls, List.getElem?_set_ne (Ne.symm hi)]
  have htask : t'.taskOf = t.taskOf := by
    funext i
    unfold Traced.taskOf
    by_cases hi : i = number
    · rw [hi, hself, hcall]
      rfl
    · rw [hother i hi]
  have hthread : t'.threadOf = t.threadOf := by
    funext i
    unfold Traced.threadOf
    by_cases hi : i = number
    · rw [hi, hself, hcall]
      rfl
    · rw [hother i hi]
  have habsent : number ∉ t.order := by
    intro hmem
    obtain ⟨queued, hqueued, hstage⟩ := (h.mem_order number).mp hmem
    rw [hcall, Option.some.injEq] at hqueued
    rw [hqueued, hstage] at hresult
    cases hresult
  constructor
  case producers =>
    intro i
    rw [hproducers]
    by_cases hi : i = number
    · rw [hi, Function.update_self, hself]
      rfl
    · rw [Function.update_of_ne hi, h.producers, hother i hi]
  case suits =>
    intro other hmem
    rw [hcalls] at hmem
    rcases List.mem_or_eq_of_mem_set hmem with hold | rfl
    · exact h.suits other hold
    · exact hsuits
  case accepted =>
    rw [haccepted, horder, htask]
    split
    · rw [List.map_append, ← h.accepted]
      simp [Traced.taskOf, hcall]
    · exact h.accepted
  case nodup =>
    rw [horder]
    split
    · refine List.nodup_append.mpr ⟨h.nodup, by simp, ?_⟩
      intro i hi j hj hij
      rw [List.mem_singleton] at hj
      exact habsent (hj ▸ hij ▸ hi)
    · exact h.nodup
  case mem_order =>
    intro i
    rw [horder]
    by_cases hi : i = number
    · subst hi
      rw [hself]
      by_cases hstage : stage = .queued
      · simp [hstage]
      · simp [hstage, habsent]
    · rw [hother i hi, ← h.mem_order]
      by_cases hstage : stage = .queued
      · simp [hstage, hi]
      · simp [hstage]
  case dropped =>
    have hnot : call.stage.dropped = false := by
      cases hstage : call.stage <;> simp [hstage, Stage.result] at hresult <;> rfl
    rw [hdropped, h.dropped, hcalls, List.countP_set hbound, hget]
    simp [hnot]
  case turns =>
    intro i j a b hij ha hb hsame
    by_cases hi : i = number
    · subst hi
      rw [hself, Option.some.injEq] at ha
      rw [hother j (Nat.ne_of_gt hij)] at hb
      have hturn := h.turns i j call b hij hcall hb (by rw [← hsame, ← ha])
      exact absurd hresult hturn
    · rw [hother i hi] at ha
      by_cases hj : j = number
      · subst hj
        rw [hself, Option.some.injEq] at hb
        exact h.turns i j a call hij ha hcall (by rw [hsame, ← hb])
      · rw [hother j hj] at hb
        exact h.turns i j a b hij ha hb hsame
  case fifo =>
    rw [horder, hthread]
    split
    · refine List.pairwise_append.mpr ⟨h.fifo, List.pairwise_singleton _ _, ?_⟩
      intro i hi j hj hsame
      rw [List.mem_singleton] at hj
      subst hj
      obtain ⟨queued, hqueued, -⟩ := (h.mem_order i).mp hi
      rcases Nat.lt_trichotomy i j with hless | rfl | hmore
      · exact hless
      · exact absurd hi habsent
      · simp only [Traced.threadOf, hqueued, hcall, Option.map_some, Option.some.injEq] at hsame
        exact absurd hresult (h.turns j i call queued hmore hcall hqueued hsame.symm)
    · exact h.fifo

/-- Every step keeps the accounting. -/
theorem tracks_step {conn : Sqlite Db P Err} {t t' : Traced P Db} {e : TracedEvent P}
    (hstep : traceStep conn t e = some t') (h : Tracks t) : Tracks t' := by
  cases callStep_of_step hstep h with
  | begins call hfree hsuits hstage hcalls horder hproducers haccepted hdropped =>
      exact h.begins hfree hsuits hstage hcalls horder hproducers haccepted hdropped
  | advances number call stage hcall hresult hsuits hcalls horder hproducers haccepted
      hdropped =>
      exact h.advances hcall hresult hsuits hcalls horder hproducers haccepted hdropped
  | other hsame hcalls horder =>
      have htask : t'.taskOf = t.taskOf := by
        funext number
        rw [Traced.taskOf, hcalls, Traced.taskOf]
      have hthread : t'.threadOf = t.threadOf := by
        funext number
        rw [Traced.threadOf, hcalls, Traced.threadOf]
      constructor
      case producers =>
        rw [hsame.producers, hcalls]
        exact h.producers
      case suits =>
        rw [hcalls]
        exact h.suits
      case accepted =>
        rw [hsame.accepted, horder, htask]
        exact h.accepted
      case nodup =>
        rw [horder]
        exact h.nodup
      case mem_order =>
        rw [horder, hcalls]
        exact h.mem_order
      case dropped =>
        rw [hsame.dropped, hcalls]
        exact h.dropped
      case turns =>
        rw [hcalls]
        exact h.turns
      case fifo =>
        rw [horder, hthread]
        exact h.fifo

/-- In every reachable state the calls account for the system. -/
theorem tracks_run {conn : Sqlite Db P Err} {enabled : Bool} {size : Int} {db₀ : Db}
    {events : List (TracedEvent P)} {t : Traced P Db}
    (hrun : run (traceStep conn) (Traced.start enabled size db₀) events = some t) :
    Tracks t := by
  refine run_invariant Tracks (fun _ _ _ => tracks_step) hrun ?_
  refine ⟨?_, ?_, rfl, List.nodup_nil, ?_, rfl, ?_, List.Pairwise.nil⟩ <;>
    simp [Traced.start, System.start]

/-! ## The writer below -/

/-- A step of the calls is a step of the writer or leaves it alone. -/
theorem step_of_traceStep {conn : Sqlite Db P Err} {t t' : Traced P Db} {e : TracedEvent P}
    (hstep : traceStep conn t e = some t') :
    t'.system = t.system ∨ ∃ below, step conn t.system below = some t'.system := by
  cases e with
  | enqueue thread task =>
      simp only [traceStep] at hstep
      split at hstep
      · cases hstep
      · split at hstep
        · obtain ⟨system, hsystem, rfl⟩ := Option.map_eq_some_iff.mp hstep
          exact .inr ⟨_, hsystem⟩
        · cases hstep
          exact .inl rfl
  | proceed number =>
      simp only [traceStep] at hstep
      obtain ⟨call, -, hproceed⟩ := Option.bind_eq_some_iff.mp hstep
      unfold Traced.proceed at hproceed
      split at hproceed <;> try contradiction
      all_goals
        obtain ⟨system, hsystem, rfl⟩ := Option.map_eq_some_iff.mp hproceed
        exact .inr ⟨_, hsystem⟩
  | setPolicy enabled queueSize =>
      simp only [traceStep] at hstep
      obtain ⟨system, hsystem, rfl⟩ := Option.map_eq_some_iff.mp hstep
      exact .inr ⟨_, hsystem⟩
  | get =>
      obtain ⟨system, hsystem, rfl⟩ := Option.map_eq_some_iff.mp hstep
      exact .inr ⟨_, hsystem⟩
  | execute =>
      obtain ⟨system, hsystem, rfl⟩ := Option.map_eq_some_iff.mp hstep
      exact .inr ⟨_, hsystem⟩
  | settle =>
      obtain ⟨system, hsystem, rfl⟩ := Option.map_eq_some_iff.mp hstep
      exact .inr ⟨_, hsystem⟩

/-- Below every run of the calls lies a run of the writer. -/
theorem run_of_traced {conn : Sqlite Db P Err} {enabled : Bool} {size : Int} {db₀ : Db}
    {events : List (TracedEvent P)} {t : Traced P Db}
    (hrun : run (traceStep conn) (Traced.start enabled size db₀) events = some t) :
    ∃ below, run (step conn) (System.start enabled size db₀) below = some t.system := by
  refine run_invariant (fun t : Traced P Db =>
    ∃ below, run (step conn) (System.start enabled size db₀) below = some t.system) ?_ hrun
      ⟨[], rfl⟩
  rintro t e t' hstep ⟨below, hbelow⟩
  rcases step_of_traceStep hstep with hsame | ⟨event, hevent⟩
  · exact ⟨below, hsame ▸ hbelow⟩
  · refine ⟨below ++ [event], ?_⟩
    rw [run_append_of_run hbelow, run_cons_of_step hevent, run_nil]

/-- The task whose `finally` block is next is the last attempted one. -/
def SettlesLast (l : Ledger P Db) : Prop :=
  ∀ task raised, l.consumer = .settling task raised → l.attempted.getLast? = some task

theorem settlesLast_step {conn : Sqlite Db P Err} {l l' : Ledger P Db}
    (hstep : Ledger.Step conn l l') (h : SettlesLast l) : SettlesLast l' := by
  intro task raised hconsumer
  cases hstep with
  | skip => exact h task raised hconsumer
  | put item => exact h task raised hconsumer
  | takeTask hwaiting hqueue => cases hconsumer
  | takeStop hwaiting hqueue => cases hconsumer
  | performed hholding hok =>
      cases hconsumer
      simp
  | raised hholding herr =>
      cases hconsumer
      simp
  | @settle other raised hsettling => cases raised <;> cases hconsumer

/-- The tasks whose `finally` block has run. -/
def System.finished (s : System P Db) : List (WriteTask P) :=
  match s.consumer with
  | .settling _ _ => s.attempted.dropLast
  | _ => s.attempted

/-- What was accepted is finished, or it holds a slot with the consumer or on the queue. -/
theorem accepted_eq_finished {conn : Sqlite Db P Err} {db₀ : Db} {s : System P Db}
    (hinv : s.ledger.Accounting conn db₀) (hlast : SettlesLast s.ledger) :
    ∃ rest, s.accepted = s.finished.map some ++ rest ∧
      rest.countP isLog = s.consumer.logsHeld + s.lowPriorityQueued := by
  have haccepted : s.accepted = s.attempted.map some ++ s.consumer.inHand ++ s.writer.queue :=
    hinv.accepted_eq
  unfold System.finished System.lowPriorityQueued
  cases hconsumer : s.consumer with
  | settling task raised =>
      have hgetLast : s.attempted.getLast? = some task := hlast task raised hconsumer
      have hsplit : s.attempted = s.attempted.dropLast ++ [task] :=
        (List.dropLast_append_getLast? task hgetLast).symm
      refine ⟨some task :: s.writer.queue, ?_, ?_⟩
      · rw [haccepted, hconsumer]
        conv_lhs => rw [hsplit]
        simp [Consumer.inHand]
      · rw [List.countP_cons, Nat.add_comm]
        rfl
  | holding task =>
      refine ⟨some task :: s.writer.queue, ?_, ?_⟩
      · rw [haccepted, hconsumer]
        simp [Consumer.inHand]
      · rw [List.countP_cons, Nat.add_comm]
        rfl
  | stopped =>
      refine ⟨none :: s.writer.queue, ?_, ?_⟩
      · rw [haccepted, hconsumer]
        simp [Consumer.inHand]
      · simp [isLog, Consumer.logsHeld]
  | waiting =>
      refine ⟨s.writer.queue, ?_, ?_⟩
      · rw [haccepted, hconsumer]
        simp [Consumer.inHand]
      · simp [Consumer.logsHeld]
  | dead =>
      refine ⟨s.writer.queue, ?_, ?_⟩
      · rw [haccepted, hconsumer]
        simp [Consumer.inHand]
      · simp [Consumer.logsHeld]

/-! ## What the counters count -/

/-- The calls whose tasks were executed, in the order of their execution. -/
def Traced.executed (t : Traced P Db) : List Nat :=
  t.order.take t.system.attempted.length

/-- The calls whose tasks are finished. -/
def Traced.finished (t : Traced P Db) : List Nat :=
  t.order.take t.system.finished.length

/-- A call for a log that was admitted and is neither finished nor undone. -/
def Traced.outstanding (t : Traced P Db) (number : Nat) : Bool :=
  t.calls[number]?.any fun call =>
    call.task.isLowPriorityLog && call.stage.holdsSlot && !t.finished.contains number

/-- A call has returned `result`. -/
def Traced.Returned (t : Traced P Db) (number : Nat) (result : Bool) : Prop :=
  ∃ call, t.calls[number]? = some call ∧ call.stage.result = some result

theorem mem_drop_iff {l : List Nat} (h : l.Nodup) (n a : Nat) :
    a ∈ l.drop n ↔ a ∈ l ∧ a ∉ l.take n := by
  have hsplit := List.take_append_drop n l
  have hnodup : (l.take n ++ l.drop n).Nodup := hsplit.symm ▸ h
  constructor
  · intro hmem
    refine ⟨List.mem_of_mem_drop hmem, fun htake => ?_⟩
    exact (List.nodup_append.mp hnodup).2.2 a htake a hmem rfl
  · rintro ⟨hmem, htake⟩
    rw [← hsplit, List.mem_append] at hmem
    exact hmem.resolve_left htake

/-- Counting the members of a list by their places. -/
theorem countP_range_getElem {α : Type} (l : List α) (p : α → Bool) :
    (List.range l.length).countP (fun i => l[i]?.any p) = l.countP p := by
  have hmap : (List.range l.length).map (fun i => l[i]?) = l.map some := by
    apply List.ext_getElem?
    intro i
    by_cases hi : i < l.length
    · simp [hi]
    · simp [hi]
  have hcount := congrArg (List.countP fun a => Option.any p a) hmap
  rw [List.countP_map, List.countP_map] at hcount
  exact hcount

/-- Two ways to count the places with a property. -/
theorem countP_range_eq_length {n : Nat} {p : Nat → Bool} {l : List Nat} (h : l.Nodup)
    (hmem : ∀ i, i ∈ l ↔ i < n ∧ p i = true) : (List.range n).countP p = l.length := by
  rw [List.countP_eq_length_filter]
  apply List.Perm.length_eq
  rw [List.perm_ext_iff_of_nodup (List.nodup_range.filter _) h]
  intro i
  rw [hmem, List.mem_filter, List.mem_range]

/-- The busy producers are the calls between their admission and their return. -/
theorem Tracks.mem_busy {t : Traced P Db} (h : Tracks t) {busy : List Nat}
    (hslots : Slots t.system busy) (number : Nat) :
    number ∈ busy ↔
      ∃ call, t.calls[number]? = some call ∧
        (call.stage = .admitted ∨ call.stage = .full) := by
  rw [hslots.mem_iff, h.producers]
  cases hcall : t.calls[number]? with
  | none => simp
  | some call => cases hstage : call.stage <;> simp [Call.position, hstage]

/-- The accepted calls that are not finished are those with the consumer or on the queue. -/
theorem Tracks.countP_drop {conn : Sqlite Db P Err} {db₀ : Db} {t : Traced P Db}
    (h : Tracks t) (hinv : t.system.ledger.Accounting conn db₀)
    (hlast : SettlesLast t.system.ledger) :
    (t.order.drop t.system.finished.length).countP (fun i => isLog (t.taskOf i)) =
      t.system.consumer.logsHeld + t.system.lowPriorityQueued ∧
    t.finished.map t.taskOf = t.system.finished.map some := by
  obtain ⟨rest, haccepted, hcount⟩ := accepted_eq_finished hinv hlast
  rw [h.accepted] at haccepted
  have htake := congrArg (List.take t.system.finished.length) haccepted
  have hdrop := congrArg (List.drop t.system.finished.length) haccepted
  rw [← List.map_take, List.take_left' (by simp)] at htake
  rw [← List.map_drop, List.drop_left' (by simp)] at hdrop
  refine ⟨?_, htake⟩
  rw [← hcount, ← hdrop, List.countP_map]
  rfl

/-- Every accepted call stands in its place. -/
theorem Tracks.mem_order_iff {t : Traced P Db} (h : Tracks t) (number : Nat) :
    number ∈ t.order ↔ t.Returned number true := by
  rw [h.mem_order]
  unfold Traced.Returned
  constructor
  · rintro ⟨call, hcall, hstage⟩
    exact ⟨call, hcall, by rw [hstage]; rfl⟩
  · rintro ⟨call, hcall, hresult⟩
    refine ⟨call, hcall, ?_⟩
    cases hstage : call.stage <;> simp [hstage, Stage.result] at hresult ⊢

/-- The pending counter counts the outstanding calls. -/
theorem Tracks.pending_eq {conn : Sqlite Db P Err} {db₀ : Db} {t : Traced P Db}
    (h : Tracks t) (hinv : t.system.ledger.Accounting conn db₀)
    (hlast : SettlesLast t.system.ledger) {busy : List Nat}
    (hslots : Slots t.system busy) :
    t.system.writer.pendingLowPriorityLogs =
      (List.range t.calls.length).countP t.outstanding := by
  have hbusy := h.mem_busy hslots
  have hcount := (h.countP_drop hinv hlast).1
  have hnodup : (t.order.drop t.system.finished.length).Nodup :=
    h.nodup.sublist (List.drop_sublist _ _)
  rw [countP_range_eq_length (l := busy ++ (t.order.drop t.system.finished.length).filter
    fun i => isLog (t.taskOf i))]
  · rw [List.length_append, ← List.countP_eq_length_filter, hcount, hslots.pending_eq]
    omega
  · refine List.nodup_append.mpr ⟨hslots.nodup, hnodup.filter _, ?_⟩
    rintro i hi j hj rfl
    obtain ⟨call, hcall, hstage⟩ := (hbusy i).mp hi
    have horder := List.mem_of_mem_drop (List.mem_filter.mp hj).1
    obtain ⟨other, hother, hqueued⟩ := (h.mem_order i).mp horder
    rw [hcall, Option.some.injEq] at hother
    rw [hother, hqueued] at hstage
    simp at hstage
  · intro i
    rw [List.mem_append, hbusy, List.mem_filter, mem_drop_iff h.nodup, h.mem_order]
    unfold Traced.outstanding Traced.taskOf Traced.finished
    cases hcall : t.calls[i]? with
    | none => simp
    | some call =>
        have hbound := (List.getElem?_eq_some_iff.mp hcall).1
        have hsuits := h.suits call (List.mem_of_getElem? hcall)
        have hfinished : call.stage ≠ .queued →
            i ∉ t.order.take t.system.finished.length := by
          intro hstage hmem
          obtain ⟨other, hother, hqueued⟩ := (h.mem_order i).mp (List.mem_of_mem_take hmem)
          rw [hcall, Option.some.injEq] at hother
          exact hstage (hother ▸ hqueued)
        cases hstage : call.stage <;> rw [hstage] at hsuits hfinished <;>
          simp [hstage, hbound, Stage.holdsSlot, Stage.Suits, isLog] at hsuits hfinished ⊢ <;>
          simp [hsuits, hfinished, and_comm]

/-- Among the calls that have returned, a call for a log was put on the queue or dropped. -/
theorem countP_returned {calls : List (Call P)}
    (hsuits : ∀ call ∈ calls, call.stage.Suits call.task.isLowPriorityLog)
    (hreturned : ∀ call ∈ calls, call.stage.result ≠ none) :
    calls.countP (fun call => call.task.isLowPriorityLog) =
      calls.countP (fun call =>
        call.task.isLowPriorityLog && decide (call.stage = .queued)) +
      calls.countP fun call => call.stage.dropped := by
  induction calls with
  | nil => rfl
  | cons call rest ih =>
      rw [List.forall_mem_cons] at hreturned hsuits
      have hrest := ih hsuits.2 hreturned.2
      have hsuit := hsuits.1
      have hresult := hreturned.1
      rw [List.countP_cons, List.countP_cons, List.countP_cons, hrest]
      cases hstage : call.stage with
      | blocked => simp [hstage, Stage.result] at hresult
      | admitted => simp [hstage, Stage.result] at hresult
      | full => simp [hstage, Stage.result] at hresult
      | rejected =>
          rw [hstage] at hsuit
          have hlow : call.task.isLowPriorityLog = true := hsuit
          simp only [hlow, Stage.dropped, Bool.true_and, reduceCtorEq, decide_false, if_true,
            Bool.false_eq_true, if_false]
          omega
      | undone =>
          rw [hstage] at hsuit
          have hlow : call.task.isLowPriorityLog = true := hsuit
          simp only [hlow, Stage.dropped, Bool.true_and, reduceCtorEq, decide_false, if_true,
            Bool.false_eq_true, if_false]
          omega
      | queued =>
          simp only [Stage.dropped, decide_true, Bool.and_true, Bool.false_eq_true, if_false]
          omega

/-- Once every call has returned, the calls for logs are the finished, the pending and the
dropped ones. -/
theorem Tracks.attempts_eq {conn : Sqlite Db P Err} {db₀ : Db} {t : Traced P Db}
    (h : Tracks t) (hinv : t.system.ledger.Accounting conn db₀)
    (hlast : SettlesLast t.system.ledger) {busy : List Nat} (hslots : Slots t.system busy)
    (hreturned : ∀ call ∈ t.calls, call.stage.result ≠ none) :
    t.calls.countP (fun call => call.task.isLowPriorityLog) =
      t.system.finished.countP (fun task => task.isLowPriorityLog) +
        t.system.writer.pendingLowPriorityLogs +
        t.system.writer.droppedLowPriorityLogs := by
  have hempty : busy = [] := by
    rw [List.eq_nil_iff_forall_not_mem]
    intro i hi
    obtain ⟨call, hcall, hstage⟩ := (h.mem_busy hslots i).mp hi
    apply hreturned call (List.mem_of_getElem? hcall)
    rcases hstage with hstage | hstage <;> rw [hstage] <;> rfl
  have hpending := hslots.pending_eq
  rw [hempty, List.length_nil] at hpending
  obtain ⟨hdrop, hfinished⟩ := h.countP_drop hinv hlast
  have hlogs : t.order.countP (fun i => isLog (t.taskOf i)) =
      t.calls.countP fun call => call.task.isLowPriorityLog && decide (call.stage = .queued) := by
    have hplaces : (List.range t.calls.length).countP (fun i => t.calls[i]?.any fun call =>
        call.task.isLowPriorityLog && decide (call.stage = .queued)) =
        (t.order.filter fun i => isLog (t.taskOf i)).length := by
      refine countP_range_eq_length (h.nodup.filter _) ?_
      intro i
      rw [List.mem_filter, h.mem_order]
      unfold Traced.taskOf
      cases hcall : t.calls[i]? with
      | none => simp
      | some call =>
          have hbound := (List.getElem?_eq_some_iff.mp hcall).1
          simp [hbound, isLog, and_comm]
    rw [List.countP_eq_length_filter, ← hplaces]
    exact countP_range_getElem _ _
  have hsplit : t.order.countP (fun i => isLog (t.taskOf i)) =
      t.system.finished.countP (fun task => task.isLowPriorityLog) +
        (t.order.drop t.system.finished.length).countP fun i => isLog (t.taskOf i) := by
    conv_lhs => rw [← List.take_append_drop t.system.finished.length t.order]
    rw [List.countP_append]
    have hmap := congrArg (List.countP isLog) hfinished
    rw [List.countP_map, List.countP_map] at hmap
    exact congrArg (· + _) hmap
  have hkinds := countP_returned h.suits hreturned
  rw [hkinds, ← hlogs, hsplit, hdrop, h.dropped]
  omega

/-! ## The consumer left alone -/

/-- The events of the consumer thread. -/
def TracedEvent.isConsumer : TracedEvent P → Bool
  | .get | .execute | .settle => true
  | _ => false

/-- Steps of the consumer alone leave every call where it stands. -/
theorem traced_consumer_run {conn : Sqlite Db P Err} (t : Traced P Db) {events : List (Event P)}
    {system : System P Db} (hall : ∀ e ∈ events, e.isConsumer = true)
    (hrun : run (step conn) t.system events = some system) :
    ∃ traced : List (TracedEvent P), (∀ e ∈ traced, e.isConsumer = true) ∧
      run (traceStep conn) t traced = some { t with system := system } := by
  induction events generalizing t with
  | nil =>
      cases hrun
      exact ⟨[], by simp, rfl⟩
  | cons e rest ih =>
      rw [List.forall_mem_cons] at hall
      obtain ⟨middle, hstep, hrest⟩ := run_cons_eq_some.mp hrun
      obtain ⟨traced, hconsumer, htraced⟩ :=
        ih { t with system := middle } hall.2 hrest
      have hlift : ∃ event : TracedEvent P, event.isConsumer = true ∧
          traceStep conn t event = some { t with system := middle } := by
        cases e <;> simp only [Event.isConsumer, Bool.false_eq_true] at hall <;>
          try exact hall.1.elim
        · exact ⟨.get, rfl, by simp [traceStep, hstep]⟩
        · exact ⟨.execute, rfl, by simp [traceStep, hstep]⟩
        · exact ⟨.settle, rfl, by simp [traceStep, hstep]⟩
      obtain ⟨event, hevent, hevents⟩ := hlift
      refine ⟨event :: traced, ?_, ?_⟩
      · rw [List.forall_mem_cons]
        exact ⟨hevent, hconsumer⟩
      · rw [run_cons_of_step hevents, htraced]

/-- Without a sentinel every accepted item is due. -/
theorem dueTasks_length {items : List (Option (WriteTask P))} (h : none ∉ items) :
    (dueTasks items).length = items.length := by
  induction items with
  | nil => rfl
  | cons item rest ih =>
      rw [List.mem_cons, not_or] at h
      cases item with
      | none => exact absurd rfl h.1
      | some task => rw [dueTasks, List.length_cons, List.length_cons, ih h.2]

/-- Every accepted item is the task of a call. -/
theorem Tracks.due_length {t : Traced P Db} (h : Tracks t) :
    t.system.due.length = t.order.length := by
  have hnone : none ∉ t.system.accepted := by
    rw [h.accepted, List.mem_map]
    rintro ⟨number, hmem, htask⟩
    obtain ⟨call, hcall, -⟩ := (h.mem_order number).mp hmem
    simp [Traced.taskOf, hcall] at htask
  rw [System.due, dueTasks_length hnone, h.accepted, List.length_map]

/-- The attempted tasks are those of the executed calls, in the same order. -/
theorem Tracks.map_executed {conn : Sqlite Db P Err} {db₀ : Db} {t : Traced P Db}
    (h : Tracks t) (hinv : t.system.ledger.Accounting conn db₀) :
    t.executed.map t.taskOf = t.system.attempted.map some := by
  have haccepted : t.system.accepted = t.system.attempted.map some ++
      t.system.consumer.inHand ++ t.system.writer.queue := hinv.accepted_eq
  rw [h.accepted, List.append_assoc] at haccepted
  have htake := congrArg (List.take t.system.attempted.length) haccepted
  rw [← List.map_take, List.take_left' (List.length_map _)] at htake
  exact htake

/-! ## The accounting of `enqueue` -/

/-- What holds at every moment of a run of calls. -/
structure Accounted (conn : Sqlite Db P Err) (db₀ : Db) (t : Traced P Db) : Prop where
  /-- The counter is the number of logs admitted and neither finished nor undone. -/
  pending_eq : t.system.writer.pendingLowPriorityLogs =
    (List.range t.calls.length).countP t.outstanding
  /-- The decrement of an undo is never clipped. -/
  undo_counts : ∀ call ∈ t.calls, call.stage = .full →
    0 < t.system.writer.pendingLowPriorityLogs
  /-- The decrement of the consumer is never clipped. -/
  settle_counts : ∀ task raised, t.system.consumer = .settling task raised →
    task.isLowPriorityLog = true → 0 < t.system.writer.pendingLowPriorityLogs
  /-- Once every call has returned, no attempt is unaccounted for. -/
  attempts_eq : (∀ call ∈ t.calls, call.stage.result ≠ none) →
    t.calls.countP (fun call => call.task.isLowPriorityLog) =
      t.system.finished.countP (fun task => task.isLowPriorityLog) +
        t.system.writer.pendingLowPriorityLogs + t.system.writer.droppedLowPriorityLogs
  /-- Each attempted task is that of a call of its own, which has returned true. -/
  executed_accepted : t.system.attempted.map some = t.executed.map t.taskOf ∧
    t.executed.Nodup ∧ ∀ number ∈ t.executed, t.Returned number true
  /-- When no accepted statement raises, the consumer left alone executes exactly the tasks
  of the calls that have returned true. -/
  accepted_executed : (∃ db, conn.replay db₀ t.system.due = .ok db) →
    ∃ (events : List (TracedEvent P)) (t' : Traced P Db),
      (∀ e ∈ events, e.isConsumer = true) ∧ run (traceStep conn) t events = some t' ∧
        t'.calls = t.calls ∧ ∀ number, number ∈ t'.executed ↔ t.Returned number true
  /-- With nothing in hand and nothing on the queue, they are executed already. -/
  idle_executed : t.system.consumer = .waiting → t.system.writer.queue = [] →
    ∀ number, number ∈ t.executed ↔ t.Returned number true
  /-- Only a log is ever dropped. -/
  high_kept : ∀ number call, t.calls[number]? = some call →
    call.task.isLowPriorityLog = false → ¬ t.Returned number false
  /-- The tasks of one thread are executed in the order of its calls. -/
  executed_in_order : t.executed.Pairwise fun i j => t.threadOf i = t.threadOf j → i < j
  /-- The database is what the executed tasks make of the first one. -/
  applied : t.system.ledger.Applied conn db₀

/-- Executing as many tasks as were accepted executes each of them. -/
theorem Tracks.executed_all {t : Traced P Db} (h : Tracks t)
    (hlength : t.system.attempted.length = t.order.length) (number : Nat) :
    number ∈ t.executed ↔ t.Returned number true := by
  unfold Traced.executed
  rw [hlength, List.take_length, h.mem_order_iff]

/-- The consumer left alone executes every accepted task. -/
theorem Tracks.served {conn : Sqlite Db P Err} {db₀ db : Db} {t : Traced P Db} (h : Tracks t)
    (hinv : t.system.ledger.Accounting conn db₀)
    (hok : conn.replay db₀ t.system.due = .ok db) :
    ∃ (events : List (TracedEvent P)) (t' : Traced P Db),
      (∀ e ∈ events, e.isConsumer = true) ∧ run (traceStep conn) t events = some t' ∧
        t'.calls = t.calls ∧ ∀ number, number ∈ t'.executed ↔ t.Returned number true := by
  obtain ⟨below, system, hall, hrun, hattempted, -⟩ := servesAll_of_replay hinv hok
  obtain ⟨events, hconsumer, hevents⟩ := traced_consumer_run t hall hrun
  refine ⟨events, { t with system := system }, hconsumer, hevents, rfl, ?_⟩
  have htracks : Tracks { t with system := system } :=
    run_invariant Tracks (fun _ _ _ => tracks_step) hevents h
  refine htracks.executed_all ?_
  change system.attempted.length = t.order.length
  rw [hattempted, h.due_length]

/-- In every state that calls of `enqueue`, policy changes and the consumer can reach,
whatever their interleaving, the counters, the results and the executed tasks agree. -/
theorem enqueue_accounted {conn : Sqlite Db P Err} {enabled : Bool} {size : Int} {db₀ : Db}
    {events : List (TracedEvent P)} {t : Traced P Db}
    (hrun : run (traceStep conn) (Traced.start enabled size db₀) events = some t) :
    Accounted conn db₀ t := by
  have h := tracks_run hrun
  obtain ⟨below, hbelow⟩ := run_of_traced hrun
  have hinv := run_accounting hbelow
  obtain ⟨busy, hslots⟩ := run_slots hbelow
  have hlast : SettlesLast t.system.ledger := by
    refine run_invariant (fun s : System P Db => SettlesLast s.ledger) ?_ hbelow ?_
    · intro s e s' hstep
      exact settlesLast_step (step_ledger hstep)
    · intro task raised hsettling
      cases hsettling
  have hpending := hslots.pending_eq
  have hexecuted := h.map_executed hinv
  refine
    { pending_eq := h.pending_eq hinv hlast hslots
      undo_counts := ?_
      settle_counts := ?_
      attempts_eq := h.attempts_eq hinv hlast hslots
      executed_accepted := ⟨hexecuted.symm, h.nodup.sublist (List.take_sublist _ _), ?_⟩
      accepted_executed := ?_
      idle_executed := ?_
      high_kept := ?_
      executed_in_order := h.fifo.sublist (List.take_sublist _ _)
      applied := run_applied hbelow }
  · intro call hmem hstage
    obtain ⟨number, hcall⟩ := List.mem_iff_getElem?.mp hmem
    have hbusy := (h.mem_busy hslots number).mpr ⟨call, hcall, .inr hstage⟩
    have hpos := List.length_pos_of_mem hbusy
    omega
  · intro task raised hsettling hlow
    rw [hsettling] at hpending
    simp only [Consumer.logsHeld, hlow, if_true] at hpending
    omega
  · intro number hmem
    exact (h.mem_order_iff number).mp (List.mem_of_mem_take hmem)
  · rintro ⟨db, hok⟩
    exact h.served hinv hok
  · intro hwaiting hqueue
    refine h.executed_all ?_
    have haccepted : t.system.accepted = t.system.attempted.map some ++
        t.system.consumer.inHand ++ t.system.writer.queue := hinv.accepted_eq
    have hlength := congrArg List.length haccepted
    rw [h.accepted, hwaiting, hqueue] at hlength
    simpa [Consumer.inHand] using hlength.symm
  · rintro number call hcall hhigh ⟨other, hother, hresult⟩
    rw [hcall, Option.some.injEq] at hother
    subst hother
    have hsuits := h.suits call (List.mem_of_getElem? hcall)
    rw [hhigh] at hsuits
    cases hstage : call.stage <;> rw [hstage] at hsuits hresult <;>
      simp [Stage.Suits, Stage.result] at hsuits hresult

end Calls

/-- A log that is accepted, a log that the policy rejects and a metadata write, with the
first of them executed. -/
def threeCalls : List (TracedEvent (PyValue Exact)) :=
  [.enqueue 0 logTask, .proceed 0, .setPolicy false 1, .enqueue 0 logTask,
    .enqueue 1 metadataWrite, .proceed 2, .get, .execute]

/-- The accounting holds in the middle of that run. -/
theorem threeCalls_accounted :
    ∃ t, run (traceStep recordingConnection) (Traced.start true 2 []) threeCalls = some t ∧
      t.executed = [0] ∧ Accounted recordingConnection [] t := by
  have hrun : run (traceStep recordingConnection) (Traced.start true 2 []) threeCalls =
      some _ := rfl
  exact ⟨_, hrun, rfl, enqueue_accounted hrun⟩

end Store
end FreeLunch
