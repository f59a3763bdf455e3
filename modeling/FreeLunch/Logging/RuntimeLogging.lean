import FreeLunch.Foundations.BoundedQueues
import FreeLunch.Foundations.Runs
import FreeLunch.Foundations.Threads
import FreeLunch.Python.Value
import Mathlib.Data.List.ReduceOption

/-!
# The runtime log

`src/runtime_logging.py`: a call of `runtime_log` puts its record into a bounded queue, and a
listener thread writes the records to the stream.  A record that finds the queue full is
counted, and written by a second handler when it is a warning.  `configure` and `stop` end the
listener of the queue before; they hold the lock of the manager meanwhile.

Calls, listeners and the thread in `configure` or `stop` take turns between any two of their
accesses to what they share.

Main results:

- Theorem `accounted_run`: in every interleaving a record is in one place, the listener writes
  in the order of the queue, and the counter is the number of records that found it full.
- Theorem `settled_run`: without another `configure` or `stop` every record is written exactly
  once or counted, and a warning is always written.

Current gaps:

- The text of a line is left out, and handlers do not raise.
- A level below `DEBUG` is dropped where `logging` would ask the logger.
-/

namespace FreeLunch
namespace Logging

open Python Runs Threads BoundedQueues

/-! ## Records -/

/-- The keys of `RUNTIME_VERBOSITY_ORDER`. -/
inductive Verbosity where
  | concise
  | verbose
  | debug
deriving DecidableEq, Repr

/-- `RUNTIME_VERBOSITY_ORDER`. -/
def Verbosity.order : Verbosity → ℕ
  | .concise => 0
  | .verbose => 1
  | .debug => 2

/-- `normalize_runtime_verbosity` of a text.  The three names have no letter that is the lower
case of another alphabet's. -/
def normalizeRuntimeVerbosity (value : String) : Verbosity :=
  let normalized := lowerAscii (strip value.toList)
  if normalized = "verbose".toList then .verbose
  else if normalized = "debug".toList then .debug
  else .concise

/-- `logging.WARNING`. -/
def warning : Int := 30

/-- `logging.DEBUG`, the level of the base logger and its handlers. -/
def debug : Int := 10

/-- The arguments of `runtime_log`, without the logger and the fields. -/
structure LogCall where
  event : String
  verbosity : String
  level : Int
  message : Option String
deriving DecidableEq, Repr

/-- What `runtime_log` hands to the logger. -/
structure LogRecord where
  levelno : Int
  event : String
  verbosity : Verbosity
  msg : String
deriving DecidableEq, Repr

/-- The record of a call; an empty message is none. -/
def LogCall.record (call : LogCall) : LogRecord where
  levelno := call.level
  event := call.event
  verbosity := normalizeRuntimeVerbosity call.verbosity
  msg := (call.message.filter (· ≠ "")).getD call.event

/-! ## The threads -/

/-- Where a listener thread is. -/
inductive ListenerPhase where
  | waiting
  | handling (record : LogRecord)
  | finished
deriving DecidableEq

/-- What `configure` sets up: a queue and its listener, with what became of the records.  The
sentinel is `none`. -/
structure Generation where
  queue : BoundedQueue (Option LogRecord)
  listener : ListenerPhase
  written : List LogRecord
  discarded : List (Option LogRecord)

/-- Where a call of `runtime_log` is whose record goes to the logger. -/
inductive EmitterPhase where
  | logging
  | acquiring (generation : ℕ)
  | enqueueing (generation : ℕ)
  | overflowed (generation : ℕ)
  | counted (generation : ℕ)
  | fallingBack (generation handler : ℕ)
  | queued (generation : ℕ)
  | unhandled
  | dropped
  | lost
  | fellBack (handler : ℕ)
deriving DecidableEq

/-- A call of `runtime_log` with its record. -/
structure Emitter where
  record : LogRecord
  phase : EmitterPhase
deriving DecidableEq

/-- A call of `configure` or `stop`. -/
inductive ControlCall where
  | configure (enabled : Bool) (verbosity : String) (queueSize : Int)
  | stop
deriving DecidableEq

/-- Where the thread in `configure` or `stop` is. -/
inductive ControllerPhase where
  | idle
  | stopping (call : ControlCall)
  | makingRoom (call : ControlCall)
  | joining (call : ControlCall)
  | finishing (call : ControlCall)
deriving DecidableEq

/-- The fields of the manager.  Its queue, its listener and its two handlers are set and
cleared together. -/
structure Manager where
  enabled : Bool
  verbosity : Verbosity
  queueSize : ℕ
  droppedRecords : ℕ
  current : Option ℕ

/-- All threads, and the manager.  What the counter held when it was reset is kept beside it. -/
structure State where
  manager : Manager
  generations : List Generation
  emitters : List Emitter
  controller : ControllerPhase
  forgotten : ℕ

/-- A call begins, or a thread goes on. -/
inductive Event where
  | log (call : LogCall)
  | call (call : ControlCall)
  | emit (emitter : ℕ)
  | listen (generation : ℕ)
  | control
deriving DecidableEq

/-- `_MANAGER` before its first `configure`. -/
def State.initial : State where
  manager :=
    { enabled := false, verbosity := .concise, queueSize := 1000, droppedRecords := 0
      current := none }
  generations := []
  emitters := []
  controller := .idle
  forgotten := 0

/-! ## Steps -/

/-- `should_emit`. -/
def Manager.shouldEmit (manager : Manager) (verbosity : String) (level : Int) : Bool :=
  manager.enabled && (decide (warning ≤ level) ||
    decide ((normalizeRuntimeVerbosity verbosity).order ≤ manager.verbosity.order))

/-- No thread holds the lock of the manager. -/
def State.unlocked (s : State) : Bool :=
  decide (s.controller = .idle)

/-- The call holds the lock of the handler. -/
def EmitterPhase.holds (generation : ℕ) : EmitterPhase → Bool
  | .enqueueing g => g == generation
  | .overflowed g => g == generation
  | .counted g => g == generation
  | .fallingBack g _ => g == generation
  | _ => false

/-- The call goes on to its next stop. -/
def State.goTo (s : State) (i : ℕ) (emitter : Emitter) (phase : EmitterPhase) : State :=
  { s with emitters := s.emitters.set i { emitter with phase := phase } }

/-- `_DroppingQueueHandler.enqueue`. -/
def enqueue (s : State) (i : ℕ) (emitter : Emitter) (generation : ℕ) : Option State :=
  match s.generations[generation]? with
  | none => none
  | some gen =>
      match gen.queue.put (some emitter.record) with
      | none => some (s.goTo i emitter (.overflowed generation))
      | some queue =>
          some ({ s with
            generations := s.generations.set generation { gen with queue := queue } }.goTo
              i emitter (.queued generation))

/-- `record_drop`. -/
def recordDrop (s : State) : State :=
  { s with manager := { s.manager with droppedRecords := s.manager.droppedRecords + 1 } }

/-- A call goes on. -/
def emit (s : State) (i : ℕ) : Option State :=
  match s.emitters[i]? with
  | none => none
  | some emitter =>
      match emitter.phase with
      | .logging =>
          match s.manager.current with
          | some generation => some (s.goTo i emitter (.acquiring generation))
          | none => some (s.goTo i emitter .unhandled)
      | .acquiring generation =>
          if s.emitters.any fun other => other.phase.holds generation then none
          else some (s.goTo i emitter (.enqueueing generation))
      | .enqueueing generation => enqueue s i emitter generation
      | .overflowed generation =>
          if s.unlocked then
            if emitter.record.levelno < warning then
              some ((recordDrop s).goTo i emitter .dropped)
            else some ((recordDrop s).goTo i emitter (.counted generation))
          else none
      | .counted generation =>
          if s.unlocked then
            match s.manager.current with
            | some handler => some (s.goTo i emitter (.fallingBack generation handler))
            | none => some (s.goTo i emitter .lost)
          else none
      | .fallingBack _ handler => some (s.goTo i emitter (.fellBack handler))
      | _ => none

/-- The loop of a listener. -/
def Generation.listen (gen : Generation) : Option Generation :=
  match gen.listener with
  | .waiting =>
      match gen.queue.get with
      | none => none
      | some (none, queue) => some { gen with queue := queue, listener := .finished }
      | some (some record, queue) =>
          some { gen with queue := queue, listener := .handling record }
  | .handling record =>
      some { gen with listener := .waiting, written := gen.written ++ [record] }
  | .finished => none

/-- What `configure` starts with. -/
def Generation.new (maxsize : ℕ) : Generation where
  queue := .empty maxsize
  listener := .waiting
  written := []
  discarded := []

/-- The end of `configure` and of `stop`. -/
def finish (s : State) : ControlCall → State
  | .stop => { s with manager := { s.manager with enabled := false }, controller := .idle }
  | .configure enabled verbosity queueSize =>
      let size := (max queueSize 1).toNat
      { s with
        manager :=
          { enabled := enabled
            verbosity := normalizeRuntimeVerbosity verbosity
            queueSize := size
            droppedRecords := 0
            current := if enabled then some s.generations.length else none }
        generations := if enabled then s.generations ++ [.new size] else s.generations
        controller := .idle
        forgotten := s.forgotten + s.manager.droppedRecords }

/-- `_stop_locked` and what follows it. -/
def control (s : State) : Option State :=
  match s.controller with
  | .idle => none
  | .stopping call =>
      match s.manager.current with
      | none => none
      | some g =>
          match s.generations[g]? with
          | none => none
          | some gen =>
              match gen.queue.put none with
              | none => some { s with controller := .makingRoom call }
              | some queue =>
                  some { s with
                    generations := s.generations.set g { gen with queue := queue }
                    controller := .joining call }
  | .makingRoom call =>
      match s.manager.current with
      | none => none
      | some g =>
          match s.generations[g]? with
          | none => none
          | some gen =>
              match gen.queue.get with
              -- `queue.Empty`: the loop ends without a sentinel
              | none => some { s with controller := .joining call }
              | some (item, queue) =>
                  some { s with
                    generations := s.generations.set g
                      { gen with queue := queue, discarded := gen.discarded ++ [item] }
                    controller := .stopping call }
  | .joining call =>
      match s.manager.current with
      | none => none
      | some g =>
          match s.generations[g]? with
          | none => none
          | some gen =>
              if gen.listener = .finished then
                some { s with
                  manager := { s.manager with current := none }
                  controller := .finishing call }
              else none
  | .finishing call => some (finish s call)

/-- One turn. -/
def step (s : State) : Event → Option State
  | .log call =>
      if s.unlocked then
        if s.manager.shouldEmit call.verbosity call.level && decide (debug ≤ call.level) then
          some { s with emitters := s.emitters ++ [⟨call.record, .logging⟩] }
        else some s
      else none
  | .call call =>
      if s.unlocked then
        match s.manager.current with
        | none => some { s with controller := .finishing call }
        | some _ => some { s with controller := .stopping call }
      else none
  | .emit i => emit s i
  | .listen g =>
      match s.generations[g]? with
      | none => none
      | some gen => gen.listen.map fun gen' => { s with generations := s.generations.set g gen' }
  | .control => control s

/-- `status`. -/
structure Status where
  enabled : Bool
  verbosity : Verbosity
  queueSize : ℕ
  queueDepth : ℕ
  droppedRecords : ℕ

def State.status (s : State) : Status where
  enabled := s.manager.enabled
  verbosity := s.manager.verbosity
  queueSize := s.manager.queueSize
  queueDepth := ((s.manager.current.bind (s.generations[·]?)).map fun gen =>
    gen.queue.items.length).getD 0
  droppedRecords := s.manager.droppedRecords

/-! ## What a turn can do -/

/-- A turn of a call that touches neither a queue nor the counter. -/
inductive Moves (current : Option ℕ) : EmitterPhase → EmitterPhase → Prop where
  | handled {g : ℕ} (h : current = some g) : Moves current .logging (.acquiring g)
  | unhandled (h : current = none) : Moves current .logging .unhandled
  | acquired (g : ℕ) : Moves current (.acquiring g) (.enqueueing g)
  | full (g : ℕ) : Moves current (.enqueueing g) (.overflowed g)
  | covered (g : ℕ) {handler : ℕ} (h : current = some handler) :
      Moves current (.counted g) (.fallingBack g handler)
  | lost (g : ℕ) (h : current = none) : Moves current (.counted g) .lost
  | fellBack (g handler : ℕ) : Moves current (.fallingBack g handler) (.fellBack handler)

/-- The queue that a call has met. -/
def EmitterPhase.generation : EmitterPhase → Option ℕ
  | .acquiring g => some g
  | .enqueueing g => some g
  | .overflowed g => some g
  | .counted g => some g
  | .fallingBack g _ => some g
  | .queued g => some g
  | _ => none

/-- `record_drop` has run. -/
def EmitterPhase.isCounted : EmitterPhase → Bool
  | .counted _ => true
  | .fallingBack _ _ => true
  | .dropped => true
  | .lost => true
  | .fellBack _ => true
  | _ => false

theorem Moves.isCounted_eq {current : Option ℕ} {phase phase' : EmitterPhase}
    (h : Moves current phase phase') : phase'.isCounted = phase.isCounted := by
  cases h <;> rfl

theorem Moves.ne_queued {current : Option ℕ} {phase phase' : EmitterPhase}
    (h : Moves current phase phase') (g : ℕ) : phase ≠ .queued g ∧ phase' ≠ .queued g := by
  cases h <;> exact ⟨nofun, nofun⟩

theorem Moves.generation_eq {current : Option ℕ} {phase phase' : EmitterPhase}
    (h : Moves current phase phase') {g : ℕ} (hg : phase'.generation = some g) :
    current = some g ∨ phase.generation = some g := by
  cases h with
  | handled hcurrent => exact .inl (hcurrent.trans hg)
  | acquired _ => exact .inr hg
  | full _ => exact .inr hg
  | covered _ _ => exact .inr hg
  | unhandled _ => cases hg
  | lost _ _ => cases hg
  | fellBack _ _ => cases hg

/-- A turn of a call moves it, puts its record, or counts it. -/
theorem of_emit {s s' : State} {i : ℕ} (h : emit s i = some s') :
    ∃ emitter, s.emitters[i]? = some emitter ∧
      ((∃ phase, Moves s.manager.current emitter.phase phase ∧ s' = s.goTo i emitter phase) ∨
        (∃ g gen queue, emitter.phase = .enqueueing g ∧ s.generations[g]? = some gen ∧
          gen.queue.put (some emitter.record) = some queue ∧
          s' = { s with
            generations := s.generations.set g { gen with queue := queue } }.goTo i emitter
              (.queued g)) ∨
        ∃ g phase, emitter.phase = .overflowed g ∧ s.controller = .idle ∧
          s' = (recordDrop s).goTo i emitter phase ∧
          (emitter.record.levelno < warning ∧ phase = .dropped ∨
            warning ≤ emitter.record.levelno ∧ phase = .counted g)) := by
  unfold emit at h
  split at h
  case h_1 => cases h
  case h_2 emitter hemitter =>
    refine ⟨emitter, hemitter, ?_⟩
    split at h
    case h_1 hphase =>
      rw [hphase]
      split at h
      case h_1 g hcurrent =>
        cases h
        exact .inl ⟨_, .handled hcurrent, rfl⟩
      case h_2 hcurrent =>
        cases h
        exact .inl ⟨_, .unhandled hcurrent, rfl⟩
    case h_2 g hphase =>
      rw [hphase]
      split at h
      case isTrue => cases h
      case isFalse =>
        cases h
        exact .inl ⟨_, .acquired g, rfl⟩
    case h_3 g hphase =>
      unfold enqueue at h
      rw [hphase]
      split at h
      case h_1 => cases h
      case h_2 gen hgen =>
        split at h
        case h_1 =>
          cases h
          exact .inl ⟨_, .full g, rfl⟩
        case h_2 queue hput =>
          cases h
          exact .inr (.inl ⟨g, gen, queue, rfl, hgen, hput, rfl⟩)
    case h_4 g hphase =>
      rw [hphase]
      split at h
      case isFalse => cases h
      case isTrue hunlocked =>
        have hidle : s.controller = .idle := of_decide_eq_true hunlocked
        split at h
        case isTrue hlow =>
          cases h
          exact .inr (.inr ⟨g, _, rfl, hidle, rfl, .inl ⟨hlow, rfl⟩⟩)
        case isFalse hhigh =>
          cases h
          exact .inr (.inr ⟨g, _, rfl, hidle, rfl, .inr ⟨Int.not_lt.mp hhigh, rfl⟩⟩)
    case h_5 g hphase =>
      rw [hphase]
      split at h
      case isFalse => cases h
      case isTrue =>
        split at h
        case h_1 handler hcurrent =>
          cases h
          exact .inl ⟨_, .covered g hcurrent, rfl⟩
        case h_2 hcurrent =>
          cases h
          exact .inl ⟨_, .lost g hcurrent, rfl⟩
    case h_6 g handler hphase =>
      rw [hphase]
      cases h
      exact .inl ⟨_, .fellBack g handler, rfl⟩
    case h_7 => cases h

/-- A turn of the thread in `configure` or `stop` that only moves it, changes the queue, or
ends the call. -/
theorem of_control {s s' : State} (h : control s = some s') :
    (∃ phase, s' = { s with controller := phase }) ∨
      (∃ g gen gen' phase, s.manager.current = some g ∧ s.generations[g]? = some gen ∧
        s' = { s with generations := s.generations.set g gen', controller := phase } ∧
        ((∃ queue, gen.queue.put none = some queue ∧ gen' = { gen with queue := queue }) ∨
          ∃ item queue, gen.queue.get = some (item, queue) ∧
            gen' = { gen with queue := queue, discarded := gen.discarded ++ [item] })) ∨
      (∃ call, s' = { s with
        manager := { s.manager with current := none }, controller := .finishing call }) ∨
      ∃ call, s.controller = .finishing call ∧ s' = finish s call := by
  unfold control at h
  split at h
  case h_1 => cases h
  case h_2 call _ =>
    split at h
    case h_1 => cases h
    case h_2 g hcurrent =>
      split at h
      case h_1 => cases h
      case h_2 gen hgen =>
        split at h
        case h_1 =>
          cases h
          exact .inl ⟨_, rfl⟩
        case h_2 queue hput =>
          cases h
          exact .inr (.inl ⟨g, gen, _, _, hcurrent, hgen, rfl, .inl ⟨queue, hput, rfl⟩⟩)
  case h_3 call _ =>
    split at h
    case h_1 => cases h
    case h_2 g hcurrent =>
      split at h
      case h_1 => cases h
      case h_2 gen hgen =>
        split at h
        case h_1 =>
          cases h
          exact .inl ⟨_, rfl⟩
        case h_2 item queue hget =>
          cases h
          exact .inr (.inl
            ⟨g, gen, _, _, hcurrent, hgen, rfl, .inr ⟨item, queue, hget, rfl⟩⟩)
  case h_4 call _ =>
    split at h
    case h_1 => cases h
    case h_2 g hcurrent =>
      split at h
      case h_1 => cases h
      case h_2 gen hgen =>
        split at h
        case isFalse => cases h
        case isTrue =>
          cases h
          exact .inr (.inr (.inl ⟨call, rfl⟩))
  case h_5 call hcall =>
    cases h
    exact .inr (.inr (.inr ⟨call, hcall, rfl⟩))

/-! ## Where the records are -/

/-- The record between the queue and the stream. -/
def ListenerPhase.inHand : ListenerPhase → List LogRecord
  | .handling record => [record]
  | _ => []

/-- What was taken out of the queue was written, is being written, or was discarded, and the
listener has kept the order. -/
structure Generation.Accounted (gen : Generation) : Prop where
  inOrder : (gen.written ++ gen.listener.inHand).Sublist gen.queue.takes.reduceOption
  taken : ∀ record, gen.queue.takes.count (some record) =
    gen.written.count record + gen.listener.inHand.count record +
      gen.discarded.count (some record)

/-- A turn on a queue that puts no record. -/
structure Served (gen gen' : Generation) : Prop where
  maxsize_eq : gen'.queue.maxsize = gen.queue.maxsize
  puts_eq : ∀ record, gen'.queue.puts.count (some record) = gen.queue.puts.count (some record)
  accounted : gen.Accounted → gen'.Accounted

theorem accounted_new (maxsize : ℕ) : (Generation.new maxsize).Accounted :=
  ⟨List.Sublist.refl _, fun _ => rfl⟩

theorem served_listen {gen gen' : Generation} (h : gen.listen = some gen') : Served gen gen' := by
  unfold Generation.listen at h
  split at h
  case h_1 hlistener =>
    split at h
    case h_1 => cases h
    case h_2 queue hget =>
      obtain ⟨-, hmaxsize, hputs, htakes⟩ := of_get hget
      cases h
      refine ⟨hmaxsize, fun record => by rw [hputs], fun haccounted => ⟨?_, fun record => ?_⟩⟩
      · have hinOrder := haccounted.inOrder
        rw [hlistener] at hinOrder
        dsimp only
        rw [htakes, List.reduceOption_append]
        exact hinOrder.trans (List.sublist_append_left _ _)
      · have htaken := haccounted.taken record
        rw [hlistener] at htaken
        dsimp only
        rw [htakes, List.count_append, htaken]
        rfl
    case h_3 record queue hget =>
      obtain ⟨-, hmaxsize, hputs, htakes⟩ := of_get hget
      cases h
      refine ⟨hmaxsize, fun other => by rw [hputs], fun haccounted => ⟨?_, fun other => ?_⟩⟩
      · have hinOrder := haccounted.inOrder
        rw [hlistener] at hinOrder
        dsimp only
        rw [htakes, List.reduceOption_append]
        refine List.Sublist.append ?_ (List.Sublist.refl [record])
        rw [← List.append_nil gen.written]
        exact hinOrder
      · have htaken := haccounted.taken other
        rw [hlistener] at htaken
        dsimp only [ListenerPhase.inHand] at htaken ⊢
        rw [htakes, List.count_append, htaken]
        simp only [List.count_nil, List.count_singleton, beq_iff_eq, Option.some.injEq]
        omega
  case h_2 record hlistener =>
    cases h
    refine ⟨rfl, fun _ => rfl, fun haccounted => ⟨?_, fun other => ?_⟩⟩
    · have hinOrder := haccounted.inOrder
      rw [hlistener] at hinOrder
      dsimp only [ListenerPhase.inHand] at hinOrder ⊢
      rw [List.append_nil]
      exact hinOrder
    · have htaken := haccounted.taken other
      rw [hlistener] at htaken
      dsimp only [ListenerPhase.inHand] at htaken ⊢
      rw [htaken, List.count_append, List.count_nil, Nat.add_zero]
  case h_3 => cases h

theorem served_sentinel {gen : Generation} {queue : BoundedQueue (Option LogRecord)}
    (h : gen.queue.put none = some queue) : Served gen { gen with queue := queue } := by
  obtain ⟨-, hmaxsize, -, hputs, htakes⟩ := of_put h
  refine ⟨hmaxsize, fun record => ?_, fun haccounted => ⟨?_, fun record => ?_⟩⟩
  · dsimp only
    rw [hputs, List.count_append]
    rfl
  · dsimp only
    rw [htakes]
    exact haccounted.inOrder
  · dsimp only
    rw [htakes]
    exact haccounted.taken record

theorem served_discard {gen : Generation} {item : Option LogRecord}
    {queue : BoundedQueue (Option LogRecord)} (h : gen.queue.get = some (item, queue)) :
    Served gen { gen with queue := queue, discarded := gen.discarded ++ [item] } := by
  obtain ⟨-, hmaxsize, hputs, htakes⟩ := of_get h
  refine ⟨hmaxsize, fun record => by rw [hputs], fun haccounted => ⟨?_, fun record => ?_⟩⟩
  · dsimp only
    rw [htakes, List.reduceOption_append]
    exact haccounted.inOrder.trans (List.sublist_append_left _ _)
  · have htaken := haccounted.taken record
    dsimp only
    rw [htakes, List.count_append, List.count_append, htaken]
    omega

/-- What holds of the manager, its queues and the calls, whoever goes on next. -/
structure Sound (s : State) : Prop where
  met : ∀ emitter ∈ s.emitters, ∀ g, emitter.phase.generation = some g → g < s.generations.length
  current : ∀ g, s.manager.current = some g →
    ∃ gen, s.generations[g]? = some gen ∧ gen.queue.maxsize = s.manager.queueSize
  capacity : ∀ gen ∈ s.generations, 0 < gen.queue.maxsize
  accounted : ∀ gen ∈ s.generations, gen.Accounted
  put : ∀ g gen, s.generations[g]? = some gen → ∀ record,
    gen.queue.puts.count (some record) = s.emitters.count ⟨record, .queued g⟩
  drops : s.manager.droppedRecords + s.forgotten =
    s.emitters.countP fun emitter => emitter.phase.isCounted

theorem sound_initial : Sound State.initial :=
  ⟨nofun, nofun, nofun, nofun, nofun, rfl⟩

theorem sound_controller {s : State} (phase : ControllerPhase) (h : Sound s) :
    Sound { s with controller := phase } :=
  ⟨h.met, h.current, h.capacity, h.accounted, h.put, h.drops⟩

/-- A turn on a queue keeps what holds. -/
theorem sound_served {s : State} {g : ℕ} {gen gen' : Generation}
    (hgen : s.generations[g]? = some gen) (hserved : Served gen gen') (h : Sound s) :
    Sound { s with generations := s.generations.set g gen' } := by
  obtain ⟨hg, hget⟩ := List.getElem?_eq_some_iff.mp hgen
  have hmem : gen ∈ s.generations := hget ▸ List.getElem_mem hg
  have hself : (s.generations.set g gen')[g]? = some gen' := List.getElem?_set_self hg
  constructor
  case met =>
    intro emitter hemitter g' hphase
    rw [List.length_set]
    exact h.met emitter hemitter g' hphase
  case current =>
    intro g' hcurrent
    obtain ⟨other, hother, hmaxsize⟩ := h.current g' hcurrent
    by_cases heq : g = g'
    · subst heq
      obtain rfl := Option.some.inj (hother.symm.trans hgen)
      exact ⟨gen', hself, hserved.maxsize_eq.trans hmaxsize⟩
    · exact ⟨other, (List.getElem?_set_ne heq).trans hother, hmaxsize⟩
  case capacity =>
    refine forall_mem_set g h.capacity ?_
    rw [hserved.maxsize_eq]
    exact h.capacity gen hmem
  case accounted => exact forall_mem_set g h.accounted (hserved.accounted (h.accounted gen hmem))
  case put =>
    intro g' other hother record
    by_cases heq : g = g'
    · subst heq
      obtain rfl := Option.some.inj (hself.symm.trans hother)
      rw [hserved.puts_eq]
      exact h.put g gen hgen record
    · rw [List.getElem?_set_ne heq] at hother
      exact h.put g' other hother record
  case drops => exact h.drops

/-- A turn of a call that neither comes from a queued record nor leads to one. -/
theorem count_queued_set {emitters : List Emitter} {i : ℕ} {emitter : Emitter}
    {phase : EmitterPhase} (hemitter : emitters[i]? = some emitter) {g : ℕ}
    (hbefore : emitter.phase ≠ .queued g) (hafter : phase ≠ .queued g) (record : LogRecord) :
    (emitters.set i { emitter with phase := phase }).count ⟨record, .queued g⟩ =
      emitters.count ⟨record, .queued g⟩ := by
  have hset := count_set_add ⟨record, .queued g⟩ { emitter with phase := phase } hemitter
  rw [if_neg (fun heq => hbefore (congrArg Emitter.phase heq)),
    if_neg (fun heq => hafter (congrArg Emitter.phase heq))] at hset
  exact hset

/-- A call that only moves keeps what holds. -/
theorem sound_moved {s : State} {i : ℕ} {emitter : Emitter} {phase : EmitterPhase}
    (hemitter : s.emitters[i]? = some emitter)
    (hmoves : Moves s.manager.current emitter.phase phase) (h : Sound s) :
    Sound (s.goTo i emitter phase) := by
  have hmem : emitter ∈ s.emitters := List.mem_of_getElem? hemitter
  constructor
  case met =>
    refine forall_mem_set i h.met fun g hg => ?_
    rcases hmoves.generation_eq hg with hcurrent | hphase
    · obtain ⟨gen, hgen, -⟩ := h.current g hcurrent
      exact (List.getElem?_eq_some_iff.mp hgen).1
    · exact h.met emitter hmem g hphase
  case current => exact h.current
  case capacity => exact h.capacity
  case accounted => exact h.accounted
  case put =>
    intro g gen hgen record
    obtain ⟨hbefore, hafter⟩ := hmoves.ne_queued g
    exact (h.put g gen hgen record).trans (count_queued_set hemitter hbefore hafter record).symm
  case drops =>
    have hset := countP_set_add (fun other : Emitter => other.phase.isCounted)
      { emitter with phase := phase } hemitter
    dsimp only at hset
    rw [hmoves.isCounted_eq] at hset
    exact h.drops.trans (Nat.add_right_cancel hset).symm

/-- A record that goes into a queue keeps what holds. -/
theorem sound_put {s : State} {i g : ℕ} {emitter : Emitter} {gen : Generation}
    {queue : BoundedQueue (Option LogRecord)} (hemitter : s.emitters[i]? = some emitter)
    (hphase : emitter.phase = .enqueueing g) (hgen : s.generations[g]? = some gen)
    (hput : gen.queue.put (some emitter.record) = some queue) (h : Sound s) :
    Sound ({ s with generations := s.generations.set g { gen with queue := queue } }.goTo
      i emitter (.queued g)) := by
  obtain ⟨-, hmaxsize, -, hputs, htakes⟩ := of_put hput
  obtain ⟨hg, hget⟩ := List.getElem?_eq_some_iff.mp hgen
  have hmem : gen ∈ s.generations := hget ▸ List.getElem_mem hg
  have hself : (s.generations.set g { gen with queue := queue })[g]? =
      some { gen with queue := queue } := List.getElem?_set_self hg
  have hcount : ∀ record g', (s.emitters.set i { emitter with phase := .queued g }).count
      ⟨record, .queued g'⟩ = s.emitters.count ⟨record, .queued g'⟩ +
        if emitter.record = record ∧ g = g' then 1 else 0 := by
    intro record g'
    have hset := count_set_add ⟨record, .queued g'⟩ { emitter with phase := .queued g } hemitter
    rw [if_neg (fun heq => by
      have hqueued := congrArg Emitter.phase heq
      rw [hphase] at hqueued
      cases hqueued)] at hset
    simp only [Emitter.mk.injEq, EmitterPhase.queued.injEq] at hset
    exact hset
  constructor
  case met =>
    intro other hother g' hg'
    dsimp only [State.goTo]
    rw [List.length_set]
    rcases List.mem_or_eq_of_mem_set hother with hmem' | rfl
    · exact h.met other hmem' g' hg'
    · cases hg'
      exact hg
  case current =>
    intro g' hcurrent
    obtain ⟨other, hother, hsize⟩ := h.current g' hcurrent
    by_cases heq : g = g'
    · subst heq
      obtain rfl := Option.some.inj (hother.symm.trans hgen)
      exact ⟨_, hself, hmaxsize.trans hsize⟩
    · exact ⟨other, (List.getElem?_set_ne heq).trans hother, hsize⟩
  case capacity =>
    refine forall_mem_set g h.capacity ?_
    dsimp only
    rw [hmaxsize]
    exact h.capacity gen hmem
  case accounted =>
    have haccounted := h.accounted gen hmem
    refine forall_mem_set g h.accounted ⟨?_, fun record => ?_⟩
    · dsimp only
      rw [htakes]
      exact haccounted.inOrder
    · dsimp only
      rw [htakes]
      exact haccounted.taken record
  case put =>
    intro g' other hother record
    dsimp only [State.goTo] at hother ⊢
    rw [hcount]
    by_cases heq : g = g'
    · subst heq
      obtain rfl := Option.some.inj (hself.symm.trans hother)
      dsimp only
      rw [hputs, List.count_append, h.put g gen hgen record, List.count_singleton]
      simp only [beq_iff_eq, Option.some.injEq, and_true]
    · rw [List.getElem?_set_ne heq] at hother
      rw [if_neg (fun hand => heq hand.2), Nat.add_zero]
      exact h.put g' other hother record
  case drops =>
    have hset := countP_set_add (fun other : Emitter => other.phase.isCounted)
      { emitter with phase := .queued g } hemitter
    dsimp only at hset
    rw [hphase] at hset
    exact h.drops.trans (Nat.add_right_cancel hset).symm

/-- A record that is counted keeps what holds. -/
theorem sound_dropped {s : State} {i g : ℕ} {emitter : Emitter} {phase : EmitterPhase}
    (hemitter : s.emitters[i]? = some emitter) (hphase : emitter.phase = .overflowed g)
    (hnext : phase = .dropped ∨ phase = .counted g) (h : Sound s) :
    Sound ((recordDrop s).goTo i emitter phase) := by
  have hmem : emitter ∈ s.emitters := List.mem_of_getElem? hemitter
  have hcounted : phase.isCounted = true := by
    rcases hnext with rfl | rfl <;> rfl
  constructor
  case met =>
    refine forall_mem_set i h.met fun g' hg' => ?_
    rcases hnext with rfl | rfl
    · cases hg'
    · exact h.met emitter hmem g' (by rw [hphase]; exact hg')
  case current => exact h.current
  case capacity => exact h.capacity
  case accounted => exact h.accounted
  case put =>
    intro g' gen hgen record
    have hbefore : emitter.phase ≠ .queued g' := by
      rw [hphase]
      intro hqueued
      cases hqueued
    have hafter : phase ≠ .queued g' := by
      intro hqueued
      rcases hnext with rfl | rfl <;> cases hqueued
    exact (h.put g' gen hgen record).trans (count_queued_set hemitter hbefore hafter record).symm
  case drops =>
    have hset := countP_set_add (fun other : Emitter => other.phase.isCounted)
      { emitter with phase := phase } hemitter
    dsimp only at hset
    rw [hphase, hcounted] at hset
    have hdrops := h.drops
    dsimp only [State.goTo, recordDrop]
    rw [if_neg (show ¬ (EmitterPhase.overflowed g).isCounted = true from Bool.false_ne_true),
      if_pos rfl] at hset
    omega

theorem sound_log {s : State} (record : LogRecord) (h : Sound s) :
    Sound { s with emitters := s.emitters ++ [⟨record, .logging⟩] } := by
  constructor
  case met =>
    intro emitter hemitter g hg
    rcases List.mem_append.mp hemitter with hmem | hmem
    · exact h.met emitter hmem g hg
    · obtain rfl := List.mem_singleton.mp hmem
      cases hg
  case current => exact h.current
  case capacity => exact h.capacity
  case accounted => exact h.accounted
  case put =>
    intro g gen hgen other
    rw [h.put g gen hgen other, List.count_append, List.count_singleton, if_neg (by simp)]
    rfl
  case drops =>
    dsimp only
    rw [List.countP_append, ← h.drops]
    rfl

/-- The end of `configure` and of `stop` keeps what holds. -/
theorem sound_finish {s : State} (call : ControlCall) (h : Sound s) : Sound (finish s call) := by
  cases call with
  | stop => exact ⟨h.met, h.current, h.capacity, h.accounted, h.put, h.drops⟩
  | configure enabled verbosity queueSize =>
      have hdrops : 0 + (s.forgotten + s.manager.droppedRecords) =
          s.emitters.countP fun emitter => emitter.phase.isCounted := by
        rw [← h.drops]
        omega
      cases enabled with
      | false =>
          refine ⟨h.met, ?_, h.capacity, h.accounted, h.put, hdrops⟩
          intro g hg
          cases hg
      | true =>
          have hpos : 0 < (max queueSize 1).toNat := by omega
          constructor
          case met =>
            intro emitter hemitter g hg
            have hlt := h.met emitter hemitter g hg
            dsimp only [finish]
            rw [if_pos rfl, List.length_append]
            omega
          case current =>
            intro g hg
            cases hg
            refine ⟨.new (max queueSize 1).toNat, ?_, rfl⟩
            dsimp only [finish]
            rw [if_pos rfl, List.getElem?_concat_length]
          case capacity =>
            intro gen hgen
            rcases List.mem_append.mp hgen with hmem | hmem
            · exact h.capacity gen hmem
            · obtain rfl := List.mem_singleton.mp hmem
              exact hpos
          case accounted =>
            intro gen hgen
            rcases List.mem_append.mp hgen with hmem | hmem
            · exact h.accounted gen hmem
            · obtain rfl := List.mem_singleton.mp hmem
              exact accounted_new _
          case put =>
            intro g gen hgen record
            rcases lt_trichotomy g s.generations.length with hlt | heq | hgt
            · exact h.put g gen ((List.getElem?_append_left hlt).symm.trans hgen) record
            · subst heq
              obtain rfl := Option.some.inj (List.getElem?_concat_length.symm.trans hgen)
              refine (List.count_eq_zero.mpr fun hmem => ?_).symm
              exact Nat.lt_irrefl _ (h.met _ hmem _ rfl)
            · have hbound : g < (s.generations ++ [Generation.new _]).length :=
                (List.getElem?_eq_some_iff.mp hgen).1
              rw [List.length_append, List.length_singleton] at hbound
              omega
          case drops => exact hdrops

/-- Every turn keeps what holds. -/
theorem sound_step {s s' : State} {event : Event} (hstep : step s event = some s')
    (h : Sound s) : Sound s' := by
  unfold step at hstep
  split at hstep
  case h_1 call =>
    split at hstep
    case isFalse => cases hstep
    case isTrue =>
      split at hstep
      case isTrue =>
        cases hstep
        exact sound_log call.record h
      case isFalse =>
        cases hstep
        exact h
  case h_2 call =>
    split at hstep
    case isFalse => cases hstep
    case isTrue =>
      split at hstep
      case h_1 =>
        cases hstep
        exact sound_controller _ h
      case h_2 =>
        cases hstep
        exact sound_controller _ h
  case h_3 i =>
    obtain ⟨emitter, hemitter, hcases⟩ := of_emit hstep
    rcases hcases with ⟨phase, hmoves, rfl⟩ | ⟨g, gen, queue, hphase, hgen, hput, rfl⟩ |
      ⟨g, phase, hphase, -, rfl, hnext⟩
    · exact sound_moved hemitter hmoves h
    · exact sound_put hemitter hphase hgen hput h
    · exact sound_dropped hemitter hphase (hnext.imp And.right And.right) h
  case h_4 g =>
    split at hstep
    case h_1 => cases hstep
    case h_2 gen hgen =>
      obtain ⟨gen', hlisten, rfl⟩ := Option.map_eq_some_iff.mp hstep
      exact sound_served hgen (served_listen hlisten) h
  case h_5 =>
    rcases of_control hstep with ⟨phase, rfl⟩ | ⟨g, gen, gen', phase, -, hgen, rfl, hturn⟩ |
      ⟨call, rfl⟩ | ⟨call, -, rfl⟩
    · exact sound_controller phase h
    · have hserved : Served gen gen' := by
        rcases hturn with ⟨queue, hput, rfl⟩ | ⟨item, queue, hget, rfl⟩
        · exact served_sentinel hput
        · exact served_discard hget
      exact sound_controller phase (sound_served hgen hserved h)
    · exact ⟨h.met, nofun, h.capacity, h.accounted, h.put, h.drops⟩
    · exact sound_finish call h

/-- A record that was put into a queue is in one place. -/
theorem queued_eq {s : State} (h : Sound s) {g : ℕ} {gen : Generation}
    (hgen : s.generations[g]? = some gen) (record : LogRecord) :
    s.emitters.count ⟨record, .queued g⟩ =
      gen.written.count record + gen.listener.inHand.count record +
        gen.queue.items.count (some record) + gen.discarded.count (some record) := by
  have htaken := (h.accounted gen (List.mem_of_getElem? hgen)).taken record
  rw [← h.put g gen hgen record, gen.queue.puts_eq, List.count_append]
  omega

/-- In every interleaving a record that was put into a queue is in one place.  The stream, the
listener and the queue have the records in the order of their puts; at most `queue_size`
records wait, and the counter is the number of records that found a full queue. -/
theorem accounted_run {events : List Event} {t : State}
    (hrun : run step State.initial events = some t) :
    (∀ g gen, t.generations[g]? = some gen →
      (∀ record, t.emitters.count ⟨record, .queued g⟩ =
          gen.written.count record + gen.listener.inHand.count record +
            gen.queue.items.count (some record) + gen.discarded.count (some record)) ∧
        (gen.written ++ gen.listener.inHand ++ gen.queue.items.reduceOption).Sublist
          gen.queue.puts.reduceOption ∧
        gen.queue.items.length ≤ gen.queue.maxsize) ∧
      t.status.queueDepth ≤ t.status.queueSize ∧
      t.manager.droppedRecords + t.forgotten =
        t.emitters.countP fun emitter => emitter.phase.isCounted := by
  have h := run_invariant Sound (fun _ _ _ => sound_step) hrun sound_initial
  refine ⟨fun g gen hgen => ?_, ?_, h.drops⟩
  · have hmem : gen ∈ t.generations := List.mem_of_getElem? hgen
    refine ⟨queued_eq h hgen, ?_, gen.queue.length_le (h.capacity gen hmem)⟩
    rw [gen.queue.puts_eq, List.reduceOption_append]
    exact (h.accounted gen hmem).inOrder.append (List.Sublist.refl _)
  · unfold State.status
    dsimp only
    cases hcurrent : t.manager.current with
    | none => exact Nat.zero_le _
    | some g =>
        obtain ⟨gen, hgen, hmaxsize⟩ := h.current g hcurrent
        rw [Option.bind_some, hgen, Option.map_some, Option.getD_some, ← hmaxsize]
        exact gen.queue.length_le (h.capacity gen (List.mem_of_getElem? hgen))

/-- A call that logs an event at a level. -/
def logAt (event : String) (level : Int) : Event :=
  .log { event := event, verbosity := "concise", level := level, message := none }

/-- A queue for one record, an information that fills it, and a warning that finds it full. -/
def overflowEvents : List Event :=
  [logAt "started" 20, logAt "failed" 30, .emit 0, .emit 0, .emit 0, .emit 1, .emit 1, .emit 1,
    .emit 1, .emit 1, .emit 1, .listen 0, .listen 0]

/-- The run of `configure` and of these calls. -/
def overflowRun : List Event :=
  .call (.configure true "concise" 1) :: .control :: overflowEvents

/-- The warning is counted. -/
theorem accounted_run_overflow :
    ∃ t, run step State.initial overflowRun = some t ∧
      t.manager.droppedRecords + t.forgotten = 1 ∧
      t.emitters.countP (fun emitter => emitter.phase.isCounted) = 1 := by
  have htest : (run step State.initial overflowRun).any (fun t =>
      t.manager.droppedRecords + t.forgotten == 1) = true := by
    decide +kernel
  obtain ⟨t, hrun, hone⟩ := (Option.any_eq_true _ _).mp htest
  rw [beq_iff_eq] at hone
  exact ⟨t, hrun, hone, (accounted_run hrun).2.2.symm.trans hone⟩

/-! ## Without another call of `configure` or `stop` -/

/-- The call of `runtime_log` has returned. -/
def EmitterPhase.isOver : EmitterPhase → Bool
  | .queued _ => true
  | .unhandled => true
  | .dropped => true
  | .lost => true
  | .fellBack _ => true
  | _ => false

/-- The first queue and its handlers serve the call. -/
def Emitter.Covered (emitter : Emitter) : Prop :=
  match emitter.phase with
  | .logging => True
  | .acquiring g => g = 0
  | .enqueueing g => g = 0
  | .overflowed g => g = 0
  | .counted g => g = 0
  | .fallingBack g handler => g = 0 ∧ handler = 0
  | .queued g => g = 0
  | .fellBack handler => handler = 0
  | .dropped => emitter.record.levelno < warning
  | .unhandled => False
  | .lost => False

/-- The first queue is in use, and nothing of it was discarded. -/
structure Running (s : State) : Prop where
  idle : s.controller = .idle
  current : s.manager.current = some 0
  generations : ∃ gen, s.generations = [gen] ∧ gen.discarded = []
  covered : ∀ emitter ∈ s.emitters, emitter.Covered
  forgotten : s.forgotten = 0

theorem covered_moved {emitter : Emitter} {phase : EmitterPhase}
    (hmoves : Moves (some 0) emitter.phase phase) (h : emitter.Covered) :
    Emitter.Covered { emitter with phase := phase } := by
  unfold Emitter.Covered at h ⊢
  generalize emitter.phase = before at hmoves h
  cases hmoves with
  | handled hcurrent => exact (Option.some.inj hcurrent).symm
  | unhandled hcurrent => cases hcurrent
  | acquired _ => exact h
  | full _ => exact h
  | covered _ hcurrent => exact ⟨h, (Option.some.inj hcurrent).symm⟩
  | lost _ hcurrent => cases hcurrent
  | fellBack _ _ => exact h.2

theorem listen_discarded {gen gen' : Generation} (h : gen.listen = some gen') :
    gen'.discarded = gen.discarded := by
  unfold Generation.listen at h
  split at h
  case h_1 =>
    split at h
    case h_1 => cases h
    case h_2 =>
      cases h
      rfl
    case h_3 =>
      cases h
      rfl
  case h_2 =>
    cases h
    rfl
  case h_3 => cases h

theorem running_step {s s' : State} {event : Event} (hstep : step s event = some s')
    (hevent : ∀ call, event ≠ .call call) (h : Running s) : Running s' := by
  unfold step at hstep
  split at hstep
  case h_1 call =>
    split at hstep
    case isFalse => cases hstep
    case isTrue =>
      split at hstep
      case isTrue =>
        cases hstep
        refine ⟨h.idle, h.current, h.generations, fun emitter hemitter => ?_, h.forgotten⟩
        rcases List.mem_append.mp hemitter with hmem | hmem
        · exact h.covered emitter hmem
        · obtain rfl := List.mem_singleton.mp hmem
          trivial
      case isFalse =>
        cases hstep
        exact h
  case h_2 call => exact absurd rfl (hevent call)
  case h_3 i =>
    obtain ⟨emitter, hemitter, hcases⟩ := of_emit hstep
    have hcovered := h.covered emitter (List.mem_of_getElem? hemitter)
    rcases hcases with ⟨phase, hmoves, rfl⟩ | ⟨g, gen, queue, hphase, hgen, hput, rfl⟩ |
      ⟨g, phase, hphase, -, rfl, hnext⟩
    · rw [h.current] at hmoves
      exact ⟨h.idle, h.current, h.generations,
        forall_mem_set i h.covered (covered_moved hmoves hcovered), h.forgotten⟩
    · have hzero : g = 0 := by
        unfold Emitter.Covered at hcovered
        rw [hphase] at hcovered
        exact hcovered
      subst hzero
      obtain ⟨only, honly, hdiscarded⟩ := h.generations
      rw [honly, List.getElem?_cons_zero, Option.some.injEq] at hgen
      subst hgen
      refine ⟨h.idle, h.current, ⟨{ only with queue := queue }, ?_, hdiscarded⟩,
        forall_mem_set i h.covered rfl, h.forgotten⟩
      dsimp only [State.goTo]
      rw [honly, List.set_cons_zero]
    · refine ⟨h.idle, h.current, h.generations, forall_mem_set i h.covered ?_, h.forgotten⟩
      rcases hnext with ⟨hlow, rfl⟩ | ⟨-, rfl⟩
      · exact hlow
      · unfold Emitter.Covered at hcovered
        rw [hphase] at hcovered
        exact hcovered
  case h_4 g =>
    split at hstep
    case h_1 => cases hstep
    case h_2 gen hgen =>
      obtain ⟨gen', hlisten, rfl⟩ := Option.map_eq_some_iff.mp hstep
      obtain ⟨only, honly, hdiscarded⟩ := h.generations
      have hg : g = 0 := by
        have hlt := (List.getElem?_eq_some_iff.mp hgen).1
        rw [honly, List.length_singleton] at hlt
        omega
      subst hg
      rw [honly, List.getElem?_cons_zero, Option.some.injEq] at hgen
      subst hgen
      refine ⟨h.idle, h.current, ⟨gen', ?_, (listen_discarded hlisten).trans hdiscarded⟩,
        h.covered, h.forgotten⟩
      dsimp only
      rw [honly, List.set_cons_zero]
  case h_5 =>
    unfold control at hstep
    rw [h.idle] at hstep
    cases hstep

/-- The ends of calls that the first queue and its handlers have served. -/
theorem countP_record_of_over {emitters : List Emitter}
    (hcovered : ∀ emitter ∈ emitters, emitter.Covered)
    (hover : ∀ emitter ∈ emitters, emitter.phase.isOver = true) (record : LogRecord) :
    emitters.countP (fun emitter => decide (emitter.record = record)) =
      emitters.count ⟨record, .queued 0⟩ + emitters.count ⟨record, .fellBack 0⟩ +
        emitters.count ⟨record, .dropped⟩ := by
  induction emitters with
  | nil => rfl
  | cons emitter rest ih =>
      obtain ⟨hfirst, hrest⟩ := List.forall_mem_cons.mp hcovered
      obtain ⟨hdone, hdones⟩ := List.forall_mem_cons.mp hover
      obtain ⟨record', phase⟩ := emitter
      rw [List.countP_cons, List.count_cons, List.count_cons, List.count_cons, ih hrest hdones]
      simp only [decide_eq_true_eq, beq_iff_eq, Emitter.mk.injEq]
      cases phase with
      | queued g =>
          obtain rfl : g = 0 := hfirst
          simp only [reduceCtorEq, and_false, if_false, and_true]
          omega
      | fellBack handler =>
          obtain rfl : handler = 0 := hfirst
          simp only [reduceCtorEq, and_false, if_false, and_true]
          omega
      | dropped =>
          simp only [reduceCtorEq, and_false, if_false, and_true]
          omega
      | unhandled => exact hfirst.elim
      | lost => exact hfirst.elim
      | _ => cases hdone

/-- After `configure` and without another call of it or of `stop`: when all calls of
`runtime_log` have returned and the listener waits on an empty queue, each call's record is
written, or it was counted and is no warning. -/
theorem settled_run {verbosity : String} {queueSize : Int} {events : List Event} {t : State}
    (hcalls : ∀ event ∈ events, ∀ call, event ≠ .call call)
    (hrun : run step State.initial
      (.call (.configure true verbosity queueSize) :: .control :: events) = some t)
    (hover : ∀ emitter ∈ t.emitters, emitter.phase.isOver = true)
    (hwaiting : ∀ gen ∈ t.generations, gen.queue.items = [] ∧ gen.listener = .waiting) :
    ∃ gen, t.generations = [gen] ∧
      ∀ record, t.emitters.countP (fun emitter => decide (emitter.record = record)) =
          gen.written.count record + t.emitters.count ⟨record, .fellBack 0⟩ +
            t.emitters.count ⟨record, .dropped⟩ ∧
        (warning ≤ record.levelno → t.emitters.count ⟨record, .dropped⟩ = 0) ∧
        t.manager.droppedRecords = t.emitters.countP fun emitter => emitter.phase.isCounted := by
  have hsound := run_invariant Sound (fun _ _ _ => sound_step) hrun sound_initial
  rw [run_cons_of_step rfl, run_cons_of_step rfl] at hrun
  have hrunning := run_guarded_invariant Running
    (fun _ _ _ hstep hevent => running_step hstep hevent) hrun (guarded_of_forall_mem hcalls _)
    ⟨rfl, rfl, ⟨_, rfl, rfl⟩, nofun, rfl⟩
  obtain ⟨gen, hgenerations, hdiscarded⟩ := hrunning.generations
  obtain ⟨hitems, hlistener⟩ := hwaiting gen (by rw [hgenerations]; exact List.mem_cons_self)
  have hgen : t.generations[0]? = some gen := by
    rw [hgenerations]
    rfl
  refine ⟨gen, hgenerations, fun record => ⟨?_, fun hwarning => ?_, ?_⟩⟩
  · rw [countP_record_of_over hrunning.covered hover record, queued_eq hsound hgen record, hitems,
      hlistener, hdiscarded]
    simp only [ListenerPhase.inHand, List.count_nil, Nat.add_zero]
  · refine List.count_eq_zero.mpr fun hmem => ?_
    have hlow : record.levelno < warning := hrunning.covered _ hmem
    omega
  · have hdrops := hsound.drops
    rw [hrunning.forgotten, Nat.add_zero] at hdrops
    exact hdrops

/-- The information was written by the listener, the warning by the other handler. -/
theorem settled_run_overflow :
    ∃ t gen, run step State.initial overflowRun = some t ∧ t.generations = [gen] ∧
      ∀ record, t.emitters.countP (fun emitter => decide (emitter.record = record)) =
        gen.written.count record + t.emitters.count ⟨record, .fellBack 0⟩ +
          t.emitters.count ⟨record, .dropped⟩ := by
  have htest : (run step State.initial overflowRun).any (fun t =>
      t.emitters.all (fun emitter => emitter.phase.isOver) &&
        t.generations.all fun gen =>
          gen.queue.items.isEmpty && decide (gen.listener = .waiting)) = true := by
    decide +kernel
  obtain ⟨t, hrun, hend⟩ := (Option.any_eq_true _ _).mp htest
  simp only [Bool.and_eq_true, List.all_eq_true, List.isEmpty_iff, decide_eq_true_eq] at hend
  have hcalls : ∀ event ∈ overflowEvents, ∀ call, event ≠ .call call := by
    simp only [overflowEvents, logAt, List.forall_mem_cons, ne_eq, reduceCtorEq,
      not_false_eq_true, implies_true, true_and, List.not_mem_nil, false_implies]
  obtain ⟨gen, hgenerations, hrecords⟩ := settled_run hcalls hrun hend.1 hend.2
  exact ⟨t, gen, hrun, hgenerations, fun record => (hrecords record).1⟩

end Logging
end FreeLunch
