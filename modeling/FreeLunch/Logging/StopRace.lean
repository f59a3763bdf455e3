import FreeLunch.Logging.RuntimeLogging

/-!
# Stopping the listener

`_stop_locked` puts a sentinel into the queue and joins the listener.  When the queue is full it
takes a record out first; when it then finds the queue empty, because the listener was faster,
it joins without a sentinel.

Main results:

- Theorem `returns_iff`: a thread that joins the listener can return exactly when a sentinel was
  put or the listener has ended, and before the join it can unless it finds the queue empty.
- Theorem `hung_run`: then it never returns, and no call of `runtime_log`, `configure` or `stop`
  gets the lock again.
-/

namespace FreeLunch
namespace Logging

open Runs Threads BoundedQueues

/-! ## Progress -/

/-- The call of `configure` or `stop` under way can still return. -/
def CanReturn (s : State) : Prop :=
  ∃ events t, run step s events = some t ∧ t.controller = .idle

/-- The listener in use has ended, or finds a sentinel. -/
def Awaited (s : State) : Prop :=
  ∃ g gen, s.manager.current = some g ∧ s.generations[g]? = some gen ∧
    (gen.listener = .finished ∨ none ∈ gen.queue.items)

theorem canReturn_of_step {s s' : State} {event : Event} (hstep : step s event = some s')
    (h : CanReturn s') : CanReturn s := by
  obtain ⟨events, t, hrun, hidle⟩ := h
  exact ⟨event :: events, t, (run_cons_of_step hstep events).trans hrun, hidle⟩

theorem canReturn_of_finishing {s : State} {call : ControlCall}
    (h : s.controller = .finishing call) : CanReturn s := by
  have hstep : step s .control = some (finish s call) := by
    unfold step control
    rw [h]
  refine canReturn_of_step hstep ⟨[], _, rfl, ?_⟩
  cases call <;> rfl

theorem step_listen {s : State} {g : ℕ} {gen gen' : Generation}
    (hgen : s.generations[g]? = some gen) (hlisten : gen.listen = some gen') :
    step s (.listen g) = some { s with generations := s.generations.set g gen' } := by
  unfold step
  dsimp only
  rw [hgen]
  dsimp only
  rw [hlisten, Option.map_some]

/-- How many turns the listener needs at most. -/
def Generation.turns (gen : Generation) : ℕ :=
  2 * gen.queue.items.length + gen.listener.inHand.length

/-- The listener comes nearer to a sentinel. -/
theorem exists_listen {gen : Generation} (hlistener : gen.listener ≠ .finished)
    (hsentinel : none ∈ gen.queue.items) :
    ∃ gen', gen.listen = some gen' ∧ gen'.turns < gen.turns ∧
      (gen'.listener = .finished ∨ none ∈ gen'.queue.items) := by
  unfold Generation.listen Generation.turns
  cases hphase : gen.listener with
  | finished => exact absurd hphase hlistener
  | handling record =>
      refine ⟨_, rfl, ?_, .inr hsentinel⟩
      exact Nat.lt_succ_self _
  | waiting =>
      cases hget : gen.queue.get with
      | none =>
          rw [get_eq_none_iff.mp hget] at hsentinel
          cases hsentinel
      | some pair =>
          obtain ⟨item, queue⟩ := pair
          obtain ⟨hitems, -, -, -⟩ := of_get hget
          rw [hitems] at hsentinel ⊢
          cases item with
          | none =>
              refine ⟨_, rfl, ?_, .inl rfl⟩
              simp only [List.length_cons, ListenerPhase.inHand, List.length_nil]
              omega
          | some record =>
              refine ⟨_, rfl, ?_, .inr ?_⟩
              · simp only [List.length_cons, ListenerPhase.inHand, List.length_nil]
                omega
              · exact (List.mem_cons.mp hsentinel).resolve_left (Option.some_ne_none record).symm

/-- A thread that joins a listener with a sentinel in front of it can return. -/
theorem canReturn_of_awaited {s : State} {call : ControlCall} (hjoin : s.controller = .joining call)
    (h : Awaited s) : CanReturn s := by
  obtain ⟨g, gen, hcurrent, hgen, hend⟩ := h
  induction hturns : gen.turns using Nat.strongRecOn generalizing s gen with
  | ind turns ih =>
      subst hturns
      by_cases hfinished : gen.listener = .finished
      · have hstep : step s .control = some { s with
            manager := { s.manager with current := none }, controller := .finishing call } := by
          unfold step control
          rw [hjoin]
          dsimp only
          rw [hcurrent]
          dsimp only
          rw [hgen]
          dsimp only
          rw [if_pos hfinished]
        exact canReturn_of_step hstep (canReturn_of_finishing rfl)
      · obtain ⟨gen', hlisten, hlower, hend'⟩ :=
          exists_listen hfinished (hend.resolve_left hfinished)
        have hg := (List.getElem?_eq_some_iff.mp hgen).1
        refine canReturn_of_step (step_listen hgen hlisten) ?_
        exact ih _ hlower hjoin gen' hcurrent (List.getElem?_set_self hg) hend' rfl

/-! ## The way to the join -/

/-- Neither has the listener ended nor does a sentinel wait for it. -/
def Generation.Unended (gen : Generation) : Prop :=
  gen.listener ≠ .finished ∧ none ∉ gen.queue.items

theorem unended_listen {gen gen' : Generation} (hlisten : gen.listen = some gen')
    (h : gen.Unended) : gen'.Unended := by
  unfold Generation.listen at hlisten
  split at hlisten
  case h_1 =>
    split at hlisten
    case h_1 => cases hlisten
    case h_2 queue hget =>
      obtain ⟨hitems, -, -, -⟩ := of_get hget
      exact absurd (by rw [hitems]; exact List.mem_cons_self) h.2
    case h_3 record queue hget =>
      obtain ⟨hitems, -, -, -⟩ := of_get hget
      cases hlisten
      refine ⟨fun hfinished => ?_, fun hmem => h.2 ?_⟩
      · cases hfinished
      · rw [hitems]
        exact List.mem_cons_of_mem _ hmem
  case h_2 =>
    cases hlisten
    refine ⟨fun hfinished => ?_, h.2⟩
    cases hfinished
  case h_3 => cases hlisten

theorem unended_put {gen : Generation} {record : LogRecord}
    {queue : BoundedQueue (Option LogRecord)} (hput : gen.queue.put (some record) = some queue)
    (h : gen.Unended) : Generation.Unended { gen with queue := queue } := by
  obtain ⟨-, -, hitems, -, -⟩ := of_put hput
  refine ⟨h.1, ?_⟩
  dsimp only
  rw [hitems]
  intro hmem
  rcases List.mem_append.mp hmem with hwaiting | hnew
  · exact h.2 hwaiting
  · cases List.mem_singleton.mp hnew

theorem unended_discard {gen : Generation} {item : Option LogRecord}
    {queue : BoundedQueue (Option LogRecord)} (hget : gen.queue.get = some (item, queue))
    (h : gen.Unended) :
    Generation.Unended { gen with queue := queue, discarded := gen.discarded ++ [item] } := by
  obtain ⟨hitems, -, -, -⟩ := of_get hget
  exact ⟨h.1, fun hmem => h.2 (by rw [hitems]; exact List.mem_cons_of_mem _ hmem)⟩

/-- A turn on one queue leaves the queue in use as it was, or does to it what it does. -/
theorem unended_set {generations : List Generation} {g g' : ℕ} {other other' : Generation}
    (hother : generations[g']? = some other) (hkeep : other.Unended → other'.Unended)
    (h : ∀ gen, generations[g]? = some gen → gen.Unended) :
    ∀ gen, (generations.set g' other')[g]? = some gen → gen.Unended := by
  intro gen hgen
  by_cases heq : g' = g
  · subst heq
    rw [List.getElem?_set_self (List.getElem?_eq_some_iff.mp hother).1] at hgen
    exact Option.some.inj hgen ▸ hkeep (h other hother)
  · rw [List.getElem?_set_ne heq] at hgen
    exact h gen hgen

/-- A thread that has not cleared the fields yet has a queue. -/
def ControllerPhase.hasQueue : ControllerPhase → Bool
  | .stopping _ => true
  | .makingRoom _ => true
  | .joining _ => true
  | _ => false

/-- The thread has not put a sentinel. -/
def ControllerPhase.beforeJoin : ControllerPhase → Bool
  | .joining _ => false
  | _ => true

/-- While a thread stops the listener, the manager has it, and before the join the listener in
use goes on. -/
structure Rest (s : State) : Prop where
  current : s.controller.hasQueue = true → s.manager.current ≠ none
  unended : s.controller.beforeJoin = true → ∀ g, s.manager.current = some g →
    ∀ gen, s.generations[g]? = some gen → gen.Unended

/-- A thread that has put a sentinel, or has ended its loop without one. -/
theorem rest_of_joining {s : State} {call : ControlCall} {g : ℕ}
    (hjoining : s.controller = .joining call) (hcurrent : s.manager.current = some g) :
    Rest s := by
  refine ⟨fun _ hnone => ?_, fun hbefore => ?_⟩
  · cases hcurrent.symm.trans hnone
  · rw [hjoining] at hbefore
    cases hbefore

/-- A thread that has cleared the fields. -/
theorem rest_of_finishing {s : State} {call : ControlCall}
    (hfinishing : s.controller = .finishing call) (hcurrent : s.manager.current = none) :
    Rest s := by
  refine ⟨fun hqueue => ?_, fun _ g hg => ?_⟩
  · rw [hfinishing] at hqueue
    cases hqueue
  · cases hcurrent.symm.trans hg

/-- The end of `configure` and of `stop`. -/
theorem rest_finish {s : State} (call : ControlCall)
    (h : ∀ g, s.manager.current = some g → ∀ gen, s.generations[g]? = some gen → gen.Unended) :
    Rest (finish s call) := by
  cases call with
  | stop =>
      refine ⟨fun hqueue => ?_, fun _ => h⟩
      cases hqueue
  | configure enabled verbosity queueSize =>
      refine ⟨fun hqueue => ?_, fun _ g hg gen hgen => ?_⟩
      · cases hqueue
      · cases enabled with
        | false => cases hg
        | true =>
            cases hg
            obtain rfl := Option.some.inj (List.getElem?_concat_length.symm.trans hgen)
            refine ⟨fun hfinished => ?_, fun hmem => ?_⟩
            · cases hfinished
            · cases hmem

/-- A turn of the thread that stops the listener keeps what holds. -/
theorem rest_control {s s' : State} (hcontrol : control s = some s') (h : Rest s) : Rest s' := by
  unfold control at hcontrol
  split at hcontrol
  case h_1 => cases hcontrol
  case h_2 call hphase =>
    have hunended := h.unended (by rw [hphase]; rfl)
    split at hcontrol
    case h_1 => cases hcontrol
    case h_2 g hcurrent =>
      split at hcontrol
      case h_1 => cases hcontrol
      case h_2 gen hgen =>
        split at hcontrol
        case h_1 =>
          cases hcontrol
          refine ⟨fun _ hnone => ?_, fun _ => hunended⟩
          cases hcurrent.symm.trans hnone
        case h_2 =>
          cases hcontrol
          exact rest_of_joining rfl hcurrent
  case h_3 call hphase =>
    have hunended := h.unended (by rw [hphase]; rfl)
    split at hcontrol
    case h_1 => cases hcontrol
    case h_2 g hcurrent =>
      split at hcontrol
      case h_1 => cases hcontrol
      case h_2 gen hgen =>
        split at hcontrol
        case h_1 =>
          cases hcontrol
          exact rest_of_joining rfl hcurrent
        case h_2 item queue hget =>
          cases hcontrol
          refine ⟨fun _ hnone => ?_, fun _ g' hg' => ?_⟩
          · cases hcurrent.symm.trans hnone
          · exact unended_set hgen (unended_discard hget) (hunended g' hg')
  case h_4 call hphase =>
    split at hcontrol
    case h_1 => cases hcontrol
    case h_2 g hcurrent =>
      split at hcontrol
      case h_1 => cases hcontrol
      case h_2 gen hgen =>
        split at hcontrol
        case isFalse => cases hcontrol
        case isTrue =>
          cases hcontrol
          exact rest_of_finishing rfl rfl
  case h_5 call hphase =>
    cases hcontrol
    exact rest_finish call (h.unended (by rw [hphase]; rfl))

theorem rest_step {s s' : State} {event : Event} (hstep : step s event = some s') (h : Rest s) :
    Rest s' := by
  unfold step at hstep
  split at hstep
  case h_1 call =>
    split at hstep
    case isFalse => cases hstep
    case isTrue =>
      split at hstep <;>
        · cases hstep
          exact ⟨h.current, h.unended⟩
  case h_2 call =>
    split at hstep
    case isFalse => cases hstep
    case isTrue hunlocked =>
      have hidle : s.controller = .idle := of_decide_eq_true hunlocked
      split at hstep
      case h_1 hcurrent =>
        cases hstep
        exact rest_of_finishing rfl hcurrent
      case h_2 g hcurrent =>
        cases hstep
        refine ⟨fun _ hnone => ?_, fun _ => h.unended (by rw [hidle]; rfl)⟩
        cases hcurrent.symm.trans hnone
  case h_3 i =>
    obtain ⟨emitter, -, hcases⟩ := of_emit hstep
    rcases hcases with ⟨phase, -, rfl⟩ | ⟨g', other, queue, -, hother, hput, rfl⟩ |
      ⟨g', phase, -, -, rfl, -⟩
    · exact ⟨h.current, h.unended⟩
    · exact ⟨h.current, fun hbefore g hg =>
        unended_set hother (unended_put hput) (h.unended hbefore g hg)⟩
    · exact ⟨h.current, h.unended⟩
  case h_4 g' =>
    split at hstep
    case h_1 => cases hstep
    case h_2 other hother =>
      obtain ⟨other', hlisten, rfl⟩ := Option.map_eq_some_iff.mp hstep
      exact ⟨h.current, fun hbefore g hg =>
        unended_set hother (unended_listen hlisten) (h.unended hbefore g hg)⟩
  case h_5 => exact rest_control hstep h

/-- What holds in every state that is reached. -/
structure Underway (s : State) : Prop where
  sound : Sound s
  rest : Rest s

theorem underway_run {events : List Event} {s : State}
    (hrun : run step State.initial events = some s) : Underway s := by
  have hrest : Rest State.initial := by
    refine ⟨fun hqueue => ?_, fun _ g hg => ?_⟩
    · cases hqueue
    · cases hg
  exact ⟨run_invariant Sound (fun _ _ _ => sound_step) hrun sound_initial,
    run_invariant Rest (fun _ _ _ => rest_step) hrun hrest⟩

/-- The queue and its listener, while a thread stops them. -/
theorem Underway.exists_queue {s : State} (h : Underway s) (hqueue : s.controller.hasQueue = true) :
    ∃ g gen, s.manager.current = some g ∧ s.generations[g]? = some gen := by
  cases hcurrent : s.manager.current with
  | none => exact absurd hcurrent (h.rest.current hqueue)
  | some g =>
      obtain ⟨gen, hgen, -⟩ := h.sound.current g hcurrent
      exact ⟨g, gen, rfl, hgen⟩

/-- With room in the queue the sentinel is put. -/
theorem canReturn_of_room {s : State} {call : ControlCall} {g : ℕ} {gen : Generation}
    (hstopping : s.controller = .stopping call) (hcurrent : s.manager.current = some g)
    (hgen : s.generations[g]? = some gen) (hroom : ¬ gen.queue.Full) : CanReturn s := by
  cases hput : gen.queue.put none with
  | none => exact absurd (put_eq_none_iff.mp hput) hroom
  | some queue =>
      have hstep : step s .control = some { s with
          generations := s.generations.set g { gen with queue := queue }
          controller := .joining call } := by
        unfold step control
        rw [hstopping]
        dsimp only
        rw [hcurrent]
        dsimp only
        rw [hgen]
        dsimp only
        rw [hput]
      obtain ⟨-, -, hitems, -, -⟩ := of_put hput
      have hg := (List.getElem?_eq_some_iff.mp hgen).1
      refine canReturn_of_step hstep (canReturn_of_awaited rfl
        ⟨g, { gen with queue := queue }, hcurrent, List.getElem?_set_self hg, .inr ?_⟩)
      dsimp only
      rw [hitems]
      exact List.mem_append_right _ (List.mem_singleton_self none)

/-- With an item in the queue there is room after the next turn. -/
theorem canReturn_of_item {s : State} {call : ControlCall} {g : ℕ} {gen : Generation}
    (hmaking : s.controller = .makingRoom call) (hcurrent : s.manager.current = some g)
    (hgen : s.generations[g]? = some gen) (hitem : gen.queue.items ≠ []) : CanReturn s := by
  cases hget : gen.queue.get with
  | none => exact absurd (get_eq_none_iff.mp hget) hitem
  | some pair =>
      obtain ⟨item, queue⟩ := pair
      have hstep : step s .control = some { s with
          generations := s.generations.set g
            { gen with queue := queue, discarded := gen.discarded ++ [item] }
          controller := .stopping call } := by
        unfold step control
        rw [hmaking]
        dsimp only
        rw [hcurrent]
        dsimp only
        rw [hgen]
        dsimp only
        rw [hget]
      have hg := (List.getElem?_eq_some_iff.mp hgen).1
      exact canReturn_of_step hstep (canReturn_of_room rfl hcurrent
        (List.getElem?_set_self hg) (not_full_of_get hget))

/-- In front of the sentinel, a full queue has an item to take out. -/
theorem canReturn_of_stopping {s : State} {call : ControlCall} {g : ℕ} {gen : Generation}
    (hstopping : s.controller = .stopping call) (hcurrent : s.manager.current = some g)
    (hgen : s.generations[g]? = some gen) : CanReturn s := by
  by_cases hfull : gen.queue.Full
  · have hstep : step s .control = some { s with controller := .makingRoom call } := by
      unfold step control
      rw [hstopping]
      dsimp only
      rw [hcurrent]
      dsimp only
      rw [hgen]
      dsimp only
      rw [put_eq_none_iff.mpr hfull]
    exact canReturn_of_step hstep
      (canReturn_of_item rfl hcurrent hgen (items_ne_nil_of_full hfull))
  · exact canReturn_of_room hstopping hcurrent hgen hfull

/-! ## A join without a sentinel -/

/-- A thread joins a listener that no sentinel will end. -/
structure Hung (call : ControlCall) (s : State) : Prop where
  joining : s.controller = .joining call
  unended : ∃ g, s.manager.current = some g ∧ (∃ gen, s.generations[g]? = some gen) ∧
    ∀ gen, s.generations[g]? = some gen → gen.Unended

/-- A turn of a call or a listener. -/
def Event.isTurn : Event → Bool
  | .emit _ => true
  | .listen _ => true
  | _ => false

/-- Who joins in vain does so after any turn, and only calls and listeners take turns. -/
theorem hung_step {call : ControlCall} {s s' : State} {event : Event}
    (hstep : step s event = some s') (h : Hung call s) : Hung call s' ∧ event.isTurn = true := by
  obtain ⟨g, hcurrent, ⟨gen, hgen⟩, hunended⟩ := h.unended
  have hlocked : ¬ s.unlocked = true := by
    unfold State.unlocked
    rw [h.joining]
    exact Bool.false_ne_true
  have hset : ∀ g' other other', s.generations[g']? = some other →
      (other.Unended → other'.Unended) →
      ∃ g, s.manager.current = some g ∧
        (∃ gen, (s.generations.set g' other')[g]? = some gen) ∧
        ∀ gen, (s.generations.set g' other')[g]? = some gen → gen.Unended := by
    intro g' other other' hother hkeep
    have hlt : g < (s.generations.set g' other').length := by
      rw [List.length_set]
      exact (List.getElem?_eq_some_iff.mp hgen).1
    exact ⟨g, hcurrent, ⟨_, List.getElem?_eq_getElem hlt⟩, unended_set hother hkeep hunended⟩
  cases event with
  | log _ =>
      unfold step at hstep
      dsimp only at hstep
      rw [if_neg hlocked] at hstep
      cases hstep
  | call _ =>
      unfold step at hstep
      dsimp only at hstep
      rw [if_neg hlocked] at hstep
      cases hstep
  | emit i =>
      refine ⟨?_, rfl⟩
      obtain ⟨emitter, -, hcases⟩ := of_emit hstep
      rcases hcases with ⟨phase, -, rfl⟩ | ⟨g', other, queue, -, hother, hput, rfl⟩ |
        ⟨g', phase, -, hidle, -, -⟩
      · exact ⟨h.joining, h.unended⟩
      · exact ⟨h.joining, hset g' other _ hother (unended_put hput)⟩
      · cases h.joining.symm.trans hidle
  | listen g' =>
      refine ⟨?_, rfl⟩
      unfold step at hstep
      dsimp only at hstep
      split at hstep
      case h_1 => cases hstep
      case h_2 other hother =>
        obtain ⟨other', hlisten, rfl⟩ := Option.map_eq_some_iff.mp hstep
        exact ⟨h.joining, hset g' other other' hother (unended_listen hlisten)⟩
  | control =>
      unfold step control at hstep
      dsimp only at hstep
      rw [h.joining] at hstep
      dsimp only at hstep
      rw [hcurrent] at hstep
      dsimp only at hstep
      rw [hgen] at hstep
      dsimp only at hstep
      rw [if_neg (hunended gen hgen).1] at hstep
      cases hstep

theorem hung_of_run {call : ControlCall} {s t : State} {events : List Event}
    (hrun : run step s events = some t) (h : Hung call s) :
    Hung call t ∧ ∀ event ∈ events, event.isTurn = true := by
  induction events generalizing s with
  | nil =>
      cases hrun
      exact ⟨h, List.forall_mem_nil _⟩
  | cons event rest ih =>
      obtain ⟨s', hstep, hrest⟩ := run_cons_eq_some.mp hrun
      obtain ⟨hnext, hturn⟩ := hung_step hstep h
      obtain ⟨hend, hturns⟩ := ih hrest hnext
      exact ⟨hend, List.forall_mem_cons.mpr ⟨hturn, hturns⟩⟩

theorem hung_of_not_awaited {s : State} {call : ControlCall} (h : Underway s)
    (hjoin : s.controller = .joining call) (hawaited : ¬ Awaited s) : Hung call s := by
  obtain ⟨g, gen, hcurrent, hgen⟩ := h.exists_queue (by rw [hjoin]; rfl)
  refine ⟨hjoin, g, hcurrent, ⟨gen, hgen⟩, fun other hother => ?_⟩
  refine ⟨fun hfinished => ?_, fun hmem => ?_⟩
  · exact hawaited ⟨g, other, hcurrent, hother, .inl hfinished⟩
  · exact hawaited ⟨g, other, hcurrent, hother, .inr hmem⟩

/-! ## Main results -/

/-- The next turn of the thread finds an empty queue, where it looks for a record to take out. -/
def FindsEmpty (s : State) : Prop :=
  ∃ call g gen, s.controller = .makingRoom call ∧ s.manager.current = some g ∧
    s.generations[g]? = some gen ∧ gen.queue.items = []

/-- Where it does not find the queue empty, a call of `configure` or `stop` can return in every
state of every interleaving, save one in which it joins without a sentinel. -/
theorem returns_iff {events : List Event} {s : State}
    (hrun : run step State.initial events = some s) (hempty : ¬ FindsEmpty s) :
    CanReturn s ↔ ∀ call, s.controller = .joining call → Awaited s := by
  have h := underway_run hrun
  constructor
  · rintro ⟨later, t, hlater, hidle⟩ call hjoin
    by_contra hawaited
    obtain ⟨hend, -⟩ := hung_of_run hlater (hung_of_not_awaited h hjoin hawaited)
    cases hend.joining.symm.trans hidle
  · intro hawaited
    cases hphase : s.controller with
    | idle => exact ⟨[], s, rfl, hphase⟩
    | finishing call => exact canReturn_of_finishing hphase
    | joining call => exact canReturn_of_awaited hphase (hawaited call hphase)
    | stopping call =>
        obtain ⟨g, gen, hcurrent, hgen⟩ := h.exists_queue (by rw [hphase]; rfl)
        exact canReturn_of_stopping hphase hcurrent hgen
    | makingRoom call =>
        obtain ⟨g, gen, hcurrent, hgen⟩ := h.exists_queue (by rw [hphase]; rfl)
        exact canReturn_of_item hphase hcurrent hgen fun hitems =>
          hempty ⟨call, g, gen, hphase, hcurrent, hgen, hitems⟩

/-- A record that fills the queue, and a call of `stop` on the full queue. -/
def fullEvents : List Event :=
  [.call (.configure true "concise" 1), .control, logAt "started" 20, .emit 0, .emit 0, .emit 0,
    .call .stop]

/-- In front of the full queue the call can return. -/
theorem returns_iff_full :
    ∃ s, run step State.initial fullEvents = some s ∧ CanReturn s := by
  have htest : (run step State.initial fullEvents).any (fun s =>
      decide (s.controller = .stopping .stop)) = true := by
    decide +kernel
  obtain ⟨s, hrun, hstopping⟩ := (Option.any_eq_true _ _).mp htest
  rw [decide_eq_true_iff] at hstopping
  have hempty : ¬ FindsEmpty s := by
    rintro ⟨call, g, gen, hmaking, -⟩
    cases hstopping.symm.trans hmaking
  refine ⟨s, hrun, (returns_iff hrun hempty).mpr fun call hjoining => ?_⟩
  cases hstopping.symm.trans hjoining

/-- A thread that finds the queue empty joins without a sentinel.  From then on nothing but
calls and listeners under way takes a turn: the lock is never free again. -/
theorem hung_run {events later : List Event} {s t : State}
    (hrun : run step State.initial events = some s) (hempty : FindsEmpty s)
    (hlater : run step s (.control :: later) = some t) :
    t.unlocked = false ∧ ∀ event ∈ later, event.isTurn = true := by
  obtain ⟨call, g, gen, hphase, hcurrent, hgen, hitems⟩ := hempty
  have hunended := (underway_run hrun).rest.unended (by rw [hphase]; rfl) g hcurrent
  have hstep : step s .control = some { s with controller := .joining call } := by
    unfold step control
    rw [hphase]
    dsimp only
    rw [hcurrent]
    dsimp only
    rw [hgen]
    dsimp only
    rw [get_eq_none_iff.mpr hitems]
  rw [run_cons_of_step hstep] at hlater
  obtain ⟨hend, hturns⟩ := hung_of_run hlater ⟨rfl, g, hcurrent, ⟨gen, hgen⟩, hunended⟩
  refine ⟨?_, hturns⟩
  unfold State.unlocked
  rw [hend.joining]
  rfl

/-- The call finds the queue full, and the listener takes the record. -/
def overtakenEvents : List Event :=
  fullEvents ++ [.control, .listen 0]

/-- The listener writes the record and waits, and the call waits for the listener. -/
theorem hung_run_overtaken :
    ∃ s t, run step State.initial overtakenEvents = some s ∧
      run step s [.control, .listen 0] = some t ∧ t.unlocked = false := by
  have htest : (run step State.initial overtakenEvents).any (fun s =>
      decide (s.controller = .makingRoom .stop) && decide (s.manager.current = some 0) &&
        s.generations[0]?.any (fun gen => gen.queue.items.isEmpty) &&
          (run step s [.control, .listen 0]).isSome) = true := by
    decide +kernel
  obtain ⟨s, hrun, htested⟩ := (Option.any_eq_true _ _).mp htest
  simp only [Bool.and_eq_true, decide_eq_true_eq] at htested
  obtain ⟨⟨⟨hmaking, hcurrent⟩, hqueue⟩, hsome⟩ := htested
  obtain ⟨gen, hgen, hitems⟩ := (Option.any_eq_true _ _).mp hqueue
  obtain ⟨t, hlater⟩ := Option.isSome_iff_exists.mp hsome
  have hempty : FindsEmpty s := ⟨_, 0, gen, hmaking, hcurrent, hgen, List.isEmpty_iff.mp hitems⟩
  exact ⟨s, t, hrun, hlater, (hung_run hrun hempty hlater).1⟩

end Logging
end FreeLunch
