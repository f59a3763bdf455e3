import FreeLunch.Foundations.FixedWindows
import FreeLunch.Foundations.Runs
import FreeLunch.Gateway.ThrottleCounters
import Mathlib.Algebra.Order.Floor.Ring
import Mathlib.Data.Rat.Floor

/-!
# What the throttle promises to clients and operators

`FailureThrottle` opens a window at a first failure.  An operator sees it from outside: how many
failures of one client fall into a time interval, wherever that starts, when callers ask
`retry_after` before each attempt.  A client sees the answer, and asks again after waiting for it.

Main results:

- Theorem `consulted_step`: what a call keeps of the windows of every client.
- Theorem `failures_in_interval_le`: in every interval of the length of a window at most
  `2 * limit - 1` failures of one client are recorded.
- Theorem `retryAfter_sufficient_iff`: when waiting for the advertised time is enough.

Current gaps:

- Times are rational numbers, and so is the constant that the remaining time is rounded with.
- Keys with one digest are one client.
-/

namespace FreeLunch
namespace Gateway

open FixedWindows Python Runs

/-! ## Windows and entries -/

/-- The times in the last window. -/
def lastWindow {α : Type} : List (FixedWindow α) → List α
  | [] => []
  | window :: _ => window.times

theorem lastWindow_record {α : Type} [LinearOrder α] [Add α] (length : α)
    (ws : List (FixedWindow α)) (t : α) :
    lastWindow (record length ws t) = extendWindow length (lastWindow ws) t := by
  cases ws with
  | nil => rfl
  | cons window older =>
      unfold lastWindow FixedWindow.times
      by_cases hover : window.start + length ≤ t
      · rw [record_of_over hover]
        exact (if_pos hover).symm
      · rw [record_of_open hover]
        exact (if_neg hover).symm

/-- A failure that evicts nothing changes the entry of its client and no other. -/
theorem entry_fail_of_fits {throttle : FailureThrottle Rat} {now : Rat} {key : String}
    (hfits : ((throttle.failed now key).length : Int) ≤ throttle.maxEntries) (other : String) :
    (throttle.fail now key).entry other =
      if throttle.digest key = throttle.digest other then some (throttle.counted now key)
      else throttle.entry other := by
  have hentries : (throttle.fail now key).entries = throttle.failed now key := by
    change evict throttle.maxEntries (throttle.failed now key) = throttle.failed now key
    unfold evict
    have hnone : (throttle.failed now key).length - throttle.maxEntries.toNat = 0 := by omega
    rw [hnone, List.drop_zero]
  change dictGet (throttle.fail now key).entries (throttle.digest other) = _
  rw [hentries]
  unfold FailureThrottle.failed
  rw [dictGet_moveToEnd, dictGet_dictSet]
  rfl

/-- A window that is over is followed by one with a single failure; otherwise there was room. -/
theorem sizes_record {length t : Rat} {limit : Int} (hlimit : 1 ≤ limit)
    {ws : List (FixedWindow Rat)} (hsizes : ∀ window ∈ ws, (window.times.length : Int) ≤ limit)
    (hroom : WindowOver length t (lastWindow ws) ∨ ((lastWindow ws).length : Int) < limit) :
    ∀ window ∈ record length ws t, (window.times.length : Int) ≤ limit := by
  cases ws with
  | nil =>
      intro window hmem
      rw [List.mem_singleton.mp hmem]
      exact hlimit
  | cons last older =>
      by_cases hover : last.start + length ≤ t
      · rw [record_of_over hover, List.forall_mem_cons]
        exact ⟨hlimit, hsizes⟩
      · rw [List.forall_mem_cons] at hsizes
        rw [record_of_open hover, List.forall_mem_cons]
        refine ⟨?_, hsizes.2⟩
        have hshort := hroom.resolve_left hover
        unfold lastWindow FixedWindow.times at hshort
        unfold FixedWindow.times
        rw [List.length_cons] at hshort ⊢
        rw [List.length_append, List.length_singleton]
        push_cast at hshort ⊢
        omega

/-- A client that is not told to wait is at the end of its window or below the limit. -/
theorem HoldsWindow.of_answer_zero {throttle : FailureThrottle Rat} {clock now : Rat}
    {key : String} {window : List Rat} (h : HoldsWindow throttle clock key window)
    (hclock : clock ≤ now) (hzero : (throttle.retryAfter now key).1 = 0) :
    WindowOver (throttle.windowSeconds : Rat) now window ∨
      (window.length : Int) < throttle.limit := by
  rcases h with hentry | ⟨-, hover⟩
  · rw [retryAfter_of_entry now hentry] at hzero
    cases window with
    | nil => exact .inl trivial
    | cons start later =>
        by_contra hblocked
        rw [not_or] at hblocked
        have hopen : now < start + throttle.windowSeconds := not_le.mp hblocked.1
        have hreached : throttle.limit ≤ ((start :: later).length : Int) :=
          not_lt.mp hblocked.2
        have hanswer : counterAnswer throttle.limit throttle.windowSeconds now (start :: later) =
            max 1 (truncate (start + throttle.windowSeconds - now + 0.999)) :=
          if_pos ⟨hopen, hreached⟩
        rw [hanswer] at hzero
        omega
  · exact .inl (hover.mono hclock)

/-! ## Callers that ask first -/

/-- The throttle between calls: the last reading of the clock, the digests whose last call was a
check that returned zero, and the failures that were recorded. -/
structure Consulted where
  throttle : FailureThrottle Rat
  clock : Rat
  cleared : List String
  failures : List (String × Rat)

/-- A new throttle. -/
def Consulted.new (digest : String → String) (limit windowSeconds maxEntries : Int)
    (clock : Rat) : Consulted where
  throttle := FailureThrottle.new Rat digest limit windowSeconds maxEntries
  clock := clock
  cleared := []
  failures := []

/-- `fail` is called for a client after a check of that client that returned zero, with no other
call of it in between; nothing is evicted or reset, and the clock does not go back. -/
def consultStep (s : Consulted) : ThrottleCall Rat → Option Consulted
  | .retryAfter now key =>
      if s.clock ≤ now then
        some { s with
          throttle := (s.throttle.retryAfter now key).2
          clock := now
          cleared :=
            if (s.throttle.retryAfter now key).1 = 0 then s.throttle.digest key :: s.cleared
            else s.cleared.filter (· ≠ s.throttle.digest key) }
      else none
  | .fail now key =>
      if s.clock ≤ now ∧ s.throttle.digest key ∈ s.cleared ∧
          ((s.throttle.failed now key).length : Int) ≤ s.throttle.maxEntries then
        some {
          throttle := s.throttle.fail now key
          clock := now
          cleared := s.cleared.filter (· ≠ s.throttle.digest key)
          failures := s.failures ++ [(s.throttle.digest key, now)] }
      else none
  | .reset _ => none

/-- The times of the recorded failures of a client. -/
def Consulted.failureTimes (s : Consulted) (key : String) : List Rat :=
  (s.failures.filter fun failure => failure.1 = s.throttle.digest key).map Prod.snd

/-- The windows of a client. -/
def Consulted.windowsOf (s : Consulted) (key : String) : List (FixedWindow Rat) :=
  windows (s.throttle.windowSeconds : Rat) (s.failureTimes key)

/-- What holds of the windows of a client: none has more failures than the limit, the entry holds
the last one unless that is over, and after a check that returned zero there is room for one
more failure. -/
structure KeepsWindows (s : Consulted) (key : String) : Prop where
  sizes : ∀ window ∈ s.windowsOf key, (window.times.length : Int) ≤ s.throttle.limit
  sorted : (s.failureTimes key).Pairwise (· ≤ ·)
  past : ∀ time ∈ s.failureTimes key, time ≤ s.clock
  holds : HoldsWindow s.throttle s.clock key (lastWindow (s.windowsOf key))
  room : s.throttle.digest key ∈ s.cleared →
    WindowOver (s.throttle.windowSeconds : Rat) s.clock (lastWindow (s.windowsOf key)) ∨
      ((lastWindow (s.windowsOf key)).length : Int) < s.throttle.limit

theorem keepsWindows_new (digest : String → String) (limit windowSeconds maxEntries : Int)
    (clock : Rat) (key : String) :
    KeepsWindows (Consulted.new digest limit windowSeconds maxEntries clock) key where
  sizes := fun _ hmem => nomatch hmem
  sorted := List.Pairwise.nil
  past := fun _ hmem => nomatch hmem
  holds := .inl rfl
  room := fun hmem => nomatch hmem

/-- A check leaves what the entry of any client holds. -/
theorem HoldsWindow.retryAfter {throttle : FailureThrottle Rat} {clock now : Rat} {other : String}
    {window : List Rat} (h : HoldsWindow throttle clock other window) (hclock : clock ≤ now)
    (key : String) : HoldsWindow (throttle.retryAfter now key).2 now other window := by
  have hlater : HoldsWindow throttle now other window :=
    h.imp_right fun hgone => ⟨hgone.1, hgone.2.mono hclock⟩
  rcases retryAfter_cases throttle now key with
    hsame | htouch | ⟨hdrop, count, started, hentry, hover⟩
  · rw [hsame]
    exact hlater
  · rw [htouch]
    unfold HoldsWindow
    rw [entry_touch]
    exact hlater
  · rw [hdrop]
    unfold HoldsWindow
    rw [entry_drop]
    by_cases hdigest : throttle.digest other = throttle.digest key
    · have hover' : WindowOver (throttle.windowSeconds : Rat) now window :=
        WindowOver.of_entry ((entry_congr hdigest).trans hentry) hover h
      rw [if_pos hdigest]
      exact .inr ⟨rfl, hover'⟩
    · rw [if_neg hdigest]
      exact hlater

/-- A failure extends the window of its client. -/
theorem HoldsWindow.fail {throttle : FailureThrottle Rat} {clock now : Rat} {other : String}
    {window : List Rat} (h : HoldsWindow throttle clock other window) (hclock : clock ≤ now)
    {key : String} (hfits : ((throttle.failed now key).length : Int) ≤ throttle.maxEntries) :
    HoldsWindow (throttle.fail now key) now other
      (if throttle.digest key = throttle.digest other then
        extendWindow (throttle.windowSeconds : Rat) window now else window) := by
  unfold HoldsWindow
  rw [entry_fail_of_fits hfits]
  by_cases hdigest : throttle.digest key = throttle.digest other
  · rw [if_pos hdigest, if_pos hdigest]
    have hkey : HoldsWindow throttle clock key window := by
      unfold HoldsWindow
      rw [entry_congr hdigest]
      exact h
    exact .inl (counted_of_holds hkey hclock)
  · rw [if_neg hdigest, if_neg hdigest]
    exact h.imp_right fun hgone => ⟨hgone.1, hgone.2.mono hclock⟩

/-- What a call can do. -/
theorem consultStep_cases {s s' : Consulted} {call : ThrottleCall Rat}
    (h : consultStep s call = some s') :
    (∃ now key, s.clock ≤ now ∧ s'.throttle = (s.throttle.retryAfter now key).2 ∧
        s'.clock = now ∧ s'.failures = s.failures ∧
          s'.cleared = if (s.throttle.retryAfter now key).1 = 0 then
            s.throttle.digest key :: s.cleared
          else s.cleared.filter (· ≠ s.throttle.digest key)) ∨
      ∃ now key, s.clock ≤ now ∧ s.throttle.digest key ∈ s.cleared ∧
        ((s.throttle.failed now key).length : Int) ≤ s.throttle.maxEntries ∧
          s'.throttle = s.throttle.fail now key ∧ s'.clock = now ∧
            s'.cleared = s.cleared.filter (· ≠ s.throttle.digest key) ∧
              s'.failures = s.failures ++ [(s.throttle.digest key, now)] := by
  cases call with
  | retryAfter now key =>
      obtain ⟨hclock, heq⟩ := Option.ite_none_right_eq_some.mp h
      cases heq
      exact .inl ⟨now, key, hclock, rfl, rfl, rfl, rfl⟩
  | fail now key =>
      obtain ⟨⟨hclock, hcleared, hfits⟩, heq⟩ := Option.ite_none_right_eq_some.mp h
      cases heq
      exact .inr ⟨now, key, hclock, hcleared, hfits, rfl, rfl, rfl, rfl⟩
  | reset key => cases h

/-- Neither call changes the parameters. -/
theorem consultStep_parameters {s s' : Consulted} {call : ThrottleCall Rat}
    (h : consultStep s call = some s') :
    s'.throttle.limit = s.throttle.limit ∧
      s'.throttle.windowSeconds = s.throttle.windowSeconds ∧
        s'.throttle.digest = s.throttle.digest := by
  rcases consultStep_cases h with ⟨now, key, -, hthrottle, -⟩ | ⟨now, key, -, -, -, hthrottle, -⟩
  · obtain ⟨hlimit, hwindow, -, hdigest⟩ := apply_parameters s.throttle (.retryAfter now key)
    rw [hthrottle]
    exact ⟨hlimit, hwindow, hdigest⟩
  · rw [hthrottle]
    exact ⟨rfl, rfl, rfl⟩

/-- Without a failure of the client its windows stay. -/
theorem KeepsWindows.of_unrecorded {s s' : Consulted} {other : String}
    (h : KeepsWindows s other) (hclock : s.clock ≤ s'.clock)
    (hlimit : s'.throttle.limit = s.throttle.limit)
    (hseconds : s'.throttle.windowSeconds = s.throttle.windowSeconds)
    (hdigest : s'.throttle.digest = s.throttle.digest)
    (htimes : s'.failureTimes other = s.failureTimes other)
    (hholds : HoldsWindow s'.throttle s'.clock other (lastWindow (s.windowsOf other)))
    (hroom : s.throttle.digest other ∈ s'.cleared → s.throttle.digest other ∈ s.cleared ∨
      WindowOver (s.throttle.windowSeconds : Rat) s'.clock (lastWindow (s.windowsOf other)) ∨
        ((lastWindow (s.windowsOf other)).length : Int) < s.throttle.limit) :
    KeepsWindows s' other := by
  have hwindows : s'.windowsOf other = s.windowsOf other := by
    unfold Consulted.windowsOf
    rw [htimes, hseconds]
  constructor
  case sizes =>
    rw [hwindows, hlimit]
    exact h.sizes
  case sorted =>
    rw [htimes]
    exact h.sorted
  case past =>
    rw [htimes]
    exact fun time hmem => (h.past time hmem).trans hclock
  case holds =>
    rw [hwindows]
    exact hholds
  case room =>
    rw [hwindows, hseconds, hlimit, hdigest]
    intro hmem
    rcases hroom hmem with hin | hnew
    · exact (h.room hin).imp_left fun hover => hover.mono hclock
    · exact hnew

/-- A check keeps the windows of every client. -/
theorem KeepsWindows.retryAfter {s s' : Consulted} {now : Rat} {key other : String}
    (h : KeepsWindows s other) (hclock : s.clock ≤ now)
    (hthrottle : s'.throttle = (s.throttle.retryAfter now key).2) (hnow : s'.clock = now)
    (hfailures : s'.failures = s.failures)
    (hcleared : s'.cleared = if (s.throttle.retryAfter now key).1 = 0 then
      s.throttle.digest key :: s.cleared
      else s.cleared.filter (· ≠ s.throttle.digest key)) : KeepsWindows s' other := by
  obtain ⟨hlimit, hseconds, -, hdigest⟩ := apply_parameters s.throttle (.retryAfter now key)
  change (s.throttle.retryAfter now key).2.limit = _ at hlimit
  change (s.throttle.retryAfter now key).2.windowSeconds = _ at hseconds
  change (s.throttle.retryAfter now key).2.digest = _ at hdigest
  rw [← hthrottle] at hlimit hseconds hdigest
  refine h.of_unrecorded (hnow ▸ hclock) hlimit hseconds hdigest ?_ ?_ ?_
  · unfold Consulted.failureTimes
    rw [hfailures, hdigest]
  · rw [hthrottle, hnow]
    exact h.holds.retryAfter hclock key
  · rw [hcleared, hnow]
    by_cases hzero : (s.throttle.retryAfter now key).1 = 0
    · rw [if_pos hzero]
      intro hmem
      rcases List.mem_cons.mp hmem with hsame | hin
      · have hholds : HoldsWindow s.throttle s.clock key (lastWindow (s.windowsOf other)) := by
          unfold HoldsWindow
          rw [← entry_congr hsame]
          exact h.holds
        exact .inr (hholds.of_answer_zero hclock hzero)
      · exact .inl hin
    · rw [if_neg hzero]
      exact fun hmem => .inl (List.mem_filter.mp hmem).1

/-- A failure after a check that returned zero keeps the windows of every client. -/
theorem KeepsWindows.fail {s s' : Consulted} {now : Rat} {key other : String}
    (h : KeepsWindows s other) (hclock : s.clock ≤ now)
    (hmem : s.throttle.digest key ∈ s.cleared)
    (hfits : ((s.throttle.failed now key).length : Int) ≤ s.throttle.maxEntries)
    (hthrottle : s'.throttle = s.throttle.fail now key) (hnow : s'.clock = now)
    (hcleared : s'.cleared = s.cleared.filter (· ≠ s.throttle.digest key))
    (hfailures : s'.failures = s.failures ++ [(s.throttle.digest key, now)]) :
    KeepsWindows s' other := by
  have hdigest : s'.throttle.digest = s.throttle.digest := by
    rw [hthrottle]
    rfl
  have hseconds : s'.throttle.windowSeconds = s.throttle.windowSeconds := by
    rw [hthrottle]
    rfl
  have hlimit : s'.throttle.limit = s.throttle.limit := by
    rw [hthrottle]
    rfl
  have hholds := h.holds.fail hclock hfits
  by_cases hsame : s.throttle.digest key = s.throttle.digest other
  · have htimes : s'.failureTimes other = s.failureTimes other ++ [now] := by
      unfold Consulted.failureTimes
      rw [hfailures, hdigest, List.filter_append, List.map_append,
        List.filter_cons_of_pos (by simpa using hsame)]
      rfl
    have hwindows : s'.windowsOf other =
        record (s.throttle.windowSeconds : Rat) (s.windowsOf other) now := by
      unfold Consulted.windowsOf
      rw [htimes, hseconds, windows_concat]
    have hroom := h.room (hsame ▸ hmem)
    constructor
    case sizes =>
      rw [hwindows, hlimit]
      exact sizes_record s.throttle.limit_pos h.sizes (hroom.imp_left fun hover =>
        hover.mono hclock)
    case sorted =>
      rw [htimes, List.pairwise_append]
      refine ⟨h.sorted, List.pairwise_singleton _ _, fun time htime later hlater => ?_⟩
      rw [List.mem_singleton.mp hlater]
      exact (h.past time htime).trans hclock
    case past =>
      rw [htimes, hnow, List.forall_mem_append]
      refine ⟨fun time htime => (h.past time htime).trans hclock, fun time htime => ?_⟩
      exact (List.mem_singleton.mp htime).le
    case holds =>
      rw [if_pos hsame] at hholds
      rw [hwindows, lastWindow_record, hthrottle, hnow]
      exact hholds
    case room =>
      rw [hcleared, hdigest]
      intro hin
      have hne := (List.mem_filter.mp hin).2
      simp [hsame] at hne
  · refine h.of_unrecorded (hnow ▸ hclock) hlimit hseconds hdigest ?_ ?_ ?_
    · unfold Consulted.failureTimes
      rw [hfailures, hdigest, List.filter_append,
        List.filter_cons_of_neg (by simpa using hsame), List.filter_nil, List.append_nil]
    · rw [if_neg hsame] at hholds
      rw [hthrottle, hnow]
      exact hholds
    · rw [hcleared]
      exact fun hin => .inl (List.mem_filter.mp hin).1

/-- A call keeps the windows of every client. -/
theorem consulted_step {s s' : Consulted} {call : ThrottleCall Rat}
    (hstep : consultStep s call = some s') {other : String} (h : KeepsWindows s other) :
    KeepsWindows s' other := by
  rcases consultStep_cases hstep with
    ⟨now, key, hclock, hthrottle, hnow, hfailures, hcleared⟩ |
      ⟨now, key, hclock, hmem, hfits, hthrottle, hnow, hcleared, hfailures⟩
  · exact h.retryAfter hclock hthrottle hnow hfailures hcleared
  · exact h.fail hclock hmem hfits hthrottle hnow hcleared hfailures

/-! ## Intervals -/

/-- In every interval of the length of a window, closed at its start or at its end, at most
`2 * limit - 1` failures of one client are recorded. -/
theorem failures_in_interval_le (digest : String → String)
    {limit windowSeconds : Int} (hlimit : 1 ≤ limit) (hwindow : 1 ≤ windowSeconds)
    (maxEntries : Int) (clock : Rat) {calls : List (ThrottleCall Rat)} {s : Consulted}
    (hrun : run consultStep (Consulted.new digest limit windowSeconds maxEntries clock) calls =
      some s) (key : String) (begins : Rat) :
    (((s.failureTimes key).countP fun time =>
        begins ≤ time ∧ time < begins + windowSeconds : ℕ) : Int) ≤ 2 * limit - 1 ∧
      (((s.failureTimes key).countP fun time =>
        begins < time ∧ time ≤ begins + windowSeconds : ℕ) : Int) ≤ 2 * limit - 1 := by
  have hkept : s.throttle.limit = limit ∧ s.throttle.windowSeconds = windowSeconds ∧
      KeepsWindows s key := by
    refine run_invariant (fun s => s.throttle.limit = limit ∧
      s.throttle.windowSeconds = windowSeconds ∧ KeepsWindows s key) ?_ hrun ?_
    · rintro before call after hstep ⟨hlimit', hwindow', hkeeps⟩
      obtain ⟨hsame, hsame', -⟩ := consultStep_parameters hstep
      exact ⟨hsame.trans hlimit', hsame'.trans hwindow', consulted_step hstep hkeeps⟩
    · exact ⟨Int.max_eq_left hlimit, Int.max_eq_left hwindow, keepsWindows_new _ _ _ _ _ _⟩
  obtain ⟨hlimit', hwindow', hkeeps⟩ := hkept
  have hlength : (0 : Rat) < windowSeconds := by exact_mod_cast hwindow
  have hcount : ∀ p : Rat → Bool,
      (∀ x y, p x = true → p y = true → y < x + windowSeconds) →
        (((s.failureTimes key).countP p : ℕ) : Int) ≤ 2 * limit - 1 := by
    intro p hp
    have hsizes : ∀ window ∈ windows (windowSeconds : Rat) (s.failureTimes key),
        window.times.length ≤ limit.toNat := by
      intro window hmem
      rw [← hwindow'] at hmem
      have hsize := hkeeps.sizes window hmem
      omega
    have hle := countP_le_of_windows hlength (by omega) hkeeps.sorted hsizes hp
    omega
  constructor
  · refine hcount _ fun x y hx hy => ?_
    rw [decide_eq_true_eq] at hx hy
    exact lt_of_lt_of_le hy.2 (by linarith [hx.1])
  · refine hcount _ fun x y hx hy => ?_
    rw [decide_eq_true_eq] at hx hy
    exact lt_of_le_of_lt hy.2 (by linarith [hx.1])

/-- Under a limit of two with windows of five seconds, three failures fall into the five seconds
from the second one on. -/
theorem failures_in_interval_three :
    ∃ s, run consultStep (Consulted.new id 2 5 10 0)
        [.retryAfter 0 "a", .fail 0 "a", .retryAfter 4 "a", .fail 4 "a", .retryAfter 5 "a",
          .fail 5 "a", .retryAfter 6 "a", .fail 6 "a"] = some s ∧
      s.failureTimes "a" = [0, 4, 5, 6] ∧
      (((s.failureTimes "a").countP fun time : Rat =>
        4 ≤ time ∧ time < 4 + (5 : Int) : ℕ) : Int) ≤ 2 * 2 - 1 := by
  obtain ⟨s, hs⟩ : ∃ s, run consultStep (Consulted.new id 2 5 10 0)
      [.retryAfter 0 "a", .fail 0 "a", .retryAfter 4 "a", .fail 4 "a", .retryAfter 5 "a",
        .fail 5 "a", .retryAfter 6 "a", .fail 6 "a"] = some s :=
    Option.isSome_iff_exists.mp (by decide +kernel)
  refine ⟨s, hs, ?_, ?_⟩
  · have htimes : (run consultStep (Consulted.new id 2 5 10 0)
        [.retryAfter 0 "a", .fail 0 "a", .retryAfter 4 "a", .fail 4 "a", .retryAfter 5 "a",
          .fail 5 "a", .retryAfter 6 "a", .fail 6 "a"]).map (·.failureTimes "a") =
        some [0, 4, 5, 6] := by
      decide +kernel
    rw [hs] at htimes
    exact Option.some.inj htimes
  · exact (failures_in_interval_le id (by decide) (by decide) 10 0 hs "a" 4).1

/-! ## Waiting for the advertised time -/

/-- The time until the window of a client ends. -/
def FailureThrottle.remainingTime (throttle : FailureThrottle Rat) (now : Rat) (key : String) :
    Rat :=
  match throttle.entry key with
  | none => 0
  | some (_, started) => throttle.remaining now started

/-- Calls of other clients leave the entry of a client alone, or evict it. -/
theorem entry_apply_of_ne {throttle : FailureThrottle Rat} {call : ThrottleCall Rat}
    {key : String} (h : throttle.digest call.key ≠ throttle.digest key) :
    (throttle.apply call).entry key = throttle.entry key ∨
      (throttle.apply call).entry key = none := by
  cases call with
  | retryAfter now other =>
      change (throttle.retryAfter now other).2.entry key = _ ∨ _
      rcases retryAfter_cases throttle now other with hsame | htouch | ⟨hdrop, -⟩
      · rw [hsame]
        exact .inl rfl
      · rw [htouch]
        exact .inl (entry_touch throttle other key)
      · rw [hdrop]
        exact .inl ((entry_drop throttle other key).trans (if_neg (Ne.symm h)))
  | fail now other =>
      have hfailed : dictGet (throttle.failed now other) (throttle.digest key) =
          throttle.entry key := by
        unfold FailureThrottle.failed
        rw [dictGet_moveToEnd, dictGet_dictSet]
        exact if_neg h
      change dictGet (evict throttle.maxEntries (throttle.failed now other))
        (throttle.digest key) = _ ∨ _
      rw [← hfailed]
      unfold evict
      exact dictGet_drop_cases (moveToEnd_keys_nodup
        (dictSet_keys_nodup throttle.keys_nodup _ _) _) _ _
  | reset other => exact .inl ((entry_reset throttle other key).trans (if_neg (Ne.symm h)))

theorem entry_after_of_ne {throttle : FailureThrottle Rat} {calls : List (ThrottleCall Rat)}
    {key : String} (h : ∀ call ∈ calls, throttle.digest call.key ≠ throttle.digest key) :
    (throttle.after calls).entry key = throttle.entry key ∨
      (throttle.after calls).entry key = none := by
  induction calls using List.reverseRecOn with
  | nil => exact .inl rfl
  | append_singleton calls call ih =>
      rw [List.forall_mem_append] at h
      obtain ⟨-, -, -, hdigest⟩ := after_parameters throttle calls
      have hlast : (throttle.after calls).digest call.key ≠ (throttle.after calls).digest key := by
        rw [hdigest]
        exact h.2 call (List.mem_singleton_self call)
      rw [after_concat]
      rcases entry_apply_of_ne hlast with hsame | hnone
      · rw [hsame]
        exact ih h.1
      · exact .inr hnone

/-- A client that is told to wait has an entry with an open window and enough failures, and its
entry stays. -/
theorem retryAfter_of_pos {throttle : FailureThrottle Rat} {now : Rat} {key : String}
    (h : 0 < (throttle.retryAfter now key).1) :
    ∃ count started, throttle.entry key = some (count, started) ∧ throttle.limit ≤ count ∧
      0 < throttle.remaining now started ∧
      (throttle.retryAfter now key).1 =
        max 1 (truncate (throttle.remaining now started + 0.999)) ∧
      (throttle.retryAfter now key).2 = throttle.touch key := by
  obtain ⟨count, started, hentry, hopen, hlimit⟩ :=
    (retryAfter_ne_zero_iff throttle now key).mp (by omega)
  have hleft : 0 < throttle.remaining now started := by
    by_contra hover
    rw [(floatLe_zero _).mpr (not_lt.mp hover)] at hopen
    cases hopen
  refine ⟨count, started, hentry, hlimit, hleft, ?_, ?_⟩
  · unfold FailureThrottle.retryAfter
    rw [hentry]
    simp only [hopen, Bool.false_eq_true, if_false, hlimit, if_true]
    rfl
  · unfold FailureThrottle.retryAfter
    rw [hentry]
    simp only [hopen, Bool.false_eq_true, if_false]

/-- The answer to a client with enough failures. -/
theorem retryAfter_of_reached {throttle : FailureThrottle Rat} {now : Rat} {key : String}
    {count : Nat} {started : Rat} (hentry : throttle.entry key = some (count, started))
    (hlimit : throttle.limit ≤ count) :
    (throttle.retryAfter now key).1 = 0 ↔ throttle.remaining now started ≤ 0 := by
  rw [← floatLe_zero, ← not_iff_not]
  change (throttle.retryAfter now key).1 ≠ 0 ↔ _
  rw [retryAfter_ne_zero_iff]
  constructor
  · rintro ⟨count', started', hentry', hopen, -⟩
    rw [hentry] at hentry'
    cases hentry'
    simp [hopen]
  · intro hopen
    exact ⟨count, started, hentry, by simpa using hopen, hlimit⟩

/-- What adding 0.999 and truncating does to a positive number: it rounds up from a millisecond
above a whole number on. -/
theorem truncate_add_eq {seconds : Rat} (h : 0 < seconds) :
    truncate (seconds + 0.999) =
      if 1 / 1000 ≤ Int.fract seconds then ⌊seconds⌋ + 1 else ⌊seconds⌋ := by
  have hconstant : (0.999 : Rat) = 999 / 1000 := by norm_num
  have hsplit := Int.floor_add_fract seconds
  have hlow := Int.fract_nonneg seconds
  have hhigh := Int.fract_lt_one seconds
  have hfloor : truncate (seconds + 0.999) = ⌊seconds + 999 / 1000⌋ := by
    rw [hconstant]
    exact if_neg (not_lt.mpr (by linarith))
  rw [hfloor, Int.floor_eq_iff]
  by_cases hmilli : 1 / 1000 ≤ Int.fract seconds
  · rw [if_pos hmilli]
    push_cast
    constructor <;> linarith
  · rw [if_neg hmilli]
    rw [not_le] at hmilli
    constructor <;> linarith

/-- The rounded time covers the remaining time, unless that lies above a whole second by less
than a millisecond. -/
theorem le_rounded_iff {seconds : Rat} (h : 0 < seconds) :
    seconds ≤ ((max 1 (truncate (seconds + 0.999)) : Int) : Rat) ↔
      seconds ≤ 1 ∨ Int.fract seconds = 0 ∨ 1 / 1000 ≤ Int.fract seconds := by
  have hsplit := Int.floor_add_fract seconds
  have hlow := Int.fract_nonneg seconds
  have hhigh := Int.fract_lt_one seconds
  rw [truncate_add_eq h, Int.cast_max, le_max_iff, Int.cast_one]
  refine or_congr_right ?_
  by_cases hmilli : 1 / 1000 ≤ Int.fract seconds
  · rw [if_pos hmilli]
    push_cast
    exact iff_of_true (by linarith) (.inr hmilli)
  · rw [if_neg hmilli]
    constructor
    · intro hle
      exact .inl (by linarith)
    · rintro (hzero | hmilli')
      · linarith
      · exact absurd hmilli' hmilli

/-- The rounded time exceeds the remaining time by less than a second. -/
theorem rounded_lt {seconds : Rat} (h : 0 < seconds) :
    ((max 1 (truncate (seconds + 0.999)) : Int) : Rat) < seconds + 1 := by
  have hsplit := Int.floor_add_fract seconds
  have hlow := Int.fract_nonneg seconds
  rw [truncate_add_eq h, Int.cast_max, max_lt_iff, Int.cast_one]
  refine ⟨by linarith, ?_⟩
  by_cases hmilli : 1 / 1000 ≤ Int.fract seconds
  · rw [if_pos hmilli]
    push_cast
    linarith
  · rw [if_neg hmilli]
    linarith

/-- A client that waits for the advertised time is not refused again, whatever the other clients
do meanwhile, and waits for less than a second too long, exactly when the remaining time is at
most a second, whole, or at least a millisecond above a whole second. -/
theorem retryAfter_sufficient_iff (throttle : FailureThrottle Rat) (key : String) (now : Rat)
    (h : 0 < (throttle.retryAfter now key).1) :
    ((∀ calls : List (ThrottleCall Rat),
        (∀ call ∈ calls, throttle.digest call.key ≠ throttle.digest key) →
          (((throttle.retryAfter now key).2.after calls).retryAfter
            (now + (throttle.retryAfter now key).1) key).1 = 0) ∧
        (((throttle.retryAfter now key).1 : Int) : Rat) < throttle.remainingTime now key + 1) ↔
      throttle.remainingTime now key ≤ 1 ∨ Int.fract (throttle.remainingTime now key) = 0 ∨
        1 / 1000 ≤ Int.fract (throttle.remainingTime now key) := by
  obtain ⟨count, started, hentry, hlimit, hleft, hanswer, htouch⟩ := retryAfter_of_pos h
  have hremaining : throttle.remainingTime now key = throttle.remaining now started := by
    unfold FailureThrottle.remainingTime
    rw [hentry]
  rw [hremaining, ← le_rounded_iff hleft, ← hanswer, htouch]
  have hkept : (throttle.touch key).entry key = some (count, started) :=
    (entry_touch throttle key key).trans hentry
  -- the entry of the client, where it is still there, is the one that was read before
  have hlater : ∀ {later : FailureThrottle Rat},
      later.entry key = some (count, started) → later.limit = throttle.limit →
        later.windowSeconds = throttle.windowSeconds →
          ((later.retryAfter (now + (throttle.retryAfter now key).1) key).1 = 0 ↔
            throttle.remaining now started ≤ ((throttle.retryAfter now key).1 : Int)) := by
    intro later hsame hlimit' hwindow'
    rw [retryAfter_of_reached hsame (by rw [hlimit']; exact hlimit)]
    unfold FailureThrottle.remaining
    rw [hwindow']
    constructor <;> intro hle <;> linarith
  constructor
  · rintro ⟨hcalls, -⟩
    exact (hlater hkept rfl rfl).mp (hcalls [] fun _ hmem => nomatch hmem)
  · intro hcovered
    refine ⟨fun calls hcalls => ?_, ?_⟩
    · obtain ⟨hlimit', hwindow', -, -⟩ := after_parameters (throttle.touch key) calls
      have hstays : ((throttle.touch key).after calls).entry key =
          (throttle.touch key).entry key ∨ ((throttle.touch key).after calls).entry key = none :=
        entry_after_of_ne hcalls
      rcases hstays with hsame | hnone
      · exact (hlater (hsame.trans hkept) hlimit' hwindow').mpr hcovered
      · unfold FailureThrottle.retryAfter
        rw [hnone]
    · rw [hanswer]
      exact rounded_lt hleft

/-- A throttle with one failure of a client, at time zero. -/
def failedOnce : FailureThrottle Rat :=
  (FailureThrottle.new Rat id 1 2 10).fail 0 "a"

/-- A second and a half before the end of its window, a client is told to wait for two seconds,
which is enough. -/
theorem failedOnce_half :
    (failedOnce.retryAfter (1 / 2) "a").1 = 2 ∧
      ∀ calls : List (ThrottleCall Rat),
        (∀ call ∈ calls, failedOnce.digest call.key ≠ failedOnce.digest "a") →
          (((failedOnce.retryAfter (1 / 2) "a").2.after calls).retryAfter
            (1 / 2 + (failedOnce.retryAfter (1 / 2) "a").1) "a").1 = 0 :=
  ⟨by decide +kernel, ((retryAfter_sufficient_iff failedOnce "a" (1 / 2)
    (by decide +kernel)).mpr (.inr (.inr (by decide +kernel)))).1⟩

/-- Half a millisecond more than a second before the end, the client is told to wait for one
second, and is refused again after it. -/
theorem failedOnce_refused_again :
    (failedOnce.retryAfter (1999 / 2000) "a").1 = 1 ∧
      ((failedOnce.retryAfter (1999 / 2000) "a").2.retryAfter (1999 / 2000 + 1) "a").1 = 1 := by
  decide +kernel

end Gateway
end FreeLunch
