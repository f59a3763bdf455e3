import FreeLunch.Gateway.Throttle
import Mathlib.Algebra.Order.Ring.Rat
import Mathlib.Algebra.Order.Group.Defs
import Mathlib.Data.List.Dedup
import Mathlib.Data.List.Induction
import Mathlib.Data.Set.Function

/-!
# The throttle as independent counters

A fixed-window counter of one key groups the failures of that key: the first failure opens a
window, a failure inside the window is counted in it, and the first failure after its end
opens the next one.  `FailureThrottle` keeps such counters for many keys in one ordered map,
forgets expired ones when they are read, and evicts old ones when there are too many.

Main results:

- Theorem `agrees_run`: over any calls of few enough keys, each entry is the counter of its
  key or has been forgotten after its window ended.
- Theorem `throttle_refines_counters`: the answers are those of independent counters, and
  the map never outgrows its bound.

Current gaps:

- Times are rational numbers, and the digest is a parameter that separates the keys in use.
-/

namespace FreeLunch
namespace Gateway

open Python

/-! ## Fixed windows -/

section Windows

variable {α : Type} [LinearOrder α] [Add α]

/-- The current window of a counter after one more event. -/
def extendWindow (length : α) : List α → α → List α
  | [], t => [t]
  | start :: later, t =>
      if start + length ≤ t then [t] else (start :: later) ++ [t]

/-- The window of the last of a list of events. -/
def currentWindow (length : α) (times : List α) : List α :=
  times.foldl (extendWindow length) []

/-- The window is over; a counter without one counts nothing. -/
def WindowOver (length now : α) : List α → Prop
  | [] => True
  | start :: _ => start + length ≤ now

theorem currentWindow_concat (length : α) (times : List α) (t : α) :
    currentWindow length (times ++ [t]) = extendWindow length (currentWindow length times) t := by
  unfold currentWindow
  rw [List.foldl_append]
  rfl

theorem WindowOver.mono {length now later : α} {window : List α}
    (h : WindowOver length now window) (hle : now ≤ later) : WindowOver length later window := by
  cases window with
  | nil => trivial
  | cons start rest => exact le_trans h hle

/-- After the end of a window the next event opens a new one. -/
theorem extendWindow_of_over {length t : α} {window : List α}
    (h : WindowOver length t window) : extendWindow length window t = [t] := by
  cases window with
  | nil => rfl
  | cons start later => exact if_pos h

end Windows

/-! ## Calls -/

/-- A call of the throttle, with the reading of its clock where it reads it. -/
inductive ThrottleCall (F : Type) where
  | retryAfter (now : F) (key : String)
  | fail (now : F) (key : String)
  | reset (key : String)

section Calls

variable {F : Type}

/-- The key of a call. -/
def ThrottleCall.key : ThrottleCall F → String
  | .retryAfter _ key => key
  | .fail _ key => key
  | .reset key => key

/-- The reading of the clock in a call. -/
def ThrottleCall.now? : ThrottleCall F → Option F
  | .retryAfter now _ => some now
  | .fail now _ => some now
  | .reset _ => none

/-- The throttle after a call. -/
def FailureThrottle.apply [ClockArith F] (throttle : FailureThrottle F) :
    ThrottleCall F → FailureThrottle F
  | .retryAfter now key => (throttle.retryAfter now key).2
  | .fail now key => throttle.fail now key
  | .reset key => throttle.reset key

/-- The throttle after some calls. -/
def FailureThrottle.after [ClockArith F] (throttle : FailureThrottle F)
    (calls : List (ThrottleCall F)) : FailureThrottle F :=
  calls.foldl FailureThrottle.apply throttle

/-- What `retry_after` answers after some calls. -/
def FailureThrottle.answer [ClockArith F] (throttle : FailureThrottle F)
    (calls : List (ThrottleCall F)) (now : F) (key : String) : Int :=
  ((throttle.after calls).retryAfter now key).1

/-- The failures of a key since its last reset, after one more call. -/
def recordCall (key : String) (times : List F) : ThrottleCall F → List F
  | .retryAfter _ _ => times
  | .fail now other => if other = key then times ++ [now] else times
  | .reset other => if other = key then [] else times

/-- The failures of a key since its last reset. -/
def failuresSinceReset (key : String) (calls : List (ThrottleCall F)) : List F :=
  calls.foldl (recordCall key) []

/-- Calls of other keys are not recorded. -/
theorem recordCall_of_ne {key : String} {call : ThrottleCall F} (h : call.key ≠ key)
    (times : List F) : recordCall key times call = times := by
  cases call with
  | retryAfter now other => rfl
  | fail now other => exact if_neg h
  | reset other => exact if_neg h

/-- Only the calls of the key matter. -/
theorem failuresSinceReset_filter (key : String) (calls : List (ThrottleCall F)) :
    failuresSinceReset key (calls.filter fun call => call.key == key) =
      failuresSinceReset key calls := by
  unfold failuresSinceReset
  rw [List.foldl_filter]
  congr 1
  funext times call
  by_cases hkey : call.key = key
  · simp [hkey]
  · rw [recordCall_of_ne hkey]
    simp [hkey]

theorem failuresSinceReset_concat (key : String) (calls : List (ThrottleCall F))
    (call : ThrottleCall F) :
    failuresSinceReset key (calls ++ [call]) =
      recordCall key (failuresSinceReset key calls) call := by
  unfold failuresSinceReset
  rw [List.foldl_append]
  rfl

end Calls

/-! ## The counter of one key -/

/-- The current window of a key. -/
def windowOf (windowSeconds : Int) (key : String) (calls : List (ThrottleCall Rat)) : List Rat :=
  currentWindow (windowSeconds : Rat) (failuresSinceReset key calls)

/-- Enough failures of the key are in its current window, and that has not ended. -/
def KeyBlocked (limit windowSeconds : Int) (calls : List (ThrottleCall Rat)) (now : Rat)
    (key : String) : Prop :=
  ∃ start later, windowOf windowSeconds key calls = start :: later ∧
    now < start + windowSeconds ∧ limit ≤ (start :: later).length

/-- The answer of a counter with this window. -/
def counterAnswer (limit windowSeconds : Int) (now : Rat) : List Rat → Int
  | [] => 0
  | start :: later =>
      if now < start + windowSeconds ∧ limit ≤ (start :: later).length then
        max 1 (truncate (start + windowSeconds - now + 0.999))
      else 0

/-- A counter answers with a positive number exactly while it blocks. -/
theorem counterAnswer_pos_iff (limit windowSeconds : Int) (calls : List (ThrottleCall Rat))
    (now : Rat) (key : String) :
    0 < counterAnswer limit windowSeconds now (windowOf windowSeconds key calls) ↔
      KeyBlocked limit windowSeconds calls now key := by
  unfold KeyBlocked
  cases windowOf windowSeconds key calls with
  | nil => simp [counterAnswer]
  | cons start later =>
      constructor
      · intro hpos
        by_contra hfree
        have hzero : counterAnswer limit windowSeconds now (start :: later) = 0 :=
          if_neg fun hblocked => hfree ⟨start, later, rfl, hblocked⟩
        rw [hzero] at hpos
        exact Int.lt_irrefl 0 hpos
      · rintro ⟨start', later', heq, hblocked⟩
        obtain ⟨rfl, rfl⟩ := List.cons_eq_cons.mp heq
        have hanswer : counterAnswer limit windowSeconds now (start :: later) =
            max 1 (truncate (start + windowSeconds - now + 0.999)) := if_pos hblocked
        rw [hanswer]
        exact Int.lt_of_lt_of_le Int.zero_lt_one (Int.le_max_left _ _)

/-- The entry that holds a window. -/
def windowEntry : List Rat → Option (Nat × Rat)
  | [] => none
  | start :: later => some (later.length + 1, start)

/-! ## What a call does to the entries -/

theorem entry_touch {F : Type} (throttle : FailureThrottle F) (key other : String) :
    (throttle.touch key).entry other = throttle.entry other :=
  dictGet_moveToEnd throttle.entries (throttle.digest key) (throttle.digest other)

theorem floatLe_zero (x : Rat) : floatLe x 0.0 = true ↔ x ≤ 0 := by
  have hzero : (0.0 : Rat) = 0 := by decide +kernel
  change (decide (x < (0.0 : Rat)) || decide (x = (0.0 : Rat))) = true ↔ x ≤ 0
  rw [hzero, Bool.or_eq_true, decide_eq_true_eq, decide_eq_true_eq, le_iff_lt_or_eq]

/-- A window is read as over exactly from its end on. -/
theorem floatLe_remaining (throttle : FailureThrottle Rat) (now started : Rat) :
    floatLe (throttle.remaining now started) 0.0 = true ↔
      started + throttle.windowSeconds ≤ now := by
  rw [floatLe_zero]
  exact sub_nonpos

/-- An entry answers as the counter whose window it holds. -/
theorem retryAfter_of_entry {throttle : FailureThrottle Rat} {window : List Rat} (now : Rat)
    {key : String} (hentry : throttle.entry key = windowEntry window) :
    (throttle.retryAfter now key).1 =
      counterAnswer throttle.limit throttle.windowSeconds now window := by
  unfold FailureThrottle.retryAfter
  rw [hentry]
  cases window with
  | nil => rfl
  | cons start later =>
      have hover := floatLe_remaining throttle now start
      simp only [windowEntry, counterAnswer, List.length_cons]
      by_cases hopen : now < start + throttle.windowSeconds
      · rw [if_neg (fun h => absurd (hover.mp h) (not_le.mpr hopen))]
        simp only [hopen, true_and]
        rfl
      · rw [if_pos (hover.mpr (not_lt.mp hopen)), if_neg (fun h => hopen h.1)]

/-- A window that is over is answered with zero. -/
theorem counterAnswer_of_over {limit windowSeconds : Int} {now : Rat} {window : List Rat}
    (h : WindowOver (windowSeconds : Rat) now window) :
    counterAnswer limit windowSeconds now window = 0 := by
  cases window with
  | nil => rfl
  | cons start later => exact if_neg fun hblocked => absurd hblocked.1 (not_lt.mpr h)

/-- Every entry is that of one of these keys. -/
def KnownKeys (keys : List String) (throttle : FailureThrottle Rat) : Prop :=
  ∀ digest ∈ throttle.entries.map Prod.fst, digest ∈ keys.map throttle.digest

theorem knownKeys_drop {keys : List String} {throttle : FailureThrottle Rat}
    (h : KnownKeys keys throttle) (key : String) : KnownKeys keys (throttle.drop key) := by
  intro digest hmem
  exact h digest ((List.filter_sublist.map Prod.fst).mem hmem)

theorem knownKeys_touch {keys : List String} {throttle : FailureThrottle Rat}
    (h : KnownKeys keys throttle) (key : String) : KnownKeys keys (throttle.touch key) := by
  intro digest hmem
  exact h digest (mem_keys_moveToEnd hmem)

/-- The entries before the eviction of `fail`. -/
def FailureThrottle.failed (throttle : FailureThrottle Rat) (now : Rat) (key : String) :
    List (String × (Nat × Rat)) :=
  moveToEnd (dictSet throttle.entries (throttle.digest key) (throttle.counted now key))
    (throttle.digest key)

theorem mem_keys_failed {keys : List String} {throttle : FailureThrottle Rat} {now : Rat}
    {key : String} (h : KnownKeys keys throttle) (hkey : key ∈ keys) :
    ∀ digest ∈ (throttle.failed now key).map Prod.fst, digest ∈ keys.map throttle.digest := by
  intro digest hmem
  have hset := mem_keys_moveToEnd hmem
  rcases (mem_keys_dictSet _ _ _ _).mp hset with rfl | hold
  · exact List.mem_map_of_mem hkey
  · exact h digest hold

/-- With few enough keys nothing is evicted. -/
theorem entries_fail {keys : List String} {throttle : FailureThrottle Rat} (now : Rat)
    {key : String} (h : KnownKeys keys throttle) (hkey : key ∈ keys)
    (hfew : (keys.length : Int) ≤ throttle.maxEntries) :
    (throttle.fail now key).entries = throttle.failed now key := by
  have hnodup : ((throttle.failed now key).map Prod.fst).Nodup :=
    moveToEnd_keys_nodup (dictSet_keys_nodup throttle.keys_nodup _ _) _
  have hsubset : (throttle.failed now key).map Prod.fst ⊆ keys.map throttle.digest :=
    fun digest hmem => mem_keys_failed h hkey digest hmem
  have hlength := hnodup.length_le_of_subset hsubset
  rw [List.length_map, List.length_map] at hlength
  change evict throttle.maxEntries (throttle.failed now key) = throttle.failed now key
  unfold evict
  have hnone : (throttle.failed now key).length - throttle.maxEntries.toNat = 0 := by omega
  rw [hnone, List.drop_zero]

theorem knownKeys_fail {keys : List String} {throttle : FailureThrottle Rat} (now : Rat)
    {key : String} (h : KnownKeys keys throttle) (hkey : key ∈ keys)
    (hfew : (keys.length : Int) ≤ throttle.maxEntries) :
    KnownKeys keys (throttle.fail now key) := by
  intro digest hmem
  rw [entries_fail now h hkey hfew] at hmem
  exact mem_keys_failed h hkey digest hmem

/-- With few enough keys a failure changes the entry of its key and no other. -/
theorem entry_fail_of_few {keys : List String} {throttle : FailureThrottle Rat} (now : Rat)
    {key : String} (h : KnownKeys keys throttle) (hkey : key ∈ keys)
    (hfew : (keys.length : Int) ≤ throttle.maxEntries) (other : String) :
    (throttle.fail now key).entry other =
      if throttle.digest key = throttle.digest other then some (throttle.counted now key)
      else throttle.entry other := by
  change dictGet (throttle.fail now key).entries (throttle.digest other) = _
  rw [entries_fail now h hkey hfew]
  unfold FailureThrottle.failed
  rw [dictGet_moveToEnd, dictGet_dictSet]
  rfl

/-! ## Entries and counters agree -/

/-- The entry of a key holds its window, or it was dropped after the window ended. -/
def HoldsWindow (throttle : FailureThrottle Rat) (clock : Rat) (key : String)
    (window : List Rat) : Prop :=
  throttle.entry key = windowEntry window ∨
    throttle.entry key = none ∧ WindowOver (throttle.windowSeconds : Rat) clock window

/-- The throttle agrees with the counters of these keys, at a reading of the clock. -/
structure Agrees (keys : List String) (throttle : FailureThrottle Rat) (clock : Rat)
    (calls : List (ThrottleCall Rat)) : Prop where
  known : KnownKeys keys throttle
  holds : ∀ key ∈ keys,
    HoldsWindow throttle clock key (windowOf throttle.windowSeconds key calls)

/-- The agreement lasts while nothing is called. -/
theorem Agrees.later {keys : List String} {throttle : FailureThrottle Rat} {clock now : Rat}
    {calls : List (ThrottleCall Rat)} (h : Agrees keys throttle clock calls)
    (hclock : clock ≤ now) : Agrees keys throttle now calls :=
  ⟨h.known, fun key hkey =>
    (h.holds key hkey).imp_right fun hgone => ⟨hgone.1, hgone.2.mono hclock⟩⟩

/-- The answer of a throttle that agrees with the counters is theirs. -/
theorem Agrees.answer {keys : List String} {throttle : FailureThrottle Rat} {clock now : Rat}
    {calls : List (ThrottleCall Rat)} (h : Agrees keys throttle clock calls)
    (hclock : clock ≤ now) {key : String} (hkey : key ∈ keys) :
    (throttle.retryAfter now key).1 =
      counterAnswer throttle.limit throttle.windowSeconds now
        (windowOf throttle.windowSeconds key calls) := by
  rcases h.holds key hkey with hentry | ⟨hnone, hover⟩
  · exact retryAfter_of_entry now hentry
  · rw [counterAnswer_of_over (hover.mono hclock)]
    unfold FailureThrottle.retryAfter
    rw [hnone]

/-- A failure is counted as the counter counts it. -/
theorem counted_of_holds {throttle : FailureThrottle Rat} {clock now : Rat} {key : String}
    {window : List Rat} (h : HoldsWindow throttle clock key window) (hclock : clock ≤ now) :
    some (throttle.counted now key) =
      windowEntry (extendWindow (throttle.windowSeconds : Rat) window now) := by
  unfold FailureThrottle.counted
  rcases h with hentry | ⟨hnone, hover⟩
  · rw [hentry]
    cases window with
    | nil => rfl
    | cons start later =>
        have hle : FloatArith.intLe throttle.windowSeconds (now - start) = true ↔
            start + throttle.windowSeconds ≤ now := by
          change decide ((throttle.windowSeconds : Rat) ≤ now - start) = true ↔ _
          rw [decide_eq_true_eq, le_sub_iff_add_le']
        simp only [windowEntry, extendWindow]
        by_cases hover : start + (throttle.windowSeconds : Rat) ≤ now
        · rw [if_pos (hle.mpr hover), if_pos hover]
          rfl
        · rw [if_neg (fun h => hover (hle.mp h)), if_neg hover]
          simp
  · rw [hnone, extendWindow_of_over (hover.mono hclock)]
    rfl

/-- A call that leaves the entries of the other keys alone and tracks its own key keeps the
agreement. -/
theorem Agrees.of_entries {keys : List String} {throttle throttle' : FailureThrottle Rat}
    {clock now : Rat} {calls : List (ThrottleCall Rat)} {call : ThrottleCall Rat}
    (h : Agrees keys throttle clock calls) (hclock : clock ≤ now)
    (hwindow : throttle'.windowSeconds = throttle.windowSeconds)
    (hknown : KnownKeys keys throttle')
    (hothers : ∀ other ∈ keys, other ≠ call.key →
      throttle'.entry other = throttle.entry other)
    (hown : HoldsWindow throttle' now call.key
      (windowOf throttle.windowSeconds call.key (calls ++ [call]))) :
    Agrees keys throttle' now (calls ++ [call]) := by
  refine ⟨hknown, ?_⟩
  intro other hother
  rw [hwindow]
  by_cases hsame : other = call.key
  · rw [hsame]
    exact hown
  · have hrecord : windowOf throttle.windowSeconds other (calls ++ [call]) =
        windowOf throttle.windowSeconds other calls := by
      unfold windowOf
      rw [failuresSinceReset_concat, recordCall_of_ne (Ne.symm hsame)]
    unfold HoldsWindow
    rw [hrecord, hothers other hother hsame, hwindow]
    rcases h.holds other hother with hentry | ⟨hnone, hover⟩
    · exact .inl hentry
    · exact .inr ⟨hnone, hover.mono hclock⟩

/-- What `retry_after` does to the entries: nothing that can be read, or it drops an entry
whose window is over. -/
theorem retryAfter_cases (throttle : FailureThrottle Rat) (now : Rat) (key : String) :
    (throttle.retryAfter now key).2 = throttle ∨
      (throttle.retryAfter now key).2 = throttle.touch key ∨
      (throttle.retryAfter now key).2 = throttle.drop key ∧
        ∃ count started, throttle.entry key = some (count, started) ∧
          started + throttle.windowSeconds ≤ now := by
  unfold FailureThrottle.retryAfter
  cases hentry : throttle.entry key with
  | none => exact .inl rfl
  | some pair =>
      obtain ⟨count, started⟩ := pair
      dsimp only
      split
      · rename_i hover
        exact .inr (.inr ⟨rfl, count, started, rfl,
          (floatLe_remaining throttle now started).mp hover⟩)
      · exact .inr (.inl rfl)

/-- An entry whose window is over held a window that is over. -/
theorem WindowOver.of_entry {throttle : FailureThrottle Rat} {clock now : Rat} {key : String}
    {window : List Rat} {count : Nat} {started : Rat}
    (hentry : throttle.entry key = some (count, started))
    (hover : started + throttle.windowSeconds ≤ now)
    (hold : HoldsWindow throttle clock key window) :
    WindowOver (throttle.windowSeconds : Rat) now window := by
  rcases hold with hheld | ⟨hnone, -⟩
  · rw [hentry] at hheld
    cases window with
    | nil => trivial
    | cons start later =>
        cases hheld
        exact hover
  · rw [hentry] at hnone
    cases hnone

/-- Reading a key keeps the agreement. -/
theorem Agrees.retryAfter {keys : List String} {throttle : FailureThrottle Rat}
    {clock now : Rat} {calls : List (ThrottleCall Rat)} {key : String}
    (h : Agrees keys throttle clock calls)
    (hinjective : Set.InjOn throttle.digest {key | key ∈ keys}) (hkey : key ∈ keys)
    (hclock : clock ≤ now) :
    Agrees keys (throttle.retryAfter now key).2 now (calls ++ [.retryAfter now key]) := by
  have hold := h.holds key hkey
  have hwindow : windowOf throttle.windowSeconds key (calls ++ [.retryAfter now key]) =
      windowOf throttle.windowSeconds key calls := by
    unfold windowOf
    rw [failuresSinceReset_concat]
    rfl
  have hkept : HoldsWindow throttle now key
      (windowOf throttle.windowSeconds key (calls ++ [.retryAfter now key])) := by
    rw [hwindow]
    exact hold.imp_right fun hgone => ⟨hgone.1, hgone.2.mono hclock⟩
  rcases retryAfter_cases throttle now key with
    hsame | htouch | ⟨hdrop, count, started, hentry, hover⟩
  · rw [hsame]
    exact h.of_entries hclock rfl h.known (fun _ _ _ => rfl) hkept
  · rw [htouch]
    refine h.of_entries hclock rfl (knownKeys_touch h.known key)
      (fun other _ _ => entry_touch throttle key other) ?_
    exact hkept.imp (entry_touch throttle key key).trans
      (And.imp_left (entry_touch throttle key key).trans)
  · rw [hdrop]
    refine h.of_entries hclock rfl (knownKeys_drop h.known key) ?_ (.inr ⟨?_, ?_⟩)
    · intro other hother hne
      exact (entry_drop throttle key other).trans
        (if_neg fun heq => hne (hinjective hother hkey heq))
    · exact (entry_drop throttle key key).trans (if_pos rfl)
    · change WindowOver (throttle.windowSeconds : Rat) now
        (windowOf throttle.windowSeconds key (calls ++ [.retryAfter now key]))
      rw [hwindow]
      exact WindowOver.of_entry hentry hover hold

/-- A failure of a known key keeps the agreement. -/
theorem Agrees.fail {keys : List String} {throttle : FailureThrottle Rat}
    {clock now : Rat} {calls : List (ThrottleCall Rat)} {key : String}
    (h : Agrees keys throttle clock calls)
    (hinjective : Set.InjOn throttle.digest {key | key ∈ keys})
    (hfew : (keys.length : Int) ≤ throttle.maxEntries) (hkey : key ∈ keys)
    (hclock : clock ≤ now) :
    Agrees keys (throttle.fail now key) now (calls ++ [.fail now key]) := by
  refine h.of_entries hclock rfl (knownKeys_fail now h.known hkey hfew) ?_ (.inl ?_)
  · intro other hother hne
    exact (entry_fail_of_few now h.known hkey hfew other).trans
      (if_neg fun heq => hne (hinjective hother hkey heq.symm))
  · have hfailures : failuresSinceReset key (calls ++ [.fail now key]) =
        failuresSinceReset key calls ++ [now] :=
      (failuresSinceReset_concat key calls (.fail now key)).trans (if_pos rfl)
    change (throttle.fail now key).entry key =
      windowEntry (windowOf throttle.windowSeconds key (calls ++ [.fail now key]))
    rw [entry_fail, counted_of_holds (h.holds key hkey) hclock]
    unfold windowOf
    rw [hfailures, currentWindow_concat]

/-- A reset keeps the agreement. -/
theorem Agrees.reset {keys : List String} {throttle : FailureThrottle Rat}
    {clock : Rat} {calls : List (ThrottleCall Rat)} {key : String}
    (h : Agrees keys throttle clock calls)
    (hinjective : Set.InjOn throttle.digest {key | key ∈ keys}) (hkey : key ∈ keys) :
    Agrees keys (throttle.reset key) clock (calls ++ [.reset key]) := by
  refine h.of_entries (le_refl clock) rfl (knownKeys_drop h.known key) ?_ (.inl ?_)
  · intro other hother hne
    exact (entry_reset throttle key other).trans
      (if_neg fun heq => hne (hinjective hother hkey heq))
  · have hfailures : failuresSinceReset key (calls ++ [.reset key]) = [] :=
      (failuresSinceReset_concat key calls (.reset key)).trans (if_pos rfl)
    change (throttle.reset key).entry key =
      windowEntry (windowOf throttle.windowSeconds key (calls ++ [.reset key]))
    unfold windowOf
    rw [hfailures]
    exact (entry_reset throttle key key).trans (if_pos rfl)

/-! ## Runs -/

/-- The readings of the clock in some calls. -/
def clockReadings {F : Type} (calls : List (ThrottleCall F)) : List F :=
  calls.filterMap ThrottleCall.now?

/-- A call changes neither the parameters nor the digest. -/
theorem apply_parameters (throttle : FailureThrottle Rat) (call : ThrottleCall Rat) :
    (throttle.apply call).limit = throttle.limit ∧
      (throttle.apply call).windowSeconds = throttle.windowSeconds ∧
      (throttle.apply call).maxEntries = throttle.maxEntries ∧
      (throttle.apply call).digest = throttle.digest := by
  cases call with
  | retryAfter now key =>
      change (throttle.retryAfter now key).2.limit = _ ∧
        (throttle.retryAfter now key).2.windowSeconds = _ ∧
        (throttle.retryAfter now key).2.maxEntries = _ ∧
        (throttle.retryAfter now key).2.digest = _
      rcases retryAfter_cases throttle now key with hsame | htouch | ⟨hdrop, -⟩
      · rw [hsame]
        exact ⟨rfl, rfl, rfl, rfl⟩
      · rw [htouch]
        exact ⟨rfl, rfl, rfl, rfl⟩
      · rw [hdrop]
        exact ⟨rfl, rfl, rfl, rfl⟩
  | fail now key => exact ⟨rfl, rfl, rfl, rfl⟩
  | reset key => exact ⟨rfl, rfl, rfl, rfl⟩

theorem after_concat (throttle : FailureThrottle Rat) (calls : List (ThrottleCall Rat))
    (call : ThrottleCall Rat) :
    throttle.after (calls ++ [call]) = (throttle.after calls).apply call := by
  unfold FailureThrottle.after
  rw [List.foldl_append]
  rfl

theorem after_parameters (throttle : FailureThrottle Rat) (calls : List (ThrottleCall Rat)) :
    (throttle.after calls).limit = throttle.limit ∧
      (throttle.after calls).windowSeconds = throttle.windowSeconds ∧
      (throttle.after calls).maxEntries = throttle.maxEntries ∧
      (throttle.after calls).digest = throttle.digest := by
  induction calls using List.reverseRecOn with
  | nil => exact ⟨rfl, rfl, rfl, rfl⟩
  | append_singleton calls call ih =>
      obtain ⟨hlimit, hwindow, hmax, hdigest⟩ := apply_parameters (throttle.after calls) call
      rw [after_concat, hlimit, hwindow, hmax, hdigest]
      exact ih

/-- Over any calls of known keys with a clock that does not go back, a new throttle agrees
with the counters at every reading that comes after them. -/
theorem agrees_run {keys : List String} {throttle : FailureThrottle Rat}
    (hempty : throttle.entries = [])
    (hinjective : Set.InjOn throttle.digest {key | key ∈ keys})
    (hfew : (keys.length : Int) ≤ throttle.maxEntries) (calls : List (ThrottleCall Rat))
    (hkeys : ∀ call ∈ calls, call.key ∈ keys)
    (hclock : (clockReadings calls).Pairwise (· ≤ ·)) (clock : Rat)
    (hlast : ∀ time ∈ clockReadings calls, time ≤ clock) :
    Agrees keys (throttle.after calls) clock calls := by
  induction calls using List.reverseRecOn generalizing clock with
  | nil =>
      refine ⟨?_, fun key _ => .inl ?_⟩
      · intro digest hmem
        change digest ∈ throttle.entries.map Prod.fst at hmem
        rw [hempty] at hmem
        cases hmem
      · change dictGet throttle.entries (throttle.digest key) = none
        rw [hempty]
        rfl
  | append_singleton calls call ih =>
      obtain ⟨-, -, hmax, hdigest⟩ := after_parameters throttle calls
      have hinjective' : Set.InjOn (throttle.after calls).digest {key | key ∈ keys} := by
        rw [hdigest]
        exact hinjective
      have hkey : call.key ∈ keys := hkeys call (by simp)
      have hsplit : clockReadings (calls ++ [call]) =
          clockReadings calls ++ clockReadings [call] := List.filterMap_append
      rw [hsplit, List.pairwise_append] at hclock
      rw [hsplit, List.forall_mem_append] at hlast
      have hrest := ih (fun other hother => hkeys other (by simp [hother])) hclock.1
      rw [after_concat]
      cases call with
      | retryAfter now key =>
          have hnow : now ∈ clockReadings [ThrottleCall.retryAfter now key] :=
            List.mem_singleton_self now
          have hread := hrest now fun time htime => hclock.2.2 time htime now hnow
          have hnext := hread.retryAfter hinjective' hkey (le_refl now)
          exact hnext.later (hlast.2 now hnow)
      | fail now key =>
          have hnow : now ∈ clockReadings [ThrottleCall.fail now key] :=
            List.mem_singleton_self now
          have hread := hrest now fun time htime => hclock.2.2 time htime now hnow
          have hnext := hread.fail hinjective' (by rw [hmax]; exact hfew) hkey (le_refl now)
          exact hnext.later (hlast.2 now hnow)
      | reset key => exact (hrest clock hlast.1).reset hinjective' hkey

/-- The clock does not go back, the keys in use fit in the map, and their digests differ. -/
structure Orderly (digest : String → String) (maxEntries : Int)
    (calls : List (ThrottleCall Rat)) : Prop where
  clock : (clockReadings calls).Pairwise (· ≤ ·)
  keys : ((calls.map ThrottleCall.key).dedup.length : Int) ≤ maxEntries
  digest : Set.InjOn digest {key | key ∈ calls.map ThrottleCall.key}

/-- After orderly calls a new throttle answers as the counter of the key. -/
theorem answer_eq_counterAnswer {digest : String → String} {limit windowSeconds maxEntries : Int}
    (hlimit : 1 ≤ limit) (hwindowSeconds : 1 ≤ windowSeconds) (hmaxEntries : 1 ≤ maxEntries)
    {calls : List (ThrottleCall Rat)} {now : Rat} {key : String}
    (horderly : Orderly digest maxEntries (calls ++ [.retryAfter now key])) :
    (FailureThrottle.new Rat digest limit windowSeconds maxEntries).answer calls now key =
      counterAnswer limit windowSeconds now (windowOf windowSeconds key calls) := by
  let throttle := FailureThrottle.new Rat digest limit windowSeconds maxEntries
  let used := (calls ++ [ThrottleCall.retryAfter now key]).map ThrottleCall.key
  let keys := used.dedup
  have hmem : ∀ other, other ∈ keys ↔ other ∈ used := fun other => List.mem_dedup
  have hmax : throttle.maxEntries = maxEntries := Int.max_eq_left hmaxEntries
  have hclock := horderly.clock
  have hsplit : clockReadings (calls ++ [.retryAfter now key]) = clockReadings calls ++ [now] :=
    List.filterMap_append
  rw [hsplit, List.pairwise_append] at hclock
  have hagrees : Agrees keys (throttle.after calls) now calls := by
    refine agrees_run rfl ?_ ?_ calls ?_ hclock.1 now ?_
    · intro a ha b hb
      exact horderly.digest ((hmem a).mp ha) ((hmem b).mp hb)
    · rw [hmax]
      exact horderly.keys
    · intro call hcall
      exact (hmem _).mpr (List.mem_map_of_mem (List.mem_append_left _ hcall))
    · intro time htime
      exact hclock.2.2 time htime now (List.mem_singleton_self now)
  have hkey : key ∈ keys := (hmem key).mpr (by simp [used, ThrottleCall.key])
  have hanswer := hagrees.answer (le_refl now) hkey
  obtain ⟨hlimit', hwindow', -, -⟩ := after_parameters throttle calls
  have hsame : throttle.limit = limit := Int.max_eq_left hlimit
  have hseconds : throttle.windowSeconds = windowSeconds := Int.max_eq_left hwindowSeconds
  rw [hlimit', hwindow', hsame, hseconds] at hanswer
  exact hanswer

/-- The throttle is a family of independent fixed-window counters, as long as the keys in use
fit in its map: every answer is that of the counter of the key, it is positive exactly while
that counter blocks, and it depends on the calls of that key only.  Whatever the calls, the
map never outgrows its bound. -/
theorem throttle_refines_counters (digest : String → String)
    {limit windowSeconds maxEntries : Int} (hlimit : 1 ≤ limit)
    (hwindowSeconds : 1 ≤ windowSeconds) (hmaxEntries : 1 ≤ maxEntries) :
    (∀ (calls : List (ThrottleCall Rat)) (now : Rat) (key : String),
      Orderly digest maxEntries (calls ++ [.retryAfter now key]) →
        (FailureThrottle.new Rat digest limit windowSeconds maxEntries).answer calls now key =
            counterAnswer limit windowSeconds now (windowOf windowSeconds key calls) ∧
          (0 < (FailureThrottle.new Rat digest limit windowSeconds maxEntries).answer
              calls now key ↔
            KeyBlocked limit windowSeconds calls now key) ∧
          ∀ others : List (ThrottleCall Rat),
            Orderly digest maxEntries (others ++ [.retryAfter now key]) →
            (others.filter fun call => call.key == key) =
              (calls.filter fun call => call.key == key) →
            (FailureThrottle.new Rat digest limit windowSeconds maxEntries).answer
                others now key =
              (FailureThrottle.new Rat digest limit windowSeconds maxEntries).answer
                calls now key) ∧
      ∀ calls : List (ThrottleCall Rat),
        (((FailureThrottle.new Rat digest limit windowSeconds maxEntries).after
          calls).entries.length : Int) ≤ maxEntries := by
  constructor
  · intro calls now key horderly
    have hanswer := answer_eq_counterAnswer hlimit hwindowSeconds hmaxEntries horderly
    refine ⟨hanswer, ?_, ?_⟩
    · rw [hanswer]
      exact counterAnswer_pos_iff limit windowSeconds calls now key
    · intro others hothers hsame
      have hwindow : windowOf windowSeconds key others = windowOf windowSeconds key calls := by
        unfold windowOf
        rw [← failuresSinceReset_filter key others, hsame, failuresSinceReset_filter]
      rw [answer_eq_counterAnswer hlimit hwindowSeconds hmaxEntries hothers, hanswer, hwindow]
  · intro calls
    obtain ⟨-, -, hmax, -⟩ := after_parameters
      (FailureThrottle.new Rat digest limit windowSeconds maxEntries) calls
    have hbounded := ((FailureThrottle.new Rat digest limit windowSeconds maxEntries).after
      calls).bounded
    rw [hmax] at hbounded
    exact hbounded.trans (Int.max_eq_left hmaxEntries).le

/-- Two clients with one failure each under a limit of one: the first is blocked until its
window ends. -/
theorem throttle_refines_counters_two :
    KeyBlocked 1 5 [.fail 10 "a", .fail 12 "b", .retryAfter 12 "b"] 14 "a" ∧
      0 < (FailureThrottle.new Rat id 1 5 2).answer
        [.fail 10 "a", .fail 12 "b", .retryAfter 12 "b"] 14 "a" := by
  have hblocked : KeyBlocked 1 5 [.fail 10 "a", .fail 12 "b", .retryAfter 12 "b"] 14 "a" :=
    ⟨10, [], rfl, by decide +kernel, by decide⟩
  have horderly : Orderly id 2
      ([.fail 10 "a", .fail 12 "b", .retryAfter 12 "b"] ++ [.retryAfter 14 "a"]) := by
    refine ⟨by decide +kernel, by decide, fun a _ b _ h => h⟩
  exact ⟨hblocked, ((throttle_refines_counters id (by decide) (by decide) (by decide)).1
    _ 14 "a" horderly).2.1.mpr hblocked⟩

end Gateway
end FreeLunch
