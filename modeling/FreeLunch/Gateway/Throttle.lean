import FreeLunch.Python.Exact

/-!
# The throttle for failed credentials

`FailureThrottle` of `src/security_throttle.py`: for each client, the number of failures in
a window that starts with the first of them.  The entries are in the order of their last
use, and the oldest ones are dropped when there are too many.

Main results:

- Theorem `retryAfter_ne_zero_iff`: a client is told to wait exactly while it is blocked.
- Theorem `entry_retryAfter`: a check forgets a window of its client that is over.
- Theorem `entry_fail`: a failure is counted in the client's window and survives the
  eviction.
- Theorem `blocked_fail_iff`: when a failure blocks its client.
- Theorem `entry_reset`: accepted credentials forget the failures of their client alone.

Current gaps:

- The digest under which a client is kept is a parameter, and a clock reading is a finite
  number.
-/

namespace FreeLunch
namespace Gateway

open Python

/-- Clock readings: floating-point arithmetic on finite numbers, with `int(x)`. -/
class ClockArith (F : Type) extends FloatArith F where
  truncate : F → Int

instance : ClockArith Rat where
  truncate := Python.truncate

/-! ## The state -/

/-- `FailureThrottle`, with `_digest`. -/
structure FailureThrottle (F : Type) where
  limit : Int
  windowSeconds : Int
  maxEntries : Int
  digest : String → String
  entries : List (String × (Nat × F))
  limit_pos : 1 ≤ limit
  windowSeconds_pos : 1 ≤ windowSeconds
  maxEntries_pos : 1 ≤ maxEntries
  keys_nodup : (entries.map Prod.fst).Nodup
  bounded : entries.length ≤ maxEntries

/-- `FailureThrottle(limit, window_seconds, max_entries)`. -/
def FailureThrottle.new (F : Type) (digest : String → String)
    (limit windowSeconds maxEntries : Int) : FailureThrottle F where
  limit := max limit 1
  windowSeconds := max windowSeconds 1
  maxEntries := max maxEntries 1
  digest := digest
  entries := []
  limit_pos := Int.le_max_right _ _
  windowSeconds_pos := Int.le_max_right _ _
  maxEntries_pos := Int.le_max_right _ _
  keys_nodup := List.nodup_nil
  bounded := by
    have h : (1 : Int) ≤ max maxEntries 1 := Int.le_max_right _ _
    rw [List.length_nil]
    omega

section Throttle

variable {F : Type}

/-- The throttle with other entries. -/
def FailureThrottle.withEntries (throttle : FailureThrottle F)
    (entries : List (String × (Nat × F))) (hnodup : (entries.map Prod.fst).Nodup)
    (hbounded : entries.length ≤ throttle.maxEntries) : FailureThrottle F :=
  { throttle with entries := entries, keys_nodup := hnodup, bounded := hbounded }

/-- `del self._entries[digest]` or `self._entries.pop(digest, None)`. -/
def FailureThrottle.drop (throttle : FailureThrottle F) (key : String) : FailureThrottle F :=
  throttle.withEntries (dictPop throttle.entries (throttle.digest key))
    (dictPop_keys_nodup throttle.keys_nodup _)
    (Int.le_trans (Int.ofNat_le.mpr (length_dictPop_le _ _)) throttle.bounded)

/-- `self._entries.move_to_end(digest)`. -/
def FailureThrottle.touch (throttle : FailureThrottle F) (key : String) : FailureThrottle F :=
  throttle.withEntries (moveToEnd throttle.entries (throttle.digest key))
    (moveToEnd_keys_nodup throttle.keys_nodup _)
    (Int.le_trans (Int.ofNat_le.mpr (length_moveToEnd_le _ _)) throttle.bounded)

/-- The entry of a client: the failures in its window and the start of the window. -/
def FailureThrottle.entry (throttle : FailureThrottle F) (key : String) : Option (Nat × F) :=
  dictGet throttle.entries (throttle.digest key)

/-- Clients with one digest share their entry. -/
theorem entry_congr {throttle : FailureThrottle F} {key other : String}
    (h : throttle.digest key = throttle.digest other) :
    throttle.entry key = throttle.entry other := by
  unfold FailureThrottle.entry
  rw [h]

/-- Drop the oldest entries until at most `n` are left. -/
def evict {α : Type} (n : Int) (entries : List α) : List α :=
  entries.drop (entries.length - n.toNat)

theorem length_evict {α : Type} {n : Int} (hn : 1 ≤ n) (entries : List α) :
    ((evict n entries).length : Int) ≤ n := by
  unfold evict
  rw [List.length_drop]
  omega

/-- The last entry is not evicted. -/
theorem evict_concat {α : Type} {n : Int} (hn : 1 ≤ n) (entries : List α) (last : α) :
    ∃ kept, evict n (entries ++ [last]) = kept ++ [last] ∧ kept.Sublist entries := by
  unfold evict
  have hle : (entries ++ [last]).length - n.toNat ≤ entries.length := by
    rw [List.length_append, List.length_singleton]
    omega
  exact ⟨_, List.drop_append_of_le_length hle, List.drop_sublist _ _⟩

variable [ClockArith F]

/-- `x <= y` of two floats. -/
def floatLe (x y : F) : Bool :=
  FloatArith.lt x y || FloatArith.eq x y

/-- `started + self.window_seconds - now`. -/
def FailureThrottle.remaining (throttle : FailureThrottle F) (now started : F) : F :=
  started + FloatArith.ofInt throttle.windowSeconds - now

/-! ## The calls -/

/-- `retry_after`. -/
def FailureThrottle.retryAfter (throttle : FailureThrottle F) (now : F) (key : String) :
    Int × FailureThrottle F :=
  match throttle.entry key with
  | none => (0, throttle)
  | some (count, started) =>
      let remaining := throttle.remaining now started
      if floatLe remaining 0.0 then (0, throttle.drop key)
      else
        (if throttle.limit ≤ count then max 1 (ClockArith.truncate (remaining + 0.999)) else 0,
          throttle.touch key)

/-- The entry after another failure. -/
def FailureThrottle.counted (throttle : FailureThrottle F) (now : F) (key : String) : Nat × F :=
  match throttle.entry key with
  | none => (1, now)
  | some (count, started) =>
      if FloatArith.intLe throttle.windowSeconds (now - started) then (1, now)
      else (count + 1, started)

/-- `fail`. -/
def FailureThrottle.fail (throttle : FailureThrottle F) (now : F) (key : String) :
    FailureThrottle F :=
  let digest := throttle.digest key
  let entries := moveToEnd (dictSet throttle.entries digest (throttle.counted now key)) digest
  throttle.withEntries (evict throttle.maxEntries entries)
    ((moveToEnd_keys_nodup (dictSet_keys_nodup throttle.keys_nodup _ _) _).sublist
      ((List.drop_sublist _ _).map _))
    (length_evict throttle.maxEntries_pos _)

/-- `reset`. -/
def FailureThrottle.reset (throttle : FailureThrottle F) (key : String) : FailureThrottle F :=
  throttle.drop key

/-! ## What the calls do -/

/-- The client has reached the limit and its window is not over. -/
def FailureThrottle.Blocked (throttle : FailureThrottle F) (now : F) (key : String) : Prop :=
  ∃ count started, throttle.entry key = some (count, started) ∧
    floatLe (throttle.remaining now started) 0.0 = false ∧ throttle.limit ≤ count

/-- A client is told to wait exactly while it is blocked. -/
theorem retryAfter_ne_zero_iff (throttle : FailureThrottle F) (now : F) (key : String) :
    (throttle.retryAfter now key).1 ≠ 0 ↔ throttle.Blocked now key := by
  unfold FailureThrottle.retryAfter FailureThrottle.Blocked
  cases hentry : throttle.entry key with
  | none => simp
  | some pair =>
      obtain ⟨count, started⟩ := pair
      by_cases hover : floatLe (throttle.remaining now started) 0.0 = true
      · simp [hover]
      · by_cases hlimit : throttle.limit ≤ count
        · have hpos : (1 : Int) ≤ max 1 (ClockArith.truncate
              (throttle.remaining now started + 0.999)) := Int.le_max_left _ _
          simp [hover, hlimit]
          omega
        · simp [hover, hlimit]

omit [ClockArith F] in
theorem entry_drop (throttle : FailureThrottle F) (key other : String) :
    (throttle.drop key).entry other =
      if throttle.digest other = throttle.digest key then none else throttle.entry other := by
  exact dictGet_dictPop throttle.entries (throttle.digest key) (throttle.digest other)

omit [ClockArith F] in
/-- Accepted credentials forget the failures of the client and of no other. -/
theorem entry_reset (throttle : FailureThrottle F) (key other : String) :
    (throttle.reset key).entry other =
      if throttle.digest other = throttle.digest key then none else throttle.entry other :=
  entry_drop throttle key other

/-- A failure is counted in the client's window, whatever is evicted. -/
theorem entry_fail (throttle : FailureThrottle F) (now : F) (key : String) :
    (throttle.fail now key).entry key = some (throttle.counted now key) := by
  have hset : dictGet (dictSet throttle.entries (throttle.digest key)
      (throttle.counted now key)) (throttle.digest key) = some (throttle.counted now key) := by
    rw [dictGet_dictSet, if_pos rfl]
  change dictGet (evict throttle.maxEntries (moveToEnd _ _)) (throttle.digest key) = _
  rw [moveToEnd_of_get hset]
  obtain ⟨kept, hkept, hsublist⟩ := evict_concat throttle.maxEntries_pos
    (dictPop (dictSet throttle.entries (throttle.digest key) (throttle.counted now key))
      (throttle.digest key)) (throttle.digest key, throttle.counted now key)
  rw [hkept, dictGet_append, dictGet_cons, if_pos rfl]
  have hnone : dictGet kept (throttle.digest key) = none := by
    unfold dictGet
    rw [Option.map_eq_none_iff, List.find?_eq_none]
    intro member hmember
    have hold := (List.mem_filter.mp (hsublist.mem hmember)).2
    simpa using hold
  rw [hnone]
  rfl

/-- The tail of a dictionary has fewer keys and the same values. -/
theorem dictGet_drop {α : Type} {entries : List (String × α)}
    (hnodup : (entries.map Prod.fst).Nodup) (n : Nat) (key : String) :
    dictGet (entries.drop n) key = dictGet entries key ∨ dictGet (entries.drop n) key = none := by
  cases hget : dictGet (entries.drop n) key with
  | none => exact .inr rfl
  | some value =>
      refine .inl ?_
      have hmem := mem_of_dictGet hget
      rw [← List.take_append_drop n entries, List.map_append, List.nodup_append] at hnodup
      have hbefore : dictGet (entries.take n) key = none := by
        cases htake : dictGet (entries.take n) key with
        | none => rfl
        | some other =>
            exact absurd rfl (hnodup.2.2 key (List.mem_map_of_mem (mem_of_dictGet htake)) key
              (List.mem_map_of_mem hmem))
      rw [← List.take_append_drop n entries, dictGet_append, hbefore, hget]
      rfl

/-- A failure leaves the entry of another client as it is, or evicts it. -/
theorem entry_fail_of_ne (throttle : FailureThrottle F) (now : F) {key other : String}
    (h : throttle.digest other ≠ throttle.digest key) :
    (throttle.fail now key).entry other = throttle.entry other ∨
      (throttle.fail now key).entry other = none := by
  have hentries : dictGet (moveToEnd (dictSet throttle.entries (throttle.digest key)
      (throttle.counted now key)) (throttle.digest key)) (throttle.digest other) =
      throttle.entry other := by
    rw [dictGet_moveToEnd, dictGet_dictSet, if_neg h.symm]
    rfl
  rw [← hentries]
  exact dictGet_drop (moveToEnd_keys_nodup (dictSet_keys_nodup throttle.keys_nodup _ _) _) _ _

/-- The entry of a client whose window is not over. -/
def FailureThrottle.openEntry (throttle : FailureThrottle F) (now : F) (key : String) :
    Option (Nat × F) :=
  (throttle.entry key).filter fun entry => !floatLe (throttle.remaining now entry.2) 0.0

/-- A window with one more failure, or a new one with the first. -/
def FailureThrottle.oneMore (throttle : FailureThrottle F) (now : F)
    (window : Option (Nat × F)) : Nat × F :=
  match window with
  | none => (1, now)
  | some (count, started) =>
      if FloatArith.intLe throttle.windowSeconds (now - started) then (1, now)
      else (count + 1, started)

theorem counted_eq (throttle : FailureThrottle F) (now : F) (key : String) :
    throttle.counted now key = throttle.oneMore now (throttle.entry key) := by
  unfold FailureThrottle.counted FailureThrottle.oneMore
  cases throttle.entry key <;> rfl

/-- A check changes the entries alone. -/
theorem retryAfter_keeps (throttle : FailureThrottle F) (now : F) (key : String) :
    (throttle.retryAfter now key).2.digest = throttle.digest ∧
      (throttle.retryAfter now key).2.windowSeconds = throttle.windowSeconds := by
  unfold FailureThrottle.retryAfter
  split
  · exact ⟨rfl, rfl⟩
  · dsimp only
    split <;> exact ⟨rfl, rfl⟩

/-- A check forgets a window of its client that is over, and changes no other entry. -/
theorem entry_retryAfter (throttle : FailureThrottle F) (now : F) (key other : String) :
    (throttle.retryAfter now key).2.entry other =
      if throttle.digest other = throttle.digest key then throttle.openEntry now key
      else throttle.entry other := by
  have hsame : throttle.digest other = throttle.digest key →
      throttle.entry other = throttle.entry key := by
    intro hdigest
    unfold FailureThrottle.entry
    rw [hdigest]
  unfold FailureThrottle.retryAfter FailureThrottle.openEntry
  cases hentry : throttle.entry key with
  | none =>
      dsimp only
      split
      · next hdigest =>
          rw [hsame hdigest, hentry]
          rfl
      · rfl
  | some pair =>
      dsimp only
      by_cases hover : floatLe (throttle.remaining now pair.2) 0.0 = true
      · rw [if_pos hover, entry_drop]
        simp [hover, Option.filter]
      · have htouch : (throttle.touch key).entry other = throttle.entry other :=
          dictGet_moveToEnd _ _ _
        rw [if_neg hover, htouch]
        split
        · next hdigest =>
            rw [hsame hdigest, hentry]
            simp [hover, Option.filter]
        · rfl

/-- A failure blocks its client once the limit is reached within the window. -/
theorem blocked_fail_iff (throttle : FailureThrottle F) (now later : F) (key : String) :
    (throttle.fail now key).Blocked later key ↔
      floatLe (throttle.remaining later (throttle.counted now key).2) 0.0 = false ∧
        throttle.limit ≤ (throttle.counted now key).1 := by
  unfold FailureThrottle.Blocked
  rw [entry_fail]
  constructor
  · rintro ⟨count, started, heq, hopen, hlimit⟩
    rw [Option.some.injEq] at heq
    rw [heq]
    exact ⟨hopen, hlimit⟩
  · rintro ⟨hopen, hlimit⟩
    exact ⟨_, _, rfl, hopen, hlimit⟩

end Throttle

end Gateway
end FreeLunch
