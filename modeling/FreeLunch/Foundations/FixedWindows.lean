import Mathlib.Algebra.GroupWithZero.Nat
import Mathlib.Algebra.Order.Group.Defs
import Mathlib.Data.List.Count
import Mathlib.Data.List.Induction
import Mathlib.Order.Lattice

/-!
# Fixed windows and sliding intervals

Times are grouped into windows of one length: a window is opened by the first time that lies
past the end of the window before it.  When no window holds more than `limit` times, no
interval of that length holds `2 * limit` of them, since it meets at most two windows and
misses the start of the first of these.

Main results:

- Theorem `countP_windows`: the windows hold the times.
- Theorem `separated_windows`: each window starts past the end of those before it.
- Theorem `countP_le_of_windows`: what a sliding interval can hold.
-/

namespace FreeLunch
namespace FixedWindows

variable {α : Type}

/-- A window: the time that opened it and the later ones in it. -/
structure FixedWindow (α : Type) where
  start : α
  later : List α

/-- The times in a window. -/
def FixedWindow.times (window : FixedWindow α) : List α :=
  window.start :: window.later

section Windows

variable [LinearOrder α] [Add α]

/-- One more time: it goes to the last window or opens the next one.  The last window stands
first. -/
def record (length : α) : List (FixedWindow α) → α → List (FixedWindow α)
  | [], t => [⟨t, []⟩]
  | window :: older, t =>
      if window.start + length ≤ t then ⟨t, []⟩ :: window :: older
      else { window with later := window.later ++ [t] } :: older

/-- A time that lies past the end of the last window opens one. -/
theorem record_of_over {length t : α} {window : FixedWindow α} (h : window.start + length ≤ t)
    (older : List (FixedWindow α)) :
    record length (window :: older) t = ⟨t, []⟩ :: window :: older :=
  if_pos h

/-- A time before the end of the last window goes there. -/
theorem record_of_open {length t : α} {window : FixedWindow α} (h : ¬ window.start + length ≤ t)
    (older : List (FixedWindow α)) :
    record length (window :: older) t = ⟨window.start, window.later ++ [t]⟩ :: older :=
  if_neg h

/-- The windows of some times. -/
def windows (length : α) (times : List α) : List (FixedWindow α) :=
  times.foldl (record length) []

theorem windows_concat (length : α) (times : List α) (t : α) :
    windows length (times ++ [t]) = record length (windows length times) t := by
  unfold windows
  rw [List.foldl_append]
  rfl

/-- How many of the times in some windows have a property. -/
def countIn (p : α → Bool) (ws : List (FixedWindow α)) : ℕ :=
  (ws.map fun window => window.times.countP p).sum

omit [LinearOrder α] [Add α] in
theorem countIn_cons (p : α → Bool) (window : FixedWindow α) (older : List (FixedWindow α)) :
    countIn p (window :: older) = window.times.countP p + countIn p older := by
  unfold countIn
  rw [List.map_cons, List.sum_cons]

omit [LinearOrder α] [Add α] in
theorem countIn_eq_zero {p : α → Bool} {ws : List (FixedWindow α)}
    (h : ∀ window ∈ ws, ∀ t ∈ window.times, p t = false) : countIn p ws = 0 := by
  induction ws with
  | nil => rfl
  | cons window older ih =>
      rw [List.forall_mem_cons] at h
      have hnone : window.times.countP p = 0 := by
        rw [List.countP_eq_zero]
        intro t ht
        simp [h.1 t ht]
      rw [countIn_cons, hnone, ih h.2]

omit [LinearOrder α] [Add α] in
theorem countP_of_countIn {p : α → Bool} {ws : List (FixedWindow α)} (h : countIn p ws = 0)
    {window : FixedWindow α} (hwindow : window ∈ ws) : window.times.countP p = 0 := by
  induction ws with
  | nil => cases hwindow
  | cons first older ih =>
      rw [countIn_cons] at h
      rcases List.mem_cons.mp hwindow with rfl | holder
      · omega
      · exact ih (by omega) holder

theorem countIn_record (p : α → Bool) (length : α) (ws : List (FixedWindow α)) (t : α) :
    countIn p (record length ws t) = countIn p ws + if p t then 1 else 0 := by
  cases ws with
  | nil => simp [record, countIn, FixedWindow.times, List.countP_cons]
  | cons window older =>
      by_cases hover : window.start + length ≤ t
      · rw [record_of_over hover, countIn_cons, Nat.add_comm]
        exact congrArg _ List.countP_singleton
      · rw [record_of_open hover, countIn_cons, countIn_cons]
        have hadded : (⟨window.start, window.later ++ [t]⟩ : FixedWindow α).times =
            window.times ++ [t] := rfl
        rw [hadded, List.countP_append, List.countP_singleton]
        omega

/-- The windows hold the times. -/
theorem countP_windows (p : α → Bool) (length : α) (times : List α) :
    countIn p (windows length times) = times.countP p := by
  induction times using List.reverseRecOn with
  | nil => rfl
  | append_singleton times t ih =>
      rw [windows_concat, countIn_record, ih, List.countP_append, List.countP_singleton]

/-- Every time in the windows is one of those recorded. -/
theorem mem_of_mem_windows {length : α} {times : List α} {window : FixedWindow α} {t : α}
    (hwindow : window ∈ windows length times) (ht : t ∈ window.times) : t ∈ times := by
  by_contra hmissing
  have hnone : countIn (fun u => decide (u = t)) (windows length times) = 0 := by
    rw [countP_windows, List.countP_eq_zero]
    intro u hu heq
    rw [decide_eq_true_eq] at heq
    exact hmissing (heq ▸ hu)
  have hzero := List.countP_eq_zero.mp (countP_of_countIn hnone hwindow) t ht
  exact hzero (decide_eq_true rfl)

omit [LinearOrder α] [Add α] in
/-- A window whose start is missed counts one time less. -/
theorem countP_lt_of_start {p : α → Bool} {window : FixedWindow α} {limit : ℕ}
    (hlimit : window.times.length ≤ limit) (hstart : p window.start = false) :
    window.times.countP p + 1 ≤ limit := by
  have hle := List.countP_le_length (p := p) (l := window.later)
  unfold FixedWindow.times at hlimit ⊢
  rw [List.countP_cons, hstart]
  rw [List.length_cons] at hlimit
  simp only [Bool.false_eq_true, if_false]
  omega

end Windows

/-! ## Sliding intervals -/

section Sliding

variable [AddCommGroup α] [LinearOrder α] [IsOrderedAddMonoid α]

/-- The windows lie apart, and each reaches less than its length from its start. -/
structure Separated (length : α) (ws : List (FixedWindow α)) : Prop where
  apart : ws.Pairwise fun newer older => older.start + length ≤ newer.start
  within : ∀ window ∈ ws, ∀ t ∈ window.times,
    window.start ≤ t ∧ t < window.start + length

/-- Recording a time that is not before the others keeps the windows apart. -/
theorem Separated.record {length : α} (hlength : 0 < length) {ws : List (FixedWindow α)}
    (h : Separated length ws) {t : α} (hlast : ∀ window ∈ ws, window.start ≤ t) :
    Separated length (record length ws t) := by
  have hnew : ∀ u ∈ FixedWindow.times ⟨t, []⟩, t ≤ u ∧ u < t + length := by
    intro u hu
    rw [List.mem_singleton.mp hu]
    exact ⟨le_refl t, lt_add_of_pos_right t hlength⟩
  cases ws with
  | nil =>
      refine ⟨List.pairwise_singleton _ _, fun window hwindow => ?_⟩
      rw [List.mem_singleton.mp hwindow]
      exact hnew
  | cons window older =>
      obtain ⟨hapart, hrest⟩ := List.pairwise_cons.mp h.apart
      obtain ⟨hwithin, holder⟩ := List.forall_mem_cons.mp h.within
      by_cases hover : window.start + length ≤ t
      · rw [record_of_over hover]
        refine ⟨List.pairwise_cons.mpr ⟨?_, h.apart⟩, List.forall_mem_cons.mpr ⟨hnew, h.within⟩⟩
        intro other hother
        rcases List.mem_cons.mp hother with rfl | hother
        · exact hover
        · have hbefore : window.start ≤ t := hlast window List.mem_cons_self
          exact (hapart other hother).trans hbefore
      · rw [record_of_open hover]
        refine ⟨List.pairwise_cons.mpr ⟨hapart, hrest⟩,
          List.forall_mem_cons.mpr ⟨?_, holder⟩⟩
        intro u hu
        change u ∈ window.times ++ [t] at hu
        rcases List.mem_append.mp hu with hold | hlater
        · exact hwithin u hold
        · rw [List.mem_singleton.mp hlater]
          exact ⟨hlast window List.mem_cons_self, not_le.mp hover⟩

/-- Times that do not go back fall into windows that lie apart. -/
theorem separated_windows {length : α} (hlength : 0 < length) {times : List α}
    (hsorted : times.Pairwise (· ≤ ·)) : Separated length (windows length times) := by
  induction times using List.reverseRecOn with
  | nil => exact ⟨List.Pairwise.nil, fun _ hmem => nomatch hmem⟩
  | append_singleton times t ih =>
      rw [List.pairwise_append] at hsorted
      rw [windows_concat]
      refine (ih hsorted.1).record hlength fun window hwindow => ?_
      have hmem := mem_of_mem_windows hwindow (t := window.start) List.mem_cons_self
      exact hsorted.2.2 _ hmem t (List.mem_singleton_self t)

/-- An interval in which no two times lie a whole length apart holds fewer than `2 * limit`
times.  By induction on the windows: the last one that it meets, the one before it, whose start
it misses, and none before these. -/
theorem countIn_le {length : α} {limit : ℕ} (hlimit : 1 ≤ limit) {p : α → Bool}
    (hp : ∀ x y, p x = true → p y = true → y < x + length) {ws : List (FixedWindow α)}
    (h : Separated length ws) (hsizes : ∀ window ∈ ws, window.times.length ≤ limit) :
    countIn p ws ≤ 2 * limit - 1 := by
  induction ws with
  | nil =>
      change 0 ≤ 2 * limit - 1
      omega
  | cons window older ih =>
      obtain ⟨hapart, hrest⟩ := List.pairwise_cons.mp h.apart
      obtain ⟨hwithin, holder⟩ := List.forall_mem_cons.mp h.within
      obtain ⟨hsize, hsizes'⟩ := List.forall_mem_cons.mp hsizes
      rw [countIn_cons]
      by_cases hmeets : ∃ t ∈ window.times, p t = true
      · obtain ⟨z, hz, hpz⟩ := hmeets
        have hstart := (hwithin z hz).1
        have hcount := List.countP_le_length (p := p) (l := window.times)
        cases older with
        | nil =>
            change window.times.countP p + 0 ≤ _
            omega
        | cons before oldest =>
            rw [List.forall_mem_cons] at hapart holder hsizes'
            rw [List.pairwise_cons] at hrest
            -- the start of the window before lies a whole length before `z`
            have hmissed : p before.start = false := by
              by_contra hin
              have hclose := hp before.start z (by simpa using hin) hpz
              exact absurd (hapart.1.trans hstart) (not_le.mpr hclose)
            have hbefore := countP_lt_of_start hsizes'.1 hmissed
            have hnone : countIn p oldest = 0 := by
              refine countIn_eq_zero fun other hother t ht => ?_
              by_contra hin
              have hclose := hp t z (by simpa using hin) hpz
              have hend : t < before.start :=
                lt_of_lt_of_le (holder.2 other hother t ht).2 (hrest.1 other hother)
              have hfar : t + length ≤ z :=
                (add_le_add_left hend.le length).trans (hapart.1.trans hstart)
              exact absurd hfar (not_le.mpr hclose)
            rw [countIn_cons, hnone]
            omega
      · have hnone : window.times.countP p = 0 := by
          rw [List.countP_eq_zero]
          intro t ht hpt
          exact hmeets ⟨t, ht, hpt⟩
        have holdest := ih ⟨hrest, holder⟩ hsizes'
        omega

/-- What a sliding interval holds of times whose windows are no larger than `limit`. -/
theorem countP_le_of_windows {length : α} (hlength : 0 < length) {limit : ℕ} (hlimit : 1 ≤ limit)
    {times : List α} (hsorted : times.Pairwise (· ≤ ·))
    (hsizes : ∀ window ∈ windows length times, window.times.length ≤ limit) {p : α → Bool}
    (hp : ∀ x y, p x = true → p y = true → y < x + length) :
    times.countP p ≤ 2 * limit - 1 := by
  rw [← countP_windows p length]
  exact countIn_le hlimit hp (separated_windows hlength hsorted) hsizes

end Sliding

end FixedWindows
end FreeLunch
