import Mathlib.Data.List.Basic

/-!
# Threads that take turns

The threads of a system are a list, and a turn replaces one of them.

Main results:

- Theorem `countP_set_add`: replacing one element changes a count by that element alone.
- Theorem `forall_mem_set`: what holds of all threads and of the new one holds after the turn.
-/

namespace FreeLunch
namespace Threads

variable {α : Type*}

/-- Replacing one element changes a count by that element alone. -/
theorem countP_set_add (p : α → Bool) {l : List α} {i : ℕ} {a : α} (b : α)
    (h : l[i]? = some a) :
    (l.set i b).countP p + (if p a then 1 else 0) =
      l.countP p + (if p b then 1 else 0) := by
  obtain ⟨hi, rfl⟩ := List.getElem?_eq_some_iff.mp h
  have hle : (if p l[i] then 1 else 0) ≤ l.countP p := by
    by_cases hp : p l[i] = true
    · rw [if_pos hp]
      exact List.countP_pos_iff.mpr ⟨l[i], List.getElem_mem hi, hp⟩
    · rw [if_neg hp]
      exact Nat.zero_le _
  rw [List.countP_set hi]
  omega

theorem count_set_add [DecidableEq α] (x : α) {l : List α} {i : ℕ} {a : α} (b : α)
    (h : l[i]? = some a) :
    (l.set i b).count x + (if a = x then 1 else 0) = l.count x + (if b = x then 1 else 0) := by
  have hset := countP_set_add (· == x) b h
  simp only [beq_iff_eq] at hset
  exact hset

theorem forall_mem_set {P : α → Prop} {l : List α} {b : α} (i : ℕ) (h : ∀ a ∈ l, P a) (hb : P b) :
    ∀ a ∈ l.set i b, P a := by
  intro a ha
  rcases List.mem_or_eq_of_mem_set ha with hmem | rfl
  · exact h a hmem
  · exact hb

end Threads
end FreeLunch
