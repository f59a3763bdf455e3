import Mathlib.Data.List.Basic
import Mathlib.Data.List.Infix

/-!
# Bounded queues with their history

A queue between threads has a capacity; a `put` on a full queue and a `get` on an empty one fail
at once.  The queue also carries everything that was ever put into it and taken out, so that
what a reader has seen can be compared with what the writers have sent.

Main results:

- Definition `BoundedQueue`: what was put in is what was taken out, followed by what waits.
- Theorems `of_put`, `of_get`: what the two operations do.
- Theorem `not_full_of_get`: after a `get` there is room.
-/

namespace FreeLunch
namespace BoundedQueues

/-- A queue; a capacity of zero stands for none. -/
structure BoundedQueue (α : Type*) where
  maxsize : ℕ
  items : List α
  puts : List α
  takes : List α
  puts_eq : puts = takes ++ items
  length_le : 0 < maxsize → items.length ≤ maxsize

section Operations

variable {α : Type*}

/-- A queue into which nothing was put. -/
def BoundedQueue.empty (maxsize : ℕ) : BoundedQueue α where
  maxsize := maxsize
  items := []
  puts := []
  takes := []
  puts_eq := rfl
  length_le := fun _ => Nat.zero_le _

/-- No item can be put. -/
def BoundedQueue.Full (queue : BoundedQueue α) : Prop :=
  0 < queue.maxsize ∧ queue.maxsize ≤ queue.items.length

instance (queue : BoundedQueue α) : Decidable queue.Full :=
  inferInstanceAs (Decidable (_ ∧ _))

/-- The queue with another item, unless it is full. -/
def BoundedQueue.put (queue : BoundedQueue α) (item : α) : Option (BoundedQueue α) :=
  if h : queue.Full then none
  else some {
    maxsize := queue.maxsize
    items := queue.items ++ [item]
    puts := queue.puts ++ [item]
    takes := queue.takes
    puts_eq := by rw [queue.puts_eq, List.append_assoc]
    length_le := by
      intro hpos
      unfold BoundedQueue.Full at h
      rw [List.length_append, List.length_singleton]
      omega }

/-- The first item, and the queue without it. -/
def BoundedQueue.get (queue : BoundedQueue α) : Option (α × BoundedQueue α) :=
  match h : queue.items with
  | [] => none
  | item :: rest => some (item, {
      maxsize := queue.maxsize
      items := rest
      puts := queue.puts
      takes := queue.takes ++ [item]
      puts_eq := by rw [queue.puts_eq, h, List.append_assoc, List.singleton_append]
      length_le := by
        intro hpos
        have hle := queue.length_le hpos
        rw [h, List.length_cons] at hle
        omega })

theorem put_eq_none_iff {queue : BoundedQueue α} {item : α} :
    queue.put item = none ↔ queue.Full := by
  unfold BoundedQueue.put
  split <;> simp_all

/-- What a `put` does. -/
theorem of_put {queue queue' : BoundedQueue α} {item : α} (h : queue.put item = some queue') :
    ¬ queue.Full ∧ queue'.maxsize = queue.maxsize ∧ queue'.items = queue.items ++ [item] ∧
      queue'.puts = queue.puts ++ [item] ∧ queue'.takes = queue.takes := by
  unfold BoundedQueue.put at h
  split at h
  case isTrue => cases h
  case isFalse hfull =>
    cases h
    exact ⟨hfull, rfl, rfl, rfl, rfl⟩

theorem get_eq_none_iff {queue : BoundedQueue α} : queue.get = none ↔ queue.items = [] := by
  unfold BoundedQueue.get
  split <;> simp_all

/-- What a `get` does. -/
theorem of_get {queue queue' : BoundedQueue α} {item : α}
    (h : queue.get = some (item, queue')) :
    queue.items = item :: queue'.items ∧ queue'.maxsize = queue.maxsize ∧
      queue'.puts = queue.puts ∧ queue'.takes = queue.takes ++ [item] := by
  unfold BoundedQueue.get at h
  split at h
  case h_1 => cases h
  case h_2 hitems =>
    cases h
    exact ⟨hitems, rfl, rfl, rfl⟩

/-- A full queue has an item to take. -/
theorem items_ne_nil_of_full {queue : BoundedQueue α} (h : queue.Full) : queue.items ≠ [] := by
  intro hnil
  unfold BoundedQueue.Full at h
  rw [hnil, List.length_nil] at h
  omega

/-- After a `get` there is room. -/
theorem not_full_of_get {queue queue' : BoundedQueue α} {item : α}
    (h : queue.get = some (item, queue')) : ¬ queue'.Full := by
  obtain ⟨hitems, hmaxsize, -, -⟩ := of_get h
  intro hfull
  have hle := queue.length_le (hmaxsize ▸ hfull.1)
  unfold BoundedQueue.Full at hfull
  rw [hitems, List.length_cons] at hle
  omega

end Operations

end BoundedQueues
end FreeLunch
