import Mathlib.Data.List.Nodup
import Mathlib.Data.List.TakeDrop

/-!
# Collecting distinct elements up to a limit

A loop that skips elements whose key was seen, appends the others, and stops as soon as the
list it builds is as long as a limit.  The test comes after the append, so the loop takes one
element even when the limit is zero or negative.

Main results:

- Theorem `gather_eq`: the loop returns the first elements of distinct keys, and at least one
  of them.
- Theorem `nodup_firstsFrom`, `sublist_firstsFrom`, `key_mem_firstsFrom`: what these elements
  are.
-/

namespace FreeLunch
namespace Distinct

variable {α κ : Type} [DecidableEq κ]

/-- The elements whose key no earlier element has, and that is not among the seen ones. -/
def firstsFrom (key : α → κ) : List κ → List α → List α
  | _, [] => []
  | seen, x :: rest =>
      if key x ∈ seen then firstsFrom key seen rest
      else x :: firstsFrom key (key x :: seen) rest

/-- The loop: the keys seen so far, the list built so far, and the elements to come. -/
def gather (key : α → κ) (limit : Int) : List κ → List α → List α → List α
  | _, out, [] => out
  | seen, out, x :: rest =>
      if key x ∈ seen then gather key limit seen out rest
      else if limit ≤ (out ++ [x]).length then out ++ [x]
      else gather key limit (key x :: seen) (out ++ [x]) rest

/-- The loop returns the first elements of distinct keys, up to the limit, and at least
one. -/
theorem gather_eq (key : α → κ) (limit : Int) (seen : List κ) (out rows : List α) :
    gather key limit seen out rows =
      out ++ (firstsFrom key seen rows).take (max (limit - out.length) 1).toNat := by
  induction rows generalizing seen out with
  | nil => simp [gather, firstsFrom]
  | cons x rest ih =>
      unfold gather firstsFrom
      by_cases hseen : key x ∈ seen
      · rw [if_pos hseen, if_pos hseen]
        exact ih seen out
      · rw [if_neg hseen, if_neg hseen]
        have hlength : (out ++ [x]).length = out.length + 1 := by
          rw [List.length_append, List.length_singleton]
        by_cases hfull : limit ≤ (out ++ [x]).length
        · rw [if_pos hfull]
          have hone : (max (limit - out.length) 1).toNat = 1 := by omega
          rw [hone, List.take_succ_cons, List.take_zero]
        · rw [if_neg hfull, ih]
          have hnext : (max (limit - out.length) 1).toNat =
              (max (limit - (out ++ [x]).length) 1).toNat + 1 := by omega
          rw [hnext, List.take_succ_cons, List.append_assoc, List.singleton_append]

theorem sublist_firstsFrom (key : α → κ) (seen : List κ) (rows : List α) :
    (firstsFrom key seen rows).Sublist rows := by
  induction rows generalizing seen with
  | nil => exact List.Sublist.refl _
  | cons x rest ih =>
      unfold firstsFrom
      split
      · exact (ih seen).cons x
      · exact (ih _).cons_cons x

/-- The keys are distinct and none of them was seen. -/
theorem nodup_firstsFrom (key : α → κ) (seen : List κ) (rows : List α) :
    ((firstsFrom key seen rows).map key).Nodup ∧
      ∀ k ∈ seen, k ∉ (firstsFrom key seen rows).map key := by
  induction rows generalizing seen with
  | nil => simp [firstsFrom]
  | cons x rest ih =>
      unfold firstsFrom
      by_cases hseen : key x ∈ seen
      · rw [if_pos hseen]
        exact ih seen
      · rw [if_neg hseen, List.map_cons, List.nodup_cons]
        obtain ⟨hnodup, hfresh⟩ := ih (key x :: seen)
        refine ⟨⟨hfresh _ List.mem_cons_self, hnodup⟩, ?_⟩
        intro k hk hmem
        rcases List.mem_cons.mp hmem with rfl | hmem
        · exact hseen hk
        · exact hfresh k (List.mem_cons_of_mem _ hk) hmem

/-- Every element has its key among the seen ones or among the first elements. -/
theorem key_mem_firstsFrom (key : α → κ) (seen : List κ) {rows : List α} {x : α}
    (hx : x ∈ rows) : key x ∈ seen ∨ key x ∈ (firstsFrom key seen rows).map key := by
  induction rows generalizing seen with
  | nil => cases hx
  | cons y rest ih =>
      unfold firstsFrom
      by_cases hseen : key y ∈ seen
      · rw [if_pos hseen]
        rcases List.mem_cons.mp hx with rfl | hrest
        · exact .inl hseen
        · exact ih seen hrest
      · rw [if_neg hseen, List.map_cons, List.mem_cons]
        rcases List.mem_cons.mp hx with rfl | hrest
        · exact .inr (.inl rfl)
        · rcases ih (key y :: seen) hrest with hmem | hmem
          · rcases List.mem_cons.mp hmem with heq | hmem
            · exact .inr (.inl heq)
            · exact .inl hmem
          · exact .inr (.inr hmem)

theorem firstsFrom_eq_nil_iff (key : α → κ) (rows : List α) :
    firstsFrom key [] rows = [] ↔ rows = [] := by
  cases rows with
  | nil => simp [firstsFrom]
  | cons x rest => simp [firstsFrom]

/-! ## The loop from the start -/

/-- What the loop returns from a list of rows. -/
def gathered (key : α → κ) (limit : Int) (rows : List α) : List α :=
  gather key limit [] [] rows

theorem gathered_eq (key : α → κ) (limit : Int) (rows : List α) :
    gathered key limit rows = (firstsFrom key [] rows).take (max limit 1).toNat := by
  unfold gathered
  rw [gather_eq, List.nil_append, List.length_nil, Int.natCast_zero, Int.sub_zero]

theorem sublist_gathered (key : α → κ) (limit : Int) (rows : List α) :
    (gathered key limit rows).Sublist rows := by
  rw [gathered_eq]
  exact (List.take_sublist _ _).trans (sublist_firstsFrom key [] rows)

theorem nodup_gathered (key : α → κ) (limit : Int) (rows : List α) :
    ((gathered key limit rows).map key).Nodup := by
  rw [gathered_eq]
  exact ((List.take_sublist _ _).map key).nodup (nodup_firstsFrom key [] rows).1

/-- The loop keeps within a limit that is not negative exactly when the limit is positive or
there is nothing to collect. -/
theorem length_gathered_le_iff (key : α → κ) (limit : Int) (rows : List α) :
    ((gathered key limit rows).length : Int) ≤ max limit 0 ↔ 1 ≤ limit ∨ rows = [] := by
  rw [gathered_eq, List.length_take]
  constructor
  · intro h
    by_cases hlimit : 1 ≤ limit
    · exact .inl hlimit
    · right
      rw [← firstsFrom_eq_nil_iff key]
      apply List.eq_nil_of_length_eq_zero
      omega
  · rintro (hlimit | hnone)
    · omega
    · rw [(firstsFrom_eq_nil_iff key rows).mpr hnone, List.length_nil]
      omega

/-- A loop that stops short of the limit has collected every key. -/
theorem key_mem_gathered (key : α → κ) {limit : Int} {rows : List α}
    (hshort : ((gathered key limit rows).length : Int) < limit) {x : α} (hx : x ∈ rows) :
    key x ∈ (gathered key limit rows).map key := by
  rw [gathered_eq, List.length_take] at hshort
  rw [gathered_eq, List.take_of_length_le (by omega)]
  rcases key_mem_firstsFrom key [] hx with hseen | hmem
  · cases hseen
  · exact hmem

/-- The first element is always collected. -/
theorem head?_gathered (key : α → κ) (limit : Int) (x : α) (rest : List α) :
    (gathered key limit (x :: rest)).head? = some x := by
  have hcount : (max limit 1).toNat = (max limit 1).toNat - 1 + 1 := by omega
  rw [gathered_eq, firstsFrom, if_neg List.not_mem_nil, hcount, List.take_succ_cons,
    List.head?_cons]

end Distinct
end FreeLunch
