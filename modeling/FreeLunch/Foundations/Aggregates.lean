import Mathlib.Algebra.BigOperators.Group.List.Basic
import Mathlib.Algebra.GroupWithZero.Nat
import Mathlib.Data.List.Dedup
import Mathlib.Data.List.Sort
import Mathlib.Order.Lattice
import Mathlib.Order.MinMax

/-!
# Aggregates over groups

`COUNT`, `SUM(CASE ...)` and `MAX` over all rows, and over the rows of each group of a
`GROUP BY`.  The counts of the groups add up to the count over all rows, and the largest of
their largest values is the largest of all.

Main results:

- Theorem `sum_countP_groups`: the counts of the groups add up.
- Theorem `max?_groups`: the largest values of the groups have the largest value of all.
-/

namespace FreeLunch
namespace Aggregates

variable {α κ : Type*} [LinearOrder κ]

/-- The keys of `GROUP BY key ORDER BY key`. -/
def groupKeys (key : α → κ) (rows : List α) : List κ :=
  (rows.map key).dedup.insertionSort (· ≤ ·)

/-- The rows of a group. -/
def groupOf (key : α → κ) (rows : List α) (k : κ) : List α :=
  rows.filter fun row => decide (key row = k)

theorem mem_groupKeys_iff {key : α → κ} {rows : List α} {k : κ} :
    k ∈ groupKeys key rows ↔ ∃ row ∈ rows, key row = k := by
  unfold groupKeys
  rw [List.mem_insertionSort, List.mem_dedup, List.mem_map]

theorem nodup_groupKeys (key : α → κ) (rows : List α) : (groupKeys key rows).Nodup :=
  (List.perm_insertionSort _ _).nodup_iff.mpr (List.nodup_dedup _)

theorem sorted_groupKeys (key : α → κ) (rows : List α) :
    (groupKeys key rows).Pairwise (· ≤ ·) :=
  List.pairwise_insertionSort _ _

/-- A key is counted once among keys that do not repeat. -/
theorem sum_ite_of_nodup {keys : List κ} (hnodup : keys.Nodup) {k : κ} (hmem : k ∈ keys) (n : ℕ) :
    (keys.map fun other => if k = other then n else 0).sum = n := by
  induction keys with
  | nil => cases hmem
  | cons first rest ih =>
      obtain ⟨hfirst, hrest⟩ := List.nodup_cons.mp hnodup
      rw [List.map_cons, List.sum_cons]
      by_cases hk : k = first
      · subst hk
        have hzero : (rest.map fun other => if k = other then n else 0).sum = 0 := by
          rw [List.sum_eq_zero]
          intro m hm
          obtain ⟨other, hother, rfl⟩ := List.mem_map.mp hm
          rw [if_neg]
          rintro rfl
          exact hfirst hother
        rw [if_pos rfl, hzero, Nat.add_zero]
      · have htail := ih hrest ((List.mem_cons.mp hmem).resolve_left hk)
        rw [if_neg hk, htail, Nat.zero_add]

/-- The counts of groups whose keys do not repeat and leave no row out add up. -/
theorem sum_countP_keys {key : α → κ} {keys : List κ} (hnodup : keys.Nodup) (p : α → Bool)
    {rows : List α} (hkeys : ∀ row ∈ rows, key row ∈ keys) :
    (keys.map fun k => (groupOf key rows k).countP p).sum = rows.countP p := by
  induction rows with
  | nil =>
      rw [List.countP_nil, List.sum_eq_zero]
      intro n hn
      obtain ⟨k, -, rfl⟩ := List.mem_map.mp hn
      rfl
  | cons row rest ih =>
      obtain ⟨hrow, hrest⟩ := List.forall_mem_cons.mp hkeys
      have hsplit : ∀ k, (groupOf key (row :: rest) k).countP p =
          (groupOf key rest k).countP p +
            if key row = k then (if p row then 1 else 0) else 0 := by
        intro k
        unfold groupOf
        by_cases hk : key row = k
        · rw [List.filter_cons_of_pos (by simpa using hk), List.countP_cons, if_pos hk]
        · rw [List.filter_cons_of_neg (by simpa using hk), if_neg hk, Nat.add_zero]
      simp only [hsplit]
      rw [List.sum_map_add, ih hrest, sum_ite_of_nodup hnodup hrow, List.countP_cons]

/-- The counts of the groups add up. -/
theorem sum_countP_groups (key : α → κ) (p : α → Bool) (rows : List α) :
    ((groupKeys key rows).map fun k => (groupOf key rows k).countP p).sum = rows.countP p :=
  sum_countP_keys (nodup_groupKeys key rows) p fun row hrow =>
    mem_groupKeys_iff.mpr ⟨row, hrow, rfl⟩

variable {ν : Type*} [LinearOrder ν]

/-- The largest values of the groups have the largest value of all. -/
theorem max?_groups (key : α → κ) (value : α → ν) (rows : List α) :
    ((groupKeys key rows).filterMap fun k => ((groupOf key rows k).map value).max?).max? =
      (rows.map value).max? := by
  have hgroup : ∀ row ∈ rows, ∃ largest,
      ((groupOf key rows (key row)).map value).max? = some largest ∧ value row ≤ largest := by
    intro row hrow
    have hmem : value row ∈ (groupOf key rows (key row)).map value :=
      List.mem_map_of_mem (List.mem_filter.mpr ⟨hrow, by simp⟩)
    cases hmax : ((groupOf key rows (key row)).map value).max? with
    | none =>
        rw [List.max?_eq_none_iff] at hmax
        rw [hmax] at hmem
        cases hmem
    | some largest => exact ⟨largest, rfl, (List.max?_eq_some_iff.mp hmax).2 _ hmem⟩
  cases hall : (rows.map value).max? with
  | none =>
      rw [List.max?_eq_none_iff, List.map_eq_nil_iff] at hall
      subst hall
      rfl
  | some largest =>
      obtain ⟨hmem, hle⟩ := List.max?_eq_some_iff.mp hall
      rw [List.max?_eq_some_iff]
      constructor
      · obtain ⟨row, hrow, rfl⟩ := List.mem_map.mp hmem
        obtain ⟨top, htop, hbelow⟩ := hgroup row hrow
        refine List.mem_filterMap.mpr ⟨key row, mem_groupKeys_iff.mpr ⟨row, hrow, rfl⟩, ?_⟩
        rw [htop, Option.some.injEq]
        refine le_antisymm (hle _ ?_) hbelow
        have hin := (List.max?_eq_some_iff.mp htop).1
        obtain ⟨other, hother, hvalue⟩ := List.mem_map.mp hin
        rw [← hvalue]
        exact List.mem_map_of_mem (List.mem_of_mem_filter hother)
      · intro b hb
        obtain ⟨k, -, hmax⟩ := List.mem_filterMap.mp hb
        obtain ⟨other, hother, rfl⟩ := List.mem_map.mp (List.max?_eq_some_iff.mp hmax).1
        exact hle _ (List.mem_map_of_mem (List.mem_of_mem_filter hother))

end Aggregates
end FreeLunch
