import Mathlib.Data.List.Basic
import Mathlib.Data.List.Nodup

/-!
# Keyed tables

A table with a primary key, as the list of its rows in storage order: `UPDATE`
with a `WHERE` clause, `INSERT … ON CONFLICT DO UPDATE`, `DELETE`, and the row of
a key.

Main results:

- Theorem `lookup_updateWhere`: an update acts on the row of a key alone.
- Theorem `lookup_upsert_self`, `lookup_upsert_of_ne`: an upsert is read back
  under its own key and is invisible under the others.
- Theorem `nodup_upsert`: the statements keep the key unique.
-/

namespace FreeLunch
namespace Tables

variable {κ ρ : Type} [DecidableEq κ]

/-- The row stored under a key. -/
def lookup (key : ρ → κ) (k : κ) (table : List ρ) : Option ρ :=
  table.find? fun row => decide (key row = k)

/-- `UPDATE … SET … WHERE …`. -/
def updateWhere (p : ρ → Bool) (set : ρ → ρ) (table : List ρ) : List ρ :=
  table.map fun row => if p row then set row else row

/-- `INSERT … ON CONFLICT(key) DO UPDATE SET …`: a new row goes to the end. -/
def upsert (key : ρ → κ) (k : κ) (new : ρ) (set : ρ → ρ) (table : List ρ) : List ρ :=
  if (lookup key k table).isSome then updateWhere (fun row => decide (key row = k)) set table
  else table ++ [new]

/-- `DELETE … WHERE key = k`. -/
def deleteKey (key : ρ → κ) (k : κ) (table : List ρ) : List ρ :=
  table.filter fun row => decide (key row ≠ k)

/-! ## Updates -/

theorem mem_updateWhere {p : ρ → Bool} {set : ρ → ρ} {table : List ρ} {row : ρ} :
    row ∈ updateWhere p set table ↔
      ∃ old ∈ table, (if p old then set old else old) = row := by
  unfold updateWhere
  exact List.mem_map

/-- What every old row and every updated row satisfies, every row satisfies. -/
theorem forall_mem_updateWhere {p : ρ → Bool} {set : ρ → ρ} {table : List ρ}
    {P : ρ → Prop} (hold : ∀ row ∈ table, P row)
    (hset : ∀ row, P row → p row = true → P (set row)) :
    ∀ row ∈ updateWhere p set table, P row := by
  intro row hrow
  obtain ⟨old, hmem, heq⟩ := mem_updateWhere.mp hrow
  by_cases hp : p old = true
  · rw [if_pos hp] at heq
    rw [← heq]
    exact hset old (hold old hmem) hp
  · rw [if_neg hp] at heq
    rw [← heq]
    exact hold old hmem

omit [DecidableEq κ] in
/-- An update that keeps the key keeps the keys of the table. -/
theorem keys_updateWhere {key : ρ → κ} {p : ρ → Bool} {set : ρ → ρ}
    (hkey : ∀ row, key (set row) = key row) (table : List ρ) :
    (updateWhere p set table).map key = table.map key := by
  unfold updateWhere
  rw [List.map_map]
  apply List.map_congr_left
  intro row _
  by_cases hp : p row = true <;> simp [hp, hkey]

/-- An update that keeps the key acts on the row of a key alone. -/
theorem lookup_updateWhere {key : ρ → κ} {p : ρ → Bool} {set : ρ → ρ}
    (hkey : ∀ row, key (set row) = key row) (k : κ) (table : List ρ) :
    lookup key k (updateWhere p set table) =
      (lookup key k table).map fun row => if p row then set row else row := by
  induction table with
  | nil => rfl
  | cons row rest ih =>
      have hhead : key (if p row then set row else row) = key row := by
        by_cases hp : p row = true <;> simp [hp, hkey]
      unfold lookup updateWhere at ih ⊢
      rw [List.map_cons, List.find?_cons, List.find?_cons, hhead]
      by_cases hk : key row = k
      · simp [hk]
      · simpa [hk] using ih

/-! ## Upserts and deletions -/

theorem lookup_append_singleton (key : ρ → κ) (k : κ) (table : List ρ) (row : ρ) :
    lookup key k (table ++ [row]) =
      (lookup key k table).or (if key row = k then some row else none) := by
  unfold lookup
  rw [List.find?_append]
  by_cases hk : key row = k <;> simp [hk]

theorem lookup_isSome_iff {key : ρ → κ} {k : κ} {table : List ρ} :
    (lookup key k table).isSome = true ↔ k ∈ table.map key := by
  unfold lookup
  rw [List.find?_isSome, List.mem_map]
  simp

/-- The row of a unique key is the one row that has it. -/
theorem lookup_eq_some_iff {key : ρ → κ} {k : κ} {table : List ρ} {row : ρ}
    (hnodup : (table.map key).Nodup) :
    lookup key k table = some row ↔ row ∈ table ∧ key row = k := by
  constructor
  · intro h
    have hk := List.find?_some h
    exact ⟨List.mem_of_find?_eq_some h, by simpa using hk⟩
  · rintro ⟨hmem, hk⟩
    have hsome : (lookup key k table).isSome = true :=
      lookup_isSome_iff.mpr (List.mem_map.mpr ⟨row, hmem, hk⟩)
    obtain ⟨other, hother⟩ := Option.isSome_iff_exists.mp hsome
    have hotherKey : key other = k := by simpa using List.find?_some hother
    have heq : other = row :=
      List.inj_on_of_nodup_map hnodup (List.mem_of_find?_eq_some hother) hmem
        (hotherKey.trans hk.symm)
    rw [hother, heq]

/-- An upsert is read back under its own key. -/
theorem lookup_upsert_self {key : ρ → κ} {k : κ} {new : ρ} {set : ρ → ρ}
    (hnew : key new = k) (hkey : ∀ row, key (set row) = key row) (table : List ρ) :
    lookup key k (upsert key k new set table) =
      some ((lookup key k table).elim new set) := by
  unfold upsert
  cases hrow : lookup key k table with
  | none => simp [lookup_append_singleton, hrow, hnew]
  | some row =>
      have hk : key row = k := by
        have h := List.find?_some hrow
        simpa using h
      simp [lookup_updateWhere hkey, hrow, hk]

/-- An upsert is invisible under the other keys. -/
theorem lookup_upsert_of_ne {key : ρ → κ} {k other : κ} {new : ρ} {set : ρ → ρ}
    (hnew : key new = k) (hkey : ∀ row, key (set row) = key row) (hne : other ≠ k)
    (table : List ρ) :
    lookup key other (upsert key k new set table) = lookup key other table := by
  unfold upsert
  split
  · rw [lookup_updateWhere hkey]
    cases hrow : lookup key other table with
    | none => rfl
    | some row =>
        have hother : key row = other := by
          have h := List.find?_some hrow
          simpa using h
        have hrowne : key row ≠ k := by
          rw [hother]
          exact hne
        simp [hrowne]
  · rw [lookup_append_singleton, hnew, if_neg (Ne.symm hne), Option.or_none]

/-- An upsert keeps the key unique. -/
theorem nodup_upsert {key : ρ → κ} {k : κ} {new : ρ} {set : ρ → ρ}
    (hnew : key new = k) (hkey : ∀ row, key (set row) = key row) {table : List ρ}
    (hnodup : (table.map key).Nodup) : ((upsert key k new set table).map key).Nodup := by
  unfold upsert
  by_cases hpresent : (lookup key k table).isSome = true
  · rw [if_pos hpresent, keys_updateWhere hkey]
    exact hnodup
  · rw [if_neg hpresent, List.map_append, List.map_singleton, hnew]
    rw [lookup_isSome_iff] at hpresent
    rw [List.nodup_append]
    refine ⟨hnodup, List.nodup_singleton k, ?_⟩
    intro a ha b hb
    rw [List.mem_singleton] at hb
    rw [hb]
    intro hab
    exact hpresent (hab ▸ ha)

/-- What every row satisfies after an upsert that overwrites the whole row. -/
theorem forall_mem_upsert_iff {key : ρ → κ} {k : κ} {new : ρ} {set : ρ → ρ} {P : ρ → Prop}
    (hset : ∀ row, key row = k → set row = new) (table : List ρ) :
    (∀ row ∈ upsert key k new set table, P row) ↔
      P new ∧ ∀ row ∈ table, key row ≠ k → P row := by
  unfold upsert
  by_cases hpresent : (lookup key k table).isSome = true
  · rw [if_pos hpresent]
    constructor
    · intro h
      refine ⟨?_, fun row hrow hne => ?_⟩
      · obtain ⟨old, hold, hk⟩ := List.mem_map.mp (lookup_isSome_iff.mp hpresent)
        exact h new (mem_updateWhere.mpr ⟨old, hold, by simp [hk, hset old hk]⟩)
      · exact h row (mem_updateWhere.mpr ⟨row, hrow, by simp [hne]⟩)
    · rintro ⟨hnew, hother⟩ row hrow
      obtain ⟨old, hold, rfl⟩ := mem_updateWhere.mp hrow
      by_cases hk : key old = k
      · simpa [hk, hset old hk] using hnew
      · simpa [hk] using hother old hold hk
  · rw [if_neg hpresent]
    rw [lookup_isSome_iff, List.mem_map, not_exists] at hpresent
    constructor
    · intro h
      refine ⟨h new (by simp), fun row hrow _ => h row (by simp [hrow])⟩
    · rintro ⟨hnew, hother⟩ row hrow
      rcases List.mem_append.mp hrow with hold | hlast
      · exact hother row hold fun hk => hpresent row ⟨hold, hk⟩
      · rw [List.mem_singleton] at hlast
        rw [hlast]
        exact hnew

/-- After a deletion the key has no row, and the other keys have theirs. -/
theorem lookup_deleteKey (key : ρ → κ) (k other : κ) (table : List ρ) :
    lookup key other (deleteKey key k table) =
      if other = k then none else lookup key other table := by
  unfold lookup deleteKey
  rw [List.find?_filter]
  by_cases heq : other = k
  · rw [if_pos heq, List.find?_eq_none]
    intro row _
    simp [heq]
  · rw [if_neg heq]
    congr 1
    funext row
    by_cases hrow : key row = other
    · simp [hrow, heq]
    · simp [hrow]

/-- A deletion keeps the key unique. -/
theorem nodup_deleteKey {key : ρ → κ} {table : List ρ} (hnodup : (table.map key).Nodup)
    (k : κ) : ((deleteKey key k table).map key).Nodup :=
  hnodup.sublist (List.filter_sublist.map key)

end Tables
end FreeLunch
