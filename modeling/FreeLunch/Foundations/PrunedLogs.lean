import Mathlib.Data.List.Basic
import Mathlib.Order.Basic
import Mathlib.Order.Lattice

/-!
# Logs that are pruned

A log that rows are appended to, and whose rows below a cutoff are deleted now and then.  A
reader that reads from a floor on finds in it what it would find in the log that lost nothing,
as long as no cutoff was above the floor.

Main results:

- Theorem `Complete.prune`: a pruning below the floor leaves a log complete from the floor on.
- Theorem `ReadsFrom.eq_of_complete`: a reader from the floor on sees no difference.
-/

namespace FreeLunch
namespace PrunedLogs

variable {α β κ : Type*} [LinearOrder κ] {key : α → κ}

/-- The rows from a floor on. -/
def rowsFrom (key : α → κ) (least : κ) (log : List α) : List α :=
  log.filter fun row => decide (least ≤ key row)

/-- `DELETE FROM log WHERE key < cutoff`. -/
def prune (key : α → κ) (cutoff : κ) (log : List α) : List α :=
  log.filter fun row => !decide (key row < cutoff)

/-- From the floor on, the log has all the rows. -/
def Complete (key : α → κ) (least : κ) (log all : List α) : Prop :=
  rowsFrom key least log = rowsFrom key least all

theorem complete_refl (least : κ) (log : List α) : Complete key least log log :=
  rfl

theorem Complete.append {least : κ} {log all : List α} (h : Complete key least log all)
    (rows : List α) : Complete key least (log ++ rows) (all ++ rows) := by
  unfold Complete rowsFrom at h ⊢
  rw [List.filter_append, List.filter_append, h]

/-- A pruning below the floor deletes nothing from the floor on. -/
theorem rowsFrom_prune {least cutoff : κ} (h : cutoff ≤ least) (log : List α) :
    rowsFrom key least (prune key cutoff log) = rowsFrom key least log := by
  unfold rowsFrom prune
  rw [List.filter_filter]
  refine List.filter_congr fun row _ => ?_
  by_cases hrow : least ≤ key row
  · simp [hrow, h.trans hrow]
  · simp [hrow]

theorem Complete.prune {least cutoff : κ} {log all : List α} (h : Complete key least log all)
    (hcutoff : cutoff ≤ least) : Complete key least (prune key cutoff log) all :=
  (rowsFrom_prune hcutoff log).trans h

/-- What a reader reads does not depend on the rows below a floor. -/
def ReadsFrom (key : α → κ) (least : κ) (read : List α → β) : Prop :=
  ∀ log, read (rowsFrom key least log) = read log

/-- A reader from the floor on reads the same from a log that is complete from there on. -/
theorem ReadsFrom.eq_of_complete {least : κ} {read : List α → β} (hread : ReadsFrom key least read)
    {log all : List α} (h : Complete key least log all) : read log = read all := by
  rw [← hread log, ← hread all, h]

/-- A reader of the rows that satisfy a test reads from a floor that the test implies. -/
theorem readsFrom_filter {least : κ} {p : α → Bool} (hp : ∀ row, p row = true → least ≤ key row)
    (read : List α → β) : ReadsFrom key least fun log => read (log.filter p) := by
  intro log
  dsimp only
  unfold rowsFrom
  rw [List.filter_filter]
  congr 1
  refine List.filter_congr fun row _ => ?_
  cases hrow : p row with
  | false => rfl
  | true => simp [hp row hrow]

end PrunedLogs
end FreeLunch
