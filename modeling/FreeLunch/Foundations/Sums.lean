import FreeLunch.Foundations.Writes
import Mathlib.Data.List.Forall2
import Mathlib.Data.Nat.Basic

/-!
# Sums of numbers that may fail

A loop adds up what a function gives for each element of a list and stops at the first element
for which the function raises.

Main results:

- Theorem `sumM_append_ok_iff`: the sums of two lists add up, and exist together.
- Theorems `sumM_le_of_forall₂`, `sumM_le_of_sublist`: lowering the numbers of the elements and
  leaving elements out does not raise the sum.
- Theorem `sumM_insert`: an element with a number raises the sum by that number.
- Theorem `exists_reached_iff`: an element of a kind is reached exactly when nothing before the
  first one raises.
-/

namespace FreeLunch
namespace Sums

open Writes

variable {ε α β : Type}

/-- The sum of the numbers of the elements, from left to right. -/
def sumM (f : α → Except ε ℕ) : List α → Except ε ℕ
  | [] => .ok 0
  | a :: rest =>
      match f a with
      | .error e => .error e
      | .ok n => (sumM f rest).map (n + ·)

@[simp]
theorem sumM_nil (f : α → Except ε ℕ) : sumM f [] = .ok 0 :=
  rfl

theorem sumM_cons_of_ok {f : α → Except ε ℕ} {a : α} {n : ℕ} (h : f a = .ok n) (rest : List α) :
    sumM f (a :: rest) = (sumM f rest).map (n + ·) := by
  rw [sumM, h]

theorem sumM_cons_ok_iff {f : α → Except ε ℕ} {a : α} {rest : List α} {total : ℕ} :
    sumM f (a :: rest) = .ok total ↔
      ∃ n m, f a = .ok n ∧ sumM f rest = .ok m ∧ n + m = total := by
  rw [sumM]
  cases f a with
  | error e => simp
  | ok n => cases sumM f rest <;> simp [Except.map]

/-- Sums of lists add up, and what raises in either raises in both together. -/
theorem sumM_append (f : α → Except ε ℕ) (l m : List α) :
    sumM f (l ++ m) = sumM f l >>= fun n => (sumM f m).map (n + ·) := by
  induction l with
  | nil => cases hm : sumM f m <;> simp [hm, bind, Except.bind, Except.map]
  | cons a rest ih =>
      rw [List.cons_append, sumM, sumM, ih]
      cases f a with
      | error e => rfl
      | ok n =>
          cases sumM f rest with
          | error e => rfl
          | ok k => cases sumM f m <;> simp [bind, Except.bind, Except.map, Nat.add_assoc]

theorem sumM_append_ok_iff {f : α → Except ε ℕ} {l m : List α} {total : ℕ} :
    sumM f (l ++ m) = .ok total ↔
      ∃ n k, sumM f l = .ok n ∧ sumM f m = .ok k ∧ n + k = total := by
  rw [sumM_append, bind_ok_iff]
  constructor
  · rintro ⟨n, hn, hmap⟩
    obtain ⟨k, hk, htotal⟩ := map_ok_iff.mp hmap
    exact ⟨n, k, hn, hk, htotal⟩
  · rintro ⟨n, k, hn, hk, htotal⟩
    exact ⟨n, hn, map_ok_iff.mpr ⟨k, hk, htotal⟩⟩

/-- The sum over the elements that stand for another list's elements. -/
theorem sumM_map (f : β → Except ε ℕ) (g : α → β) (l : List α) :
    sumM f (l.map g) = sumM (fun a => f (g a)) l := by
  induction l with
  | nil => rfl
  | cons a rest ih => rw [List.map_cons, sumM, sumM, ih]

/-- A sum of sums is the sum over the lists one after the other. -/
theorem sumM_flatMap (f : β → Except ε ℕ) (g : α → List β) (l : List α) :
    sumM f (l.flatMap g) = sumM (fun a => sumM f (g a)) l := by
  induction l with
  | nil => rfl
  | cons a rest ih =>
      rw [List.flatMap_cons, sumM_append, ih, sumM]
      cases sumM f (g a) <;> rfl

/-- An element with a number raises the sum by that number, wherever it stands. -/
theorem sumM_insert {f : α → Except ε ℕ} {a : α} {n : ℕ} (h : f a = .ok n) (l m : List α) :
    sumM f (l ++ a :: m) = (sumM f (l ++ m)).map (· + n) := by
  induction l with
  | nil =>
      rw [List.nil_append, List.nil_append, sumM_cons_of_ok h]
      cases sumM f m <;> simp [Except.map, Nat.add_comm]
  | cons b rest ih =>
      rw [List.cons_append, List.cons_append, sumM, sumM, ih]
      cases f b with
      | error e => rfl
      | ok k => cases sumM f (rest ++ m) <;> simp [Except.map, Nat.add_assoc]

/-- The loop from a number on adds the sum to it. -/
theorem foldlM_add (f : α → Except ε ℕ) (l : List α) (start : ℕ) :
    l.foldlM (fun total a => (f a).map (total + ·)) start = (sumM f l).map (start + ·) := by
  induction l generalizing start with
  | nil => rfl
  | cons a rest ih =>
      rw [List.foldlM_cons, sumM]
      cases f a with
      | error e => rfl
      | ok n =>
          refine (ih (start + n)).trans ?_
          cases sumM f rest <;> simp [Except.map, Nat.add_assoc]

/-! ## Comparing sums -/

/-- The numbers of one element are at most those of another, which raises where the first one
does. -/
def AtMost (f : α → Except ε ℕ) (g : β → Except ε ℕ) (a : α) (b : β) : Prop :=
  ∀ n, g b = .ok n → ∃ m ≤ n, f a = .ok m

theorem atMost_refl (f : α → Except ε ℕ) (a : α) : AtMost f f a a :=
  fun n h => ⟨n, Nat.le_refl n, h⟩

/-- Lowering the numbers of the elements does not raise the sum. -/
theorem sumM_le_of_forall₂ {f : α → Except ε ℕ} {g : β → Except ε ℕ} {l : List α} {m : List β}
    (h : List.Forall₂ (AtMost f g) l m) : AtMost (sumM f) (sumM g) l m := by
  induction h with
  | nil => exact fun n hn => ⟨n, Nat.le_refl n, hn⟩
  | cons hhead _ ih =>
      intro total htotal
      obtain ⟨n, k, hn, hk, rfl⟩ := sumM_cons_ok_iff.mp htotal
      obtain ⟨n', hn', hfirst⟩ := hhead n hn
      obtain ⟨k', hk', hrest⟩ := ih k hk
      exact ⟨n' + k', Nat.add_le_add hn' hk', sumM_cons_ok_iff.mpr ⟨n', k', hfirst, hrest, rfl⟩⟩

/-- Leaving elements out does not raise the sum. -/
theorem sumM_le_of_sublist {f : α → Except ε ℕ} {l m : List α} (h : l.Sublist m) :
    AtMost (sumM f) (sumM f) l m := by
  induction h with
  | slnil => exact atMost_refl _ _
  | cons a _ ih =>
      intro total htotal
      obtain ⟨n, k, -, hk, rfl⟩ := sumM_cons_ok_iff.mp htotal
      obtain ⟨k', hk', hrest⟩ := ih k hk
      exact ⟨k', Nat.le_add_left_of_le hk', hrest⟩
  | cons_cons a _ ih =>
      intro total htotal
      obtain ⟨n, k, hn, hk, rfl⟩ := sumM_cons_ok_iff.mp htotal
      obtain ⟨k', hk', hrest⟩ := ih k hk
      exact ⟨n + k', Nat.add_le_add_left hk' n, sumM_cons_ok_iff.mpr ⟨n, k', hn, hrest, rfl⟩⟩

/-- Lowering the sums of two lists does not raise the sum of the lists one after the other. -/
theorem sumM_le_append {f : α → Except ε ℕ} {l r m s : List α}
    (hl : AtMost (sumM f) (sumM f) l r) (hm : AtMost (sumM f) (sumM f) m s) :
    AtMost (sumM f) (sumM f) (l ++ m) (r ++ s) := by
  intro total htotal
  obtain ⟨n, k, hn, hk, rfl⟩ := sumM_append_ok_iff.mp htotal
  obtain ⟨n', hn', hfirst⟩ := hl n hn
  obtain ⟨k', hk', hrest⟩ := hm k hk
  exact ⟨n' + k', Nat.add_le_add hn' hk', sumM_append_ok_iff.mpr ⟨n', k', hfirst, hrest, rfl⟩⟩

/-- Lowering the sum of each list does not raise the sum of all of them. -/
theorem sumM_le_flatMap {f : β → Except ε ℕ} {g g' : α → List β} {l : List α}
    (h : ∀ a ∈ l, AtMost (sumM f) (sumM f) (g a) (g' a)) :
    AtMost (sumM f) (sumM f) (l.flatMap g) (l.flatMap g') := by
  have hsums : List.Forall₂ (AtMost (fun a => sumM f (g a)) fun a => sumM f (g' a)) l l := by
    rw [List.forall₂_same]
    exact h
  intro total htotal
  rw [sumM_flatMap] at htotal ⊢
  exact sumM_le_of_forall₂ hsums total htotal

/-! ## What the loop reaches -/

/-- The elements the loop adds before it ends or raises. -/
def reached (f : α → Except ε ℕ) (l : List α) : List α :=
  l.takeWhile fun a => (f a).isOk

/-- An element that satisfies a test is reached exactly when there is one and nothing before the
first one raises, if such elements do not raise. -/
theorem exists_reached_iff {f : α → Except ε ℕ} {p : α → Bool}
    (hp : ∀ a, p a = true → ∃ n, f a = .ok n) (l : List α) :
    (∃ a ∈ reached f l, p a = true) ↔
      (∃ a ∈ l, p a = true) ∧ ∀ a ∈ l.takeWhile fun a => !p a, ∃ n, f a = .ok n := by
  induction l with
  | nil => simp [reached]
  | cons a rest ih =>
      unfold reached at ih ⊢
      cases hpa : p a with
      | true =>
          have hok : (f a).isOk = true := isOk_iff.mpr (hp a hpa)
          simp [hok, hpa]
      | false =>
          cases hok : (f a).isOk with
          | true =>
              have hfa := isOk_iff.mp hok
              simp only [List.takeWhile_cons, hok, if_true, List.exists_mem_cons_iff, hpa,
                Bool.false_eq_true, false_or, ih, Bool.not_false, List.forall_mem_cons, hfa,
                true_and]
          | false =>
              have hfa : ¬ ∃ n, f a = .ok n := fun h => by
                rw [isOk_iff.mpr h] at hok
                cases hok
              simp only [List.takeWhile_cons, hok, Bool.false_eq_true, if_false, hpa,
                Bool.not_false, if_true, List.forall_mem_cons, hfa, false_and, and_false,
                List.not_mem_nil, exists_false]

end Sums
end FreeLunch
