import Mathlib.Algebra.GroupWithZero.Nat
import Mathlib.Data.List.Lex
import Mathlib.Data.Nat.Init
import Mathlib.Order.Basic
import Mathlib.Order.Lattice

/-!
# Numerals of a fixed width

Numbers written with a fixed number of digits, most significant first, and records of such
numbers written one behind the other.  A comparison of the texts, character by character,
compares the numbers.

Main results:

- Theorem `append_lt_append_iff`: texts whose first parts have one length are compared by
  their first parts, then by the rest.
- Theorem `numeral_append_lt_iff`: a numeral in front of a text is compared as its number.
-/

namespace FreeLunch
namespace Numerals

variable {α : Type*} [LinearOrder α]

/-! ## Parts of one length -/

/-- Texts whose first parts have one length are compared part by part. -/
theorem append_lt_append_iff {a b x y : List α} (hlength : a.length = b.length) :
    a ++ x < b ++ y ↔ a < b ∨ a = b ∧ x < y := by
  induction a generalizing b with
  | nil =>
      rw [List.length_nil, eq_comm, List.length_eq_zero_iff] at hlength
      subst hlength
      simp
  | cons c a ih =>
      cases b with
      | nil => cases hlength
      | cons d b =>
          rw [List.length_cons, List.length_cons, Nat.add_right_cancel_iff] at hlength
          rw [List.cons_append, List.cons_append, List.cons_lt_cons_iff, List.cons_lt_cons_iff,
            ih hlength, List.cons.injEq]
          tauto

/-! ## Numerals -/

/-- The last digits of a number. -/
def numeral (base : ℕ) (digit : ℕ → α) : ℕ → ℕ → List α
  | 0, _ => []
  | width + 1, n => numeral base digit width (n / base) ++ [digit (n % base)]

variable {base : ℕ} {digit : ℕ → α}

omit [LinearOrder α] in
@[simp]
theorem length_numeral (width n : ℕ) : (numeral base digit width n).length = width := by
  induction width generalizing n with
  | zero => rfl
  | succ width ih => rw [numeral, List.length_append, ih, List.length_singleton]

omit [LinearOrder α] in
/-- Zero has no other digits. -/
theorem numeral_zero (width : ℕ) :
    numeral base digit width 0 = List.replicate width (digit 0) := by
  induction width with
  | zero => rfl
  | succ width ih =>
      rw [numeral, Nat.zero_div, Nat.zero_mod, ih, List.replicate_succ']

/-- The numeral of a smaller number comes first. -/
theorem numeral_lt_of_lt (hdigit : ∀ d e, d < e → e < base → digit d < digit e)
    {width n m : ℕ} (hlt : n < m) (hm : m < base ^ width) :
    numeral base digit width n < numeral base digit width m := by
  induction width generalizing n m with
  | zero =>
      rw [Nat.pow_zero] at hm
      omega
  | succ width ih =>
      have hbase : 0 < base := Nat.pos_of_ne_zero fun hzero => by
        subst hzero
        rw [Nat.zero_pow (Nat.succ_pos width)] at hm
        omega
      rw [Nat.pow_succ] at hm
      rw [numeral, numeral, append_lt_append_iff (by simp only [length_numeral])]
      rcases Nat.lt_or_eq_of_le (Nat.div_le_div_right (c := base) hlt.le) with hfirst | hfirst
      · exact .inl (ih hfirst (Nat.div_lt_of_lt_mul (by rwa [Nat.mul_comm])))
      · refine .inr ⟨by rw [hfirst], List.cons_lt_cons_iff.mpr (.inl (hdigit _ _ ?_ ?_))⟩
        · have hn := Nat.div_add_mod n base
          have hmod := Nat.div_add_mod m base
          rw [hfirst] at hn
          omega
        · exact Nat.mod_lt _ hbase

/-- A numeral in front of a text is compared as its number. -/
theorem numeral_append_lt_iff (hdigit : ∀ d e, d < e → e < base → digit d < digit e)
    {width n m : ℕ} (hn : n < base ^ width) (hm : m < base ^ width) (x y : List α) :
    numeral base digit width n ++ x < numeral base digit width m ++ y ↔
      n < m ∨ n = m ∧ x < y := by
  rw [append_lt_append_iff (by simp only [length_numeral])]
  rcases lt_trichotomy n m with hlt | heq | hgt
  · have hnumeral := numeral_lt_of_lt hdigit hlt hm
    exact iff_of_true (.inl hnumeral) (.inl hlt)
  · subst heq
    simp
  · have hnumeral := numeral_lt_of_lt hdigit hgt hn
    refine iff_of_false ?_ (by omega)
    rintro (h | ⟨h, -⟩)
    · exact lt_asymm h hnumeral
    · exact hnumeral.ne' h

end Numerals
end FreeLunch
