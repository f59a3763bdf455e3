import Mathlib.Data.List.Induction
import Mathlib.Logic.Function.Basic

/-!
# The greatest value under each key

A pass over keyed values that keeps, for each key, the value that no later one exceeded.  The
comparison need not be an order on everything, only on the values that occur.

Main results:

- Theorem `greatest_foldl`: the pass ends with the greatest value under each key.
- Theorem `le_of_greatest`: under the greatest values nothing occurs that is not below one.
-/

namespace FreeLunch
namespace Maxima

variable {κ ν : Type} [DecidableEq κ]

/-- The value kept of the one there, if any, and a new one: the old one unless it is exceeded. -/
def greater (lt : ν → ν → Bool) (previous : Option ν) (value : ν) : ν :=
  match previous with
  | none => value
  | some old => if lt old value then value else old

/-- Take one value in under its key. -/
def keepGreater (lt : ν → ν → Bool) (best : κ → Option ν) (entry : κ × ν) : κ → Option ν :=
  Function.update best entry.1 (some (greater lt (best entry.1) entry.2))

/-- Under each key stands the greatest of its values, and nothing where it has none. -/
def Greatest (le : ν → ν → Prop) (entries : List (κ × ν)) (best : κ → Option ν) : Prop :=
  ∀ key,
    (∀ value, best key = some value →
      (key, value) ∈ entries ∧ ∀ other, (key, other) ∈ entries → le other value) ∧
    (best key = none → ∀ other, (key, other) ∉ entries)

/-- The comparison is a total order on some values. -/
structure OrdersOn (lt : ν → ν → Bool) (le : ν → ν → Prop) (p : ν → Prop) : Prop where
  refl : ∀ x, p x → le x x
  total : ∀ x y, p x → p y → lt x y = false → le y x
  trans : ∀ x y z, le x y → lt y z = true → le x z

omit [DecidableEq κ] in
/-- Every value that occurs is below the greatest one. -/
theorem le_of_greatest {le : ν → ν → Prop} {entries : List (κ × ν)} {best : κ → Option ν}
    (h : Greatest le entries best) {entry : κ × ν} (hmem : entry ∈ entries) :
    ∃ value, best entry.1 = some value ∧ le entry.2 value := by
  cases hbest : best entry.1 with
  | none => exact absurd hmem ((h entry.1).2 hbest entry.2)
  | some value => exact ⟨value, rfl, ((h entry.1).1 value hbest).2 entry.2 hmem⟩

/-- One more value in. -/
theorem Greatest.keepGreater {lt : ν → ν → Bool} {le : ν → ν → Prop} {p : ν → Prop}
    (horder : OrdersOn lt le p) {entries : List (κ × ν)} {best : κ → Option ν}
    (h : Greatest le entries best) (hentries : ∀ entry ∈ entries, p entry.2) {entry : κ × ν}
    (hentry : p entry.2) : Greatest le (entries ++ [entry]) (keepGreater lt best entry) := by
  intro key
  unfold Maxima.keepGreater
  by_cases hkey : key = entry.1
  · subst hkey
    rw [Function.update_self]
    refine ⟨fun value hvalue => ?_, nofun⟩
    cases hvalue
    have hsplit : ∀ other, (entry.1, other) ∈ entries ++ [entry] →
        (entry.1, other) ∈ entries ∨ other = entry.2 := by
      intro other hmem
      rcases List.mem_append.mp hmem with hold | hnew
      · exact .inl hold
      · exact .inr (congrArg Prod.snd (List.mem_singleton.mp hnew))
    cases hbest : best entry.1 with
    | none =>
        refine ⟨List.mem_append_right _ List.mem_cons_self, fun other hmem => ?_⟩
        rcases hsplit other hmem with hold | rfl
        · exact absurd hold ((h entry.1).2 hbest other)
        · exact horder.refl _ hentry
    | some previous =>
        obtain ⟨hmem, hle⟩ := (h entry.1).1 previous hbest
        unfold greater
        dsimp only
        by_cases hlt : lt previous entry.2 = true
        · rw [if_pos hlt]
          refine ⟨List.mem_append_right _ List.mem_cons_self, fun other hother => ?_⟩
          rcases hsplit other hother with hold | rfl
          · exact horder.trans _ _ _ (hle other hold) hlt
          · exact horder.refl _ hentry
        · rw [if_neg hlt]
          refine ⟨List.mem_append_left _ hmem, fun other hother => ?_⟩
          rcases hsplit other hother with hold | rfl
          · exact hle other hold
          · exact horder.total _ _ (hentries _ hmem) hentry (by simpa using hlt)
  · rw [Function.update_of_ne hkey]
    have hsame : ∀ other, (key, other) ∈ entries ++ [entry] ↔ (key, other) ∈ entries := by
      intro other
      rw [List.mem_append, List.mem_singleton]
      refine ⟨fun hmem => ?_, .inl⟩
      rcases hmem with hold | hnew
      · exact hold
      · exact absurd (congrArg Prod.fst hnew) hkey
    refine ⟨fun value hvalue => ?_, fun hnone other hmem => ?_⟩
    · obtain ⟨hmem, hle⟩ := (h key).1 value hvalue
      exact ⟨(hsame value).mpr hmem, fun other hother => hle other ((hsame other).mp hother)⟩
    · exact (h key).2 hnone other ((hsame other).mp hmem)

/-- A pass over values that the comparison orders ends with the greatest one under each key. -/
theorem greatest_foldl {lt : ν → ν → Bool} {le : ν → ν → Prop} {p : ν → Prop}
    (horder : OrdersOn lt le p) {entries : List (κ × ν)} (h : ∀ entry ∈ entries, p entry.2) :
    Greatest le entries (entries.foldl (keepGreater lt) fun _ => none) := by
  induction entries using List.reverseRecOn with
  | nil =>
      intro key
      exact ⟨nofun, fun _ other => List.not_mem_nil⟩
  | append_singleton entries entry ih =>
      rw [List.forall_mem_append] at h
      rw [List.foldl_append]
      exact (ih h.1).keepGreater horder h.1 (h.2 entry List.mem_cons_self)

end Maxima
end FreeLunch
