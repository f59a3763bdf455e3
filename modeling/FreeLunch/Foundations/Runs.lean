import Mathlib.Logic.Basic
import Mathlib.Data.List.Basic

/-!
# Runs of partial transition systems

A component is given by a partial step function: an event that is not enabled
in a state has no successor.  This file fixes what a run of such a system is
and gives the two induction rules the later chapters use, one for invariants
of the states of a run and one for facts about every prefix of it.

Main results:

- Theorem `run_invariant`: what holds initially and is preserved by every step
  holds after every run.
- Theorem `run_append`: runs compose.
- Theorem `run_guarded_invariant`: an invariant that is preserved by the steps
  satisfying a guard holds after every run all of whose steps satisfy it.
- Theorem `forall_prefix_iff_guarded`: a property that every step keeps exactly
  under a guard holds throughout a run exactly when the run is guarded.
- Theorem `length_add_measure_le`: where every step lowers a measure, the measure of
  the first state bounds the length of a run.
-/

namespace FreeLunch
namespace Runs

variable {σ ε : Type*}

/-- Execute a finite list of events; a disabled event stops the run. -/
def run (step : σ → ε → Option σ) : σ → List ε → Option σ
  | s, [] => some s
  | s, e :: es => (step s e).bind fun s' => run step s' es

@[simp]
theorem run_nil (step : σ → ε → Option σ) (s : σ) : run step s [] = some s :=
  rfl

theorem run_cons (step : σ → ε → Option σ) (s : σ) (e : ε) (es : List ε) :
    run step s (e :: es) = (step s e).bind fun s' => run step s' es :=
  rfl

theorem run_cons_of_step {step : σ → ε → Option σ} {s s' : σ} {e : ε}
    (h : step s e = some s') (es : List ε) :
    run step s (e :: es) = run step s' es := by
  rw [run_cons, h, Option.bind_some]

/-- A run of a nonempty event list consists of one step and a run. -/
theorem run_cons_eq_some {step : σ → ε → Option σ} {s t : σ} {e : ε} {es : List ε} :
    run step s (e :: es) = some t ↔ ∃ s', step s e = some s' ∧ run step s' es = some t := by
  rw [run_cons, Option.bind_eq_some_iff]

theorem run_append (step : σ → ε → Option σ) (s : σ) (es fs : List ε) :
    run step s (es ++ fs) = (run step s es).bind fun s' => run step s' fs := by
  induction es generalizing s with
  | nil => rfl
  | cons e es ih =>
      rw [List.cons_append, run_cons, run_cons]
      cases step s e with
      | none => rfl
      | some s' => exact ih s'

/-- Two runs that meet in a state compose to one run. -/
theorem run_append_of_run {step : σ → ε → Option σ} {s s' : σ} {es : List ε}
    (h : run step s es = some s') (fs : List ε) :
    run step s (es ++ fs) = run step s' fs := by
  rw [run_append, h, Option.bind_some]

/-- An invariant preserved by every step holds after every run. -/
theorem run_invariant {step : σ → ε → Option σ} (Inv : σ → Prop)
    (hstep : ∀ s e s', step s e = some s' → Inv s → Inv s') {s t : σ} {es : List ε}
    (hrun : run step s es = some t) (hinit : Inv s) : Inv t := by
  induction es generalizing s with
  | nil =>
      cases hrun
      exact hinit
  | cons e es ih =>
      rcases run_cons_eq_some.mp hrun with ⟨s', hs, hrest⟩
      exact ih hrest (hstep s e s' hs hinit)

/-- A run is no longer than a measure that every step lowers. -/
theorem length_add_measure_le {step : σ → ε → Option σ} {measure : σ → ℕ}
    (hstep : ∀ s e s', step s e = some s' → measure s' < measure s) {s t : σ} {es : List ε}
    (hrun : run step s es = some t) : es.length + measure t ≤ measure s := by
  induction es generalizing s with
  | nil =>
      cases hrun
      simp
  | cons e es ih =>
      rcases run_cons_eq_some.mp hrun with ⟨s', hs, hrest⟩
      have hlower := hstep s e s' hs
      have htail := ih hrest
      rw [List.length_cons]
      omega

/-- Every step of a run satisfies a guard on the state it starts from. -/
def Guarded (step : σ → ε → Option σ) (guard : σ → ε → Prop) : σ → List ε → Prop
  | _, [] => True
  | s, e :: es => guard s e ∧ ∀ s', step s e = some s' → Guarded step guard s' es

theorem guarded_cons_of_step {step : σ → ε → Option σ} {guard : σ → ε → Prop}
    {s s' : σ} {e : ε} {es : List ε} (h : step s e = some s') :
    Guarded step guard s (e :: es) ↔ guard s e ∧ Guarded step guard s' es := by
  constructor
  · rintro ⟨hguard, hrest⟩
    exact ⟨hguard, hrest s' h⟩
  · rintro ⟨hguard, hrest⟩
    refine ⟨hguard, fun t ht => ?_⟩
    rw [h, Option.some.injEq] at ht
    exact ht ▸ hrest

/-- Whether a run is guarded can be computed along it. -/
instance decidableGuarded {step : σ → ε → Option σ} {guard : σ → ε → Prop}
    [∀ s e, Decidable (guard s e)] : ∀ s es, Decidable (Guarded step guard s es)
  | _, [] => isTrue trivial
  | s, e :: es =>
      match h : step s e with
      | none => decidable_of_iff (guard s e) ⟨fun hguard => ⟨hguard, by simp [h]⟩, And.left⟩
      | some s' =>
          have : Decidable (Guarded step guard s' es) := decidableGuarded s' es
          decidable_of_iff _ (guarded_cons_of_step h).symm

/-- A guard on the events alone holds along the run when it holds of each event. -/
theorem guarded_of_forall_mem {step : σ → ε → Option σ} {guard : ε → Prop} {es : List ε}
    (h : ∀ e ∈ es, guard e) (s : σ) : Guarded step (fun _ e => guard e) s es := by
  induction es generalizing s with
  | nil => trivial
  | cons e es ih =>
      refine ⟨h e List.mem_cons_self, fun s' _ => ih ?_ s'⟩
      intro e' he'
      exact h e' (List.mem_cons_of_mem _ he')

/-- A guard that always holds. -/
theorem guarded_of_forall {step : σ → ε → Option σ} {guard : σ → ε → Prop}
    (h : ∀ s e, guard s e) (s : σ) (es : List ε) : Guarded step guard s es := by
  induction es generalizing s with
  | nil => trivial
  | cons e es ih => exact ⟨h s e, fun s' _ => ih s'⟩

/-- Where every event is enabled, a run is guarded exactly when each of its events is. -/
theorem guarded_iff_forall_mem {step : σ → ε → Option σ} {guard : ε → Prop}
    (henabled : ∀ s e, ∃ s', step s e = some s') (es : List ε) (s : σ) :
    Guarded step (fun _ e => guard e) s es ↔ ∀ e ∈ es, guard e := by
  induction es generalizing s with
  | nil => simp [Guarded]
  | cons e es ih =>
      obtain ⟨s', hs⟩ := henabled s e
      rw [guarded_cons_of_step hs, ih s', List.forall_mem_cons]

/-- An invariant preserved by guarded steps holds after every guarded run. -/
theorem run_guarded_invariant {step : σ → ε → Option σ} {guard : σ → ε → Prop}
    (Inv : σ → Prop)
    (hstep : ∀ s e s', step s e = some s' → guard s e → Inv s → Inv s') {s t : σ}
    {es : List ε} (hrun : run step s es = some t) (hguard : Guarded step guard s es)
    (hinit : Inv s) : Inv t := by
  induction es generalizing s with
  | nil =>
      cases hrun
      exact hinit
  | cons e es ih =>
      rcases run_cons_eq_some.mp hrun with ⟨s', hs, hrest⟩
      have hsplit := (guarded_cons_of_step hs).mp hguard
      exact ih hrest hsplit.2 (hstep s e s' hs hsplit.1 hinit)

/-- When every step keeps a property exactly under a guard, the property holds
after every prefix of a run exactly when the run is guarded. -/
theorem forall_prefix_iff_guarded {step : σ → ε → Option σ} {guard : σ → ε → Prop}
    (Inv Good : σ → Prop)
    (hinv : ∀ s e s', step s e = some s' → Inv s → Inv s')
    (hstep : ∀ s e s', step s e = some s' → Inv s → Good s → (Good s' ↔ guard s e))
    {s t : σ} {es : List ε} (hrun : run step s es = some t) (hinit : Inv s)
    (hgood : Good s) :
    (∀ es₁ es₂ s₁, es = es₁ ++ es₂ → run step s es₁ = some s₁ → Good s₁) ↔
      Guarded step guard s es := by
  induction es generalizing s with
  | nil =>
      constructor
      · intro _
        trivial
      · intro _ es₁ es₂ s₁ heq hs₁
        obtain ⟨rfl, -⟩ := List.append_eq_nil_iff.mp heq.symm
        cases hs₁
        exact hgood
  | cons e es ih =>
      rcases run_cons_eq_some.mp hrun with ⟨s', hs, hrest⟩
      rw [guarded_cons_of_step hs]
      constructor
      · intro hall
        have hgood' : Good s' := hall [e] es s' rfl (by rw [run_cons_of_step hs, run_nil])
        refine ⟨(hstep s e s' hs hinit hgood).mp hgood',
          (ih hrest (hinv s e s' hs hinit) hgood').mp ?_⟩
        intro es₁ es₂ s₁ heq hs₁
        refine hall (e :: es₁) es₂ s₁ ?_ ?_
        · rw [heq, List.cons_append]
        · rw [run_cons_of_step hs]
          exact hs₁
      · rintro ⟨hguard, hrestGuarded⟩ es₁ es₂ s₁ heq hs₁
        have hgood' : Good s' := (hstep s e s' hs hinit hgood).mpr hguard
        cases es₁ with
        | nil =>
            cases hs₁
            exact hgood
        | cons e₁ es₁ =>
            rw [List.cons_append, List.cons.injEq] at heq
            obtain ⟨rfl, heq⟩ := heq
            rw [run_cons_of_step hs] at hs₁
            exact (ih hrest (hinv s e s' hs hinit) hgood').mpr hrestGuarded es₁ es₂ s₁ heq hs₁

end Runs
end FreeLunch
