import FreeLunch.Foundations.Runs

/-!
# Forward simulations

A component is related to a specification that says what it is for.  The specification is a
relation: what the component leaves open has several outcomes.  Each event of the component
has a label, read off the state in which it happens, and the specification steps under labels.

Main results:

- Theorem `exists_specRun_of_run`: when every step is matched, every run is.
-/

namespace FreeLunch
namespace Simulations

open Runs

variable {σ τ ε ℓ : Type*}

/-- A run of a specification under a list of labels. -/
inductive SpecRun (spec : τ → ℓ → τ → Prop) : τ → List ℓ → τ → Prop where
  | nil (t : τ) : SpecRun spec t [] t
  | cons {t t' u : τ} {label : ℓ} {labels : List ℓ} (first : spec t label t')
      (rest : SpecRun spec t' labels u) : SpecRun spec t (label :: labels) u

/-- The labels of a run. -/
def labelsAlong (step : σ → ε → Option σ) (label : σ → ε → ℓ) : σ → List ε → List ℓ
  | _, [] => []
  | s, e :: es =>
      label s e ::
        match step s e with
        | none => []
        | some s' => labelsAlong step label s' es

theorem labelsAlong_cons_of_step {step : σ → ε → Option σ} {label : σ → ε → ℓ} {s s' : σ} {e : ε}
    (h : step s e = some s') (es : List ε) :
    labelsAlong step label s (e :: es) = label s e :: labelsAlong step label s' es := by
  rw [labelsAlong, h]

/-- Every step from a related state is matched under its label. -/
def Matched (step : σ → ε → Option σ) (label : σ → ε → ℓ) (spec : τ → ℓ → τ → Prop)
    (guard : ε → Prop) (related : σ → τ → Prop) : Prop :=
  ∀ s e s' t, guard e → step s e = some s' → related s t →
    ∃ t', spec t (label s e) t' ∧ related s' t'

/-- When every step is matched, every run is. -/
theorem exists_specRun_of_run {step : σ → ε → Option σ} {label : σ → ε → ℓ}
    {spec : τ → ℓ → τ → Prop} {guard : ε → Prop} {related : σ → τ → Prop}
    (hmatched : Matched step label spec guard related) {s s' : σ} {t : τ} {es : List ε}
    (hguard : ∀ e ∈ es, guard e) (hrun : run step s es = some s') (hrelated : related s t) :
    ∃ t', SpecRun spec t (labelsAlong step label s es) t' ∧ related s' t' := by
  induction es generalizing s t with
  | nil =>
      cases hrun
      exact ⟨t, .nil t, hrelated⟩
  | cons e es ih =>
      obtain ⟨between, hstep, hrest⟩ := run_cons_eq_some.mp hrun
      obtain ⟨hfirst, hlater⟩ := List.forall_mem_cons.mp hguard
      obtain ⟨u, hspec, hbetween⟩ := hmatched s e between t hfirst hstep hrelated
      obtain ⟨t', hspecs, hend⟩ := ih hlater hrest hbetween
      rw [labelsAlong_cons_of_step hstep]
      exact ⟨t', .cons hspec hspecs, hend⟩

end Simulations
end FreeLunch
