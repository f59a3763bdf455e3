import Mathlib.Logic.Basic

/-!
# Computations that keep what they wrote

Computations in `EStateM` change a state and may raise; what they wrote before an
exception stays.  Such a computation is atomic for a view of the state when an
exception leaves the view as it was.

Main results:

- Theorem `decidedBy_bind`: when one view decides for each part of a sequence, it decides
  for the sequence.
- Theorem `atomicAt_iff_returns_of_spoiled`: a computation that ends with another view
  is atomic exactly when it does not raise.
-/

namespace FreeLunch
namespace Transactions

variable {ε σ τ α β γ : Type}

/-! ## Outcomes -/

/-- The state a computation ends in, whether it returns or raises. -/
def finalState (x : EStateM ε σ α) (s : σ) : σ :=
  match x.run s with
  | .ok _ s' => s'
  | .error _ s' => s'

/-- The computation returns. -/
def Returns (x : EStateM ε σ α) (s : σ) : Prop :=
  ∃ a s', x.run s = .ok a s'

/-- An exception leaves a view of the state as it was. -/
def AtomicAt (view : σ → β) (x : EStateM ε σ α) (s : σ) : Prop :=
  Returns x s ∨ view (finalState x s) = view s

/-- The computation never changes a view of the state. -/
def Keeps (view : σ → β) (x : EStateM ε σ α) : Prop :=
  ∀ s, view (finalState x s) = view s

theorem finalState_of_ok {x : EStateM ε σ α} {s s' : σ} {a : α} (h : x.run s = .ok a s') :
    finalState x s = s' := by
  rw [finalState, h]

theorem finalState_of_error {x : EStateM ε σ α} {s s' : σ} {e : ε}
    (h : x.run s = .error e s') : finalState x s = s' := by
  rw [finalState, h]

theorem not_returns_of_error {x : EStateM ε σ α} {s s' : σ} {e : ε}
    (h : x.run s = .error e s') : ¬ Returns x s := by
  rintro ⟨a, t, hok⟩
  rw [h] at hok
  cases hok

/-! ## Calls -/

/-- A result that may be an exception, as a computation that writes nothing. -/
def call (result : Except ε α) : EStateM ε σ α :=
  match result with
  | .ok a => pure a
  | .error e => throw e

@[simp]
theorem run_call_ok (a : α) (s : σ) : (call (.ok a : Except ε α)).run s = .ok a s :=
  rfl

@[simp]
theorem run_call_error (e : ε) (s : σ) :
    (call (.error e : Except ε α)).run s = .error e s :=
  rfl

theorem returns_call_iff {result : Except ε α} (s : σ) :
    Returns (call result) s ↔ ∃ a, result = .ok a := by
  cases result with
  | ok a => exact iff_of_true ⟨a, s, rfl⟩ ⟨a, rfl⟩
  | error e =>
      refine iff_of_false (not_returns_of_error (run_call_error e s)) ?_
      rintro ⟨a, h⟩
      cases h

theorem run_call_ok_iff {result : Except ε α} {s s' : σ} {a : α} :
    (call result).run s = .ok a s' ↔ result = .ok a ∧ s' = s := by
  cases result with
  | ok b =>
      rw [run_call_ok]
      constructor
      · intro h
        cases h
        exact ⟨rfl, rfl⟩
      · rintro ⟨h, rfl⟩
        cases h
        rfl
  | error e =>
      rw [run_call_error]
      refine iff_of_false (fun h => ?_) fun h => ?_
      · cases h
      · cases h.1

theorem keeps_call (view : σ → β) (result : Except ε α) :
    Keeps view (call result : EStateM ε σ α) := by
  intro s
  cases result <;> rfl

/-- A computation on a part of the state. -/
def within (get : σ → τ) (set : τ → σ → σ) (x : EStateM ε τ α) : EStateM ε σ α := fun s =>
  match x.run (get s) with
  | .ok a t => .ok a (set t s)
  | .error e t => .error e (set t s)

theorem run_within_of_ok {get : σ → τ} (set : τ → σ → σ) {x : EStateM ε τ α} {s : σ} {t : τ}
    {a : α} (h : x.run (get s) = .ok a t) : (within get set x).run s = .ok a (set t s) := by
  rw [EStateM.run, within, h]

theorem run_within_of_error {get : σ → τ} (set : τ → σ → σ) {x : EStateM ε τ α} {s : σ}
    {t : τ} {e : ε} (h : x.run (get s) = .error e t) :
    (within get set x).run s = .error e (set t s) := by
  rw [EStateM.run, within, h]

theorem keeps_modify {view : σ → β} {f : σ → σ} (h : ∀ s, view (f s) = view s) :
    Keeps view (modify f : EStateM ε σ PUnit) :=
  h

theorem run_adaptExcept_of_ok {ε' : Type} {x : EStateM ε σ α} {s s' : σ} {a : α}
    (h : x.run s = .ok a s') (f : ε → ε') : (x.adaptExcept f).run s = .ok a s' := by
  unfold EStateM.run EStateM.adaptExcept at *
  rw [h]

theorem run_adaptExcept_of_error {ε' : Type} {x : EStateM ε σ α} {s s' : σ} {e : ε}
    (h : x.run s = .error e s') (f : ε → ε') :
    (x.adaptExcept f).run s = .error (f e) s' := by
  unfold EStateM.run EStateM.adaptExcept at *
  rw [h]

theorem run_adaptExcept_ok_iff {ε' : Type} {x : EStateM ε σ α} {f : ε → ε'} {s s' : σ} {a : α} :
    (x.adaptExcept f).run s = .ok a s' ↔ x.run s = .ok a s' := by
  cases h : x.run s with
  | ok b t => rw [run_adaptExcept_of_ok h]; simp
  | error e t => rw [run_adaptExcept_of_error h]; simp

/-! ## Sequencing -/

theorem run_bind_of_ok {x : EStateM ε σ α} {s s' : σ} {a : α} (h : x.run s = .ok a s')
    (f : α → EStateM ε σ β) : (x >>= f).run s = (f a).run s' := by
  rw [EStateM.run_bind, h]

theorem run_bind_of_error {x : EStateM ε σ α} {s s' : σ} {e : ε}
    (h : x.run s = .error e s') (f : α → EStateM ε σ β) : (x >>= f).run s = .error e s' := by
  rw [EStateM.run_bind, h]

/-- A sequence returns when its first part does and the second does from there. -/
theorem run_bind_ok_iff {x : EStateM ε σ α} {f : α → EStateM ε σ β} {s t : σ} {b : β} :
    (x >>= f).run s = .ok b t ↔ ∃ a s', x.run s = .ok a s' ∧ (f a).run s' = .ok b t := by
  cases h : x.run s with
  | ok a s' =>
      rw [run_bind_of_ok h]
      constructor
      · intro hrest
        exact ⟨a, s', rfl, hrest⟩
      · rintro ⟨a', s'', hsame, hrest⟩
        cases hsame
        exact hrest
  | error e s' =>
      rw [run_bind_of_error h]
      refine iff_of_false (fun hok => ?_) ?_
      · cases hok
      · rintro ⟨a, s'', hok, -⟩
        cases hok

theorem returns_bind_of_ok {x : EStateM ε σ α} {s s' : σ} {a : α} (h : x.run s = .ok a s')
    (f : α → EStateM ε σ β) : Returns (x >>= f) s ↔ Returns (f a) s' := by
  unfold Returns
  rw [run_bind_of_ok h]

theorem finalState_bind_of_ok {x : EStateM ε σ α} {s s' : σ} {a : α} (h : x.run s = .ok a s')
    (f : α → EStateM ε σ β) : finalState (x >>= f) s = finalState (f a) s' := by
  unfold finalState
  rw [run_bind_of_ok h]

/-- What is done with the result alone does not show in the state. -/
theorem finalState_bind_pure (x : EStateM ε σ α) (f : α → β) (s : σ) :
    finalState (x >>= fun a => pure (f a)) s = finalState x s := by
  cases h : x.run s with
  | ok a s' =>
      rw [finalState_bind_of_ok h, finalState_of_ok h]
      rfl
  | error e s' => rw [finalState_of_error (run_bind_of_error h _), finalState_of_error h]

theorem returns_bind_pure_iff {x : EStateM ε σ α} {f : α → β} {s : σ} :
    Returns (x >>= fun a => pure (f a)) s ↔ Returns x s := by
  cases h : x.run s with
  | ok a s' =>
      rw [returns_bind_of_ok h]
      exact iff_of_true ⟨f a, s', rfl⟩ ⟨a, s', h⟩
  | error e s' =>
      exact iff_of_false (not_returns_of_error (run_bind_of_error h _))
        (not_returns_of_error h)

/-- A sequence keeps what its parts keep. -/
theorem keeps_bind {view : σ → β} {x : EStateM ε σ α} {f : α → EStateM ε σ γ}
    (hx : Keeps view x) (hf : ∀ a, Keeps view (f a)) : Keeps view (x >>= f) := by
  intro s
  have hfirst := hx s
  cases h : x.run s with
  | ok a s' =>
      rw [finalState_of_ok h] at hfirst
      rw [finalState_bind_of_ok h, hf a s', hfirst]
  | error e s' =>
      rw [finalState_of_error h] at hfirst
      rw [finalState_of_error (run_bind_of_error h f), hfirst]

/-- What only reads does not show in the state. -/
theorem finalState_bind_reading (x : EStateM ε σ α) {f : α → EStateM ε σ β}
    (hf : ∀ a, Keeps id (f a)) (s : σ) : finalState (x >>= f) s = finalState x s := by
  cases h : x.run s with
  | ok a s' =>
      rw [finalState_bind_of_ok h, finalState_of_ok h]
      exact hf a s'
  | error e s' => rw [finalState_of_error (run_bind_of_error h _), finalState_of_error h]

theorem finalState_adaptExcept {ε' : Type} (x : EStateM ε σ α) (f : ε → ε') (s : σ) :
    finalState (x.adaptExcept f) s = finalState x s := by
  cases h : x.run s with
  | ok a s' => rw [finalState_of_ok (run_adaptExcept_of_ok h f), finalState_of_ok h]
  | error e s' => rw [finalState_of_error (run_adaptExcept_of_error h f), finalState_of_error h]

theorem view_of_run_ok {view : σ → β} {x : EStateM ε σ α} (hx : Keeps view x) {s s' : σ} {a : α}
    (h : x.run s = .ok a s') : view s' = view s := by
  rw [← hx s, finalState_of_ok h]

/-- A computation that keeps a view shows it where it returns and where it raises. -/
theorem run_cases_of_keeps {view : σ → β} {x : EStateM ε σ α} (hx : Keeps view x) (s : σ) :
    (∃ a s', x.run s = .ok a s' ∧ view s' = view s) ∨
      ∃ e s', x.run s = .error e s' ∧ view s' = view s := by
  have hview := hx s
  cases h : x.run s with
  | ok a s' =>
      rw [finalState_of_ok h] at hview
      exact .inl ⟨a, s', rfl, hview⟩
  | error e s' =>
      rw [finalState_of_error h] at hview
      exact .inr ⟨e, s', rfl, hview⟩

/-! ## Invariants of a computation -/

/-- What holds before a computation holds after it, whether it returns or raises. -/
def Preserves (P : σ → Prop) (x : EStateM ε σ α) : Prop :=
  ∀ s, P s → P (finalState x s)

theorem preserves_of_keeps {view : σ → β} {x : EStateM ε σ α} (h : Keeps view x)
    (Q : β → Prop) : Preserves (fun s => Q (view s)) x := by
  intro s hs
  rw [h s]
  exact hs

theorem preserves_modify {P : σ → Prop} {f : σ → σ} (h : ∀ s, P s → P (f s)) :
    Preserves P (modify f : EStateM ε σ PUnit) :=
  h

/-- A sequence preserves what its parts preserve. -/
theorem preserves_bind {P : σ → Prop} {x : EStateM ε σ α} {f : α → EStateM ε σ γ}
    (hx : Preserves P x) (hf : ∀ a, Preserves P (f a)) : Preserves P (x >>= f) := by
  intro s hs
  have hfirst := hx s hs
  cases h : x.run s with
  | ok a s' =>
      rw [finalState_of_ok h] at hfirst
      rw [finalState_bind_of_ok h]
      exact hf a s' hfirst
  | error e s' =>
      rw [finalState_of_error h] at hfirst
      rw [finalState_of_error (run_bind_of_error h f)]
      exact hfirst

theorem preserves_pure {P : σ → Prop} (a : α) : Preserves P (pure a : EStateM ε σ α) :=
  fun _ h => h

theorem preserves_get {P : σ → Prop} : Preserves P (get : EStateM ε σ σ) :=
  fun _ h => h

theorem preserves_throw {P : σ → Prop} (e : ε) : Preserves P (throw e : EStateM ε σ α) :=
  fun _ h => h

theorem preserves_call {P : σ → Prop} (result : Except ε α) : Preserves P (call result) :=
  preserves_of_keeps (keeps_call id result) P

theorem preserves_ite {P : σ → Prop} {c : Prop} [Decidable c] {x y : EStateM ε σ α}
    (hx : c → Preserves P x) (hy : ¬ c → Preserves P y) : Preserves P (if c then x else y) := by
  by_cases h : c
  · rw [if_pos h]
    exact hx h
  · rw [if_neg h]
    exact hy h

theorem preserves_adaptExcept {ε' : Type} {P : σ → Prop} {x : EStateM ε σ α}
    (h : Preserves P x) (f : ε → ε') : Preserves P (x.adaptExcept f) := by
  intro s hs
  rw [finalState_adaptExcept]
  exact h s hs

/-! ## What decides whether a computation returns -/

/-- A view of the state decides whether a computation returns, and the computation never
changes it. -/
structure DecidedBy (view : σ → β) (P : β → Prop) (x : EStateM ε σ α) : Prop where
  returns_iff : ∀ s, Returns x s ↔ P (view s)
  keeps : Keeps view x

theorem decidedBy_call (view : σ → β) (result : Except ε α) :
    DecidedBy view (fun _ => ∃ a, result = .ok a) (call result : EStateM ε σ α) :=
  ⟨returns_call_iff, keeps_call view result⟩

theorem decidedBy_get (view : σ → β) :
    DecidedBy view (fun _ => True) (get : EStateM ε σ σ) :=
  ⟨fun s => iff_of_true ⟨s, s, rfl⟩ trivial, fun _ => rfl⟩

theorem decidedBy_modify {view : σ → β} {f : σ → σ} (h : ∀ s, view (f s) = view s) :
    DecidedBy view (fun _ => True) (modify f : EStateM ε σ PUnit) :=
  ⟨fun s => iff_of_true ⟨(), f s, rfl⟩ trivial, keeps_modify h⟩

/-- A sequence returns when each of its parts does, and the same view decides. -/
theorem decidedBy_bind {view : σ → β} {x : EStateM ε σ α} {f : α → EStateM ε σ γ}
    {P Q : β → Prop} (hx : DecidedBy view P x) (hf : ∀ a, DecidedBy view Q (f a)) :
    DecidedBy view (fun v => P v ∧ Q v) (x >>= f) := by
  refine ⟨fun s => ?_, keeps_bind hx.keeps fun a => (hf a).keeps⟩
  rw [← hx.returns_iff s]
  have hview := hx.keeps s
  cases h : x.run s with
  | ok a s' =>
      rw [finalState_of_ok h] at hview
      rw [returns_bind_of_ok h, (hf a).returns_iff s', hview, and_iff_right ⟨a, s', h⟩]
  | error e s' =>
      exact iff_of_false (not_returns_of_error (run_bind_of_error h f))
        fun hboth => not_returns_of_error h hboth.1

/-! ## Atomicity -/

/-- A part that raises decides. -/
theorem atomicAt_of_error {view : σ → β} {x : EStateM ε σ α} {s s' : σ} {e : ε}
    (h : x.run s = .error e s') : AtomicAt view x s ↔ view s' = view s := by
  unfold AtomicAt
  rw [finalState_of_error h]
  exact or_iff_right (not_returns_of_error h)

/-- A computation that ends with another view is atomic exactly when it returns. -/
theorem atomicAt_iff_returns_of_spoiled {view : σ → β} {x : EStateM ε σ α} {s : σ}
    (h : view (finalState x s) ≠ view s) : AtomicAt view x s ↔ Returns x s :=
  or_iff_left h

end Transactions
end FreeLunch
