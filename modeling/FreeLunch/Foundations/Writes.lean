import Mathlib.Data.List.Forall2

/-!
# Folds of fallible writes

A record whose fields are read by name, and a step that writes at most one field or
raises.  A fold of such steps raises exactly when one of its writes does, and leaves
every field with the value of its last write.

Main results:

- Theorem `foldlM_ok_iff`: a fold returns exactly when every write has a value.
- Theorem `read_foldlM`: a field holds its last write, or what it held before.
- Theorem `mapM_ok_iff`: a fallible map returns exactly when every value does.
- Theorem `keepM_ok_iff`: a fallible filter returns exactly when every test does.
- Theorem `anyM_ok_iff`: a fallible search returns exactly when every test up to the first hit
  does.
- Theorem `collectFrom_eq`: a loop that collects what each item contributes is a fallible map
  whose results are put together.
-/

namespace FreeLunch
namespace Writes

variable {σ α κ ν ε : Type} [DecidableEq κ]

/-- A step writes the field and value of its target, or raises what the value raises. -/
structure Step (read : σ → κ → Option ν) (target : α → Option (κ × Except ε ν))
    (step : σ → α → Except ε σ) : Prop where
  ok_iff : ∀ s a, (∃ s', step s a = .ok s') ↔
    ∀ k v, target a = some (k, v) → ∃ x, v = .ok x
  read_step : ∀ s a s' k, step s a = .ok s' →
    read s' k =
      match target a with
      | some (k', .ok x) => if k' = k then some x else read s k
      | _ => read s k

/-- The value a target writes to a field. -/
def written (k : κ) (target : Option (κ × Except ε ν)) : Option ν :=
  match target with
  | some (k', .ok x) => if k' = k then some x else none
  | _ => none

theorem written_of_ne {k : κ} {target : Option (κ × Except ε ν)}
    (h : ∀ v, target ≠ some (k, v)) : written k target = none := by
  rcases target with _ | ⟨k', _ | x⟩
  · rfl
  · rfl
  · have hne : k' ≠ k := by
      rintro rfl
      exact h _ rfl
    simp [written, hne]

theorem filterMap_written_of_ne {k : κ} {target : α → Option (κ × Except ε ν)} {l : List α}
    (h : ∀ a ∈ l, ∀ v, target a ≠ some (k, v)) :
    l.filterMap (fun a => written k (target a)) = [] := by
  rw [List.filterMap_eq_nil_iff]
  intro a ha
  exact written_of_ne (h a ha)

@[simp]
theorem written_self (k : κ) (v : Except ε ν) : written k (some (k, v)) = v.toOption := by
  cases v <;> simp [written, Except.toOption]

omit [DecidableEq κ] in
/-- A fold returns exactly when every write has a value. -/
theorem foldlM_ok_iff {step : σ → α → Except ε σ} {P : α → Prop}
    (hstep : ∀ s a, (∃ s', step s a = .ok s') ↔ P a) (l : List α) (s : σ) :
    (∃ s', l.foldlM step s = .ok s') ↔ ∀ a ∈ l, P a := by
  induction l generalizing s with
  | nil =>
      simp only [List.foldlM_nil, List.not_mem_nil, false_implies, implies_true, iff_true]
      exact ⟨s, rfl⟩
  | cons a rest ih =>
      rw [List.foldlM_cons, List.forall_mem_cons, ← hstep s a]
      cases hs : step s a with
      | error e =>
          constructor
          · rintro ⟨s', h⟩
            cases h
          · rintro ⟨⟨s', h⟩, -⟩
            cases h
      | ok s₁ =>
          have hrest := ih s₁
          constructor
          · intro h
            exact ⟨⟨s₁, rfl⟩, hrest.mp h⟩
          · rintro ⟨-, h⟩
            exact hrest.mpr h

/-- A field holds its last write, or what it held before. -/
theorem read_foldlM {read : σ → κ → Option ν} {target : α → Option (κ × Except ε ν)}
    {step : σ → α → Except ε σ} (hstep : Step read target step) {l : List α} {s s' : σ}
    (h : l.foldlM step s = .ok s') (k : κ) :
    read s' k = ((l.filterMap fun a => written k (target a)).getLast?).or (read s k) := by
  induction l generalizing s with
  | nil =>
      cases h
      rfl
  | cons a rest ih =>
      rw [List.foldlM_cons] at h
      cases hs : step s a with
      | error e =>
          rw [hs] at h
          cases h
      | ok s₁ =>
          rw [hs] at h
          have hread := hstep.read_step s a s₁ k hs
          rw [ih h, hread]
          cases htarget : target a with
          | none => simp [written, htarget]
          | some pair =>
              obtain ⟨k', value⟩ := pair
              cases value with
              | error e => simp [written, htarget]
              | ok x =>
                  by_cases hk : k' = k
                  · rw [List.filterMap_cons_some (b := x) (by simp [written, htarget, hk]),
                      List.getLast?_cons]
                    simp only [hk, if_true]
                    cases (rest.filterMap fun a => written k (target a)).getLast? <;> rfl
                  · simp [written, htarget, hk]

omit [DecidableEq κ] in
/-- A fold keeps what every step keeps. -/
theorem view_foldlM {β : Type} (view : σ → β) {step : σ → α → Except ε σ}
    (hstep : ∀ s a s', step s a = .ok s' → view s' = view s) {l : List α} {s s' : σ}
    (h : l.foldlM step s = .ok s') : view s' = view s := by
  induction l generalizing s with
  | nil =>
      cases h
      rfl
  | cons a rest ih =>
      rw [List.foldlM_cons] at h
      cases hs : step s a with
      | error e =>
          rw [hs] at h
          cases h
      | ok s₁ =>
          rw [hs] at h
          rw [ih h, hstep s a s₁ hs]

/-! ## Fallible maps -/

omit [DecidableEq κ] in
theorem map_ok_iff {β : Type} {x : Except ε α} {f : α → β} {b : β} :
    x.map f = .ok b ↔ ∃ a, x = .ok a ∧ f a = b := by
  cases x <;> simp [Except.map]

omit [DecidableEq κ] in
theorem bind_ok_iff {β : Type} {x : Except ε α} {f : α → Except ε β} {b : β} :
    x >>= f = .ok b ↔ ∃ a, x = .ok a ∧ f a = .ok b := by
  cases x <;> simp [bind, Except.bind]

omit [DecidableEq κ] in
/-- A sequence returns exactly when its first part does and the second does on its result. -/
theorem exists_bind_ok_iff {β : Type} {x : Except ε α} {f : α → Except ε β} :
    (∃ b, x >>= f = .ok b) ↔ ∃ a, x = .ok a ∧ ∃ b, f a = .ok b := by
  simp only [bind_ok_iff]
  constructor
  · rintro ⟨b, a, ha, hb⟩
    exact ⟨a, ha, b, hb⟩
  · rintro ⟨a, ha, b, hb⟩
    exact ⟨b, a, ha, hb⟩

omit [DecidableEq κ] in
@[simp]
theorem ok_bind {β : Type} (a : α) (f : α → Except ε β) : (.ok a : Except ε α) >>= f = f a :=
  rfl

omit [DecidableEq κ] in
/-- Two sequences agree that go on in the same way. -/
theorem bind_congr_ok {β : Type} {x : Except ε α} {f g : α → Except ε β}
    (h : ∀ a, x = .ok a → f a = g a) : x >>= f = x >>= g := by
  cases x with
  | error err => rfl
  | ok a => exact h a rfl

omit [DecidableEq κ] in
theorem isOk_iff {x : Except ε α} : x.isOk = true ↔ ∃ a, x = .ok a := by
  cases x <;> simp [Except.isOk, Except.toBool]

omit [DecidableEq κ] in
theorem mapM_cons_ok_iff {β : Type} {f : α → Except ε β} {a : α} {l : List α} {ys : List β} :
    (a :: l).mapM f = .ok ys ↔ ∃ y rest, f a = .ok y ∧ l.mapM f = .ok rest ∧ y :: rest = ys := by
  rw [List.mapM_cons, bind_ok_iff]
  constructor
  · rintro ⟨y, hy, h⟩
    obtain ⟨rest, hrest, h⟩ := bind_ok_iff.mp h
    cases h
    exact ⟨y, rest, hy, hrest, rfl⟩
  · rintro ⟨y, rest, hy, hrest, rfl⟩
    exact ⟨y, hy, bind_ok_iff.mpr ⟨rest, hrest, rfl⟩⟩

omit [DecidableEq κ] in
/-- A fallible map none of whose values fails. -/
theorem mapM_eq_map {β : Type} {f : α → Except ε β} {g : α → β} {l : List α}
    (h : ∀ a ∈ l, f a = .ok (g a)) : l.mapM f = .ok (l.map g) := by
  induction l with
  | nil => rfl
  | cons a rest ih =>
      rw [List.forall_mem_cons] at h
      exact mapM_cons_ok_iff.mpr ⟨_, _, h.1, ih h.2, rfl⟩

omit [DecidableEq κ] in
theorem mapM_congr {β : Type} {f g : α → Except ε β} {l : List α}
    (h : ∀ a ∈ l, f a = g a) : l.mapM f = l.mapM g := by
  induction l with
  | nil => rfl
  | cons a rest ih =>
      rw [List.forall_mem_cons] at h
      rw [List.mapM_cons, List.mapM_cons, h.1, ih h.2]

omit [DecidableEq κ] in
/-- A fallible map returns exactly when every value does. -/
theorem mapM_ok_iff {β : Type} {f : α → Except ε β} {l : List α} :
    (∃ ys, l.mapM f = .ok ys) ↔ ∀ a ∈ l, ∃ y, f a = .ok y := by
  induction l with
  | nil =>
      simp only [List.mapM_nil, List.not_mem_nil, false_implies, implies_true, iff_true]
      exact ⟨[], rfl⟩
  | cons a rest ih =>
      rw [List.forall_mem_cons, ← ih]
      simp only [mapM_cons_ok_iff]
      constructor
      · rintro ⟨ys, y, others, hy, hothers, -⟩
        exact ⟨⟨y, hy⟩, others, hothers⟩
      · rintro ⟨⟨y, hy⟩, others, hothers⟩
        exact ⟨y :: others, y, others, hy, hothers, rfl⟩

omit [DecidableEq κ] in
theorem mem_of_mapM_ok {β : Type} {f : α → Except ε β} {l : List α} {ys : List β}
    (h : l.mapM f = .ok ys) (y : β) : y ∈ ys ↔ ∃ a ∈ l, f a = .ok y := by
  induction l generalizing ys with
  | nil =>
      cases h
      simp
  | cons a rest ih =>
      obtain ⟨first, others, hfirst, hothers, rfl⟩ := mapM_cons_ok_iff.mp h
      rw [List.mem_cons, ih hothers, List.exists_mem_cons_iff, hfirst, Except.ok.injEq, eq_comm]

omit [DecidableEq κ] in
/-- A fallible map keeps what each of its values keeps. -/
theorem map_of_mapM_ok {β γ : Type} {f : α → Except ε β} {g : β → γ} {h : α → γ}
    (hf : ∀ a y, f a = .ok y → g y = h a) {l : List α} {ys : List β} (hl : l.mapM f = .ok ys) :
    ys.map g = l.map h := by
  induction l generalizing ys with
  | nil =>
      cases hl
      rfl
  | cons a rest ih =>
      obtain ⟨first, others, hfirst, hothers, rfl⟩ := mapM_cons_ok_iff.mp hl
      rw [List.map_cons, List.map_cons, hf a first hfirst, ih hothers]

omit [DecidableEq κ] in
/-- A fallible map pairs each value with its result. -/
theorem mapM_ok_iff_forall₂ {β : Type} {f : α → Except ε β} {l : List α} {ys : List β} :
    l.mapM f = .ok ys ↔ List.Forall₂ (fun a y => f a = .ok y) l ys := by
  induction l generalizing ys with
  | nil =>
      rw [List.forall₂_nil_left_iff, List.mapM_nil]
      constructor
      · intro h
        exact (Except.ok.inj h).symm
      · rintro rfl
        rfl
  | cons a rest ih =>
      rw [mapM_cons_ok_iff, List.forall₂_cons_left_iff]
      constructor
      · rintro ⟨y, others, hy, hothers, rfl⟩
        exact ⟨y, others, hy, ih.mp hothers, rfl⟩
      · rintro ⟨y, others, hy, hothers, rfl⟩
        exact ⟨y, others, hy, ih.mpr hothers, rfl⟩

omit [DecidableEq κ] in
/-- A fold whose steps fail before they change the state fails before it changes anything. -/
theorem foldlM_map {β : Type} (f : α → Except ε β) (g : σ → β → σ) (l : List α) (s : σ) :
    (l.foldlM (fun s a => (f a).map (g s)) s) = (l.mapM f).map fun ys => ys.foldl g s := by
  induction l generalizing s with
  | nil => rfl
  | cons a rest ih =>
      rw [List.foldlM_cons, List.mapM_cons]
      cases f a with
      | error e => rfl
      | ok y =>
          change rest.foldlM (fun s a => (f a).map (g s)) (g s y) = _
          rw [ih]
          cases rest.mapM f <;> rfl

/-! ## Fallible filters -/

/-- A filter whose test may fail. -/
def keepM (p : α → Except ε Bool) : List α → Except ε (List α)
  | [] => .ok []
  | a :: rest => do
      let keep ← p a
      let others ← keepM p rest
      return if keep then a :: others else others

omit [DecidableEq κ] in
/-- A fallible filter none of whose tests fails. -/
theorem keepM_eq_filter {p : α → Except ε Bool} {q : α → Bool} {l : List α}
    (h : ∀ a ∈ l, p a = .ok (q a)) : keepM p l = .ok (l.filter q) := by
  induction l with
  | nil => rfl
  | cons a rest ih =>
      rw [List.forall_mem_cons] at h
      rw [keepM, h.1, ih h.2, List.filter_cons]
      rfl

omit [DecidableEq κ] in
/-- A fallible filter returns exactly when every test does. -/
theorem keepM_ok_iff {p : α → Except ε Bool} {l : List α} :
    (∃ kept, keepM p l = .ok kept) ↔ ∀ a ∈ l, ∃ b, p a = .ok b := by
  induction l with
  | nil =>
      simp only [List.not_mem_nil, false_implies, implies_true, iff_true]
      exact ⟨[], rfl⟩
  | cons a rest ih =>
      rw [List.forall_mem_cons, ← ih, keepM, exists_bind_ok_iff]
      constructor
      · rintro ⟨keep, hkeep, h⟩
        obtain ⟨others, hothers, -⟩ := exists_bind_ok_iff.mp h
        exact ⟨⟨keep, hkeep⟩, others, hothers⟩
      · rintro ⟨⟨keep, hkeep⟩, others, hothers⟩
        exact ⟨keep, hkeep, exists_bind_ok_iff.mpr ⟨others, hothers, _, rfl⟩⟩

omit [DecidableEq κ] in
theorem mem_of_keepM_ok {p : α → Except ε Bool} {l kept : List α} (h : keepM p l = .ok kept)
    (a : α) : a ∈ kept ↔ a ∈ l ∧ p a = .ok true := by
  induction l generalizing kept with
  | nil =>
      cases h
      simp
  | cons b rest ih =>
      rw [keepM] at h
      obtain ⟨keep, hkeep, h⟩ := bind_ok_iff.mp h
      obtain ⟨others, hothers, h⟩ := bind_ok_iff.mp h
      cases h
      have hrest := ih hothers
      cases keep with
      | true =>
          rw [if_pos rfl, List.mem_cons, hrest, List.mem_cons]
          constructor
          · rintro (rfl | ⟨hmem, ha⟩)
            · exact ⟨.inl rfl, hkeep⟩
            · exact ⟨.inr hmem, ha⟩
          · rintro ⟨rfl | hmem, ha⟩
            · exact .inl rfl
            · exact .inr ⟨hmem, ha⟩
      | false =>
          rw [if_neg (by simp), hrest, List.mem_cons]
          constructor
          · rintro ⟨hmem, ha⟩
            exact ⟨.inr hmem, ha⟩
          · rintro ⟨rfl | hmem, ha⟩
            · rw [hkeep] at ha
              cases ha
            · exact ⟨hmem, ha⟩

/-! ## Fallible searches -/

omit [DecidableEq κ] in
/-- A fallible search returns exactly when every test does that comes before the first hit. -/
theorem anyM_ok_iff {p : α → Except ε Bool} {l : List α} :
    (∃ found, l.anyM p = .ok found) ↔
      ∀ before a after, l = before ++ a :: after →
        (∃ b, p a = .ok b) ∨ ∃ x ∈ before, p x = .ok true := by
  induction l with
  | nil =>
      refine iff_of_true ⟨false, rfl⟩ fun before a after h => ?_
      cases before <;> cases h
  | cons head rest ih =>
      rw [List.anyM, exists_bind_ok_iff]
      constructor
      · rintro ⟨found, hfound, hrest⟩ before a after h
        cases before with
        | nil =>
            cases h
            exact .inl ⟨found, hfound⟩
        | cons first before =>
            cases h
            cases found with
            | true => exact .inr ⟨head, List.mem_cons_self, hfound⟩
            | false =>
                refine (ih.mp hrest before a after rfl).imp_right ?_
                rintro ⟨x, hx, hhit⟩
                exact ⟨x, List.mem_cons_of_mem _ hx, hhit⟩
      · intro h
        obtain ⟨found, hfound⟩ : ∃ found, p head = .ok found := by
          rcases h [] head rest rfl with hok | ⟨x, hx, -⟩
          · exact hok
          · cases hx
        refine ⟨found, hfound, ?_⟩
        cases found with
        | true => exact ⟨true, rfl⟩
        | false =>
            refine ih.mpr fun before a after hsplit => ?_
            refine (h (head :: before) a after (by rw [hsplit, List.cons_append])).imp_right ?_
            rintro ⟨x, hx, hhit⟩
            rcases List.mem_cons.mp hx with rfl | hx
            · rw [hfound] at hhit
              cases hhit
            · exact ⟨x, hx, hhit⟩

omit [DecidableEq κ] in
/-- The elements of a filtered list, each with those before it. -/
theorem forall_split_filter_iff {q : α → Bool} {l : List α} {P : List α → α → Prop} :
    (∀ before a after, l.filter q = before ++ a :: after → P before a) ↔
      ∀ before a after, l = before ++ a :: after → q a = true → P (before.filter q) a := by
  constructor
  · intro h before a after hsplit ha
    refine h _ a (after.filter q) ?_
    rw [hsplit, List.filter_append, List.filter_cons_of_pos ha]
  · intro h before a after hfilter
    obtain ⟨front, back, rfl, rfl, hback⟩ := List.filter_eq_append_iff.mp hfilter
    obtain ⟨skipped, rest, rfl, hskipped, ha, -⟩ := List.filter_eq_cons_iff.mp hback
    have hbefore := h (front ++ skipped) a rest (by rw [List.append_assoc]) ha
    rwa [List.filter_append, List.filter_eq_nil_iff.mpr hskipped, List.append_nil] at hbefore

/-! ## Collecting loops -/

/-- A loop over numbered items that appends what each of them contributes. -/
def collectFrom {β : Type} (f : Nat → α → Except ε (List β)) :
    Nat → List α → Except ε (List β)
  | _, [] => .ok []
  | i, a :: rest => do
      let first ← f i a
      let others ← collectFrom f (i + 1) rest
      return first ++ others

/-- Contributions put together, each marked with the number of its item. -/
def numbered {β : Type} (mark : Nat → β → β) : Nat → List (List β) → List β
  | _, [] => []
  | i, part :: rest => part.map (mark i) ++ numbered mark (i + 1) rest

omit [DecidableEq κ] in
/-- When the number of an item only marks its contribution, the loop is a fallible map
whose results are put together. -/
theorem collectFrom_eq {β : Type} {f : Nat → α → Except ε (List β)}
    {part : α → Except ε (List β)} {mark : Nat → β → β}
    (hf : ∀ i a, f i a = (part a).map (List.map (mark i))) (i : Nat) (l : List α) :
    collectFrom f i l = (l.mapM part).map (numbered mark i) := by
  induction l generalizing i with
  | nil => rfl
  | cons a rest ih =>
      rw [collectFrom, hf, ih, List.mapM_cons]
      cases part a with
      | error e => rfl
      | ok first => cases rest.mapM part <;> rfl

/-! ## Lists in which one member counts -/

omit [DecidableEq κ] in
/-- A filtered list in which one member counts. -/
theorem filterMap_of_unique {β : Type} {f : α → Option β} {l : List α} {a : α}
    (hnodup : l.Nodup) (hmem : a ∈ l) (hother : ∀ b ∈ l, b ≠ a → f b = none) :
    l.filterMap f = (f a).toList := by
  induction l with
  | nil => cases hmem
  | cons b rest ih =>
      rw [List.nodup_cons] at hnodup
      rcases List.mem_cons.mp hmem with rfl | hrest
      · have hnone : rest.filterMap f = [] := by
          rw [List.filterMap_eq_nil_iff]
          intro c hc
          apply hother c (List.mem_cons_of_mem _ hc)
          rintro rfl
          exact hnodup.1 hc
        cases hfa : f a with
        | none => simp [hfa, hnone]
        | some x => simp [hfa, hnone]
      · have hne : b ≠ a := by
          rintro rfl
          exact hnodup.1 hrest
        rw [List.filterMap_cons_none (hother b List.mem_cons_self hne)]
        exact ih hnodup.2 hrest fun c hc => hother c (List.mem_cons_of_mem _ hc)

omit [DecidableEq κ] in
/-- The last value of a list all of whose members have one. -/
theorem getLast?_filterMap {β : Type} {f : α → Option β} {l : List α}
    (h : ∀ a ∈ l, (f a).isSome) : (l.filterMap f).getLast? = l.getLast?.bind f := by
  induction l with
  | nil => rfl
  | cons a rest ih =>
      obtain ⟨x, hx⟩ := Option.isSome_iff_exists.mp (h a List.mem_cons_self)
      have hrest := ih fun b hb => h b (List.mem_cons_of_mem _ hb)
      rw [List.filterMap_cons_some hx, List.getLast?_cons, hrest, List.getLast?_cons]
      cases hlast : rest.getLast? with
      | none => simp [hx]
      | some b =>
          have hb := h b (List.mem_cons_of_mem _ (List.mem_of_getLast? hlast))
          obtain ⟨y, hy⟩ := Option.isSome_iff_exists.mp hb
          simp [hy]

end Writes
end FreeLunch
