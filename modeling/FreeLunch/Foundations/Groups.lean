import FreeLunch.Foundations.Tables
import Mathlib.Data.List.Sort
import Mathlib.Data.Finset.Card
import Mathlib.Order.Lattice

/-!
# Groups of sorted rows, and tallies

The loop over rows sorted by a key that gathers the rows of one key, flushes them at each change
of the key and once more at the end; the dictionary of counters; and the listing of such a
dictionary by falling count.

Main results:

- Theorem `exists_keys_pass`: over sorted rows the loop flushes each key's rows, all of them, once.
- Theorem `mem_tally_iff`: the counters hold how often each key was counted.
- Theorem `count_flatMap`: a key that each part lists at most once is counted once for
  each part that lists it.
-/

namespace FreeLunch
namespace Groups

variable {α κ σ ε : Type}

/-! ## The loop -/

section Pass

variable [LinearOrder κ]

/-- The loop, with the current key, the rows gathered so far and what was flushed. -/
def passFrom (key : α → κ) (flush : σ → List α → Except ε σ) :
    Option κ → List α → σ → List α → Except ε σ
  | _, gathered, s, [] => flush s gathered
  | current, gathered, s, row :: rest =>
      if key row = current.getD (key row) then
        passFrom key flush (some (current.getD (key row))) (gathered ++ [row]) s rest
      else do
        let flushed ← flush s gathered
        passFrom key flush (some (key row)) [row] flushed rest

/-- The rows of a key. -/
def group (key : α → κ) (rows : List α) (k : κ) : List α :=
  rows.filter fun row => key row = k

theorem mem_group_iff {key : α → κ} {rows : List α} {k : κ} {row : α} :
    row ∈ group key rows k ↔ row ∈ rows ∧ key row = k := by
  unfold group
  rw [List.mem_filter, decide_eq_true_eq]

theorem group_cons_self (key : α → κ) (row : α) (rest : List α) :
    group key (row :: rest) (key row) = row :: group key rest (key row) := by
  unfold group
  rw [List.filter_cons_of_pos (by simp)]

theorem group_cons_of_ne {key : α → κ} {row : α} {k : κ} (h : key row ≠ k) (rest : List α) :
    group key (row :: rest) k = group key rest k := by
  unfold group
  rw [List.filter_cons_of_neg (by simpa using h)]

/-- From a current key on, the loop flushes what is gathered with the rest of that key, and then
the rows of each later key. -/
theorem exists_keys_passFrom (key : α → κ) (flush : σ → List α → Except ε σ) {rows : List α}
    (hsorted : rows.Pairwise fun a b => key a ≤ key b) (k : κ)
    (hfirst : ∀ row ∈ rows, k ≤ key row) (gathered : List α) :
    ∃ keys : List κ, keys.Nodup ∧ (∀ x, x ∈ keys ↔ x ∈ rows.map key ∧ x ≠ k) ∧
      ∀ s, passFrom key flush (some k) gathered s rows =
        flush s (gathered ++ group key rows k) >>= fun flushed =>
          (keys.map (group key rows)).foldlM flush flushed := by
  induction rows generalizing k gathered with
  | nil =>
      refine ⟨[], List.nodup_nil, by simp, fun s => ?_⟩
      rw [passFrom]
      simp [group]
  | cons row rest ih =>
      obtain ⟨hle, hrest⟩ := List.pairwise_cons.mp hsorted
      by_cases hk : key row = k
      · have hfirst' : ∀ other ∈ rest, k ≤ key other :=
          fun other hother => hfirst other (List.mem_cons_of_mem _ hother)
        obtain ⟨keys, hnodup, hmem, hpass⟩ := ih hrest k hfirst' (gathered ++ [row])
        refine ⟨keys, hnodup, fun x => ?_, fun s => ?_⟩
        · rw [hmem, List.map_cons, List.mem_cons, hk]
          constructor
          · rintro ⟨hx, hne⟩
            exact ⟨.inr hx, hne⟩
          · rintro ⟨hx | hx, hne⟩
            · exact absurd hx hne
            · exact ⟨hx, hne⟩
        · have hgroups : keys.map (group key (row :: rest)) = keys.map (group key rest) := by
            apply List.map_congr_left
            intro x hx
            exact group_cons_of_ne (fun h => ((hmem x).mp hx).2 (h.symm.trans hk)) rest
          rw [passFrom, Option.getD_some, if_pos hk, hpass s, hgroups, ← hk, group_cons_self,
            List.append_assoc, List.singleton_append]
      · have hlt : k < key row := lt_of_le_of_ne (hfirst row (by simp)) (Ne.symm hk)
        obtain ⟨keys, hnodup, hmem, hpass⟩ := ih hrest (key row) hle [row]
        have habsent : ∀ other ∈ rest, key other ≠ k := by
          intro other hother h
          exact absurd (hle other hother) (by rw [h]; exact not_le.mpr hlt)
        have hgroup : group key (row :: rest) k = [] := by
          rw [group_cons_of_ne hk]
          unfold group
          rw [List.filter_eq_nil_iff]
          intro other hother
          simpa using habsent other hother
        have hgroups : keys.map (group key (row :: rest)) = keys.map (group key rest) := by
          apply List.map_congr_left
          intro x hx
          exact group_cons_of_ne (Ne.symm ((hmem x).mp hx).2) rest
        refine ⟨key row :: keys, ?_, fun x => ?_, fun s => ?_⟩
        · rw [List.nodup_cons]
          exact ⟨fun h => ((hmem _).mp h).2 rfl, hnodup⟩
        · rw [List.mem_cons, hmem, List.map_cons, List.mem_cons]
          constructor
          · rintro (rfl | ⟨hx, -⟩)
            · exact ⟨.inl rfl, hk⟩
            · obtain ⟨other, hother, rfl⟩ := List.mem_map.mp hx
              exact ⟨.inr hx, habsent other hother⟩
          · rintro ⟨rfl | hx, -⟩
            · exact .inl rfl
            · by_cases hxrow : x = key row
              · exact .inl hxrow
              · exact .inr ⟨hx, hxrow⟩
        · rw [passFrom, Option.getD_some, if_neg hk, hgroup, List.append_nil, List.map_cons,
            hgroups, group_cons_self]
          apply bind_congr
          intro flushed
          rw [hpass flushed, List.foldlM_cons, List.singleton_append]

/-- The whole loop. -/
def pass (key : α → κ) (flush : σ → List α → Except ε σ) (s : σ) (rows : List α) : Except ε σ :=
  passFrom key flush none [] s rows

/-- Over sorted rows the loop flushes the rows of each key once. -/
theorem exists_keys_pass (key : α → κ) {flush : σ → List α → Except ε σ}
    (hempty : ∀ s, flush s [] = .ok s) {rows : List α}
    (hsorted : rows.Pairwise fun a b => key a ≤ key b) :
    ∃ keys : List κ, keys.Nodup ∧ (∀ x, x ∈ keys ↔ x ∈ rows.map key) ∧
      ∀ s, pass key flush s rows = (keys.map (group key rows)).foldlM flush s := by
  unfold pass
  cases rows with
  | nil =>
      refine ⟨[], List.nodup_nil, by simp, fun s => ?_⟩
      rw [passFrom, hempty]
      rfl
  | cons row rest =>
      obtain ⟨hle, -⟩ := List.pairwise_cons.mp hsorted
      have hfirst : ∀ other ∈ row :: rest, key row ≤ key other := by
        intro other hother
        rcases List.mem_cons.mp hother with rfl | hother
        · exact le_refl _
        · exact hle other hother
      obtain ⟨keys, hnodup, hmem, hpass⟩ :=
        exists_keys_passFrom key flush hsorted (key row) hfirst []
      refine ⟨key row :: keys, ?_, fun x => ?_, fun s => ?_⟩
      · rw [List.nodup_cons]
        exact ⟨fun h => ((hmem _).mp h).2 rfl, hnodup⟩
      · rw [List.mem_cons, hmem]
        constructor
        · rintro (rfl | ⟨hx, -⟩)
          · simp
          · exact hx
        · intro hx
          by_cases hxrow : x = key row
          · exact .inl hxrow
          · exact .inr ⟨hx, hxrow⟩
      · have hstart : passFrom key flush none [] s (row :: rest) =
            passFrom key flush (some (key row)) [] s (row :: rest) := by
          rw [passFrom, passFrom]
          rfl
        rw [hstart, hpass s, List.map_cons, List.foldlM_cons, List.nil_append]

end Pass

/-! ## Tallies -/

section Tally

variable [DecidableEq κ]

/-- An item counted once more. -/
def addOne (item : κ × ℕ) : κ × ℕ :=
  (item.1, item.2 + 1)

omit [DecidableEq κ] in
theorem fst_addOne (item : κ × ℕ) : (addOne item).1 = item.1 :=
  rfl

omit [DecidableEq κ] in
theorem fst_once (k : κ) : (k, 1).1 = k :=
  rfl

/-- `counts[k] += 1` on a `defaultdict(int)`. -/
def increment (counts : List (κ × ℕ)) (k : κ) : List (κ × ℕ) :=
  Tables.upsert Prod.fst k (k, 1) addOne counts

/-- `counts.get(k, 0)`. -/
def countOf (counts : List (κ × ℕ)) (k : κ) : ℕ :=
  ((Tables.lookup Prod.fst k counts).map Prod.snd).getD 0

theorem countOf_increment (counts : List (κ × ℕ)) (k x : κ) :
    countOf (increment counts k) x = countOf counts x + if x = k then 1 else 0 := by
  unfold countOf increment
  by_cases hx : x = k
  · rw [hx, if_pos rfl, Tables.lookup_upsert_self (fst_once k) fst_addOne]
    cases Tables.lookup Prod.fst k counts <;> simp [addOne]
  · rw [if_neg hx, Tables.lookup_upsert_of_ne (fst_once k) fst_addOne hx, Nat.add_zero]

/-- Every key of the counters is there once, and was counted. -/
structure Counted (counts : List (κ × ℕ)) : Prop where
  nodup : (counts.map Prod.fst).Nodup
  positive : ∀ item ∈ counts, 0 < item.2

theorem Counted.increment {counts : List (κ × ℕ)} (h : Counted counts) (k : κ) :
    Counted (increment counts k) where
  nodup := Tables.nodup_upsert (fst_once k) fst_addOne h.nodup
  positive := by
    unfold Groups.increment Tables.upsert
    split
    · exact Tables.forall_mem_updateWhere h.positive fun item _ _ => Nat.succ_pos _
    · intro item hitem
      rcases List.mem_append.mp hitem with hitem | hitem
      · exact h.positive item hitem
      · rw [List.mem_singleton.mp hitem]
        exact Nat.one_pos

/-- The counters after a list of increments. -/
def tallyFrom (counts : List (κ × ℕ)) (ks : List κ) : List (κ × ℕ) :=
  ks.foldl increment counts

theorem Counted.tallyFrom {counts : List (κ × ℕ)} (h : Counted counts) (ks : List κ) :
    Counted (tallyFrom counts ks) := by
  unfold Groups.tallyFrom
  induction ks generalizing counts with
  | nil => exact h
  | cons k rest ih => exact ih (h.increment k)

theorem tallyFrom_append (counts : List (κ × ℕ)) (ks js : List κ) :
    tallyFrom (tallyFrom counts ks) js = tallyFrom counts (ks ++ js) := by
  unfold tallyFrom
  rw [List.foldl_append]

theorem countOf_tallyFrom (counts : List (κ × ℕ)) (ks : List κ) (x : κ) :
    countOf (tallyFrom counts ks) x = countOf counts x + ks.count x := by
  unfold tallyFrom
  induction ks generalizing counts with
  | nil => simp
  | cons k rest ih =>
      rw [List.foldl_cons, ih, countOf_increment, List.count_cons]
      have hcomm : (x = k) ↔ (k == x) = true := by
        rw [beq_iff_eq]
        exact eq_comm
      rw [if_congr hcomm rfl rfl]
      omega

theorem Counted.mem_iff {counts : List (κ × ℕ)} (h : Counted counts) (item : κ × ℕ) :
    item ∈ counts ↔ item.2 = countOf counts item.1 ∧ 0 < item.2 := by
  unfold countOf
  constructor
  · intro hitem
    have hlookup : Tables.lookup Prod.fst item.1 counts = some item :=
      (Tables.lookup_eq_some_iff h.nodup).mpr ⟨hitem, rfl⟩
    rw [hlookup]
    exact ⟨rfl, h.positive item hitem⟩
  · rintro ⟨hcount, hpos⟩
    cases hlookup : Tables.lookup Prod.fst item.1 counts with
    | none =>
        rw [hlookup] at hcount
        simp only [Option.map_none, Option.getD_none] at hcount
        omega
    | some found =>
        obtain ⟨hfound, hkey⟩ := (Tables.lookup_eq_some_iff h.nodup).mp hlookup
        rw [hlookup] at hcount
        have heq : found = item := Prod.ext hkey hcount.symm
        rw [← heq]
        exact hfound

omit [DecidableEq κ] in
theorem counted_nil : Counted ([] : List (κ × ℕ)) where
  nodup := List.nodup_nil
  positive := by simp

/-- What the counters hold after a list of increments. -/
theorem mem_tally_iff (ks : List κ) (item : κ × ℕ) :
    item ∈ tallyFrom [] ks ↔ item.2 = ks.count item.1 ∧ 0 < item.2 := by
  rw [(counted_nil.tallyFrom ks).mem_iff, countOf_tallyFrom]
  simp [countOf, Tables.lookup]

/-- A key that each part lists at most once is counted once for each part that lists it. -/
theorem count_flatMap {β : Type} {f : β → List κ} (hnodup : ∀ b, (f b).Nodup) (l : List β)
    (x : κ) : (l.flatMap f).count x = (l.filter fun b => x ∈ f b).length := by
  induction l with
  | nil => rfl
  | cons b rest ih =>
      rw [List.flatMap_cons, List.count_append, ih]
      by_cases hx : x ∈ f b
      · rw [List.filter_cons_of_pos (by simpa using hx), List.count_eq_one_of_mem (hnodup b) hx,
          List.length_cons]
        omega
      · rw [List.filter_cons_of_neg (by simpa using hx), List.count_eq_zero_of_not_mem hx]
        omega

end Tally

/-! ## Listing a tally -/

section Listing

variable [LinearOrder κ]

/-- The key `(-count, name)` of the sorting, compared. -/
def CountedBefore (a b : κ × ℕ) : Prop :=
  b.2 < a.2 ∨ a.2 = b.2 ∧ a.1 ≤ b.1

instance (a b : κ × ℕ) : Decidable (CountedBefore a b) :=
  inferInstanceAs (Decidable (_ ∨ _))

/-- `sorted(counts.items(), key=lambda item: (-item[1], item[0]))`. -/
def byCount (counts : List (κ × ℕ)) : List (κ × ℕ) :=
  counts.insertionSort CountedBefore

instance : Std.Total (CountedBefore (κ := κ)) where
  total a b := by
    unfold CountedBefore
    rcases lt_trichotomy a.2 b.2 with h | h | h
    · exact .inr (.inl h)
    · rcases le_total a.1 b.1 with hle | hle
      · exact .inl (.inr ⟨h, hle⟩)
      · exact .inr (.inr ⟨h.symm, hle⟩)
    · exact .inl (.inl h)

instance : IsTrans (κ × ℕ) CountedBefore where
  trans a b c := by
    unfold CountedBefore
    rintro (hab | ⟨hab, hleft⟩) (hbc | ⟨hbc, hright⟩)
    · exact .inl (hbc.trans hab)
    · exact .inl (hbc ▸ hab)
    · exact .inl (hab ▸ hbc)
    · exact .inr ⟨hab.trans hbc, hleft.trans hright⟩

theorem mem_byCount_iff {counts : List (κ × ℕ)} {item : κ × ℕ} :
    item ∈ byCount counts ↔ item ∈ counts :=
  List.mem_insertionSort _

theorem pairwise_byCount (counts : List (κ × ℕ)) : (byCount counts).Pairwise CountedBefore :=
  List.pairwise_insertionSort _ counts

end Listing

end Groups
end FreeLunch
