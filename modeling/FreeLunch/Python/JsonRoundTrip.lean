import FreeLunch.Foundations.Writes
import FreeLunch.Python.JsonExtension
import Mathlib.Tactic.IntervalCases

/-!
# Reading back what `json.dumps` writes

`json.loads` reads the text of a value back as that value, as long as the value nests no deeper
than the scanner can follow; integers beyond the limit of `int()` have no text.

Main results:

- Theorem `loads_dumps`: a value is read back from its text.
- Theorem `loads_dumps_of_deep`: a value that nests too deep raises instead.
-/

namespace FreeLunch
namespace Python

open Writes

/-! ## Digits -/

theorem hexDigit_digitChar {n : Nat} (h : n < 16) : hexDigit n.digitChar = some n := by
  interval_cases n <;> decide

theorem asciiDigit_digitChar {n : Nat} (h : n < 10) : asciiDigit n.digitChar = some n := by
  interval_cases n <;> decide

/-- Four hexadecimal digits, the leading ones perhaps zero. -/
theorem hexText_four {n : Nat} (h : n < 0x10000) :
    hexText 4 n = [(n / 0x1000).digitChar, (n / 0x100 % 16).digitChar,
      (n / 0x10 % 16).digitChar, (n % 16).digitChar] := by
  have hstep : ∀ m, 16 ≤ m → Nat.toDigits 16 m =
      Nat.toDigits 16 (m / 16) ++ [(m % 16).digitChar] :=
    fun m hm => Nat.toDigits_of_base_le (by decide) hm
  have hlast : ∀ m, m < 16 → Nat.toDigits 16 m = [m.digitChar] :=
    fun m hm => Nat.toDigits_of_lt_base hm
  have hzero : Nat.digitChar 0 = '0' := rfl
  unfold hexText
  by_cases h₁ : n < 16
  · have hd₁ : n / 0x10 % 16 = 0 := by omega
    have hd₂ : n / 0x100 % 16 = 0 := by omega
    have hd₃ : n / 0x1000 = 0 := by omega
    have hmod : n % 16 = n := by omega
    rw [hlast n h₁, hd₁, hd₂, hd₃, hmod, hzero]
    rfl
  · by_cases h₂ : n < 0x100
    · have hd₂ : n / 0x100 % 16 = 0 := by omega
      have hd₃ : n / 0x1000 = 0 := by omega
      have hmod : n / 0x10 % 16 = n / 16 := by omega
      rw [hstep n (by omega), hlast (n / 16) (by omega), hd₂, hd₃, hmod, hzero]
      rfl
    · by_cases h₃ : n < 0x1000
      · have hd₃ : n / 0x1000 = 0 := by omega
        have hmod : n / 0x100 % 16 = n / 16 / 16 := by omega
        rw [hstep n (by omega), hstep (n / 16) (by omega), hlast (n / 16 / 16) (by omega), hd₃,
          hmod, hzero]
        rfl
      · have hd₃ : n / 0x1000 = n / 16 / 16 / 16 := by omega
        have hd₂ : n / 0x100 = n / 16 / 16 := by omega
        rw [hstep n (by omega), hstep (n / 16) (by omega), hstep (n / 16 / 16) (by omega),
          hlast (n / 16 / 16 / 16) (by omega), hd₃, hd₂]
        rfl

/-- Four hexadecimal digits are read back. -/
theorem scanHex4_hexText {n : Nat} (h : n < 0x10000) (rest : List Char) :
    scanHex4 (hexText 4 n ++ rest) = some (n, rest) := by
  have hsum : n / 0x1000 * 0x1000 + n / 0x100 % 16 * 0x100 + n / 0x10 % 16 * 0x10 + n % 16 = n := by
    omega
  rw [hexText_four h]
  simp only [List.cons_append, List.nil_append, scanHex4]
  rw [hexDigit_digitChar (by omega), hexDigit_digitChar (by omega), hexDigit_digitChar (by omega),
    hexDigit_digitChar (by omega)]
  simp only [Option.bind_eq_bind, Option.bind_some, Option.pure_def, hsum]

/-! ## Strings -/

/-- No character is a surrogate. -/
theorem not_surrogate (c : Char) : ¬ (0xd800 ≤ c.toNat ∧ c.toNat ≤ 0xdfff) := by
  have hvalid : c.toNat.isValidChar := c.valid
  unfold Nat.isValidChar at hvalid
  omega

/-- The escape of a character of the basic plane. -/
theorem scanUnicodeEscape_basic {c : Char} (h : c.toNat < 0x10000) (rest : List Char) :
    scanUnicodeEscape (hexText 4 c.toNat ++ rest) = some (c, rest) := by
  have hno := not_surrogate c
  unfold scanUnicodeEscape
  rw [scanHex4_hexText h]
  simp only [Option.bind_eq_bind, Option.bind_some]
  rw [if_neg (by simp only [Bool.and_eq_true, decide_eq_true_eq]; omega),
    if_neg (by simp only [Bool.and_eq_true, decide_eq_true_eq]; omega), Char.ofNat_toNat,
    Option.pure_def]

/-- The two escapes of a character beyond it. -/
theorem scanUnicodeEscape_pair {high low : Nat} {c : Char} (hhigh : 0xd800 ≤ high)
    (hhigh' : high ≤ 0xdbff) (hlow : 0xdc00 ≤ low) (hlow' : low ≤ 0xdfff)
    (hjoin : joinSurrogates high low = c.toNat) (rest : List Char) :
    scanUnicodeEscape (hexText 4 high ++ '\\' :: 'u' :: (hexText 4 low ++ rest)) =
      some (c, rest) := by
  unfold scanUnicodeEscape
  rw [scanHex4_hexText (by omega)]
  simp only [Option.bind_eq_bind, Option.bind_some]
  rw [if_pos (by simp only [Bool.and_eq_true, decide_eq_true_eq]; omega),
    scanHex4_hexText (by omega)]
  simp only
  rw [if_pos (by simp only [Bool.and_eq_true, decide_eq_true_eq]; omega), hjoin, Char.ofNat_toNat,
    Option.pure_def]

theorem scanString_unicode {fuel : Nat} {acc text rest : List Char} {c : Char}
    (h : scanUnicodeEscape text = some (c, rest)) :
    scanString (fuel + 1) acc ('\\' :: 'u' :: text) = scanString fuel (c :: acc) rest := by
  rw [scanString, h]

/-- The escapes of a character beyond the basic plane, from the place `n` of it there. -/
theorem scanString_pair {c : Char} {n : Nat} (hc : ¬ c.toNat < 0x10000)
    (hn : n = c.toNat - 0x10000) (fuel : Nat) (acc rest : List Char) :
    scanString (fuel + 1) acc (('\\' :: 'u' :: hexText 4 (0xd800 + n / 0x400) ++
      '\\' :: 'u' :: hexText 4 (0xdc00 + n % 0x400)) ++ rest) =
      scanString fuel (c :: acc) rest := by
  have hvalid : c.toNat.isValidChar := c.valid
  unfold Nat.isValidChar at hvalid
  have hplace : c.toNat = n + 0x10000 := by omega
  have hjoin : joinSurrogates (0xd800 + n / 0x400) (0xdc00 + n % 0x400) = c.toNat := by
    unfold joinSurrogates
    omega
  simp only [List.cons_append, List.append_assoc]
  exact scanString_unicode (scanUnicodeEscape_pair (by omega) (by omega) (by omega) (by omega)
    hjoin rest)

/-- One character is read back. -/
theorem scanString_dumpChar (fuel : Nat) (acc : List Char) (c : Char) (rest : List Char) :
    scanString (fuel + 1) acc (dumpChar c ++ rest) = scanString fuel (c :: acc) rest := by
  unfold dumpChar
  by_cases hquote : c = '"'
  · rw [if_pos hquote, hquote]
    rfl
  rw [if_neg hquote]
  by_cases hback : c = '\\'
  · rw [if_pos hback, hback]
    rfl
  rw [if_neg hback]
  by_cases hn : c = '\n'
  · rw [if_pos hn, hn]
    rfl
  rw [if_neg hn]
  by_cases hr : c = '\r'
  · rw [if_pos hr, hr]
    rfl
  rw [if_neg hr]
  by_cases ht : c = '\t'
  · rw [if_pos ht, ht]
    rfl
  rw [if_neg ht]
  by_cases hf : c = '\x0c'
  · rw [if_pos hf, hf]
    rfl
  rw [if_neg hf]
  by_cases hb : c = '\x08'
  · rw [if_pos hb, hb]
    rfl
  rw [if_neg hb]
  by_cases hplain : (0x20 ≤ c.toNat && c.toNat ≤ 0x7e) = true
  · rw [if_pos hplain, List.cons_append, List.nil_append, scanString_plain hquote hback,
      if_neg ?_]
    simp only [Bool.and_eq_true, decide_eq_true_eq] at hplain
    omega
  rw [if_neg hplain]
  by_cases hbasic : c.toNat < 0x10000
  · rw [if_pos hbasic, List.cons_append, List.cons_append]
    exact scanString_unicode (scanUnicodeEscape_basic hbasic rest)
  · rw [if_neg hbasic]
    exact scanString_pair hbasic rfl fuel acc rest

theorem dumpChar_ne_nil (c : Char) : dumpChar c ≠ [] := by
  intro hnil
  have hread := scanString_dumpChar 0 [] c ['"']
  rw [hnil] at hread
  cases hread

/-- A string is read back up to its closing quote. -/
theorem scanString_flatMap (s : List Char) {fuel : Nat} (hfuel : s.length < fuel)
    (acc rest : List Char) :
    scanString fuel acc (s.flatMap dumpChar ++ '"' :: rest) = .ok (acc.reverse ++ s, rest) := by
  induction s generalizing fuel acc with
  | nil =>
      obtain ⟨k, rfl⟩ : ∃ k, fuel = k + 1 := ⟨fuel - 1, by omega⟩
      rw [List.flatMap_nil, List.nil_append, List.append_nil]
      rfl
  | cons c s ih =>
      obtain ⟨k, rfl⟩ : ∃ k, fuel = k + 1 := ⟨fuel - 1, by omega⟩
      rw [List.length_cons] at hfuel
      rw [List.flatMap_cons, List.append_assoc, scanString_dumpChar, ih (by omega),
        List.reverse_cons, List.append_assoc, List.singleton_append]

theorem length_le_flatMap_dumpChar (s : List Char) :
    s.length ≤ (s.flatMap dumpChar).length := by
  induction s with
  | nil => exact Nat.le_refl 0
  | cons c s ih =>
      have hpos : 0 < (dumpChar c).length := List.length_pos_iff.mpr (dumpChar_ne_nil c)
      rw [List.flatMap_cons, List.length_append, List.length_cons]
      omega

/-- The text of a string literal. -/
theorem toList_dumpString (s : String) :
    (dumpString s).toList = '"' :: (s.toList.flatMap dumpChar ++ ['"']) := by
  unfold dumpString
  rw [String.toList_ofList, List.cons_append]

/-! ## Integers -/

/-- What comes after a value: nothing, or a character that can follow one. -/
def Ends (rest : List Char) : Prop :=
  rest = [] ∨ Followed rest

theorem Ends.of_cons {c : Char} (h : isFollower c = true) (rest : List Char) : Ends (c :: rest) :=
  .inr ⟨c, rest, rfl, h⟩

/-- The digits of a number as the characters that stand for them. -/
theorem toDigits_eq_map (n : Nat) :
    ∃ ds : List Nat, Nat.toDigits 10 n = ds.map Nat.digitChar ∧ (∀ d ∈ ds, d < 10) ∧
      ofDigits ds = n := by
  induction n using Nat.strong_induction_on with
  | _ n ih =>
      by_cases hlt : n < 10
      · refine ⟨[n], by rw [Nat.toDigits_of_lt_base hlt]; rfl, by simpa using hlt, ?_⟩
        simp [ofDigits]
      · obtain ⟨ds, htext, hds, hvalue⟩ := ih (n / 10) (by omega)
        refine ⟨ds ++ [n % 10], ?_, ?_, ?_⟩
        · rw [Nat.toDigits_of_base_le (by decide) (by omega), htext, List.map_append]
          rfl
        · intro d hd
          rcases List.mem_append.mp hd with hd | hd
          · exact hds d hd
          · rw [List.mem_singleton.mp hd]
            omega
        · unfold ofDigits at hvalue ⊢
          rw [List.foldl_append, hvalue]
          simp only [List.foldl_cons, List.foldl_nil]
          omega

/-- A number is written with a digit first, which is a zero only for zero itself. -/
theorem exists_head_toDigits (n : Nat) :
    ∃ c tail, Nat.toDigits 10 n = c :: tail ∧ (asciiDigit c).isSome ∧ (0 < n → c ≠ '0') := by
  induction n using Nat.strong_induction_on with
  | _ n ih =>
      by_cases hlt : n < 10
      · refine ⟨n.digitChar, [], Nat.toDigits_of_lt_base hlt, ?_, ?_⟩
        · rw [asciiDigit_digitChar hlt]
          rfl
        · intro hpos
          interval_cases n <;> decide
      · obtain ⟨c, tail, htext, hdigit, hzero⟩ := ih (n / 10) (by omega)
        refine ⟨c, tail ++ [(n % 10).digitChar], ?_, hdigit, fun _ => hzero (by omega)⟩
        rw [Nat.toDigits_of_base_le (by decide) (by omega), htext, List.cons_append]

theorem spanDigits_map_digitChar {ds : List Nat} (hds : ∀ d ∈ ds, d < 10) {rest : List Char}
    (hrest : spanDigits rest = ([], rest)) :
    spanDigits (ds.map Nat.digitChar ++ rest) = (ds, rest) := by
  induction ds with
  | nil => exact hrest
  | cons d ds ih =>
      rw [List.forall_mem_cons] at hds
      rw [List.map_cons, List.cons_append, spanDigits, asciiDigit_digitChar hds.1, ih hds.2]

/-- No number goes on where a value ends. -/
theorem Ends.no_number {rest : List Char} (h : Ends rest) :
    spanDigits rest = ([], rest) ∧ scanFraction rest = none ∧ scanExponent rest = none := by
  rcases h with rfl | ⟨c, tail, rfl, hc⟩
  · exact ⟨rfl, rfl, rfl⟩
  · obtain ⟨hdigit, hpoint, he, hE⟩ := isFollower_cases hc
    refine ⟨?_, scanFraction_of_head hpoint tail, scanExponent_of_head he hE tail⟩
    rw [spanDigits, hdigit]

/-- The digits of a number are read back. -/
theorem scanWhole_toDigits (n : Nat) {rest : List Char} (h : Ends rest) :
    ∃ digits, scanWhole (Nat.toDigits 10 n ++ rest) = (digits, rest) ∧ ofDigits digits = n ∧
      digits.length = (Nat.toDigits 10 n).length := by
  rcases Nat.eq_zero_or_pos n with rfl | hpos
  · exact ⟨[0], rfl, rfl, rfl⟩
  · obtain ⟨ds, htext, hds, hvalue⟩ := toDigits_eq_map n
    obtain ⟨c, tail, hhead, -, hzero⟩ := exists_head_toDigits n
    refine ⟨ds, ?_, hvalue, by rw [htext, List.length_map]⟩
    have hwhole : scanWhole (Nat.toDigits 10 n ++ rest) =
        spanDigits (Nat.toDigits 10 n ++ rest) := by
      rw [hhead, List.cons_append]
      unfold scanWhole
      split
      · rename_i heq
        exact absurd (List.cons.inj heq).1 (hzero hpos)
      · rfl
    rw [hwhole, htext]
    exact spanDigits_map_digitChar hds h.no_number.1

variable {F : Type} [Runtime F]

theorem scanNumber_toDigits (negative : Bool) {n : Nat}
    (hn : (Nat.toDigits 10 n).length ≤ maxStrDigits) {rest : List Char} (h : Ends rest) :
    scanNumber (F := F) negative (Nat.toDigits 10 n ++ rest) =
      .ok (.int (if negative then -(n : Int) else n), rest) := by
  obtain ⟨digits, hwhole, hvalue, hlength⟩ := scanWhole_toDigits n h
  obtain ⟨-, hfraction, hexponent⟩ := h.no_number
  have hne : digits ≠ [] := by
    rintro rfl
    obtain ⟨c, tail, hhead, -⟩ := exists_head_toDigits n
    rw [hhead] at hlength
    cases hlength
  rw [scanNumber_eq, hwhole, if_neg (by simpa using hne), hfraction]
  dsimp only [Option.elim]
  rw [hexponent]
  dsimp only
  rw [if_neg (by omega)]
  unfold signedDigits
  rw [hvalue]

/-- The digits that an integer is written with, its sign aside. -/
def digitCount (n : Int) : Nat :=
  (Nat.toDigits 10 n.natAbs).length

/-- An integer is read back. -/
theorem scanScalar_intText {n : Int} (hn : digitCount n ≤ maxStrDigits) {rest : List Char}
    (h : Ends rest) :
    scanScalar (F := F) ((intText n).toList ++ rest) = .ok (.int n, rest) := by
  unfold digitCount at hn
  cases n with
  | ofNat m =>
      obtain ⟨c, tail, hhead, hdigit, -⟩ := exists_head_toDigits m
      have htext : (intText (Int.ofNat m)).toList = Nat.toDigits 10 m := Nat.toList_repr
      change (Nat.toDigits 10 m).length ≤ maxStrDigits at hn
      rw [htext, hhead, List.cons_append, scanScalar_digit hdigit, ← List.cons_append, ← hhead,
        scanNumber_toDigits false hn h]
      rfl
  | negSucc m =>
      obtain ⟨c, tail, hhead, hdigit, -⟩ := exists_head_toDigits (m + 1)
      have htext : (intText (Int.negSucc m)).toList = '-' :: Nat.toDigits 10 (m + 1) := by
        have hsign : intText (Int.negSucc m) = "-" ++ Nat.repr (m + 1) := rfl
        rw [hsign, String.toList_append, Nat.toList_repr]
        rfl
      change (Nat.toDigits 10 (m + 1)).length ≤ maxStrDigits at hn
      rw [htext, hhead, List.cons_append, List.cons_append, scanScalar_minus hdigit,
        ← List.cons_append, ← hhead, scanNumber_toDigits true hn h]
      rfl

/-! ## Values -/

section Parts

variable {F : Type}

mutual

/-- A value and everything in it. -/
def PyValue.parts : PyValue F → List (PyValue F)
  | .list items => .list items :: itemParts items
  | .dict members => .dict members :: memberParts members
  | .none => [.none]
  | .bool b => [.bool b]
  | .int n => [.int n]
  | .float x => [.float x]
  | .str s => [.str s]

/-- Everything in the items of a list. -/
def itemParts : List (PyValue F) → List (PyValue F)
  | [] => []
  | v :: rest => v.parts ++ itemParts rest

/-- Everything in the members of a dictionary. -/
def memberParts : List (String × PyValue F) → List (PyValue F)
  | [] => []
  | (_, v) :: rest => v.parts ++ memberParts rest

end

end Parts

/-- What the text of a value depends on: an integer has no more digits than `int()` reads, the
text of a float is one token that stands for it, and the keys of a dictionary are distinct. -/
def PyValue.Legible : PyValue F → Prop
  | .int n => digitCount n ≤ maxStrDigits
  | .float x => ∀ rest, Ends rest →
      scanScalar ((Runtime.floatJson x).toList ++ rest) = .ok (.float x, rest)
  | .dict members => (members.map Prod.fst).Nodup
  | .none | .bool _ | .str _ | .list _ => True

/-- What is assumed of the text of a float: it is one token, which stands for that float. -/
class LawfulJson (F : Type) [Runtime F] : Prop where
  legible_float : ∀ x : F, (PyValue.float x).Legible

/-- A value starts with something besides whitespace, which does not close an array and is no
byte order mark. -/
theorem head_of_scanValue {fuel depth : Nat} {text rest : List Char} {v : PyValue F}
    (h : scanValue fuel depth text = .ok (v, rest)) :
    ∃ c tail, text = c :: tail ∧ isJsonSpace c = false ∧ c ≠ ']' ∧ c ≠ '\ufeff' := by
  cases text with
  | nil => exact absurd rfl (ne_nil_of_scanValue h)
  | cons c tail =>
      refine ⟨c, tail, rfl, ?_⟩
      by_contra hhead
      have hcases : c = ' ' ∨ c = '\t' ∨ c = '\n' ∨ c = '\r' ∨ c = ']' ∨ c = '\ufeff' := by
        simp only [isJsonSpace, Bool.or_eq_false_iff, beq_eq_false_iff_ne] at hhead
        tauto
      cases fuel with
      | zero => cases h
      | succ fuel =>
          rcases hcases with rfl | rfl | rfl | rfl | rfl | rfl <;> cases h

theorem skipSpace_of_scanValue {fuel depth : Nat} {text rest : List Char} {v : PyValue F}
    (h : scanValue fuel depth text = .ok (v, rest)) : skipSpace text = text := by
  obtain ⟨c, tail, rfl, hc, -⟩ := head_of_scanValue h
  exact List.dropWhile_cons_of_neg (by rw [hc]; exact Bool.false_ne_true)

/-- The text of a value is read back wherever a value can end. -/
def ReadBack (v : PyValue F) : Prop :=
  ∀ fuel depth rest, 2 * (dumps v).toList.length ≤ fuel → v.nesting ≤ depth → Ends rest →
    scanValue fuel depth ((dumps v).toList ++ rest) = .ok (v, rest)

/-- The text between the brackets of a list. -/
def itemsText (items : List (PyValue F)) : List Char :=
  (", ".intercalate (dumpItems items)).toList

theorem itemsText_singleton (v : PyValue F) : itemsText [v] = (dumps v).toList := by
  unfold itemsText
  rw [dumpItems, dumpItems, String.intercalate_singleton]

theorem itemsText_cons (v w : PyValue F) (rest : List (PyValue F)) :
    itemsText (v :: w :: rest) = (dumps v).toList ++ ',' :: ' ' :: itemsText (w :: rest) := by
  unfold itemsText
  rw [dumpItems, dumpItems, String.intercalate_cons_cons, ← dumpItems, String.toList_append,
    String.toList_append, List.append_assoc]
  rfl

/-- The items of a list are read back up to its closing bracket. -/
def ItemsReadBack (items : List (PyValue F)) : Prop :=
  ∀ fuel depth rest, 2 * (itemsText items).length + 1 ≤ fuel → itemNesting items ≤ depth →
    scanItems fuel depth (itemsText items ++ ']' :: rest) = .ok (items, rest)

theorem itemsReadBack_singleton {v : PyValue F} (hv : ReadBack v) : ItemsReadBack [v] := by
  intro fuel depth rest hfuel hdepth
  obtain ⟨k, rfl⟩ : ∃ k, fuel = k + 1 := ⟨fuel - 1, by omega⟩
  rw [itemsText_singleton] at hfuel ⊢
  rw [itemNesting, itemNesting, Nat.max_zero] at hdepth
  exact scanItems_last (hv k depth (']' :: rest) (by omega) hdepth (.of_cons rfl rest)) rfl

/-- So do the items of a list. -/
theorem head_of_scanItems {fuel depth : Nat} {text rest : List Char} {items : List (PyValue F)}
    (h : scanItems fuel depth text = .ok (items, rest)) :
    skipSpace text = text ∧ ∀ after, text ≠ ']' :: after := by
  cases fuel with
  | zero => cases h
  | succ fuel =>
      obtain ⟨v, left, hvalue, -⟩ := scanItems_cases h
      refine ⟨skipSpace_of_scanValue hvalue, ?_⟩
      rintro after rfl
      obtain ⟨c, tail, heq, -, hc, -⟩ := head_of_scanValue hvalue
      exact hc (List.cons.inj heq).1.symm

theorem itemsReadBack_cons_cons {v w : PyValue F} {items : List (PyValue F)} (hv : ReadBack v)
    (hitems : ItemsReadBack (w :: items)) : ItemsReadBack (v :: w :: items) := by
  intro fuel depth rest hfuel hdepth
  obtain ⟨k, rfl⟩ : ∃ k, fuel = k + 1 := ⟨fuel - 1, by omega⟩
  rw [itemsText_cons, List.length_append, List.length_cons, List.length_cons] at hfuel
  rw [itemNesting] at hdepth
  have hmore := hitems k depth rest (by omega) (by omega)
  have hskip : skipSpace (' ' :: (itemsText (w :: items) ++ ']' :: rest)) =
      itemsText (w :: items) ++ ']' :: rest :=
    (head_of_scanItems hmore).1
  rw [itemsText_cons, List.append_assoc, List.cons_append, List.cons_append,
    scanItems_more (hv k depth _ (by omega) (by omega) (.of_cons rfl _)) rfl, hskip, hmore]
  rfl

theorem itemsReadBack_cons {v : PyValue F} {items : List (PyValue F)} (hv : ReadBack v)
    (hitems : items = [] ∨ ItemsReadBack items) : ItemsReadBack (v :: items) := by
  cases items with
  | nil => exact itemsReadBack_singleton hv
  | cons w items =>
      rcases hitems with hnil | hitems
      · cases hnil
      · exact itemsReadBack_cons_cons hv hitems

theorem toList_list (items : List (PyValue F)) :
    (dumps (.list items)).toList = '[' :: (itemsText items ++ [']']) := by
  rw [dumps, String.toList_append, String.toList_append]
  rfl

/-- A list is read back when its items are. -/
theorem readBack_list {items : List (PyValue F)} (h : items = [] ∨ ItemsReadBack items) :
    ReadBack (.list items) := by
  intro fuel depth rest hfuel hdepth hends
  rw [PyValue.nesting] at hdepth
  obtain ⟨d, rfl⟩ : ∃ d, depth = d + 1 := ⟨depth - 1, by omega⟩
  rw [toList_list, List.length_cons, List.length_append] at hfuel
  obtain ⟨k, rfl⟩ : ∃ k, fuel = k + 1 := ⟨fuel - 1, by omega⟩
  rw [toList_list, List.cons_append, List.append_assoc, List.singleton_append]
  rcases h with rfl | hitems
  · rfl
  · have hread := hitems k d rest (by omega) (by omega)
    obtain ⟨hskip, hclose⟩ := head_of_scanItems hread
    rw [scanValue_items (by rw [hskip]; exact hclose), hskip, hread]
    rfl

/-- The text between the braces of a dictionary. -/
def membersText (members : List (String × PyValue F)) : List Char :=
  (", ".intercalate (dumpMembers members)).toList

/-- The text of one member. -/
def memberText (key : String) (v : PyValue F) : List Char :=
  '"' :: (key.toList.flatMap dumpChar ++ '"' :: ':' :: ' ' :: (dumps v).toList)

theorem toList_member (key : String) (v : PyValue F) :
    (dumpString key ++ ": " ++ dumps v).toList = memberText key v := by
  unfold memberText
  rw [String.toList_append, String.toList_append, toList_dumpString, List.append_assoc,
    List.cons_append, List.append_assoc]
  rfl

theorem membersText_singleton (key : String) (v : PyValue F) :
    membersText [(key, v)] = memberText key v := by
  unfold membersText
  rw [dumpMembers, dumpMembers, String.intercalate_singleton, toList_member]

theorem membersText_cons (key : String) (v : PyValue F) (next : String × PyValue F)
    (rest : List (String × PyValue F)) :
    membersText ((key, v) :: next :: rest) =
      memberText key v ++ ',' :: ' ' :: membersText (next :: rest) := by
  unfold membersText
  rw [dumpMembers, dumpMembers, String.intercalate_cons_cons, ← dumpMembers,
    String.toList_append, String.toList_append, toList_member, List.append_assoc]
  rfl

/-- Put the members into a dictionary one after another. -/
def addMembers (before members : List (String × PyValue F)) : List (String × PyValue F) :=
  members.foldl (fun dict member => dictSet dict member.1 member.2) before

omit [Runtime F] in
theorem dictSet_of_notMem {members : List (String × PyValue F)} {key : String}
    (h : key ∉ members.map Prod.fst) (v : PyValue F) :
    dictSet members key v = members ++ [(key, v)] := by
  induction members with
  | nil => rfl
  | cons member rest ih =>
      rw [List.map_cons, List.mem_cons, not_or] at h
      rw [dictSet, if_neg (by simpa using Ne.symm h.1), ih h.2, List.cons_append]

omit [Runtime F] in
/-- Members under distinct keys stay as they are. -/
theorem addMembers_of_nodup {before members : List (String × PyValue F)}
    (h : ((before ++ members).map Prod.fst).Nodup) :
    addMembers before members = before ++ members := by
  induction members generalizing before with
  | nil => exact (List.append_nil before).symm
  | cons member rest ih =>
      have hsplit : before ++ member :: rest = (before ++ [member]) ++ rest := by
        rw [List.append_assoc, List.singleton_append]
      have hfresh : member.1 ∉ before.map Prod.fst := by
        rw [List.map_append] at h
        exact fun hmem => (List.nodup_append.mp h).2.2 _ hmem _ List.mem_cons_self rfl
      rw [hsplit] at h ⊢
      rw [← ih h]
      unfold addMembers
      rw [List.foldl_cons, dictSet_of_notMem hfresh]

/-- The members of a dictionary are read back up to its closing brace. -/
def MembersReadBack (members : List (String × PyValue F)) : Prop :=
  ∀ fuel depth before rest, 2 * (membersText members).length + 1 ≤ fuel →
    memberNesting members ≤ depth →
    scanMembers fuel depth before (membersText members ++ '\x7d' :: rest) =
      .ok (addMembers before members, rest)

theorem length_memberText (key : String) (v : PyValue F) :
    (memberText key v).length =
      (key.toList.flatMap dumpChar).length + (dumps v).toList.length + 4 := by
  unfold memberText
  simp only [List.length_cons, List.length_append]
  omega

/-- Members start with a quote, so with neither whitespace nor a closing brace. -/
theorem head_of_scanMembers {fuel depth : Nat} {before members : List (String × PyValue F)}
    {text rest : List Char} (h : scanMembers fuel depth before text = .ok (members, rest)) :
    skipSpace text = text ∧ ∀ after, text ≠ '\x7d' :: after := by
  obtain ⟨tail, rfl⟩ := exists_quote_of_scanMembers h
  refine ⟨rfl, fun after heq => ?_⟩
  exact absurd (List.cons.inj heq).1 (by decide)

/-- One member up to its value. -/
theorem scan_member (key : String) {v : PyValue F} (hv : ReadBack v) {k : Nat}
    (hfuel : 2 * (memberText key v).length ≤ k + 1) {rest : List Char} (hends : Ends rest) :
    ∃ text left after, memberText key v ++ rest = '"' :: text ∧
      scanString (k + 1) [] text = .ok (key.toList, left) ∧ skipSpace left = ':' :: after ∧
      skipSpace after = (dumps v).toList ++ rest ∧ 2 * (dumps v).toList.length ≤ k := by
  rw [length_memberText] at hfuel
  have hlength := length_le_flatMap_dumpChar key.toList
  have hvalue := hv k v.nesting rest (by omega) (Nat.le_refl _) hends
  refine ⟨key.toList.flatMap dumpChar ++ '"' :: ':' :: ' ' :: ((dumps v).toList ++ rest),
    ':' :: ' ' :: ((dumps v).toList ++ rest), ' ' :: ((dumps v).toList ++ rest), ?_, ?_, rfl,
    skipSpace_of_scanValue hvalue, by omega⟩
  · simp [memberText]
  · exact scanString_flatMap key.toList (by omega) [] _

theorem membersReadBack_singleton {key : String} {v : PyValue F} (hv : ReadBack v) :
    MembersReadBack [(key, v)] := by
  intro fuel depth before rest hfuel hdepth
  obtain ⟨k, rfl⟩ : ∃ k, fuel = k + 1 := ⟨fuel - 1, by omega⟩
  rw [membersText_singleton] at hfuel ⊢
  rw [memberNesting, memberNesting, Nat.max_zero] at hdepth
  have hends : Ends ('\x7d' :: rest) := .of_cons rfl rest
  obtain ⟨text, left, after, htext, hkey, hcolon, hafter, hlength⟩ := scan_member key hv
    (show 2 * (memberText key v).length ≤ k + 1 by omega) hends
  have hvalue := hv k depth _ hlength hdepth hends
  rw [← hafter] at hvalue
  rw [htext, scanMembers_last hkey hcolon hvalue rfl, String.ofList_toList]
  rfl

theorem membersReadBack_cons_cons {key : String} {v : PyValue F} {next : String × PyValue F}
    {members : List (String × PyValue F)} (hv : ReadBack v)
    (hmembers : MembersReadBack (next :: members)) :
    MembersReadBack ((key, v) :: next :: members) := by
  intro fuel depth before rest hfuel hdepth
  obtain ⟨k, rfl⟩ : ∃ k, fuel = k + 1 := ⟨fuel - 1, by omega⟩
  rw [membersText_cons, List.length_append, List.length_cons, List.length_cons] at hfuel
  rw [memberNesting] at hdepth
  have hmore := hmembers k depth (dictSet before key v) rest
    (by rw [length_memberText] at hfuel; omega) (by omega)
  have hskip : skipSpace (' ' :: (membersText (next :: members) ++ '\x7d' :: rest)) =
      membersText (next :: members) ++ '\x7d' :: rest :=
    (head_of_scanMembers hmore).1
  have hends : Ends (',' :: ' ' :: (membersText (next :: members) ++ '\x7d' :: rest)) :=
    .of_cons rfl _
  obtain ⟨text, left, after, htext, hkey, hcolon, hafter, hlength⟩ := scan_member key hv
    (show 2 * (memberText key v).length ≤ k + 1 by omega) hends
  have hvalue := hv k depth _ hlength (by omega) hends
  rw [← hafter] at hvalue
  rw [membersText_cons, List.append_assoc, List.cons_append, List.cons_append, htext,
    scanMembers_more hkey hcolon hvalue rfl, String.ofList_toList, hskip, hmore]
  rfl

theorem membersReadBack_cons {key : String} {v : PyValue F} {members : List (String × PyValue F)}
    (hv : ReadBack v) (hmembers : members = [] ∨ MembersReadBack members) :
    MembersReadBack ((key, v) :: members) := by
  cases members with
  | nil => exact membersReadBack_singleton hv
  | cons next members =>
      rcases hmembers with hnil | hmembers
      · cases hnil
      · exact membersReadBack_cons_cons hv hmembers

theorem toList_dict (members : List (String × PyValue F)) :
    (dumps (.dict members)).toList = '\x7b' :: (membersText members ++ ['\x7d']) := by
  rw [dumps, String.toList_append, String.toList_append]
  rfl

/-- A dictionary is read back when its members are. -/
theorem readBack_dict {members : List (String × PyValue F)}
    (hnodup : (members.map Prod.fst).Nodup) (h : members = [] ∨ MembersReadBack members) :
    ReadBack (.dict members) := by
  intro fuel depth rest hfuel hdepth hends
  rw [PyValue.nesting] at hdepth
  obtain ⟨d, rfl⟩ : ∃ d, depth = d + 1 := ⟨depth - 1, by omega⟩
  rw [toList_dict, List.length_cons, List.length_append] at hfuel
  obtain ⟨k, rfl⟩ : ∃ k, fuel = k + 1 := ⟨fuel - 1, by omega⟩
  rw [toList_dict, List.cons_append, List.append_assoc, List.singleton_append]
  rcases h with rfl | hmembers
  · rfl
  · have hread := hmembers k d [] rest (by omega) (by omega)
    have hadd : addMembers [] members = members := addMembers_of_nodup hnodup
    obtain ⟨hskip, hopen⟩ := head_of_scanMembers hread
    rw [scanValue_members (by rw [hskip]; exact hopen), hskip, hread, hadd]
    rfl

/-- A value that is no string, list or dictionary. -/
theorem scanValue_of_scanScalar {text rest : List Char} {v : PyValue F}
    (h : scanScalar text = .ok (v, rest)) (fuel depth : Nat) :
    scanValue (fuel + 1) depth text = .ok (v, rest) := by
  rw [scanValue_scalar ?_]
  · exact h
  · intro hdelimited
    cases text with
    | nil => rcases hdelimited with heq | heq | heq <;> cases heq
    | cons c tail =>
        rcases hdelimited with heq | heq | heq <;> cases heq <;> cases h

theorem readBack_scalar {v : PyValue F}
    (h : ∀ rest, Ends rest → scanScalar ((dumps v).toList ++ rest) = .ok (v, rest)) :
    ReadBack v := by
  intro fuel depth rest hfuel hdepth hends
  have hpos : (dumps v).toList ≠ [] := by
    intro hnil
    have hread := h [] (.inl rfl)
    rw [hnil] at hread
    cases hread
  have hlength := List.length_pos_iff.mpr hpos
  obtain ⟨k, rfl⟩ : ∃ k, fuel = k + 1 := ⟨fuel - 1, by omega⟩
  exact scanValue_of_scanScalar (h rest hends) k depth

theorem readBack_none : ReadBack (F := F) .none := by
  refine readBack_scalar fun rest hends => ?_
  rw [dumps]
  rfl

theorem readBack_bool (b : Bool) : ReadBack (F := F) (.bool b) := by
  refine readBack_scalar fun rest hends => ?_
  rw [dumps]
  cases b with
  | false => rfl
  | true => rfl

theorem readBack_str (s : String) : ReadBack (F := F) (.str s) := by
  intro fuel depth rest hfuel hdepth hends
  rw [dumps, toList_dumpString] at hfuel ⊢
  rw [List.length_cons, List.length_append] at hfuel
  have hlength := length_le_flatMap_dumpChar s.toList
  obtain ⟨k, rfl⟩ : ∃ k, fuel = k + 1 := ⟨fuel - 1, by omega⟩
  rw [List.cons_append, List.append_assoc, List.singleton_append, scanValue_string,
    scanString_flatMap s.toList (by omega)]
  simp only [Except.bind, List.reverse_nil, List.nil_append, String.ofList_toList]

mutual

/-- A value is read back when everything in it can be. -/
theorem readBack : (v : PyValue F) → (∀ w ∈ v.parts, w.Legible) → ReadBack v
  | .none, _ => readBack_none
  | .bool b, _ => readBack_bool b
  | .int n, h => readBack_scalar fun _ hends =>
      scanScalar_intText (h (.int n) List.mem_cons_self) hends
  | .float x, h => readBack_scalar (h (.float x) List.mem_cons_self)
  | .str s, _ => readBack_str s
  | .list items, h =>
      readBack_list (itemsReadBack items fun w hw => h w (List.mem_cons_of_mem _ hw))
  | .dict members, h =>
      readBack_dict (h (.dict members) List.mem_cons_self)
        (membersReadBack members fun w hw => h w (List.mem_cons_of_mem _ hw))

theorem itemsReadBack : (items : List (PyValue F)) → (∀ w ∈ itemParts items, w.Legible) →
    items = [] ∨ ItemsReadBack items
  | [], _ => .inl rfl
  | v :: items, h =>
      .inr (itemsReadBack_cons (readBack v fun w hw => h w (List.mem_append_left _ hw))
        (itemsReadBack items fun w hw => h w (List.mem_append_right _ hw)))

theorem membersReadBack : (members : List (String × PyValue F)) →
    (∀ w ∈ memberParts members, w.Legible) → members = [] ∨ MembersReadBack members
  | [], _ => .inl rfl
  | (_, v) :: members, h =>
      .inr (membersReadBack_cons (readBack v fun w hw => h w (List.mem_append_left _ hw))
        (membersReadBack members fun w hw => h w (List.mem_append_right _ hw)))

end

/-- The text of a value is scanned as it stands. -/
theorem loads_dumps_eq {v : PyValue F} (hlegible : ∀ w ∈ v.parts, w.Legible) :
    loads (dumps v).toList =
      (scanValue (F := F) (2 * (dumps v).toList.length + 2) (Runtime.recursionLimit F)
        (dumps v).toList).bind fun read =>
          if (skipSpace read.2).isEmpty then .ok read.1 else decodeError "Extra data" := by
  have hread := readBack v hlegible _ _ [] (Nat.le_refl _) (Nat.le_refl _) (.inl rfl)
  rw [List.append_nil] at hread
  obtain ⟨c, tail, htext, -, -, hbom⟩ := head_of_scanValue hread
  have hstart : startsWith (dumps v).toList ['\ufeff'] = false := by
    rw [htext, Bool.eq_false_iff]
    simp [startsWith, Ne.symm hbom]
  unfold loads
  rw [hstart, if_neg Bool.false_ne_true, skipSpace_of_scanValue hread]
  rfl

/-- `json.loads(json.dumps(v))` is `v`. -/
theorem loads_dumps {v : PyValue F} (hlegible : ∀ w ∈ v.parts, w.Legible)
    (hdepth : v.nesting ≤ Runtime.recursionLimit F) : loads (dumps v).toList = .ok v := by
  have hread := readBack v hlegible (2 * (dumps v).toList.length + 2) _ [] (by omega) hdepth
    (.inl rfl)
  rw [List.append_nil] at hread
  rw [loads_dumps_eq hlegible, hread]
  rfl

/-! ## Values that are too deep -/

/-- What the scanner raises at a container that is too deep. -/
def tooDeepError : Exc :=
  .recursionError "maximum recursion depth exceeded"

/-- The text of a value raises where less depth is left than it is nested. -/
def TooDeep (v : PyValue F) : Prop :=
  ∀ fuel depth rest, 2 * (dumps v).toList.length ≤ fuel → depth < v.nesting → Ends rest →
    scanValue (F := F) fuel depth ((dumps v).toList ++ rest) = .error tooDeepError

/-- So does the text of the items of a list. -/
def ItemsTooDeep (items : List (PyValue F)) : Prop :=
  ∀ fuel depth rest, 2 * (itemsText items).length + 1 ≤ fuel → depth < itemNesting items →
    scanItems (F := F) fuel depth (itemsText items ++ ']' :: rest) = .error tooDeepError

/-- And that of the members of a dictionary. -/
def MembersTooDeep (members : List (String × PyValue F)) : Prop :=
  ∀ fuel depth before rest, 2 * (membersText members).length + 1 ≤ fuel →
    depth < memberNesting members →
    scanMembers (F := F) fuel depth before (membersText members ++ '\x7d' :: rest) =
      .error tooDeepError

theorem tooDeep_flat {v : PyValue F} (h : v.nesting = 0) : TooDeep v := by
  intro fuel depth rest hfuel hdepth hends
  omega

theorem scanItems_error {fuel depth : Nat} {text : List Char} {e : Exc}
    (h : scanValue (F := F) fuel depth text = .error e) :
    scanItems (F := F) (fuel + 1) depth text = .error e := by
  rw [scanItems, h]
  rfl

/-- Either the first item is too deep, or it is read and the rest is too deep. -/
theorem itemsTooDeep_cons {v : PyValue F} {items : List (PyValue F)} (hv : ReadBack v)
    (hdeep : TooDeep v) (hitems : items = [] ∨ ItemsReadBack items)
    (hmore : ItemsTooDeep items) : ItemsTooDeep (v :: items) := by
  intro fuel depth rest hfuel hdepth
  obtain ⟨k, rfl⟩ : ∃ k, fuel = k + 1 := ⟨fuel - 1, by omega⟩
  rw [itemNesting] at hdepth
  cases items with
  | nil =>
      rw [itemNesting, Nat.max_zero] at hdepth
      rw [itemsText_singleton] at hfuel ⊢
      exact scanItems_error (hdeep k depth _ (by omega) hdepth (.of_cons rfl rest))
  | cons w items =>
      rw [itemsText_cons, List.length_append, List.length_cons, List.length_cons] at hfuel
      rw [itemsText_cons, List.append_assoc, List.cons_append, List.cons_append]
      by_cases hfirst : depth < v.nesting
      · exact scanItems_error (hdeep k depth _ (by omega) hfirst (.of_cons rfl _))
      · rcases hitems with hnil | hitems
        · cases hnil
        have hread := hitems k _ rest (by omega) (Nat.le_refl _)
        have hskip : skipSpace (' ' :: (itemsText (w :: items) ++ ']' :: rest)) =
            itemsText (w :: items) ++ ']' :: rest :=
          (head_of_scanItems hread).1
        rw [scanItems_more (hv k depth _ (by omega) (by omega) (.of_cons rfl _)) rfl, hskip,
          hmore k depth rest (by omega) (by omega)]
        rfl

theorem tooDeep_list {items : List (PyValue F)} (hitems : items = [] ∨ ItemsReadBack items)
    (hdeep : ItemsTooDeep items) : TooDeep (.list items) := by
  intro fuel depth rest hfuel hdepth hends
  rw [PyValue.nesting] at hdepth
  rw [toList_list, List.length_cons, List.length_append] at hfuel
  obtain ⟨k, rfl⟩ : ∃ k, fuel = k + 1 := ⟨fuel - 1, by omega⟩
  rw [toList_list, List.cons_append, List.append_assoc, List.singleton_append]
  cases depth with
  | zero => rfl
  | succ d =>
      rcases hitems with rfl | hitems
      · rw [itemNesting] at hdepth
        omega
      have hread := hitems k _ rest (by omega) (Nat.le_refl _)
      obtain ⟨hskip, hclose⟩ := head_of_scanItems hread
      rw [scanValue_items (by rw [hskip]; exact hclose), hskip,
        hdeep k d rest (by omega) (by omega)]
      rfl

theorem scanMembers_error {fuel depth : Nat} {before : List (String × PyValue F)}
    {text key left after : List Char} {e : Exc}
    (hkey : scanString (fuel + 1) [] text = .ok (key, left))
    (hcolon : skipSpace left = ':' :: after)
    (hvalue : scanValue (F := F) fuel depth (skipSpace after) = .error e) :
    scanMembers (F := F) (fuel + 1) depth before ('"' :: text) = .error e := by
  rw [scanMembers_cons, hkey]
  dsimp only [Except.bind]
  rw [hcolon]
  change (scanValue fuel depth (skipSpace after)).bind _ = _
  rw [hvalue]
  rfl

theorem membersTooDeep_cons {key : String} {v : PyValue F} {members : List (String × PyValue F)}
    (hv : ReadBack v) (hdeep : TooDeep v) (hmembers : members = [] ∨ MembersReadBack members)
    (hmore : MembersTooDeep members) : MembersTooDeep ((key, v) :: members) := by
  intro fuel depth before rest hfuel hdepth
  obtain ⟨k, rfl⟩ : ∃ k, fuel = k + 1 := ⟨fuel - 1, by omega⟩
  rw [memberNesting] at hdepth
  cases members with
  | nil =>
      rw [memberNesting, Nat.max_zero] at hdepth
      rw [membersText_singleton] at hfuel ⊢
      have hends : Ends ('\x7d' :: rest) := .of_cons rfl rest
      obtain ⟨text, left, after, htext, hkey, hcolon, hafter, hlength⟩ := scan_member key hv
        (show 2 * (memberText key v).length ≤ k + 1 by omega) hends
      have hvalue := hdeep k depth _ hlength hdepth hends
      rw [← hafter] at hvalue
      rw [htext]
      exact scanMembers_error hkey hcolon hvalue
  | cons next members =>
      rw [membersText_cons, List.length_append, List.length_cons, List.length_cons] at hfuel
      rw [membersText_cons, List.append_assoc, List.cons_append, List.cons_append]
      have hends : Ends (',' :: ' ' :: (membersText (next :: members) ++ '\x7d' :: rest)) :=
        .of_cons rfl _
      obtain ⟨text, left, after, htext, hkey, hcolon, hafter, hlength⟩ := scan_member key hv
        (show 2 * (memberText key v).length ≤ k + 1 by omega) hends
      rw [htext]
      by_cases hfirst : depth < v.nesting
      · have hvalue := hdeep k depth _ hlength hfirst hends
        rw [← hafter] at hvalue
        exact scanMembers_error hkey hcolon hvalue
      · have hvalue := hv k depth _ hlength (by omega) hends
        rw [← hafter] at hvalue
        rcases hmembers with hnil | hmembers
        · cases hnil
        rw [length_memberText] at hfuel
        have hread := hmembers k _ before rest (by omega) (Nat.le_refl _)
        have hskip : skipSpace (' ' :: (membersText (next :: members) ++ '\x7d' :: rest)) =
            membersText (next :: members) ++ '\x7d' :: rest :=
          (head_of_scanMembers hread).1
        rw [scanMembers_more hkey hcolon hvalue rfl, hskip]
        exact hmore k depth _ rest (by omega) (by omega)

theorem tooDeep_dict {members : List (String × PyValue F)}
    (hmembers : members = [] ∨ MembersReadBack members) (hdeep : MembersTooDeep members) :
    TooDeep (.dict members) := by
  intro fuel depth rest hfuel hdepth hends
  rw [PyValue.nesting] at hdepth
  rw [toList_dict, List.length_cons, List.length_append] at hfuel
  obtain ⟨k, rfl⟩ : ∃ k, fuel = k + 1 := ⟨fuel - 1, by omega⟩
  rw [toList_dict, List.cons_append, List.append_assoc, List.singleton_append]
  cases depth with
  | zero => rfl
  | succ d =>
      rcases hmembers with rfl | hmembers
      · rw [memberNesting] at hdepth
        omega
      have hread := hmembers k _ [] rest (by omega) (Nat.le_refl _)
      obtain ⟨hskip, hopen⟩ := head_of_scanMembers hread
      rw [scanValue_members (by rw [hskip]; exact hopen), hskip,
        hdeep k d [] rest (by omega) (by omega)]
      rfl

mutual

/-- A value raises when it is too deep and everything in it can be read back. -/
theorem tooDeep : (v : PyValue F) → (∀ w ∈ v.parts, w.Legible) → TooDeep v
  | .none, _ => tooDeep_flat rfl
  | .bool _, _ => tooDeep_flat rfl
  | .int _, _ => tooDeep_flat rfl
  | .float _, _ => tooDeep_flat rfl
  | .str _, _ => tooDeep_flat rfl
  | .list items, h =>
      tooDeep_list (itemsReadBack items fun w hw => h w (List.mem_cons_of_mem _ hw))
        (itemsTooDeep items fun w hw => h w (List.mem_cons_of_mem _ hw))
  | .dict members, h =>
      tooDeep_dict (membersReadBack members fun w hw => h w (List.mem_cons_of_mem _ hw))
        (membersTooDeep members fun w hw => h w (List.mem_cons_of_mem _ hw))

theorem itemsTooDeep : (items : List (PyValue F)) → (∀ w ∈ itemParts items, w.Legible) →
    ItemsTooDeep items
  | [], _ => fun _ _ _ _ hdepth => absurd hdepth (Nat.not_lt_zero _)
  | v :: items, h =>
      itemsTooDeep_cons (readBack v fun w hw => h w (List.mem_append_left _ hw))
        (tooDeep v fun w hw => h w (List.mem_append_left _ hw))
        (itemsReadBack items fun w hw => h w (List.mem_append_right _ hw))
        (itemsTooDeep items fun w hw => h w (List.mem_append_right _ hw))

theorem membersTooDeep : (members : List (String × PyValue F)) →
    (∀ w ∈ memberParts members, w.Legible) → MembersTooDeep members
  | [], _ => fun _ _ _ _ _ hdepth => absurd hdepth (Nat.not_lt_zero _)
  | (_, v) :: members, h =>
      membersTooDeep_cons (readBack v fun w hw => h w (List.mem_append_left _ hw))
        (tooDeep v fun w hw => h w (List.mem_append_left _ hw))
        (membersReadBack members fun w hw => h w (List.mem_append_right _ hw))
        (membersTooDeep members fun w hw => h w (List.mem_append_right _ hw))

end

/-- `json.loads(json.dumps(v))` raises for a value that is too deep. -/
theorem loads_dumps_of_deep {v : PyValue F} (hlegible : ∀ w ∈ v.parts, w.Legible)
    (hdepth : Runtime.recursionLimit F < v.nesting) :
    loads (F := F) (dumps v).toList = .error tooDeepError := by
  have hread := tooDeep v hlegible (2 * (dumps v).toList.length + 2) _ [] (by omega) hdepth
    (.inl rfl)
  rw [List.append_nil] at hread
  rw [loads_dumps_eq hlegible, hread]
  rfl

/-! ## The special floats -/

/-- The floats that `json` writes as words. -/
inductive SpecialFloat where
  | nan
  | infinite (negative : Bool)
deriving DecidableEq, Repr

instance : Runtime SpecialFloat where
  floatOfDecimal negative _ _ := .infinite negative
  infinity := .infinite
  nan := .nan
  floatRepr
    | .nan => "nan"
    | .infinite negative => if negative then "-inf" else "inf"
  floatJson
    | .nan => "NaN"
    | .infinite negative => if negative then "-Infinity" else "Infinity"
  floatIsZero _ := false
  floatToInt
    | .nan => .error (.valueError "cannot convert float NaN to integer")
    | .infinite _ => .error (.overflowError "cannot convert float infinity to integer")
  floatOfInt _ := .error (.overflowError "int too large to convert to float")
  isPrintable c := 0x20 ≤ c.toNat && c.toNat ≤ 0x7e
  recursionLimit := 1000

instance : LawfulJson SpecialFloat where
  legible_float x rest _ := by
    cases x with
    | nan => rfl
    | infinite negative => cases negative <;> rfl

end Python
end FreeLunch
