import Mathlib.Algebra.Group.Int.Defs
import FreeLunch.Python.Text

/-!
# Python values that JSON can hold

The dynamically typed values a JSON document decodes to, with the built-in
conversions the gateway applies to them: truth testing, `int()`, `float()`,
`str()`, `isinstance(_, int)` and dictionary access.

Floating-point numbers are a type parameter with the operations of `Runtime`,
which also carries the two interpreter settings that matter here; nothing is
assumed about them.

Main results:

- Theorem `dictGet_dictSet`: a dictionary answers with the last value set.
- Theorem `dictSet_keys_nodup`: setting keys never duplicates one.

Current gaps:

- `str()` of integers beyond the interpreter's digit limit raises in Python; the
  values here come from decoded JSON, which already respects that limit.
-/

namespace FreeLunch
namespace Python

/-! ## Exceptions and the runtime -/

/-- The built-in exceptions the modelled code can meet, with `str(exc)`. -/
inductive Exc where
  | typeError (text : String)
  | valueError (text : String)
  | overflowError (text : String)
  | attributeError (text : String)
  | keyError (text : String)
  | recursionError (text : String)
  | timeoutError (text : String)
  | jsonDecodeError (text : String)
  | other (text : String)
deriving DecidableEq, Repr

/-- `str(exc)`. -/
def Exc.text : Exc → String
  | .typeError t | .valueError t | .overflowError t | .attributeError t | .keyError t
  | .recursionError t | .timeoutError t | .jsonDecodeError t | .other t => t

/-- The parts of the interpreter that are left open: floating-point numbers, the
printable characters of the Unicode database and the recursion limit. -/
class Runtime (F : Type) where
  /-- The float nearest to `± digits * 10 ^ exponent`. -/
  floatOfDecimal : (negative : Bool) → (digits : Nat) → (exponent : Int) → F
  /-- `float("inf")` and `float("-inf")`. -/
  infinity : (negative : Bool) → F
  /-- `float("nan")`. -/
  nan : F
  /-- `repr(x)`, which is also `str(x)`. -/
  floatRepr : F → String
  /-- What `json.dumps` writes for `x`. -/
  floatJson : F → String
  /-- `x == 0.0`. -/
  floatIsZero : F → Bool
  /-- `int(x)`. -/
  floatToInt : F → Except Exc Int
  /-- `float(n)` of an integer. -/
  floatOfInt : Int → Except Exc F
  /-- `str.isprintable` of one character. -/
  isPrintable : Char → Bool
  /-- How deep the JSON scanner may nest before it raises `RecursionError`. -/
  recursionLimit : Nat

/-- Floating-point arithmetic, comparisons and the comparisons with an integer,
which Python does exactly.  No law is assumed. -/
class FloatArith (F : Type) extends Add F, Sub F, Mul F, Div F, Neg F, OfScientific F where
  lt : F → F → Bool
  eq : F → F → Bool
  /-- `float(n)` of an integer in range. -/
  ofInt : Int → F
  /-- `n < x`. -/
  intLt : Int → F → Bool
  /-- `n <= x`. -/
  intLe : Int → F → Bool

/-- `x <= y` of two floats. -/
def floatLessEq {F : Type} [FloatArith F] (x y : F) : Bool :=
  FloatArith.lt x y || FloatArith.eq x y

/-- What is assumed of floats where it matters that a conversion or a division does not
raise: an integer of 64 bits and an integer that came from a float are in the range of
floats, zero has an integer value, and two numbers in strict order differ. -/
class LawfulFloat (F : Type) [Runtime F] [FloatArith F] : Prop where
  floatOfInt_ok : ∀ n : Int, -2 ^ 63 ≤ n → n < 2 ^ 63 →
    ∃ x : F, Runtime.floatOfInt n = .ok x
  floatOfInt_toInt : ∀ (x : F) (n : Int), Runtime.floatToInt x = .ok n →
    ∃ y : F, Runtime.floatOfInt n = .ok y
  floatToInt_zero : ∀ x : F, Runtime.floatIsZero x = true →
    ∃ n, Runtime.floatToInt x = .ok n
  sub_ne_zero : ∀ x y : F, floatLessEq y x = false → FloatArith.eq (y - x) 0.0 = false

/-- `max(x, y)` of two floats: the first one unless the second is greater. -/
def floatMax {F : Type} [FloatArith F] (x y : F) : F :=
  if FloatArith.lt x y then y else x

/-- `x or default` of a nullable float. -/
def floatOr {F : Type} [FloatArith F] (x : Option F) (default : F) : F :=
  match x with
  | some value => if FloatArith.eq value 0.0 then default else value
  | none => default

/-- `n or 0` of a nullable integer. -/
def intOrZero (n : Option Int) : Int :=
  n.getD 0

/-- The digits `int()` accepts in a string before it raises `ValueError`. -/
def maxStrDigits : Nat := 4300

/-- Values a JSON document decodes to.  A dictionary lists its members in
insertion order. -/
inductive PyValue (F : Type) where
  | none
  | bool (b : Bool)
  | int (n : Int)
  | float (x : F)
  | str (s : String)
  | list (items : List (PyValue F))
  | dict (members : List (String × PyValue F))

variable {F : Type}

/-- `type(v).__name__`. -/
def PyValue.typeName : PyValue F → String
  | .none => "NoneType"
  | .bool _ => "bool"
  | .int _ => "int"
  | .float _ => "float"
  | .str _ => "str"
  | .list _ => "list"
  | .dict _ => "dict"

/-- `bool(v)`. -/
def PyValue.truthy [Runtime F] : PyValue F → Bool
  | .none => false
  | .bool b => b
  | .int n => n != 0
  | .float x => !Runtime.floatIsZero x
  | .str s => s != ""
  | .list items => !items.isEmpty
  | .dict members => !members.isEmpty

/-- `v` where `isinstance(v, int)`; a boolean is an integer. -/
def PyValue.asInt? : PyValue F → Option Int
  | .bool b => some (if b then 1 else 0)
  | .int n => some n
  | _ => Option.none

/-- `v or other`. -/
def PyValue.orElse [Runtime F] (v other : PyValue F) : PyValue F :=
  if v.truthy then v else other

/-- `v is None`. -/
def PyValue.isNone : PyValue F → Bool
  | .none => true
  | _ => false

/-- `isinstance(v, dict)`. -/
def PyValue.isDict : PyValue F → Bool
  | .dict _ => true
  | _ => false

/-- What `for item in v` runs over: the items of a list, the keys of a dictionary, the
characters of a string. -/
def PyValue.items? : PyValue F → Option (List (PyValue F))
  | .list items => some items
  | .dict members => some (members.map fun member => .str member.1)
  | .str s => some (s.toList.map fun c => .str (String.ofList [c]))
  | _ => Option.none

/-- `iter(v)`. -/
def PyValue.iter (v : PyValue F) : Except Exc (List (PyValue F)) :=
  match v.items? with
  | some items => .ok items
  | Option.none => .error (.typeError ("'" ++ v.typeName ++ "' object is not iterable"))

theorem iter_ok_iff {v : PyValue F} : (∃ items, v.iter = .ok items) ↔ v.items?.isSome := by
  unfold PyValue.iter
  cases v.items? <;> simp

/-! ## Dictionaries -/

/-- `d.get(key)` on the members of a dictionary. -/
def dictGet {α : Type} (members : List (String × α)) (key : String) : Option α :=
  (members.find? fun member => member.1 == key).map Prod.snd

/-- `v.get(key, default)`. -/
def PyValue.get (v : PyValue F) (key : String) (default : PyValue F) :
    Except Exc (PyValue F) :=
  match v with
  | .dict members => .ok ((dictGet members key).getD default)
  | v => .error (.attributeError ("'" ++ v.typeName ++ "' object has no attribute 'get'"))

theorem get_ok_iff {v : PyValue F} {key : String} {default : PyValue F} :
    (∃ value, v.get key default = .ok value) ↔ v.isDict = true := by
  cases v <;> simp [PyValue.get, PyValue.isDict]

/-- `d[key] = value`: a present key keeps its position. -/
def dictSet {α : Type} : List (String × α) → String → α → List (String × α)
  | [], key, value => [(key, value)]
  | member :: rest, key, value =>
      if member.1 == key then (key, value) :: rest else member :: dictSet rest key value

@[simp]
theorem dictGet_nil {α : Type} (key : String) : dictGet ([] : List (String × α)) key = none :=
  rfl

theorem dictGet_cons {α : Type} (member : String × α) (rest : List (String × α))
    (key : String) :
    dictGet (member :: rest) key = if member.1 = key then some member.2 else dictGet rest key := by
  by_cases h : member.1 = key <;> simp [dictGet, h]

theorem mem_of_dictGet {α : Type} {members : List (String × α)} {key : String} {value : α}
    (h : dictGet members key = some value) : (key, value) ∈ members := by
  induction members with
  | nil => cases h
  | cons member rest ih =>
      rw [dictGet_cons] at h
      by_cases hkey : member.1 = key
      · rw [if_pos hkey, Option.some.injEq] at h
        rw [← hkey, ← h]
        exact List.mem_cons_self
      · rw [if_neg hkey] at h
        exact List.mem_cons_of_mem _ (ih h)

/-- A dictionary answers with the last value set and is otherwise unchanged. -/
theorem dictGet_dictSet {α : Type} (members : List (String × α)) (key other : String)
    (value : α) :
    dictGet (dictSet members key value) other =
      if key = other then some value else dictGet members other := by
  induction members with
  | nil => simp [dictSet, dictGet_cons]
  | cons member rest ih =>
      by_cases hkey : member.1 = key
      · simp only [dictSet, hkey, beq_self_eq_true, if_true, dictGet_cons]
        by_cases hother : key = other <;> simp [hother]
      · have hbeq : (member.1 == key) = false := beq_eq_false_iff_ne.mpr hkey
        simp only [dictSet, hbeq, Bool.false_eq_true, if_false, dictGet_cons, ih]
        by_cases hmember : member.1 = other
        · have hne : key ≠ other := fun h => hkey (hmember.trans h.symm)
          simp [hmember, hne]
        · simp [hmember]

theorem mem_keys_dictSet {α : Type} (members : List (String × α)) (key other : String)
    (value : α) :
    other ∈ (dictSet members key value).map Prod.fst ↔
      other = key ∨ other ∈ members.map Prod.fst := by
  induction members with
  | nil => simp [dictSet]
  | cons member rest ih =>
      by_cases hkey : member.1 = key
      · simp only [dictSet, hkey, beq_self_eq_true, if_true, List.map_cons, List.mem_cons]
        tauto
      · have hbeq : (member.1 == key) = false := beq_eq_false_iff_ne.mpr hkey
        simp only [dictSet, hbeq, Bool.false_eq_true, if_false, List.map_cons, List.mem_cons, ih]
        tauto

/-- An entry of a dictionary after setting a key is an old one or the new one. -/
theorem mem_dictSet {α : Type} {members : List (String × α)} {key : String} {value : α}
    {entry : String × α} (h : entry ∈ dictSet members key value) :
    entry ∈ members ∨ entry = (key, value) := by
  induction members with
  | nil =>
      rw [dictSet, List.mem_singleton] at h
      exact .inr h
  | cons member rest ih =>
      by_cases hkey : member.1 = key
      · simp only [dictSet, hkey, beq_self_eq_true, if_true, List.mem_cons] at h
        rcases h with rfl | hrest
        · exact .inr rfl
        · exact .inl (List.mem_cons_of_mem _ hrest)
      · have hbeq : (member.1 == key) = false := beq_eq_false_iff_ne.mpr hkey
        simp only [dictSet, hbeq, Bool.false_eq_true, if_false, List.mem_cons] at h
        rcases h with rfl | hrest
        · exact .inl List.mem_cons_self
        · rcases ih hrest with hold | hnew
          · exact .inl (List.mem_cons_of_mem _ hold)
          · exact .inr hnew

theorem dictSet_ne_nil {α : Type} (members : List (String × α)) (key : String) (value : α) :
    dictSet members key value ≠ [] := by
  intro h
  have hmem := (mem_keys_dictSet members key key value).mpr (.inl rfl)
  rw [h] at hmem
  cases hmem

/-- Setting a key never duplicates one. -/
theorem dictSet_keys_nodup {α : Type} {members : List (String × α)}
    (h : (members.map Prod.fst).Nodup) (key : String) (value : α) :
    ((dictSet members key value).map Prod.fst).Nodup := by
  induction members with
  | nil => simp [dictSet]
  | cons member rest ih =>
      simp only [List.map_cons, List.nodup_cons] at h
      by_cases hkey : member.1 = key
      · simp only [dictSet, hkey, beq_self_eq_true, if_true, List.map_cons, List.nodup_cons]
        exact ⟨hkey ▸ h.1, h.2⟩
      · have hbeq : (member.1 == key) = false := beq_eq_false_iff_ne.mpr hkey
        simp only [dictSet, hbeq, Bool.false_eq_true, if_false, List.map_cons, List.nodup_cons]
        refine ⟨?_, ih h.2⟩
        rw [mem_keys_dictSet]
        rintro (hmem | hmem)
        · exact hkey hmem
        · exact h.1 hmem

/-- A dictionary answers with its one entry under a key. -/
theorem dictGet_eq_some_iff {α : Type} {members : List (String × α)}
    (h : (members.map Prod.fst).Nodup) {key : String} {value : α} :
    dictGet members key = some value ↔ (key, value) ∈ members := by
  induction members with
  | nil => simp
  | cons member rest ih =>
      rw [List.map_cons, List.nodup_cons] at h
      rw [dictGet_cons, List.mem_cons]
      by_cases hkey : member.1 = key
      · rw [if_pos hkey]
        constructor
        · intro hvalue
          exact .inl (Prod.ext hkey.symm (Option.some.inj hvalue).symm)
        · rintro (rfl | hmem)
          · rfl
          · exact absurd (List.mem_map.mpr ⟨_, hmem, hkey.symm⟩) h.1
      · rw [if_neg hkey, ih h.2]
        constructor
        · intro hmem
          exact .inr hmem
        · rintro (rfl | hmem)
          · exact absurd rfl hkey
          · exact hmem

/-- `d.pop(key, None)`. -/
def dictPop {α : Type} (members : List (String × α)) (key : String) : List (String × α) :=
  members.filter fun member => member.1 != key

/-- `d.move_to_end(key)` of an `OrderedDict`. -/
def moveToEnd {α : Type} (members : List (String × α)) (key : String) : List (String × α) :=
  match dictGet members key with
  | some value => dictPop members key ++ [(key, value)]
  | none => members

theorem dictGet_dictPop {α : Type} (members : List (String × α)) (key other : String) :
    dictGet (dictPop members key) other = if other = key then none else dictGet members other := by
  induction members with
  | nil => simp [dictPop]
  | cons member rest ih =>
      unfold dictPop at ih ⊢
      rw [List.filter_cons, dictGet_cons]
      by_cases hkey : member.1 = key
      · by_cases hother : other = key
        · simpa [hkey, hother] using ih
        · have hne : ¬ key = other := fun h => hother h.symm
          simpa [hkey, hother, hne] using ih
      · by_cases hother : member.1 = other
        · have hne : ¬ other = key := fun h => hkey (hother.trans h)
          simp [dictGet_cons, hother, hne]
        · simpa [hkey, dictGet_cons, hother] using ih

theorem dictGet_append {α : Type} (members others : List (String × α)) (key : String) :
    dictGet (members ++ others) key = (dictGet members key).or (dictGet others key) := by
  unfold dictGet
  rw [List.find?_append]
  cases members.find? fun member => member.1 == key <;> rfl

theorem dictPop_keys_nodup {α : Type} {members : List (String × α)}
    (h : (members.map Prod.fst).Nodup) (key : String) :
    ((dictPop members key).map Prod.fst).Nodup :=
  h.sublist (List.filter_sublist.map _)

theorem length_dictPop_le {α : Type} (members : List (String × α)) (key : String) :
    (dictPop members key).length ≤ members.length :=
  List.length_filter_le _ _

theorem length_dictPop_of_get {α : Type} {members : List (String × α)} {key : String} {value : α}
    (h : dictGet members key = some value) : (dictPop members key).length < members.length := by
  obtain ⟨member, hmember, -⟩ := Option.map_eq_some_iff.mp h
  have hkey := List.find?_some hmember
  refine List.length_filter_lt_length_iff_exists.mpr ⟨member, ?_, ?_⟩
  · exact List.mem_of_find?_eq_some hmember
  · simpa using hkey

theorem moveToEnd_keys_nodup {α : Type} {members : List (String × α)}
    (h : (members.map Prod.fst).Nodup) (key : String) :
    ((moveToEnd members key).map Prod.fst).Nodup := by
  unfold moveToEnd
  cases dictGet members key with
  | none => exact h
  | some value =>
      rw [List.map_append, List.nodup_append]
      refine ⟨dictPop_keys_nodup h key, by simp, ?_⟩
      intro a ha b hb hab
      obtain ⟨member, hmember, rfl⟩ := List.mem_map.mp ha
      have hne := (List.mem_filter.mp hmember).2
      rw [List.map_singleton, List.mem_singleton] at hb
      rw [hb] at hab
      simp [hab] at hne

theorem length_moveToEnd_le {α : Type} (members : List (String × α)) (key : String) :
    (moveToEnd members key).length ≤ members.length := by
  unfold moveToEnd
  cases hget : dictGet members key with
  | none => exact Nat.le_refl _
  | some value =>
      have hlt := length_dictPop_of_get hget
      rw [List.length_append, List.length_singleton]
      exact hlt

/-- A moved entry is the last one. -/
theorem moveToEnd_of_get {α : Type} {members : List (String × α)} {key : String} {value : α}
    (h : dictGet members key = some value) :
    moveToEnd members key = dictPop members key ++ [(key, value)] := by
  unfold moveToEnd
  rw [h]

/-- Dropping the first members leaves what a key holds, or takes it away. -/
theorem dictGet_drop_cases {α : Type} {members : List (String × α)}
    (h : (members.map Prod.fst).Nodup) (n : Nat) (key : String) :
    dictGet (members.drop n) key = dictGet members key ∨ dictGet (members.drop n) key = none := by
  cases hget : dictGet (members.drop n) key with
  | none => exact .inr rfl
  | some value =>
      have hmem := List.mem_of_mem_drop (mem_of_dictGet hget)
      exact .inl ((dictGet_eq_some_iff h).mpr hmem).symm

/-- Moving an entry changes no answer. -/
theorem dictGet_moveToEnd {α : Type} (members : List (String × α)) (key other : String) :
    dictGet (moveToEnd members key) other = dictGet members other := by
  cases hget : dictGet members key with
  | none =>
      unfold moveToEnd
      rw [hget]
  | some value =>
      rw [moveToEnd_of_get hget, dictGet_append, dictGet_dictPop, dictGet_cons, dictGet_nil]
      by_cases hother : other = key
      · rw [if_pos hother, if_pos hother.symm, hother, hget]
        rfl
      · rw [if_neg hother, if_neg (Ne.symm hother)]
        cases dictGet members other <;> rfl

/-- Moving an entry adds no key. -/
theorem mem_keys_moveToEnd {α : Type} {members : List (String × α)} {key other : String}
    (h : other ∈ (moveToEnd members key).map Prod.fst) : other ∈ members.map Prod.fst := by
  cases hget : dictGet members key with
  | none =>
      unfold moveToEnd at h
      rwa [hget] at h
  | some value =>
      rw [moveToEnd_of_get hget, List.map_append, List.mem_append] at h
      rcases h with hkept | hmoved
      · exact (List.filter_sublist.map Prod.fst).mem hkept
      · rw [List.map_singleton, List.mem_singleton] at hmoved
        rw [hmoved]
        exact List.mem_map_of_mem (mem_of_dictGet hget)

/-! ## Numbers from text -/

/-- Decimal digits with single underscores between them, as a digit list. -/
def decimalDigits : List Char → Option (List Nat)
  | [] => none
  | [c] => (decimalValue c).map fun d => [d]
  | c :: '_' :: rest => do
      let d ← decimalValue c
      let ds ← decimalDigits rest
      pure (d :: ds)
  | c :: rest => do
      let d ← decimalValue c
      let ds ← decimalDigits rest
      pure (d :: ds)

/-- The number a digit list writes in base ten. -/
def ofDigits (digits : List Nat) : Nat :=
  digits.foldl (fun n d => 10 * n + d) 0

/-- A sign in front of a numeral. -/
def splitSign : List Char → Bool × List Char
  | '-' :: rest => (true, rest)
  | '+' :: rest => (false, rest)
  | text => (false, text)

/-- `int(text)` in base ten. -/
def intOfText (text : List Char) : Except Exc Int :=
  let (negative, numeral) := splitSign (stripNumeral text)
  match decimalDigits numeral with
  | none => .error (.valueError "invalid literal for int() with base 10")
  | some digits =>
      if maxStrDigits < digits.length then
        .error (.valueError "Exceeds the limit (4300 digits) for integer string conversion")
      else .ok (if negative then -(ofDigits digits : Int) else ofDigits digits)

/-- Split at the first character that satisfies `p`, which is dropped. -/
def splitAtFirst (p : Char → Bool) : List Char → List Char × Option (List Char)
  | [] => ([], none)
  | c :: rest =>
      if p c then ([], some rest)
      else ((c :: (splitAtFirst p rest).1), (splitAtFirst p rest).2)

/-- A map into options has as many results as arguments. -/
theorem length_of_mapM {α β : Type} {f : α → Option β} {l : List α} {ys : List β}
    (h : l.mapM f = some ys) : ys.length = l.length := by
  induction l generalizing ys with
  | nil =>
      cases h
      rfl
  | cons a rest ih =>
      rw [List.mapM_cons] at h
      obtain ⟨y, -, h⟩ := Option.bind_eq_some_iff.mp h
      obtain ⟨others, hothers, h⟩ := Option.bind_eq_some_iff.mp h
      cases h
      rw [List.length_cons, List.length_cons, ih hothers]

/-- A map into options has results exactly when every argument does. -/
theorem isSome_mapM {α β : Type} (f : α → Option β) (l : List α) :
    (l.mapM f).isSome = l.all fun a => (f a).isSome := by
  induction l with
  | nil => rfl
  | cons a rest ih =>
      rw [List.mapM_cons, List.all_cons, ← ih]
      cases f a with
      | none => rfl
      | some y => cases rest.mapM f <;> rfl

/-- Text without underscores is a numeral when all its characters are decimal digits. -/
theorem decimalDigits_of_not_mem {text : List Char} (hne : text ≠ []) (h : '_' ∉ text) :
    decimalDigits text = text.mapM decimalValue := by
  induction text using decimalDigits.induct with
  | case1 => exact absurd rfl hne
  | case2 c =>
      simp only [decimalDigits, List.mapM_cons, List.mapM_nil]
      cases decimalValue c <;> rfl
  | case3 c rest ih => simp at h
  | case4 c rest hrest hunderscore ih =>
      have htail : rest ≠ [] := hrest
      have hrec := ih htail fun hmem => h (List.mem_cons_of_mem _ hmem)
      rw [decimalDigits.eq_4 c rest hrest hunderscore, hrec, List.mapM_cons]

/-- Digits have neither a sign in front of them nor underscores between them. -/
theorem splitSign_of_isDigitText {text : List Char} (h : isDigitText text = true) :
    splitSign text = (false, text) ∧ text ≠ [] ∧ '_' ∉ text := by
  rw [isDigitText, Bool.and_eq_true, List.all_eq_true] at h
  obtain ⟨hempty, hdigit⟩ := h
  have hne : text ≠ [] := by
    rintro rfl
    cases hempty
  refine ⟨?_, hne, fun hmem => absurd (hdigit _ hmem) (by decide)⟩
  cases text with
  | nil => rfl
  | cons c rest =>
      have hc := hdigit c List.mem_cons_self
      have hminus : c ≠ '-' := by
        rintro rfl
        exact absurd hc (by decide)
      have hplus : c ≠ '+' := by
        rintro rfl
        exact absurd hc (by decide)
      unfold splitSign
      split
      · next heq => exact absurd (List.cons.inj heq).1 hminus
      · next heq => exact absurd (List.cons.inj heq).1 hplus
      · rfl

/-- `int()` of digits. -/
theorem intOfText_digits {text : List Char} (h : isDigitText text = true) {digits : List Nat}
    (hdigits : decimalDigits text = some digits) :
    intOfText text =
      if maxStrDigits < digits.length then
        .error (.valueError "Exceeds the limit (4300 digits) for integer string conversion")
      else .ok (ofDigits digits) := by
  unfold intOfText
  rw [stripNumeral_of_isDigitText h, (splitSign_of_isDigitText h).1]
  simp only [hdigits, Bool.false_eq_true, if_false]

/-- `int()` of digits fails on those without a decimal value and on very long texts. -/
theorem intOfText_of_isDigitText {text : List Char} (h : isDigitText text = true) :
    (∃ n, intOfText text = .ok n) ↔
      (text.all fun c => (decimalValue c).isSome) = true ∧ text.length ≤ maxStrDigits := by
  obtain ⟨hsign, hne, hunderscore⟩ := splitSign_of_isDigitText h
  have hmap := decimalDigits_of_not_mem hne hunderscore
  rw [← isSome_mapM, ← hmap]
  cases hdigits : decimalDigits text with
  | none =>
      unfold intOfText
      rw [stripNumeral_of_isDigitText h, hsign]
      simp only [hdigits]
      simp
  | some digits =>
      have hlength := length_of_mapM (hmap.symm.trans hdigits)
      rw [intOfText_digits h hdigits, hlength]
      by_cases hlong : maxStrDigits < text.length
      · simp [hlong]
      · simp [if_neg hlong]
        omega

/-- Digits that may be absent on one side of the decimal point. -/
def optionalDigits : List Char → Option (List Nat)
  | [] => some []
  | text => decimalDigits text

/-- The mantissa of a float literal: digits around an optional point, at least
one of them. -/
def mantissaOfText (text : List Char) : Option (Nat × Int) :=
  match splitAtFirst (· == '.') text with
  | (whole, none) => (decimalDigits whole).map fun ds => (ofDigits ds, 0)
  | (whole, some fraction) => do
      let ws ← optionalDigits whole
      let fs ← optionalDigits fraction
      if ws.isEmpty && fs.isEmpty then none
      else pure (ofDigits (ws ++ fs), -(fs.length : Int))

/-- The exponent of a float literal. -/
def exponentOfText (text : List Char) : Option Int :=
  let (negative, numeral) := splitSign text
  (decimalDigits numeral).map fun ds =>
    if negative then -(ofDigits ds : Int) else ofDigits ds

/-- ASCII `str.lower`, enough for the names of the special floats. -/
def lowerAscii (text : List Char) : List Char :=
  text.map Char.toLower

/-- `float(text)`. -/
def floatOfText [Runtime F] (text : List Char) : Except Exc F :=
  let (negative, numeral) := splitSign (stripNumeral text)
  let invalid : Except Exc F := .error (.valueError "could not convert string to float")
  if lowerAscii numeral = "inf".toList || lowerAscii numeral = "infinity".toList then
    .ok (Runtime.infinity negative)
  else if lowerAscii numeral = "nan".toList then .ok Runtime.nan
  else
    match splitAtFirst (fun c => c == 'e' || c == 'E') numeral with
    | (mantissa, none) =>
        match mantissaOfText mantissa with
        | some (digits, exponent) => .ok (Runtime.floatOfDecimal negative digits exponent)
        | none => invalid
    | (mantissa, some exponentText) =>
        match mantissaOfText mantissa, exponentOfText exponentText with
        | some (digits, exponent), some shift =>
            .ok (Runtime.floatOfDecimal negative digits (exponent + shift))
        | _, _ => invalid

/-! ## Conversions -/

/-- `int(v)`. -/
def PyValue.toInt [Runtime F] : PyValue F → Except Exc Int
  | .bool b => .ok (if b then 1 else 0)
  | .int n => .ok n
  | .float x => Runtime.floatToInt x
  | .str s => intOfText s.toList
  | v => .error (.typeError
      ("int() argument must be a string, a bytes-like object or a real number, not '" ++
        v.typeName ++ "'"))

/-- `float(v)`. -/
def PyValue.toFloat [Runtime F] : PyValue F → Except Exc F
  | .bool b => Runtime.floatOfInt (if b then 1 else 0)
  | .int n => Runtime.floatOfInt n
  | .float x => .ok x
  | .str s => floatOfText s.toList
  | v => .error (.typeError
      ("float() argument must be a string or a real number, not '" ++ v.typeName ++ "'"))

/-- `str(n)` of an integer. -/
def intText (n : Int) : String :=
  toString n

/-- Lower-case hexadecimal digits of `n`, padded to `width`. -/
def hexText (width n : Nat) : List Char :=
  let digits := Nat.toDigits 16 n
  List.replicate (width - digits.length) '0' ++ digits

/-- One character inside `repr` of a string with the given quote. -/
def reprChar (F : Type) [Runtime F] (quote c : Char) : List Char :=
  if c = quote || c = '\\' then ['\\', c]
  else if c = '\n' then ['\\', 'n']
  else if c = '\r' then ['\\', 'r']
  else if c = '\t' then ['\\', 't']
  else if Runtime.isPrintable F c then [c]
  else if c.toNat < 0x100 then '\\' :: 'x' :: hexText 2 c.toNat
  else if c.toNat < 0x10000 then '\\' :: 'u' :: hexText 4 c.toNat
  else '\\' :: 'U' :: hexText 8 c.toNat

/-- `repr(s)`: single quotes unless only they occur in the string. -/
def reprStr (F : Type) [Runtime F] (s : String) : String :=
  let text := s.toList
  let quote := if text.contains '\'' && !text.contains '"' then '"' else '\''
  String.ofList (quote :: text.flatMap (reprChar F quote) ++ [quote])

mutual

/-- `repr(v)`. -/
def PyValue.repr [Runtime F] : PyValue F → String
  | .none => "None"
  | .bool b => if b then "True" else "False"
  | .int n => intText n
  | .float x => Runtime.floatRepr x
  | .str s => reprStr F s
  | .list items => "[" ++ ", ".intercalate (reprItems items) ++ "]"
  | .dict members => "\x7b" ++ ", ".intercalate (reprMembers members) ++ "\x7d"

/-- `repr` of the items of a list. -/
def reprItems [Runtime F] : List (PyValue F) → List String
  | [] => []
  | v :: rest => v.repr :: reprItems rest

/-- `repr` of the members of a dictionary. -/
def reprMembers [Runtime F] : List (String × PyValue F) → List String
  | [] => []
  | (key, v) :: rest => (reprStr F key ++ ": " ++ v.repr) :: reprMembers rest

end

/-- `str(v)`. -/
def PyValue.toStr [Runtime F] : PyValue F → String
  | .str s => s
  | v => v.repr

end Python
end FreeLunch
