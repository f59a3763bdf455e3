import FreeLunch.Foundations.Writes
import FreeLunch.Python.Exact

/-!
# Values in SQLite columns

How a Python value becomes a column value and what is read back: the binding of statement
parameters, the storage classes, the affinity of a column, the comparison of a column with
an integer, and `int(value or 0)` of a stored value.

Main results:

- Theorem `bindParam_ok_iff`: the values that can be bound.
- Theorem `sound_toIntegerColumn_iff`: the values that, bound and stored in an integer column, can
  be read back as an integer of float range.

Current gaps:

- Text is valid unless a predicate says otherwise: it stands for the lone surrogates that
  `str` can hold and UTF-8 cannot encode.
- The text that SQLite writes for a number in a text column is the one Python prints.
-/

namespace FreeLunch
namespace Store

open Python Writes

/-! ## Storage classes -/

/-- The range of 64 bits. -/
def FitsInt64 (n : Int) : Prop :=
  -2 ^ 63 ≤ n ∧ n < 2 ^ 63

instance (n : Int) : Decidable (FitsInt64 n) :=
  inferInstanceAs (Decidable (_ ∧ _))

theorem fitsInt64_zero : FitsInt64 0 := by
  decide

theorem fitsInt64_one : FitsInt64 1 := by
  decide

/-- An integer SQLite can store. -/
abbrev SqlInt := { n : Int // FitsInt64 n }

/-- A truth value as SQLite stores it. -/
def sqlBool (b : Bool) : SqlInt :=
  if b then ⟨1, by decide⟩ else ⟨0, by decide⟩

/-- A value in a column. -/
inductive SqlValue (F : Type) where
  | null
  | integer (n : SqlInt)
  | real (x : F)
  | text (s : String)
deriving DecidableEq

section Values

variable {F : Type} [Runtime F] [FloatArith F]

/-! ## Binding -/

omit [Runtime F] in
/-- `x != x`. -/
def isNan (x : F) : Bool :=
  !FloatArith.eq x x

omit [Runtime F] in
/-- What `sqlite3` binds for a parameter. -/
def bindParam (encodable : String → Bool) (v : PyValue F) : Except Exc (SqlValue F) :=
  match v with
  | .none => .ok .null
  | .bool b => .ok (.integer (sqlBool b))
  | .int n =>
      if h : FitsInt64 n then .ok (.integer ⟨n, h⟩)
      else .error (.overflowError "Python int too large to convert to SQLite INTEGER")
  | .float x => .ok (if isNan x then .null else .real x)
  | .str s =>
      if encodable s then .ok (.text s)
      else .error (.valueError "'utf-8' codec can't encode characters: surrogates not allowed")
  | v => .error (.other
      ("Error binding parameter: type '" ++ v.typeName ++ "' is not supported"))

omit [Runtime F] [FloatArith F] in
/-- A value `sqlite3` can bind. -/
def Bindable (encodable : String → Bool) : PyValue F → Prop
  | .int n => FitsInt64 n
  | .str s => encodable s = true
  | .list _ | .dict _ => False
  | _ => True

/-! ## Numbers in text -/

/-- The whitespace of SQLite's number reader. -/
def isSqlSpace (c : Char) : Bool :=
  (0x9 ≤ c.toNat && c.toNat ≤ 0xd) || c == ' '

/-- A decimal digit of ASCII. -/
def asciiDigit (c : Char) : Option Nat :=
  if 0x30 ≤ c.toNat && c.toNat ≤ 0x39 then some (c.toNat - 0x30) else none

/-- A number literal. -/
structure Numeral where
  negative : Bool
  whole : List Nat
  fraction : Option (List Nat)
  exponent : Option Int
deriving DecidableEq, Repr

/-- The exponent behind `e`. -/
def exponentOf (text : List Char) : Option Int := do
  let (negative, digits) := splitSign text
  let digits ← digits.mapM asciiDigit
  if digits.isEmpty then none
  else some (if negative then -(ofDigits digits : Int) else ofDigits digits)

/-- The literal a text consists of, up to outer whitespace. -/
def numeralOf (text : List Char) : Option Numeral := do
  let trimmed := ((text.dropWhile isSqlSpace).reverse.dropWhile isSqlSpace).reverse
  let (negative, body) := splitSign trimmed
  let (mantissa, exponentText) := splitAtFirst (fun c => c == 'e' || c == 'E') body
  let (wholeText, fractionText) := splitAtFirst (· == '.') mantissa
  let whole ← wholeText.mapM asciiDigit
  let fraction ← (fractionText.getD []).mapM asciiDigit
  if whole.isEmpty && fraction.isEmpty then none
  else
    match exponentText with
    | none => some ⟨negative, whole, fractionText.map fun _ => fraction, none⟩
    | some text => do
        let exponent ← exponentOf text
        some ⟨negative, whole, fractionText.map fun _ => fraction, some exponent⟩

/-- The integer of a literal without fraction and exponent. -/
def Numeral.integer? (numeral : Numeral) : Option Int :=
  if numeral.fraction = none ∧ numeral.exponent = none then
    some (if numeral.negative then -(ofDigits numeral.whole : Int) else ofDigits numeral.whole)
  else none

omit [FloatArith F] in
/-- The real number nearest to a literal. -/
def Numeral.toReal (numeral : Numeral) : F :=
  let fraction := numeral.fraction.getD []
  Runtime.floatOfDecimal numeral.negative (ofDigits (numeral.whole ++ fraction))
    (numeral.exponent.getD 0 - fraction.length)

/-! ## Affinity -/

/-- A real number in a column of integer affinity: an integer where it is one and not at
the ends of the range. -/
def integerIfExact (x : F) : SqlValue F :=
  match Runtime.floatToInt x with
  | .ok n =>
      if h : -2 ^ 63 < n ∧ n < 2 ^ 63 - 1 ∧ FloatArith.intLe n x = true ∧
          FloatArith.intLt n x = false
      then .integer ⟨n, Int.le_of_lt h.1, Int.lt_trans h.2.1 (by decide)⟩
      else .real x
  | .error _ => .real x

/-- A literal in a column of integer affinity. -/
def Numeral.store (numeral : Numeral) : SqlValue F :=
  match numeral.integer? with
  | some n => if h : FitsInt64 n then .integer ⟨n, h⟩ else integerIfExact numeral.toReal
  | none => integerIfExact numeral.toReal

/-- A value as a column of integer affinity stores it. -/
def SqlValue.toIntegerColumn (v : SqlValue F) : SqlValue F :=
  match v with
  | .real x => integerIfExact x
  | .text s =>
      match numeralOf s.toList with
      | some numeral => numeral.store
      | none => .text s
  | v => v

omit [FloatArith F] in
/-- A value as a column of text affinity stores it, `none` for null. -/
def SqlValue.toTextColumn (v : SqlValue F) : Option String :=
  match v with
  | .null => none
  | .integer n => some (intText n)
  | .real x => some (Runtime.floatRepr x)
  | .text s => some s

omit [Runtime F] [FloatArith F] in
/-- The integer a bound integer is. -/
def SqlValue.integer? (v : SqlValue F) : Option SqlInt :=
  match v with
  | .integer n => some n
  | _ => none

omit [Runtime F] [FloatArith F] in
/-- The real number a bound float is. -/
def SqlValue.real? (v : SqlValue F) : Option F :=
  match v with
  | .real x => some x
  | _ => none

/-! ## Reading -/

omit [Runtime F] [FloatArith F] in
/-- `column IS NULL`. -/
def SqlValue.isNull (v : SqlValue F) : Bool :=
  match v with
  | .null => true
  | _ => false

omit [Runtime F] in
/-- `column >= n`: null compares with nothing, and text is above every number. -/
def SqlValue.ge (v : SqlValue F) (n : Int) : Bool :=
  match v with
  | .null => false
  | .integer m => n ≤ m.val
  | .real x => FloatArith.intLe n x
  | .text _ => true

omit [FloatArith F] in
/-- `int(value or 0)`. -/
def SqlValue.intOrZero (v : SqlValue F) : Except Exc Int :=
  match v with
  | .null => .ok 0
  | .integer n => .ok n.val
  | .real x => if Runtime.floatIsZero x then .ok 0 else Runtime.floatToInt x
  | .text s => if s = "" then .ok 0 else intOfText s.toList

omit [FloatArith F] in
/-- `int(value or 0)` and `float` of it return. -/
def SqlValue.Sound (v : SqlValue F) : Prop :=
  ∃ n, v.intOrZero = .ok n ∧ ∃ x : F, Runtime.floatOfInt n = .ok x

omit [FloatArith F] in
/-- A number literal whose value is finite. -/
def Numeral.Finite (F : Type) [Runtime F] (numeral : Numeral) : Prop :=
  (∃ n, numeral.integer? = some n ∧ FitsInt64 n) ∨
    ∃ n, Runtime.floatToInt (numeral.toReal : F) = .ok n

/-- A value that can be read back as an integer from a column of integer affinity: no
infinite number, and no text that is neither a finite number literal of SQLite nor one that
`int()` reads as an integer of float range. -/
def Harmless (v : PyValue F) : Prop :=
  match v with
  | .float x => isNan x = true ∨ ∃ n, Runtime.floatToInt x = .ok n
  | .str s =>
      (∃ numeral, numeralOf s.toList = some numeral ∧ numeral.Finite F) ∨
        (numeralOf s.toList = none ∧ (s = "" ∨ ∃ n, intOfText s.toList = .ok n ∧
          ∃ x : F, Runtime.floatOfInt n = .ok x))
  | _ => True

/-! ## What can be bound and read back -/

omit [Runtime F] in
theorem bindParam_ok_iff (encodable : String → Bool) (v : PyValue F) :
    (∃ p, bindParam encodable v = .ok p) ↔ Bindable encodable v := by
  cases v with
  | int n => by_cases h : FitsInt64 n <;> simp [bindParam, Bindable, h]
  | str s => by_cases h : encodable s = true <;> simp [bindParam, Bindable, h]
  | _ => simp [bindParam, Bindable]

variable [LawfulFloat F]

theorem sound_integer (n : SqlInt) : (SqlValue.integer n : SqlValue F).Sound :=
  ⟨n.val, rfl, LawfulFloat.floatOfInt_ok n.val n.property.1 n.property.2⟩

theorem sound_null : (SqlValue.null : SqlValue F).Sound :=
  ⟨0, rfl, LawfulFloat.floatOfInt_ok 0 (by decide) (by decide)⟩

/-- A real number is read back exactly when it is finite. -/
theorem sound_integerIfExact_iff (x : F) :
    (integerIfExact x).Sound ↔ ∃ n, Runtime.floatToInt x = .ok n := by
  have hreal : (SqlValue.real x).Sound ↔ ∃ n, Runtime.floatToInt x = .ok n := by
    unfold SqlValue.Sound SqlValue.intOrZero
    by_cases hzero : Runtime.floatIsZero x = true
    · simp only [if_pos hzero]
      refine iff_of_true ⟨0, rfl, ?_⟩ (LawfulFloat.floatToInt_zero x hzero)
      exact LawfulFloat.floatOfInt_ok 0 (by decide) (by decide)
    · simp only [if_neg hzero]
      constructor
      · rintro ⟨n, hn, -⟩
        exact ⟨n, hn⟩
      · rintro ⟨n, hn⟩
        exact ⟨n, hn, LawfulFloat.floatOfInt_toInt x n hn⟩
  unfold integerIfExact
  cases hx : Runtime.floatToInt x with
  | error exc =>
      rw [hx] at hreal
      exact hreal
  | ok n =>
      rw [hx] at hreal
      refine iff_of_true ?_ ⟨n, rfl⟩
      dsimp only
      split
      · exact sound_integer _
      · exact hreal.mpr ⟨n, rfl⟩

theorem sound_numeral_iff (numeral : Numeral) :
    (numeral.store : SqlValue F).Sound ↔ numeral.Finite F := by
  unfold Numeral.store Numeral.Finite
  cases numeral.integer? with
  | none => simp [sound_integerIfExact_iff]
  | some n =>
      by_cases hfits : FitsInt64 n
      · simp [hfits, sound_integer]
      · simp [hfits, sound_integerIfExact_iff]

/-- A bound value can be read back from an integer column exactly when it is harmless. -/
theorem sound_toIntegerColumn_iff {encodable : String → Bool} {v : PyValue F} {p : SqlValue F}
    (h : bindParam encodable v = .ok p) : p.toIntegerColumn.Sound ↔ Harmless v := by
  cases v with
  | none =>
      cases h
      exact iff_of_true sound_null trivial
  | bool b =>
      cases h
      exact iff_of_true (sound_integer _) trivial
  | int n =>
      rw [bindParam] at h
      by_cases hfits : FitsInt64 n
      · rw [dif_pos hfits] at h
        cases h
        exact iff_of_true (sound_integer _) trivial
      · rw [dif_neg hfits] at h
        cases h
  | float x =>
      cases h
      simp only [Harmless]
      by_cases hnan : isNan x = true
      · rw [if_pos hnan]
        exact iff_of_true sound_null (.inl hnan)
      · rw [if_neg hnan, or_iff_right hnan]
        exact sound_integerIfExact_iff x
  | str s =>
      rw [bindParam] at h
      by_cases hencodable : encodable s = true
      · rw [if_pos hencodable] at h
        cases h
        simp only [Harmless, SqlValue.toIntegerColumn]
        cases hnumeral : numeralOf s.toList with
        | some numeral => simp [sound_numeral_iff]
        | none =>
            simp only [reduceCtorEq, false_and, exists_false, true_and, false_or]
            unfold SqlValue.Sound SqlValue.intOrZero
            by_cases hempty : s = ""
            · simp only [if_pos hempty]
              refine iff_of_true ⟨0, rfl, ?_⟩ (.inl hempty)
              exact LawfulFloat.floatOfInt_ok 0 (by decide) (by decide)
            · simp only [if_neg hempty, or_iff_right hempty]
      · rw [if_neg hencodable] at h
        cases h
  | list items => cases h
  | dict members => cases h

end Values

end Store
end FreeLunch
