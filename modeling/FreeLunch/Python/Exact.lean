import FreeLunch.Python.Json

/-!
# A runtime with exact arithmetic

An instance of `Runtime` whose floats are rational numbers with the infinities and
a not-a-number value.  It evaluates the model on concrete inputs; on inputs whose
numbers are representable it agrees with the interpreter.  Plain rational numbers
serve where only arithmetic is needed.
-/

namespace FreeLunch
namespace Python

/-- An exact float. -/
inductive Exact where
  | finite (q : Rat)
  | infinite (negative : Bool)
  | nan
deriving DecidableEq, Repr

instance : FloatArith Rat where
  lt x y := decide (x < y)
  eq x y := decide (x = y)
  ofInt n := n
  intLt n x := decide ((n : Rat) < x)
  intLe n x := decide ((n : Rat) ≤ x)

/-- Round toward zero. -/
def truncate (q : Rat) : Int :=
  if q < 0 then -(-q).floor else q.floor

/-- A finite number as text; numbers without a finite expansion are written as a
quotient, which no decoded document contains. -/
def exactText (q : Rat) : String :=
  if q.den = 1 then intText q.num ++ ".0" else toString q

/-- Rational numbers as floats.  There are no infinities among them, and zero takes the place
of the values that are no numbers; they serve where only arithmetic is done. -/
instance : Runtime Rat where
  floatOfDecimal negative digits exponent :=
    let q := if 0 ≤ exponent then (digits : Rat) * 10 ^ exponent.toNat
      else (digits : Rat) / 10 ^ (-exponent).toNat
    if negative then -q else q
  infinity _ := 0
  nan := 0
  floatRepr := exactText
  floatJson := exactText
  floatIsZero q := q == 0
  floatToInt q := .ok (truncate q)
  floatOfInt n := .ok n
  isPrintable c := 0x20 ≤ c.toNat && c.toNat ≤ 0x7e
  recursionLimit := 1000

instance : Runtime Exact where
  floatOfDecimal negative digits exponent :=
    let q := if 0 ≤ exponent then (digits : Rat) * 10 ^ exponent.toNat
      else (digits : Rat) / 10 ^ (-exponent).toNat
    .finite (if negative then -q else q)
  infinity negative := .infinite negative
  nan := .nan
  floatRepr
    | .finite q => exactText q
    | .infinite negative => if negative then "-inf" else "inf"
    | .nan => "nan"
  floatJson
    | .finite q => exactText q
    | .infinite negative => if negative then "-Infinity" else "Infinity"
    | .nan => "NaN"
  floatIsZero
    | .finite q => q == 0
    | _ => false
  floatToInt
    | .finite q => .ok (truncate q)
    | .infinite _ => .error (.overflowError "cannot convert float infinity to integer")
    | .nan => .error (.valueError "cannot convert float NaN to integer")
  floatOfInt n := .ok (.finite n)
  isPrintable c := 0x20 ≤ c.toNat && c.toNat ≤ 0x7e
  recursionLimit := 1000

/-- Sums; opposite infinities have none. -/
def Exact.add : Exact → Exact → Exact
  | .finite p, .finite q => .finite (p + q)
  | .nan, _ => .nan
  | _, .nan => .nan
  | .infinite s, .infinite t => if s = t then .infinite s else .nan
  | .infinite s, _ => .infinite s
  | _, .infinite t => .infinite t

/-- Negation. -/
def Exact.neg : Exact → Exact
  | .finite q => .finite (-q)
  | .infinite s => .infinite !s
  | .nan => .nan

/-- The sign of a number, where it has one. -/
def Exact.negative? : Exact → Option Bool
  | .finite q => if q = 0 then none else some (decide (q < 0))
  | .infinite s => some s
  | .nan => none

/-- Products; an infinity times zero has none. -/
def Exact.mul : Exact → Exact → Exact
  | .finite p, .finite q => .finite (p * q)
  | x, y =>
      match x.negative?, y.negative? with
      | some s, some t => .infinite (s != t)
      | _, _ => .nan

/-- Quotients; the interpreter raises on a division by zero. -/
def Exact.div : Exact → Exact → Exact
  | .finite p, .finite q => if q = 0 then .nan else .finite (p / q)
  | .finite _, .infinite _ => .finite 0
  | .infinite s, .finite q => .infinite (s != decide (q < 0))
  | _, _ => .nan

/-- The order; nothing compares with a not-a-number value. -/
def Exact.lt : Exact → Exact → Bool
  | .finite p, .finite q => decide (p < q)
  | .infinite s, .finite _ => s
  | .finite _, .infinite t => !t
  | .infinite s, .infinite t => s && !t
  | _, _ => false

instance : FloatArith Exact where
  add := Exact.add
  sub x y := x.add y.neg
  mul := Exact.mul
  div := Exact.div
  neg := Exact.neg
  ofScientific mantissa negative exponent :=
    .finite (OfScientific.ofScientific mantissa negative exponent)
  lt := Exact.lt
  eq x y := decide (x = y ∧ x ≠ .nan)
  ofInt n := .finite n
  intLt n x := (Exact.finite n).lt x
  intLe n x := (Exact.finite n).lt x || decide (x = .finite n)

instance : LawfulFloat Exact where
  floatOfInt_ok n _ _ := ⟨.finite n, rfl⟩
  floatOfInt_toInt _ n _ := ⟨.finite n, rfl⟩
  floatToInt_zero x h := by
    cases x with
    | finite q => exact ⟨truncate q, rfl⟩
    | infinite negative => cases h
    | nan => cases h
  sub_ne_zero x y h := by
    have hzero : (0.0 : Exact) = .finite 0 := by
      have hrat : (OfScientific.ofScientific 0 true 1 : Rat) = 0 := by decide +kernel
      exact congrArg Exact.finite hrat
    rw [hzero]
    change decide (y.add x.neg = .finite 0 ∧ y.add x.neg ≠ .nan) = false
    rw [decide_eq_false_iff_not]
    cases x with
    | finite p =>
        cases y with
        | finite q =>
            have hne : q ≠ p := by
              rintro rfl
              simp [floatLessEq, FloatArith.eq] at h
            rintro ⟨hsum, -⟩
            have hdiff : q + -p = 0 := Exact.finite.inj hsum
            apply hne
            grind
        | infinite t => simp [Exact.add, Exact.neg]
        | nan => simp [Exact.add]
    | infinite s => cases y <;> simp [Exact.add, Exact.neg]; split <;> simp
    | nan => cases y <;> simp [Exact.add, Exact.neg]

/-- The order of exact floats, without the comparison that makes it. -/
theorem Exact.floatLessEq_iff {x y : Exact} :
    floatLessEq x y = true ↔ x.lt y = true ∨ (x = y ∧ x ≠ .nan) := by
  unfold floatLessEq
  rw [Bool.or_eq_true]
  exact or_congr Iff.rfl decide_eq_true_iff

theorem Exact.le_of_not_lt {x y : Exact} (hx : x ≠ .nan) (hy : y ≠ .nan)
    (h : x.lt y = false) : y.lt x = true ∨ (y = x ∧ y ≠ .nan) := by
  cases x with
  | nan => exact absurd rfl hx
  | finite p =>
      cases y with
      | nan => exact absurd rfl hy
      | finite q =>
          have hle : q ≤ p := Rat.not_lt.mp (of_decide_eq_false h)
          rcases Rat.le_iff_lt_or_eq.mp hle with hlt | rfl
          · exact .inl (decide_eq_true hlt)
          · exact .inr ⟨rfl, hy⟩
      | infinite t =>
          cases t with
          | true => exact .inl rfl
          | false => cases h
  | infinite s =>
      cases y with
      | nan => exact absurd rfl hy
      | finite q =>
          cases s with
          | true => cases h
          | false => exact .inl rfl
      | infinite t =>
          cases s <;> cases t
          · exact .inr ⟨rfl, nofun⟩
          · exact .inl rfl
          · cases h
          · exact .inr ⟨rfl, nofun⟩

theorem Exact.lt_trans {x y z : Exact} (hxy : x.lt y = true) (hyz : y.lt z = true) :
    x.lt z = true := by
  cases x with
  | nan => cases hxy
  | finite p =>
      cases y with
      | nan => cases hyz
      | finite q =>
          cases z with
          | nan => cases hyz
          | finite r =>
              have hpq : p < q := of_decide_eq_true hxy
              have hqr : q < r := of_decide_eq_true hyz
              exact decide_eq_true (by grind)
          | infinite t => exact hyz
      | infinite t =>
          cases t with
          | true => cases hxy
          | false => cases z <;> cases hyz
  | infinite s =>
      cases s with
      | false => cases y <;> cases hxy
      | true =>
          cases z with
          | nan => cases y <;> cases hyz
          | finite r => rfl
          | infinite t =>
              cases t with
              | false => rfl
              | true =>
                  cases y with
                  | nan => cases hxy
                  | finite q => cases hyz
                  | infinite u => cases u <;> cases hyz

example : loads (F := Exact) "[1]".toList = .ok (.list [.int 1]) := by rfl

example : loads (F := Exact) "nope".toList = .error (.jsonDecodeError "Expecting value") := by
  rfl

end Python
end FreeLunch
