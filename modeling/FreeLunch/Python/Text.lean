import Mathlib.Data.List.Basic

/-!
# Text as Python sees it

Character classes, `str.strip`, what `int` and `float` strip, `str.splitlines`,
`str.isdigit` and the UTF-8 decoder with `errors="ignore"`, on lists of characters
and bytes.  The tables
are those of the Unicode database that CPython ships.

Main results:

- Theorem `strip_of_ends`: text without outer whitespace is its own strip.
- Theorem `strip_strip`: stripping twice is stripping once.

Current gaps:

- Text is a list of Unicode scalar values, so a lone surrogate (which `str` can
  hold) has no counterpart here.
-/

namespace FreeLunch
namespace Python

/-! ## Character classes -/

/-- Membership of a code point in a table of closed ranges. -/
def inRanges (ranges : List (Nat × Nat)) (n : Nat) : Bool :=
  ranges.any fun r => r.1 ≤ n && n ≤ r.2

/-- `str.isspace` of one character. -/
def isSpace (c : Char) : Bool :=
  inRanges [(0x9, 0xd), (0x1c, 0x20), (0x85, 0x85), (0xa0, 0xa0), (0x1680, 0x1680),
    (0x2000, 0x200a), (0x2028, 0x2029), (0x202f, 0x202f), (0x205f, 0x205f),
    (0x3000, 0x3000)] c.toNat

/-- The first code points of the runs of ten decimal digits. -/
def decimalZeros : List Nat :=
  [0x30, 0x660, 0x6f0, 0x7c0, 0x966, 0x9e6, 0xa66, 0xae6, 0xb66, 0xbe6, 0xc66, 0xce6,
    0xd66, 0xde6, 0xe50, 0xed0, 0xf20, 0x1040, 0x1090, 0x17e0, 0x1810, 0x1946, 0x19d0,
    0x1a80, 0x1a90, 0x1b50, 0x1bb0, 0x1c40, 0x1c50, 0xa620, 0xa8d0, 0xa900, 0xa9d0,
    0xa9f0, 0xaa50, 0xabf0, 0xff10, 0x104a0, 0x10d30, 0x11066, 0x110f0, 0x11136,
    0x111d0, 0x112f0, 0x11450, 0x114d0, 0x11650, 0x116c0, 0x11730, 0x118e0, 0x11950,
    0x11c50, 0x11d50, 0x11da0, 0x16a60, 0x16ac0, 0x16b50, 0x1d7ce, 0x1d7d8, 0x1d7e2,
    0x1d7ec, 0x1d7f6, 0x1e140, 0x1e2f0, 0x1e950, 0x1fbf0]

/-- `unicodedata.decimal`: the value of a decimal digit of any script. -/
def decimalValue (c : Char) : Option Nat :=
  (decimalZeros.find? fun start => start ≤ c.toNat && c.toNat < start + 10).map
    fun start => c.toNat - start

/-- `str.isdigit` of one character: the decimal digits and those, such as
superscripts, that have a digit value but no decimal value. -/
def isDigit (c : Char) : Bool :=
  (decimalValue c).isSome ||
    inRanges [(0xb2, 0xb3), (0xb9, 0xb9), (0x1369, 0x1371), (0x19da, 0x19da),
      (0x2070, 0x2070), (0x2074, 0x2079), (0x2080, 0x2089), (0x2460, 0x2468),
      (0x2474, 0x247c), (0x2488, 0x2490), (0x24ea, 0x24ea), (0x24f5, 0x24fd),
      (0x24ff, 0x24ff), (0x2776, 0x277e), (0x2780, 0x2788), (0x278a, 0x2792),
      (0x10a40, 0x10a43), (0x10e60, 0x10e68), (0x11052, 0x1105a),
      (0x1f100, 0x1f10a)] c.toNat

/-- `str.isdigit`: nonempty and all digits. -/
def isDigitText (text : List Char) : Bool :=
  !text.isEmpty && text.all isDigit

/-- A character that ends a line for `str.splitlines`. -/
def isLineBreak (c : Char) : Bool :=
  inRanges [(0xa, 0xd), (0x1c, 0x1e), (0x85, 0x85), (0x2028, 0x2029)] c.toNat

/-! ## Stripping and splitting -/

/-- The text without the characters of a class at its ends. -/
def stripOf (p : Char → Bool) (text : List Char) : List Char :=
  ((text.dropWhile p).reverse.dropWhile p).reverse

/-- `str.strip()`. -/
def strip (text : List Char) : List Char :=
  stripOf isSpace text

/-- The whitespace that `int` and `float` pass over at the ends of a text.  Whitespace beyond
ASCII becomes a blank, and the rest is that of `isspace` in C, which knows no separators. -/
def isNumeralSpace (c : Char) : Bool :=
  isSpace c && !inRanges [(0x1c, 0x1f)] c.toNat

/-- A text as `int` and `float` begin to read it. -/
def stripNumeral (text : List Char) : List Char :=
  stripOf isNumeralSpace text

/-- `str.splitlines()`, with the line read so far in reverse.  A carriage return
and the line feed after it end one line together. -/
def splitlinesFrom (current : List Char) : List Char → List (List Char)
  | [] => if current.isEmpty then [] else [current.reverse]
  | '\r' :: '\n' :: rest => current.reverse :: splitlinesFrom [] rest
  | c :: rest =>
      if isLineBreak c then current.reverse :: splitlinesFrom [] rest
      else splitlinesFrom (c :: current) rest

/-- `str.splitlines()`. -/
def splitlines (text : List Char) : List (List Char) :=
  splitlinesFrom [] text

/-- `str.startswith`. -/
def startsWith (text start : List Char) : Bool :=
  start.isPrefixOf text

/-- `str.endswith`. -/
def endsWith (text ending : List Char) : Bool :=
  ending.isSuffixOf text

theorem isAlpha_ascii {c : Char} (h : c.isAlpha = true) : c.toNat < 128 := by
  rcases (Bool.or_eq_true c.isUpper c.isLower).mp h with hupper | hlower
  · have hle : c.val ≤ 'Z'.val := (of_decide_eq_true hupper).2
    exact Nat.lt_of_le_of_lt (UInt32.le_iff_toNat_le.mp hle) (by decide)
  · have hle : c.val ≤ 'z'.val := of_decide_eq_true ((Bool.and_eq_true _ _).mp hlower).2
    exact Nat.lt_of_le_of_lt (UInt32.le_iff_toNat_le.mp hle) (by decide)

theorem isDigit_ascii {c : Char} (h : c.isDigit = true) : c.toNat < 128 := by
  have hle : c.val ≤ '9'.val := of_decide_eq_true ((Bool.and_eq_true _ _).mp h).2
  exact Nat.lt_of_le_of_lt (UInt32.le_iff_toNat_le.mp hle) (by decide)

/-- What a check of each character finds. -/
theorem forall_mem_of_all {p : Char → Prop} [DecidablePred p] {text : List Char}
    (h : text.all (fun c => decide (p c)) = true) : ∀ c ∈ text, p c :=
  fun c hc => of_decide_eq_true (List.all_eq_true.mp h c hc)

/-- Searching the lines of a text without carriage returns is searching the pieces between its
line breaks, when what is searched for is no empty line. -/
theorem find?_splitlinesFrom {p : List Char → Bool} (hp : p [] = false) {text : List Char}
    (hreturn : '\r' ∉ text) (current : List Char) :
    (splitlinesFrom current text).find? p =
      (List.splitOnPPrepend isLineBreak text current).find? p := by
  induction text generalizing current with
  | nil =>
      unfold splitlinesFrom
      cases current with
      | nil => simp [hp]
      | cons c current => rfl
  | cons c text ih =>
      rw [List.mem_cons, not_or] at hreturn
      rw [splitlinesFrom]
      · cases hbreak : isLineBreak c with
        | true =>
            rw [if_pos rfl, List.splitOnPPrepend_cons_pos hbreak, List.find?_cons,
              List.find?_cons, ih hreturn.2]
            rfl
        | false =>
            rw [if_neg Bool.false_ne_true, List.splitOnPPrepend_cons_neg hbreak, ih hreturn.2]
      · rintro rest rfl
        exact absurd rfl hreturn.1

theorem find?_splitlines {p : List Char → Bool} (hp : p [] = false) {text : List Char}
    (hreturn : '\r' ∉ text) :
    (splitlines text).find? p = (text.splitOnP isLineBreak).find? p :=
  find?_splitlinesFrom hp hreturn []

/-- Text whose ends are not of the class stays as it is. -/
theorem stripOf_of_ends {p : Char → Bool} {text : List Char}
    (hfirst : ∀ c ∈ text.head?, p c = false) (hlast : ∀ c ∈ text.getLast?, p c = false) :
    stripOf p text = text := by
  have hleft : text.dropWhile p = text := by
    cases text with
    | nil => rfl
    | cons c rest =>
        have hc : p c = false := hfirst c rfl
        simp [hc]
  have hright : text.reverse.dropWhile p = text.reverse := by
    cases hrev : text.reverse with
    | nil => rfl
    | cons c rest =>
        have hmem : c ∈ text.getLast? := by
          rw [List.getLast?_eq_head?_reverse, hrev]
          rfl
        simp [hlast c hmem]
  rw [stripOf, hleft, hright, List.reverse_reverse]

/-- Text without outer whitespace is its own strip. -/
theorem strip_of_ends {text : List Char} (hfirst : ∀ c ∈ text.head?, isSpace c = false)
    (hlast : ∀ c ∈ text.getLast?, isSpace c = false) : strip text = text :=
  stripOf_of_ends hfirst hlast

theorem isSpace_of_head?_dropWhile {text : List Char} {c : Char}
    (h : c ∈ (text.dropWhile isSpace).head?) : isSpace c = false := by
  have hnot := List.head?_dropWhile_not isSpace text
  rw [Option.mem_def.mp h] at hnot
  exact hnot

/-- Stripped text does not begin with whitespace. -/
theorem isSpace_of_head?_strip {text : List Char} {c : Char} (h : c ∈ (strip text).head?) :
    isSpace c = false := by
  unfold strip stripOf at h
  -- what is left of the text starts where the leading whitespace ends
  obtain ⟨tail, htail⟩ := List.dropWhile_suffix isSpace
    (l := (text.dropWhile isSpace).reverse)
  have hstart : text.dropWhile isSpace =
      ((text.dropWhile isSpace).reverse.dropWhile isSpace).reverse ++ tail.reverse := by
    rw [← List.reverse_append, htail, List.reverse_reverse]
  have hhead : c ∈ (text.dropWhile isSpace).head? := by
    rw [hstart, List.head?_append, Option.mem_def.mp h]
    rfl
  exact isSpace_of_head?_dropWhile hhead

/-- Stripping twice is stripping once. -/
theorem strip_strip (text : List Char) : strip (strip text) = strip text := by
  apply strip_of_ends
  · intro c hc
    exact isSpace_of_head?_strip hc
  · intro c hc
    unfold strip stripOf at hc
    rw [List.getLast?_reverse] at hc
    exact isSpace_of_head?_dropWhile hc

/-- Whitespace is no digit. -/
theorem isDigit_of_isSpace {c : Char} (h : isSpace c = true) : isDigit c = false := by
  have hcode : c.toNat ∈ (List.range' 0x9 5 ++ List.range' 0x1c 5 ++ [0x85, 0xa0, 0x1680] ++
      List.range' 0x2000 11 ++ [0x2028, 0x2029, 0x202f, 0x205f, 0x3000]) := by
    simp [isSpace, inRanges] at h
    simp
    omega
  unfold isDigit decimalValue
  revert hcode
  generalize c.toNat = n
  revert n
  decide

/-- Digits have no outer whitespace. -/
theorem stripNumeral_of_isDigitText {text : List Char} (h : isDigitText text = true) :
    stripNumeral text = text := by
  have hall : ∀ c ∈ text, isNumeralSpace c = false := by
    intro c hc
    rw [isDigitText, Bool.and_eq_true, List.all_eq_true] at h
    cases hspace : isSpace c with
    | false => rw [isNumeralSpace, hspace, Bool.false_and]
    | true =>
        have hdigit := h.2 c hc
        rw [isDigit_of_isSpace hspace] at hdigit
        cases hdigit
  apply stripOf_of_ends
  · intro c hc
    exact hall c (List.mem_of_mem_head? hc)
  · intro c hc
    exact hall c (List.mem_of_mem_getLast? hc)

/-! ## UTF-8 -/

/-- A continuation byte within bounds, the shape of every byte after the first. -/
def isContinuation (low high : Nat) (b : UInt8) : Bool :=
  low ≤ b.toNat && b.toNat ≤ high

/-- The scalar value of a code point; the decoder only builds valid ones. -/
def scalar (n : Nat) : Char :=
  Char.ofNat n

/-- The character of a well-formed sequence (no overlong form, no surrogate) that
starts with byte `a`, and the number of continuation bytes it takes from `rest`. -/
def decodeHead (a : UInt8) (rest : List UInt8) : Option (Char × Nat) :=
  let n := a.toNat
  if n < 0x80 then some (scalar n, 0)
  else if 0xc2 ≤ n && n ≤ 0xdf then
    match rest with
    | b :: _ =>
        if isContinuation 0x80 0xbf b then
          some (scalar ((n - 0xc0) * 0x40 + (b.toNat - 0x80)), 1)
        else none
    | [] => none
  else if 0xe0 ≤ n && n ≤ 0xef then
    let low := if n = 0xe0 then 0xa0 else 0x80
    let high := if n = 0xed then 0x9f else 0xbf
    match rest with
    | b :: c :: _ =>
        if isContinuation low high b && isContinuation 0x80 0xbf c then
          some (scalar ((n - 0xe0) * 0x1000 + (b.toNat - 0x80) * 0x40 + (c.toNat - 0x80)), 2)
        else none
    | _ => none
  else if 0xf0 ≤ n && n ≤ 0xf4 then
    let low := if n = 0xf0 then 0x90 else 0x80
    let high := if n = 0xf4 then 0x8f else 0xbf
    match rest with
    | b :: c :: d :: _ =>
        if isContinuation low high b && isContinuation 0x80 0xbf c &&
            isContinuation 0x80 0xbf d then
          some (scalar ((n - 0xf0) * 0x40000 + (b.toNat - 0x80) * 0x1000 +
            (c.toNat - 0x80) * 0x40 + (d.toNat - 0x80)), 3)
        else none
    | _ => none
  else none

/-- The decoder with the number of bytes still to pass over.  A byte that starts
no well-formed sequence is skipped alone; what is left of a broken sequence are
continuation bytes, which are skipped in the same way. -/
def decodeIgnoreFrom : Nat → List UInt8 → List Char
  | _, [] => []
  | skip + 1, _ :: rest => decodeIgnoreFrom skip rest
  | 0, a :: rest =>
      match decodeHead a rest with
      | some (c, taken) => c :: decodeIgnoreFrom taken rest
      | none => decodeIgnoreFrom 0 rest

/-- `bytes.decode("utf-8", errors="ignore")`. -/
def decodeIgnore (bytes : List UInt8) : List Char :=
  decodeIgnoreFrom 0 bytes

end Python
end FreeLunch
