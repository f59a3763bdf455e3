import FreeLunch.Python.Text

/-!
# UTF-8 with replacement

`bytes.decode("utf-8", errors="replace")` and `str.encode("utf-8")` on lists of bytes and
characters.  The decoder puts one replacement character in the place of each maximal part of
an ill-formed sequence, which has one to three bytes; the replacement character itself takes
three.

Main results:

- Theorem `length_encodeUtf8_decodeReplace`: how much longer the bytes get by decoding and
  encoding them again.
- Theorem `head_decodeReplace`: an ASCII character at the front is decoded as itself and
  comes from nothing else.
- Theorem `decodeReplace_encodeUtf8`: encoded text is decoded to itself.
- Theorem `mem_of_mem_encodeUtf8`: an ASCII byte of encoded text stands for its character.
-/

namespace FreeLunch
namespace Python

/-! ## Encoding and decoding -/

/-- `str.encode("utf-8")`. -/
def encodeUtf8 (text : List Char) : List UInt8 :=
  text.flatMap String.utf8EncodeChar

/-- The continuation bytes that belong to the ill-formed sequence which starts with byte
`a`: those that a longer well-formed sequence could have started with. -/
def brokenTail (a : UInt8) (rest : List UInt8) : Nat :=
  let n := a.toNat
  if 0xe0 ≤ n && n ≤ 0xef then
    let low := if n = 0xe0 then 0xa0 else 0x80
    let high := if n = 0xed then 0x9f else 0xbf
    match rest with
    | b :: _ => if isContinuation low high b then 1 else 0
    | [] => 0
  else if 0xf0 ≤ n && n ≤ 0xf4 then
    let low := if n = 0xf0 then 0x90 else 0x80
    let high := if n = 0xf4 then 0x8f else 0xbf
    match rest with
    | b :: c :: _ =>
        if isContinuation low high b then
          if isContinuation 0x80 0xbf c then 2 else 1
        else 0
    | [b] => if isContinuation low high b then 1 else 0
    | [] => 0
  else 0

/-- The decoder with the number of bytes still to pass over. -/
def decodeReplaceFrom : Nat → List UInt8 → List Char
  | _, [] => []
  | skip + 1, _ :: rest => decodeReplaceFrom skip rest
  | 0, a :: rest =>
      match decodeHead a rest with
      | some (c, taken) => c :: decodeReplaceFrom taken rest
      | none => '\uFFFD' :: decodeReplaceFrom (brokenTail a rest) rest

/-- The strict decoder with the number of bytes still to pass over. -/
def decodeStrictFrom : Nat → List UInt8 → Option (List Char)
  | _, [] => some []
  | skip + 1, _ :: rest => decodeStrictFrom skip rest
  | 0, a :: rest =>
      match decodeHead a rest with
      | some (c, taken) => (decodeStrictFrom taken rest).map (c :: ·)
      | none => none

/-- `bytes.decode("utf-8")`, `none` for a `UnicodeDecodeError`. -/
def decodeStrict (bytes : List UInt8) : Option (List Char) :=
  decodeStrictFrom 0 bytes

/-- `bytes.decode("utf-8", errors="replace")`. -/
def decodeReplace (bytes : List UInt8) : List Char :=
  decodeReplaceFrom 0 bytes

example : decodeReplace [0xe2, 0x82, 0x41, 0xff] = ['\uFFFD', 'A', '\uFFFD'] := by decide

/-- The bytes that replacing adds, with the number of bytes still to pass over. -/
def replacementGrowthFrom : Nat → List UInt8 → Nat
  | _, [] => 0
  | skip + 1, _ :: rest => replacementGrowthFrom skip rest
  | 0, a :: rest =>
      match decodeHead a rest with
      | some (_, taken) => replacementGrowthFrom taken rest
      | none => 2 - brokenTail a rest + replacementGrowthFrom (brokenTail a rest) rest

/-- The bytes that replacing adds: for each ill-formed sequence, what it lacks of three. -/
def replacementGrowth (bytes : List UInt8) : Nat :=
  replacementGrowthFrom 0 bytes

/-! ## The size of a decoded character -/

/-- A code point that is no surrogate is its own scalar value. -/
theorem toNat_scalar {n : Nat} (h : n.isValidChar) : (scalar n).toNat = n := by
  unfold scalar Char.ofNat
  rw [dif_pos h]
  rfl

theorem utf8Size_of_toNat (c : Char) :
    c.utf8Size = if c.toNat ≤ 0x7f then 1 else if c.toNat ≤ 0x7ff then 2
      else if c.toNat ≤ 0xffff then 3 else 4 :=
  rfl

/-- The size of the character with a code point. -/
theorem utf8Size_scalar {n : Nat} (h : n.isValidChar) :
    (scalar n).utf8Size = if n ≤ 0x7f then 1 else if n ≤ 0x7ff then 2
      else if n ≤ 0xffff then 3 else 4 := by
  rw [utf8Size_of_toNat, toNat_scalar h]

theorem isContinuation_iff {low high : Nat} {b : UInt8} :
    isContinuation low high b = true ↔ low ≤ b.toNat ∧ b.toNat ≤ high := by
  unfold isContinuation
  rw [Bool.and_eq_true, decide_eq_true_eq, decide_eq_true_eq]

/-- A well-formed sequence of two bytes. -/
theorem size_two {a b : Nat} (ha : 0xc2 ≤ a) (ha' : a ≤ 0xdf) (hb : 0x80 ≤ b) (hb' : b ≤ 0xbf) :
    (scalar ((a - 0xc0) * 0x40 + (b - 0x80))).utf8Size = 2 := by
  rw [utf8Size_scalar (by unfold Nat.isValidChar; omega)]
  rw [if_neg (by omega), if_pos (by omega)]

/-- A well-formed sequence of three bytes. -/
theorem size_three {a b c : Nat} (ha : 0xe0 ≤ a) (ha' : a ≤ 0xef)
    (hb : (if a = 0xe0 then 0xa0 else 0x80) ≤ b) (hb' : b ≤ if a = 0xed then 0x9f else 0xbf)
    (hc : 0x80 ≤ c) (hc' : c ≤ 0xbf) :
    (scalar ((a - 0xe0) * 0x1000 + (b - 0x80) * 0x40 + (c - 0x80))).utf8Size = 3 := by
  have hvalid : ((a - 0xe0) * 0x1000 + (b - 0x80) * 0x40 + (c - 0x80)).isValidChar := by
    unfold Nat.isValidChar
    split at hb <;> split at hb' <;> omega
  rw [utf8Size_scalar hvalid]
  have hlow : 0x7ff < (a - 0xe0) * 0x1000 + (b - 0x80) * 0x40 + (c - 0x80) := by
    split at hb <;> split at hb' <;> omega
  have hhigh : (a - 0xe0) * 0x1000 + (b - 0x80) * 0x40 + (c - 0x80) ≤ 0xffff := by
    split at hb <;> split at hb' <;> omega
  rw [if_neg (by omega), if_neg (by omega), if_pos hhigh]

/-- A well-formed sequence of four bytes. -/
theorem size_four {a b c d : Nat} (ha : 0xf0 ≤ a) (ha' : a ≤ 0xf4)
    (hb : (if a = 0xf0 then 0x90 else 0x80) ≤ b) (hb' : b ≤ if a = 0xf4 then 0x8f else 0xbf)
    (hc : 0x80 ≤ c) (hc' : c ≤ 0xbf) (hd : 0x80 ≤ d) (hd' : d ≤ 0xbf) :
    (scalar ((a - 0xf0) * 0x40000 + (b - 0x80) * 0x1000 + (c - 0x80) * 0x40 +
      (d - 0x80))).utf8Size = 4 := by
  have hvalid : ((a - 0xf0) * 0x40000 + (b - 0x80) * 0x1000 + (c - 0x80) * 0x40 +
      (d - 0x80)).isValidChar := by
    unfold Nat.isValidChar
    split at hb <;> split at hb' <;> omega
  rw [utf8Size_scalar hvalid]
  have hlow : 0xffff < (a - 0xf0) * 0x40000 + (b - 0x80) * 0x1000 + (c - 0x80) * 0x40 +
      (d - 0x80) := by
    split at hb <;> split at hb' <;> omega
  rw [if_neg (by omega), if_neg (by omega), if_neg (by omega)]

/-- A well-formed sequence is as long as the character it stands for, and has more than one
byte unless it is ASCII. -/
theorem decodeHead_size {a : UInt8} {rest : List UInt8} {c : Char} {taken : Nat}
    (h : decodeHead a rest = some (c, taken)) :
    c.utf8Size = taken + 1 ∧ taken ≤ rest.length ∧ (0x80 ≤ a.toNat → 0 < taken) := by
  unfold decodeHead at h
  dsimp only at h
  generalize hlow₃ : (if a.toNat = 0xe0 then 0xa0 else 0x80) = low₃ at h
  generalize hhigh₃ : (if a.toNat = 0xed then 0x9f else 0xbf) = high₃ at h
  generalize hlow₄ : (if a.toNat = 0xf0 then 0x90 else 0x80) = low₄ at h
  generalize hhigh₄ : (if a.toNat = 0xf4 then 0x8f else 0xbf) = high₄ at h
  split at h
  · rename_i hascii
    obtain ⟨rfl, rfl⟩ := Prod.mk.inj (Option.some.inj h)
    refine ⟨?_, Nat.zero_le _, fun hmore => absurd hascii (Nat.not_lt.mpr hmore)⟩
    rw [utf8Size_scalar (by unfold Nat.isValidChar; omega), if_pos (by omega)]
  · split at h
    · rename_i htwo
      rw [Bool.and_eq_true, decide_eq_true_eq, decide_eq_true_eq] at htwo
      split at h
      · split at h
        · rename_i hb
          obtain ⟨rfl, rfl⟩ := Prod.mk.inj (Option.some.inj h)
          rw [isContinuation_iff] at hb
          exact ⟨size_two htwo.1 htwo.2 hb.1 hb.2, by simp, fun _ => Nat.succ_pos _⟩
        · cases h
      · cases h
    · split at h
      · rename_i hthree
        rw [Bool.and_eq_true, decide_eq_true_eq, decide_eq_true_eq] at hthree
        split at h
        · split at h
          · rename_i hbc
            obtain ⟨rfl, rfl⟩ := Prod.mk.inj (Option.some.inj h)
            rw [Bool.and_eq_true, isContinuation_iff, isContinuation_iff] at hbc
            obtain ⟨hb, hc⟩ := hbc
            refine ⟨size_three hthree.1 hthree.2 ?_ ?_ hc.1 hc.2, by simp, fun _ => Nat.succ_pos _⟩
            · exact hlow₃.symm ▸ hb.1
            · exact hhigh₃.symm ▸ hb.2
          · cases h
        · cases h
      · split at h
        · rename_i hfour
          rw [Bool.and_eq_true, decide_eq_true_eq, decide_eq_true_eq] at hfour
          split at h
          · split at h
            · rename_i hbcd
              obtain ⟨rfl, rfl⟩ := Prod.mk.inj (Option.some.inj h)
              rw [Bool.and_eq_true, Bool.and_eq_true, isContinuation_iff, isContinuation_iff,
                isContinuation_iff] at hbcd
              obtain ⟨⟨hb, hc⟩, hd⟩ := hbcd
              refine ⟨size_four hfour.1 hfour.2 ?_ ?_ hc.1 hc.2 hd.1 hd.2, by simp,
                fun _ => Nat.succ_pos _⟩
              · exact hlow₄.symm ▸ hb.1
              · exact hhigh₄.symm ▸ hb.2
            · cases h
          · cases h
        · cases h

/-- An ill-formed sequence has at most three bytes. -/
theorem brokenTail_le (a : UInt8) (rest : List UInt8) :
    brokenTail a rest ≤ 2 ∧ brokenTail a rest ≤ rest.length := by
  unfold brokenTail
  dsimp only
  generalize (if a.toNat = 0xe0 then 0xa0 else 0x80) = low₃
  generalize (if a.toNat = 0xed then 0x9f else 0xbf) = high₃
  generalize (if a.toNat = 0xf0 then 0x90 else 0x80) = low₄
  generalize (if a.toNat = 0xf4 then 0x8f else 0xbf) = high₄
  split
  · split
    · split <;> simp
    · simp
  · split
    · split
      · split
        · split <;> simp
        · simp
      · split <;> simp
      · simp
    · simp

/-! ## Decoding and encoding again -/

theorem length_encodeUtf8_cons (c : Char) (text : List Char) :
    (encodeUtf8 (c :: text)).length = c.utf8Size + (encodeUtf8 text).length := by
  unfold encodeUtf8
  rw [List.flatMap_cons, List.length_append, String.length_utf8EncodeChar]

theorem encodeUtf8_append (text more : List Char) :
    encodeUtf8 (text ++ more) = encodeUtf8 text ++ encodeUtf8 more :=
  List.flatMap_append

theorem length_encodeUtf8_decodeReplaceFrom (skip : Nat) (bytes : List UInt8)
    (hskip : skip ≤ bytes.length) :
    (encodeUtf8 (decodeReplaceFrom skip bytes)).length + skip =
      bytes.length + replacementGrowthFrom skip bytes := by
  induction bytes generalizing skip with
  | nil =>
      have hzero : skip = 0 := Nat.le_zero.mp hskip
      rw [hzero]
      rfl
  | cons a rest ih =>
      cases skip with
      | succ skip =>
          have hrest := ih skip (Nat.le_of_succ_le_succ hskip)
          rw [decodeReplaceFrom, replacementGrowthFrom, List.length_cons]
          omega
      | zero =>
          rw [decodeReplaceFrom, replacementGrowthFrom, List.length_cons]
          cases hhead : decodeHead a rest with
          | some pair =>
              obtain ⟨c, taken⟩ := pair
              obtain ⟨hsize, htaken, -⟩ := decodeHead_size hhead
              have hrest := ih taken htaken
              dsimp only
              rw [length_encodeUtf8_cons, hsize]
              omega
          | none =>
              obtain ⟨htwo, hlength⟩ := brokenTail_le a rest
              have hrest := ih (brokenTail a rest) hlength
              have hsize : '\uFFFD'.utf8Size = 3 := rfl
              dsimp only
              rw [length_encodeUtf8_cons, hsize]
              omega

/-- Decoding and encoding again adds what replacing adds. -/
theorem length_encodeUtf8_decodeReplace (bytes : List UInt8) :
    (encodeUtf8 (decodeReplace bytes)).length = bytes.length + replacementGrowth bytes :=
  length_encodeUtf8_decodeReplaceFrom 0 bytes (Nat.zero_le _)

/-- Decoded text starts with an ASCII character exactly when the bytes start with its
code. -/
theorem head_decodeReplace (bytes : List UInt8) {c : Char} (hc : c.toNat < 0x80) :
    (decodeReplace bytes).head? = some c ↔ bytes.head? = some (UInt8.ofNat c.toNat) := by
  cases bytes with
  | nil => simp [decodeReplace, decodeReplaceFrom]
  | cons a rest =>
      have hbound := a.toNat_lt
      have hcode : (UInt8.ofNat c.toNat).toNat = c.toNat := by
        rw [UInt8.toNat_ofNat']
        omega
      rw [List.head?_cons, Option.some.injEq, ← UInt8.toNat_inj, hcode]
      unfold decodeReplace
      rw [decodeReplaceFrom]
      by_cases ha : a.toNat < 0x80
      · have hhead : decodeHead a rest = some (scalar a.toNat, 0) := if_pos ha
        rw [hhead]
        dsimp only
        rw [List.head?_cons, Option.some.injEq, ← Char.toNat_inj,
          toNat_scalar (by unfold Nat.isValidChar; omega)]
      · have hne : a.toNat ≠ c.toNat := by omega
        cases hhead : decodeHead a rest with
        | none =>
            have hreplacement : '\uFFFD' ≠ c := by
              rintro rfl
              exact absurd hc (by decide)
            dsimp only
            rw [List.head?_cons, Option.some.injEq]
            exact iff_of_false hreplacement hne
        | some pair =>
            obtain ⟨d, taken⟩ := pair
            obtain ⟨hsize, -, hmore⟩ := decodeHead_size hhead
            have hpos := hmore (Nat.not_lt.mp ha)
            have hd : d ≠ c := by
              rintro rfl
              rw [utf8Size_of_toNat, if_pos (by omega)] at hsize
              omega
            dsimp only
            rw [List.head?_cons, Option.some.injEq]
            exact iff_of_false hd hne

/-! ## Reading encoded text back -/

theorem decodeHead_one {a : UInt8} (ha : a.toNat ≤ 0x7f) (more : List UInt8) :
    decodeHead a more = some (scalar a.toNat, 0) := by
  unfold decodeHead
  dsimp only
  rw [if_pos (by omega)]

theorem decodeHead_two {a b : UInt8} (ha : 0xc2 ≤ a.toNat) (ha' : a.toNat ≤ 0xdf)
    (hb : 0x80 ≤ b.toNat) (hb' : b.toNat ≤ 0xbf) (more : List UInt8) :
    decodeHead a (b :: more) =
      some (scalar ((a.toNat - 0xc0) * 0x40 + (b.toNat - 0x80)), 1) := by
  unfold decodeHead
  dsimp only
  rw [if_neg (by omega), if_pos (by simp; omega), if_pos (isContinuation_iff.mpr ⟨hb, hb'⟩)]

theorem decodeHead_three {a b c : UInt8} (ha : 0xe0 ≤ a.toNat) (ha' : a.toNat ≤ 0xef)
    (hb : (if a.toNat = 0xe0 then 0xa0 else 0x80) ≤ b.toNat)
    (hb' : b.toNat ≤ if a.toNat = 0xed then 0x9f else 0xbf)
    (hc : 0x80 ≤ c.toNat) (hc' : c.toNat ≤ 0xbf) (more : List UInt8) :
    decodeHead a (b :: c :: more) =
      some (scalar ((a.toNat - 0xe0) * 0x1000 + (b.toNat - 0x80) * 0x40 + (c.toNat - 0x80)),
        2) := by
  have hcontinues := Bool.and_eq_true_iff.mpr
    ⟨isContinuation_iff.mpr ⟨hb, hb'⟩, isContinuation_iff.mpr ⟨hc, hc'⟩⟩
  unfold decodeHead
  dsimp only
  rw [if_neg (by omega), if_neg (by simp; omega), if_pos (by simp; omega), if_pos hcontinues]

theorem decodeHead_four {a b c d : UInt8} (ha : 0xf0 ≤ a.toNat) (ha' : a.toNat ≤ 0xf4)
    (hb : (if a.toNat = 0xf0 then 0x90 else 0x80) ≤ b.toNat)
    (hb' : b.toNat ≤ if a.toNat = 0xf4 then 0x8f else 0xbf)
    (hc : 0x80 ≤ c.toNat) (hc' : c.toNat ≤ 0xbf) (hd : 0x80 ≤ d.toNat) (hd' : d.toNat ≤ 0xbf)
    (more : List UInt8) :
    decodeHead a (b :: c :: d :: more) =
      some (scalar ((a.toNat - 0xf0) * 0x40000 + (b.toNat - 0x80) * 0x1000 +
        (c.toNat - 0x80) * 0x40 + (d.toNat - 0x80)), 3) := by
  have hcontinues := Bool.and_eq_true_iff.mpr
    ⟨Bool.and_eq_true_iff.mpr
      ⟨isContinuation_iff.mpr ⟨hb, hb'⟩, isContinuation_iff.mpr ⟨hc, hc'⟩⟩,
      isContinuation_iff.mpr ⟨hd, hd'⟩⟩
  unfold decodeHead
  dsimp only
  rw [if_neg (by omega), if_neg (by simp; omega), if_neg (by simp; omega),
    if_pos (by simp; omega), if_pos hcontinues]

theorem toNat_byte {n : Nat} (h : n ≤ 0xff) : (UInt8.ofNat n).toNat = n := by
  rw [UInt8.toNat_ofNat']
  omega

/-- A character is encoded by a first byte and continuation bytes, which are read back as the
character whatever follows. -/
theorem decodeHead_utf8EncodeChar (c : Char) :
    ∃ a tail, String.utf8EncodeChar c = a :: tail ∧
      ∀ more, decodeHead a (tail ++ more) = some (c, tail.length) := by
  have hvalid : c.toNat.isValidChar := c.valid
  have hval : c.val.toNat = c.toNat := rfl
  have hscalar : scalar c.toNat = c := Char.ofNat_toNat c
  unfold String.utf8EncodeChar
  rw [hval]
  unfold Nat.isValidChar at hvalid
  generalize c.toNat = n at hvalid hscalar ⊢
  rw [← hscalar]
  dsimp only
  by_cases hone : n ≤ 0x7f
  · rw [if_pos hone]
    refine ⟨_, _, rfl, fun more => ?_⟩
    have ha : (UInt8.ofNat n).toNat = n := toNat_byte (by omega)
    rw [decodeHead_one (by omega), ha]
    rfl
  rw [if_neg hone]
  by_cases htwo : n ≤ 0x7ff
  · rw [if_pos htwo]
    refine ⟨_, _, rfl, fun more => ?_⟩
    have ha : (UInt8.ofNat (n / 64 % 0x20 + 0xc0)).toNat = _ := toNat_byte (by omega)
    have hb : (UInt8.ofNat (n % 0x40 + 0x80)).toNat = _ := toNat_byte (by omega)
    rw [List.cons_append, decodeHead_two (by omega) (by omega) (by omega) (by omega), ha, hb]
    have hsame : (n / 64 % 0x20 + 0xc0 - 0xc0) * 0x40 + (n % 0x40 + 0x80 - 0x80) = n := by
      omega
    rw [hsame]
    rfl
  rw [if_neg htwo]
  by_cases hthree : n ≤ 0xffff
  · rw [if_pos hthree]
    refine ⟨_, _, rfl, fun more => ?_⟩
    have ha : (UInt8.ofNat (n / 4096 % 0x10 + 0xe0)).toNat = _ := toNat_byte (by omega)
    have hb : (UInt8.ofNat (n / 64 % 0x40 + 0x80)).toNat = _ := toNat_byte (by omega)
    have hc : (UInt8.ofNat (n % 0x40 + 0x80)).toNat = _ := toNat_byte (by omega)
    have hlow : (if (UInt8.ofNat (n / 4096 % 0x10 + 0xe0)).toNat = 0xe0 then 0xa0 else 0x80) ≤
        (UInt8.ofNat (n / 64 % 0x40 + 0x80)).toNat := by
      split <;> omega
    have hhigh : (UInt8.ofNat (n / 64 % 0x40 + 0x80)).toNat ≤
        if (UInt8.ofNat (n / 4096 % 0x10 + 0xe0)).toNat = 0xed then 0x9f else 0xbf := by
      split <;> omega
    rw [List.cons_append, List.cons_append,
      decodeHead_three (by omega) (by omega) hlow hhigh (by omega) (by omega), ha, hb, hc]
    have hsame : (n / 4096 % 0x10 + 0xe0 - 0xe0) * 0x1000 +
        (n / 64 % 0x40 + 0x80 - 0x80) * 0x40 + (n % 0x40 + 0x80 - 0x80) = n := by
      omega
    rw [hsame]
    rfl
  · rw [if_neg hthree]
    refine ⟨_, _, rfl, fun more => ?_⟩
    have ha : (UInt8.ofNat (n / 262144 % 0x08 + 0xf0)).toNat = _ := toNat_byte (by omega)
    have hb : (UInt8.ofNat (n / 4096 % 0x40 + 0x80)).toNat = _ := toNat_byte (by omega)
    have hc : (UInt8.ofNat (n / 64 % 0x40 + 0x80)).toNat = _ := toNat_byte (by omega)
    have hd : (UInt8.ofNat (n % 0x40 + 0x80)).toNat = _ := toNat_byte (by omega)
    have hlow : (if (UInt8.ofNat (n / 262144 % 0x08 + 0xf0)).toNat = 0xf0 then 0x90 else 0x80) ≤
        (UInt8.ofNat (n / 4096 % 0x40 + 0x80)).toNat := by
      split <;> omega
    have hhigh : (UInt8.ofNat (n / 4096 % 0x40 + 0x80)).toNat ≤
        if (UInt8.ofNat (n / 262144 % 0x08 + 0xf0)).toNat = 0xf4 then 0x8f else 0xbf := by
      split <;> omega
    rw [List.cons_append, List.cons_append, List.cons_append,
      decodeHead_four (by omega) (by omega) hlow hhigh (by omega) (by omega) (by omega)
        (by omega), ha, hb, hc, hd]
    have hsame : (n / 262144 % 0x08 + 0xf0 - 0xf0) * 0x40000 +
        (n / 4096 % 0x40 + 0x80 - 0x80) * 0x1000 + (n / 64 % 0x40 + 0x80 - 0x80) * 0x40 +
        (n % 0x40 + 0x80 - 0x80) = n := by
      omega
    rw [hsame]
    rfl

/-- The bytes still to pass over are passed over. -/
theorem decodeReplaceFrom_append (skipped rest : List UInt8) :
    decodeReplaceFrom skipped.length (skipped ++ rest) = decodeReplaceFrom 0 rest := by
  induction skipped with
  | nil => rfl
  | cons b skipped ih => exact ih

theorem decodeIgnoreFrom_append (skipped rest : List UInt8) :
    decodeIgnoreFrom skipped.length (skipped ++ rest) = decodeIgnoreFrom 0 rest := by
  induction skipped with
  | nil => rfl
  | cons b skipped ih => exact ih

theorem decodeStrictFrom_append (skipped rest : List UInt8) :
    decodeStrictFrom skipped.length (skipped ++ rest) = decodeStrictFrom 0 rest := by
  induction skipped with
  | nil => cases rest <;> rfl
  | cons b skipped ih => exact ih

/-- Encoded text is decoded to itself. -/
theorem decodeReplace_encodeUtf8 (text : List Char) : decodeReplace (encodeUtf8 text) = text := by
  induction text with
  | nil => rfl
  | cons c text ih =>
      obtain ⟨a, tail, hbytes, hhead⟩ := decodeHead_utf8EncodeChar c
      unfold decodeReplace at ih ⊢
      unfold encodeUtf8 at ih ⊢
      rw [List.flatMap_cons, hbytes, List.cons_append, decodeReplaceFrom, hhead]
      dsimp only
      rw [decodeReplaceFrom_append, ih]

/-- Encoded text is decoded to itself: there is nothing to ignore in it. -/
theorem decodeIgnore_encodeUtf8 (text : List Char) : decodeIgnore (encodeUtf8 text) = text := by
  induction text with
  | nil => rfl
  | cons c text ih =>
      obtain ⟨a, tail, hbytes, hhead⟩ := decodeHead_utf8EncodeChar c
      unfold decodeIgnore at ih ⊢
      unfold encodeUtf8 at ih ⊢
      rw [List.flatMap_cons, hbytes, List.cons_append, decodeIgnoreFrom, hhead]
      dsimp only
      rw [decodeIgnoreFrom_append, ih]

/-- There is nothing to raise at in it either. -/
theorem decodeStrict_encodeUtf8 (text : List Char) :
    decodeStrict (encodeUtf8 text) = some text := by
  induction text with
  | nil => rfl
  | cons c text ih =>
      obtain ⟨a, tail, hbytes, hhead⟩ := decodeHead_utf8EncodeChar c
      unfold decodeStrict at ih ⊢
      unfold encodeUtf8 at ih ⊢
      rw [List.flatMap_cons, hbytes, List.cons_append, decodeStrictFrom, hhead]
      dsimp only
      rw [decodeStrictFrom_append, ih]
      rfl

/-- An ASCII byte of encoded text stands for its character. -/
theorem mem_of_mem_encodeUtf8 {text : List Char} {b : UInt8} (hb : b ∈ encodeUtf8 text)
    (hascii : b.toNat ≤ 0x7f) : ∃ c ∈ text, c.toNat = b.toNat := by
  unfold encodeUtf8 at hb
  obtain ⟨c, hc, hbyte⟩ := List.mem_flatMap.mp hb
  refine ⟨c, hc, ?_⟩
  have hvalid : c.toNat.isValidChar := c.valid
  have hval : c.val.toNat = c.toNat := rfl
  unfold String.utf8EncodeChar at hbyte
  unfold Nat.isValidChar at hvalid
  rw [hval] at hbyte
  dsimp only at hbyte
  -- every byte of a longer sequence is above the ASCII range
  split at hbyte
  · obtain rfl := List.mem_singleton.mp hbyte
    exact (toNat_byte (by omega)).symm
  · exfalso
    split at hbyte
    · simp only [List.mem_cons, List.not_mem_nil, or_false] at hbyte
      rcases hbyte with rfl | rfl <;> rw [toNat_byte (by omega)] at hascii <;> omega
    · split at hbyte
      · simp only [List.mem_cons, List.not_mem_nil, or_false] at hbyte
        rcases hbyte with rfl | rfl | rfl <;> rw [toNat_byte (by omega)] at hascii <;> omega
      · simp only [List.mem_cons, List.not_mem_nil, or_false] at hbyte
        rcases hbyte with rfl | rfl | rfl | rfl <;> rw [toNat_byte (by omega)] at hascii <;>
          omega

end Python
end FreeLunch
