import FreeLunch.Python.Value

/-!
# ASCII and URL-safe base64

`str.encode("ascii")`, `bytes.decode("ascii")` and `base64.urlsafe_b64encode` /
`urlsafe_b64decode`.  The decoder is the lenient one of `binascii`: bytes outside the
alphabet are passed over, and the text may end early at its padding.

Main results:

- Theorem `encodeAscii_decodeAscii`: ASCII bytes survive the way through text.
- Theorem `urlsafeB64decode_encode`: what was encoded is decoded again.
-/

namespace FreeLunch
namespace Python

/-! ## ASCII -/

/-- A character that `str.encode("ascii")` accepts. -/
def isAscii (c : Char) : Bool :=
  c.toNat < 128

/-- `text.encode("ascii")`. -/
def encodeAscii (text : String) : Except Exc (List UInt8) :=
  if text.toList.all isAscii then .ok (text.toList.map fun c => UInt8.ofNat c.toNat)
  else .error (.valueError "'ascii' codec can't encode characters")

/-- `bytes.decode("ascii")` of ASCII bytes. -/
def decodeAscii (bytes : List UInt8) : String :=
  String.ofList (bytes.map fun b => Char.ofNat b.toNat)

/-- ASCII bytes survive the way through text. -/
theorem encodeAscii_decodeAscii {bytes : List UInt8} (h : ∀ b ∈ bytes, b.toNat < 128) :
    encodeAscii (decodeAscii bytes) = .ok bytes := by
  have hchar : ∀ b ∈ bytes, (Char.ofNat b.toNat).toNat = b.toNat := by
    intro b hb
    have hvalid : b.toNat.isValidChar := by
      have := h b hb
      exact .inl (by omega)
    rw [Char.ofNat, dif_pos hvalid]
    rfl
  have hall : (bytes.map fun b => Char.ofNat b.toNat).all isAscii = true := by
    rw [List.all_map, List.all_eq_true]
    intro b hb
    simp only [Function.comp_apply, isAscii, hchar b hb, decide_eq_true_eq]
    exact h b hb
  unfold encodeAscii decodeAscii
  rw [String.toList_ofList, if_pos hall, List.map_map]
  congr 1
  conv_rhs => rw [← List.map_id bytes]
  apply List.map_congr_left
  intro b hb
  simp only [Function.comp_apply, hchar b hb, id_eq]
  exact UInt8.ofNat_toNat

/-! ## The alphabet -/

/-- The value of a byte of the standard alphabet. -/
def b64Value (b : UInt8) : Option Nat :=
  let n := b.toNat
  if 65 ≤ n ∧ n ≤ 90 then some (n - 65)
  else if 97 ≤ n ∧ n ≤ 122 then some (n - 71)
  else if 48 ≤ n ∧ n ≤ 57 then some (n + 4)
  else if n = 43 then some 62
  else if n = 47 then some 63
  else none

/-- The byte for a value in the URL-safe alphabet. -/
def urlsafeDigit (v : Nat) : UInt8 :=
  if v < 26 then UInt8.ofNat (v + 65)
  else if v < 52 then UInt8.ofNat (v + 71)
  else if v < 62 then UInt8.ofNat (v - 4)
  else if v = 62 then 45
  else 95

/-- The translation of the URL-safe alphabet to the standard one. -/
def fromUrlsafe (b : UInt8) : UInt8 :=
  if b = 45 then 43 else if b = 95 then 47 else b

/-- The padding byte. -/
def padByte : UInt8 :=
  61

theorem b64Value_urlsafeDigit {v : Nat} (h : v < 64) :
    b64Value (fromUrlsafe (urlsafeDigit v)) = some v := by
  have hall : ∀ v : Fin 64, b64Value (fromUrlsafe (urlsafeDigit v.val)) = some v.val := by
    decide
  exact hall ⟨v, h⟩

theorem urlsafeDigit_ne_padByte {v : Nat} (h : v < 64) :
    fromUrlsafe (urlsafeDigit v) ≠ padByte := by
  have hall : ∀ v : Fin 64, fromUrlsafe (urlsafeDigit v.val) ≠ padByte := by
    decide
  exact hall ⟨v, h⟩

/-! ## Decoding -/

/-- The loop of `a2b_base64`: the position in the group of four, the bits left over, and
the padding bytes met since the last digit. -/
def a2bBase64From (position left pads : Nat) : List UInt8 → Except Exc (List UInt8)
  | [] =>
      if position = 0 then .ok []
      else if position = 1 then .error (.valueError "Invalid base64-encoded string")
      else .error (.valueError "Incorrect padding")
  | b :: rest =>
      if b = padByte then
        if position < 2 then a2bBase64From position left pads rest
        else if 4 ≤ position + (pads + 1) then .ok []
        else a2bBase64From position left (pads + 1) rest
      else
        match b64Value b with
        | none => a2bBase64From position left pads rest
        | some v =>
            if position = 0 then a2bBase64From 1 v 0 rest
            else if position = 1 then
              (a2bBase64From 2 (v % 16) 0 rest).map (UInt8.ofNat (left * 4 + v / 16) :: ·)
            else if position = 2 then
              (a2bBase64From 3 (v % 4) 0 rest).map (UInt8.ofNat (left * 16 + v / 4) :: ·)
            else (a2bBase64From 0 0 0 rest).map (UInt8.ofNat (left * 64 + v) :: ·)

/-- `base64.urlsafe_b64decode`. -/
def urlsafeB64decode (text : List UInt8) : Except Exc (List UInt8) :=
  a2bBase64From 0 0 0 (text.map fromUrlsafe)

/-! ## Encoding -/

/-- `base64.urlsafe_b64encode`. -/
def urlsafeB64encode : List UInt8 → List UInt8
  | a :: b :: c :: rest =>
      urlsafeDigit (a.toNat / 4) :: urlsafeDigit (a.toNat % 4 * 16 + b.toNat / 16) ::
        urlsafeDigit (b.toNat % 16 * 4 + c.toNat / 64) :: urlsafeDigit (c.toNat % 64) ::
          urlsafeB64encode rest
  | [a, b] =>
      [urlsafeDigit (a.toNat / 4), urlsafeDigit (a.toNat % 4 * 16 + b.toNat / 16),
        urlsafeDigit (b.toNat % 16 * 4), padByte]
  | [a] =>
      [urlsafeDigit (a.toNat / 4), urlsafeDigit (a.toNat % 4 * 16), padByte, padByte]
  | [] => []

/-! ## The round trip -/

section RoundTrip

variable {v : Nat} (h : v < 64) (rest : List UInt8)
include h

theorem a2bBase64From_first (left pads : Nat) :
    a2bBase64From 0 left pads (fromUrlsafe (urlsafeDigit v) :: rest) =
      a2bBase64From 1 v 0 rest := by
  simp [a2bBase64From, urlsafeDigit_ne_padByte h, b64Value_urlsafeDigit h]

theorem a2bBase64From_second (left pads : Nat) :
    a2bBase64From 1 left pads (fromUrlsafe (urlsafeDigit v) :: rest) =
      (a2bBase64From 2 (v % 16) 0 rest).map (UInt8.ofNat (left * 4 + v / 16) :: ·) := by
  simp [a2bBase64From, urlsafeDigit_ne_padByte h, b64Value_urlsafeDigit h]

theorem a2bBase64From_third (left pads : Nat) :
    a2bBase64From 2 left pads (fromUrlsafe (urlsafeDigit v) :: rest) =
      (a2bBase64From 3 (v % 4) 0 rest).map (UInt8.ofNat (left * 16 + v / 4) :: ·) := by
  simp [a2bBase64From, urlsafeDigit_ne_padByte h, b64Value_urlsafeDigit h]

theorem a2bBase64From_fourth (left pads : Nat) :
    a2bBase64From 3 left pads (fromUrlsafe (urlsafeDigit v) :: rest) =
      (a2bBase64From 0 0 0 rest).map (UInt8.ofNat (left * 64 + v) :: ·) := by
  simp [a2bBase64From, urlsafeDigit_ne_padByte h, b64Value_urlsafeDigit h]

end RoundTrip

theorem fromUrlsafe_padByte : fromUrlsafe padByte = padByte := by
  decide

/-- A byte put together from the digits it was spread over. -/
theorem ofNat_eq {n : Nat} {b : UInt8} (h : n = b.toNat) : UInt8.ofNat n = b := by
  rw [h]
  exact UInt8.ofNat_toNat

/-- Two padding bytes behind two digits end the text. -/
theorem a2bBase64From_pads (left : Nat) :
    a2bBase64From 2 left 0 [padByte, padByte] = .ok [] := by
  simp [a2bBase64From]

/-- One padding byte behind three digits ends the text. -/
theorem a2bBase64From_pad (left : Nat) : a2bBase64From 3 left 0 [padByte] = .ok [] := by
  simp [a2bBase64From]

/-- What was encoded is decoded again. -/
theorem urlsafeB64decode_encode (bytes : List UInt8) :
    urlsafeB64decode (urlsafeB64encode bytes) = .ok bytes := by
  unfold urlsafeB64decode
  induction bytes using urlsafeB64encode.induct with
  | case1 a b c rest ih =>
      have ha := a.toNat_lt
      have hb := b.toNat_lt
      have hc := c.toNat_lt
      have hfirst : UInt8.ofNat (a.toNat / 4 * 4 +
          (a.toNat % 4 * 16 + b.toNat / 16) / 16) = a := ofNat_eq (by omega)
      have hsecond : UInt8.ofNat ((a.toNat % 4 * 16 + b.toNat / 16) % 16 * 16 +
          (b.toNat % 16 * 4 + c.toNat / 64) / 4) = b := ofNat_eq (by omega)
      have hthird : UInt8.ofNat ((b.toNat % 16 * 4 + c.toNat / 64) % 4 * 64 +
          c.toNat % 64) = c := ofNat_eq (by omega)
      simp only [urlsafeB64encode, List.map_cons]
      rw [a2bBase64From_first (by omega), a2bBase64From_second (by omega),
        a2bBase64From_third (by omega), a2bBase64From_fourth (by omega), ih, hfirst,
        hsecond, hthird]
      rfl
  | case2 a b =>
      have ha := a.toNat_lt
      have hb := b.toNat_lt
      have hfirst : UInt8.ofNat (a.toNat / 4 * 4 +
          (a.toNat % 4 * 16 + b.toNat / 16) / 16) = a := ofNat_eq (by omega)
      have hsecond : UInt8.ofNat ((a.toNat % 4 * 16 + b.toNat / 16) % 16 * 16 +
          b.toNat % 16 * 4 / 4) = b := ofNat_eq (by omega)
      simp only [urlsafeB64encode, List.map_cons, List.map_nil, fromUrlsafe_padByte]
      rw [a2bBase64From_first (by omega), a2bBase64From_second (by omega),
        a2bBase64From_third (by omega), a2bBase64From_pad, hfirst, hsecond]
      rfl
  | case3 a =>
      have ha := a.toNat_lt
      have hfirst : UInt8.ofNat (a.toNat / 4 * 4 + a.toNat % 4 * 16 / 16) = a :=
        ofNat_eq (by omega)
      simp only [urlsafeB64encode, List.map_cons, List.map_nil, fromUrlsafe_padByte]
      rw [a2bBase64From_first (by omega), a2bBase64From_second (by omega),
        a2bBase64From_pads, hfirst]
      rfl
  | case4 => rfl

/-- The encoder writes ASCII. -/
theorem urlsafeB64encode_ascii (bytes : List UInt8) :
    ∀ b ∈ urlsafeB64encode bytes, b.toNat < 128 := by
  have hdigit : ∀ v : Nat, v < 64 → (urlsafeDigit v).toNat < 128 := by
    have hall : ∀ v : Fin 64, (urlsafeDigit v.val).toNat < 128 := by
      decide
    intro v hv
    exact hall ⟨v, hv⟩
  induction bytes using urlsafeB64encode.induct with
  | case1 a b c rest ih =>
      have ha := a.toNat_lt
      have hb := b.toNat_lt
      have hc := c.toNat_lt
      simp only [urlsafeB64encode, List.forall_mem_cons]
      exact ⟨hdigit _ (by omega), hdigit _ (by omega), hdigit _ (by omega),
        hdigit _ (by omega), ih⟩
  | case2 a b =>
      have ha := a.toNat_lt
      have hb := b.toNat_lt
      simp only [urlsafeB64encode, List.forall_mem_cons]
      refine ⟨hdigit _ (by omega), hdigit _ (by omega), hdigit _ (by omega), by decide, ?_⟩
      simp
  | case3 a =>
      have ha := a.toNat_lt
      simp only [urlsafeB64encode, List.forall_mem_cons]
      refine ⟨hdigit _ (by omega), hdigit _ (by omega), by decide, by decide, ?_⟩
      simp
  | case4 => simp [urlsafeB64encode]

/-- Encoded bytes survive being stored as text. -/
theorem decode_encodeAscii_decodeAscii (bytes : List UInt8) :
    encodeAscii (decodeAscii (urlsafeB64encode bytes)) >>= urlsafeB64decode = .ok bytes := by
  rw [encodeAscii_decodeAscii (urlsafeB64encode_ascii bytes)]
  exact urlsafeB64decode_encode bytes

end Python
end FreeLunch
