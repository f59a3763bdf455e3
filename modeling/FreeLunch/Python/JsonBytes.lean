import FreeLunch.Foundations.Writes
import FreeLunch.Python.Json
import FreeLunch.Python.Utf8

/-!
# `json.loads` of bytes

`json.loads` on a body: the encoding is guessed from the first four bytes, and a byte order mark
of UTF-8 is passed over.

Main results:

- Theorem `plainUtf8_of_loads`: bytes whose UTF-8 text is a JSON document are taken for UTF-8.

Current gaps:

- What `json.loads` makes of other encodings, and of lone surrogates in UTF-8, is a parameter.
-/

namespace FreeLunch
namespace Python

/-! ## The encoding -/

/-- The encodings that `json.detect_encoding` tells apart. -/
inductive JsonEncoding where
  | utf8 | utf8Sig | utf16 | utf16Be | utf16Le | utf32 | utf32Be | utf32Le
deriving DecidableEq, Repr

/-- `json.detect_encoding` of bytes without a byte order mark. -/
def guessEncoding : List UInt8 → JsonEncoding
  | [a, b] => if a = 0 then .utf16Be else if b = 0 then .utf16Le else .utf8
  | a :: b :: c :: d :: _ =>
      if a = 0 then if b ≠ 0 then .utf16Be else .utf32Be
      else if b = 0 then if c ≠ 0 ∨ d ≠ 0 then .utf16Le else .utf32Le
      else .utf8
  | _ => .utf8

/-- `json.detect_encoding`. -/
def detectEncoding (body : List UInt8) : JsonEncoding :=
  if [0x00, 0x00, 0xfe, 0xff].isPrefixOf body || [0xff, 0xfe, 0x00, 0x00].isPrefixOf body then
    .utf32
  else if [0xfe, 0xff].isPrefixOf body || [0xff, 0xfe].isPrefixOf body then .utf16
  else if [0xef, 0xbb, 0xbf].isPrefixOf body then .utf8Sig
  else guessEncoding body

section Loads

variable {F : Type} [Runtime F]

/-- `json.loads(body)`. What has no plain UTF-8 text is read by `other`. -/
def loadsBytes (other : List UInt8 → Except Exc (PyValue F)) (body : List UInt8) :
    Except Exc (PyValue F) :=
  match detectEncoding body with
  | .utf8 => (decodeStrict body).elim (other body) loads
  | .utf8Sig =>
      (decodeStrict (body.drop 3)).elim (other body) fun text =>
        -- Behind the mark that is passed over, another one is no value.
        if startsWith text ['\ufeff'] then decodeError "Expecting value" else loads text
  | _ => other body

/-- The body is taken for UTF-8 without a byte order mark, and decodes. -/
def PlainUtf8 (body : List UInt8) : Prop :=
  detectEncoding body = .utf8 ∧ ∃ text, decodeStrict body = some text

/-- A body in plain UTF-8 is read as its text. -/
theorem loadsBytes_of_plainUtf8 {other : List UInt8 → Except Exc (PyValue F)} {body : List UInt8}
    (h : detectEncoding body = .utf8) {text : List Char} (htext : decodeStrict body = some text) :
    loadsBytes other body = loads text := by
  unfold loadsBytes
  rw [h, htext]
  rfl

/-! ## Null characters -/

/-- No value starts with a null. -/
theorem scanValue_null (fuel depth : Nat) (rest : List Char) :
    scanValue (F := F) fuel depth ('\x00' :: rest) = decodeError "Expecting value" := by
  cases fuel <;> rfl

theorem skipSpace_null (rest : List Char) : skipSpace ('\x00' :: rest) = '\x00' :: rest :=
  rfl

theorem spanDigits_then_null (c : Char) (rest : List Char) :
    spanDigits (c :: '\x00' :: rest) =
      match asciiDigit c with
      | some d => ([d], '\x00' :: rest)
      | none => ([], c :: '\x00' :: rest) :=
  rfl

/-- A number ends in front of a null. -/
theorem scanNumber_then_null {negative : Bool} {c : Char} {rest after : List Char} {v : PyValue F}
    (h : scanNumber negative (c :: '\x00' :: rest) = .ok (v, after)) :
    after = '\x00' :: rest := by
  have hwhole : ∀ whole : List Nat, (if whole.isEmpty then decodeError "Expecting value"
      else if maxStrDigits < whole.length then
        .error (.valueError "Exceeds the limit (4300 digits) for integer string conversion")
      else .ok (.int (if negative then -(ofDigits whole : Int) else ofDigits whole),
        '\x00' :: rest) : Except Exc (PyValue F × List Char)) = .ok (v, after) →
        after = '\x00' :: rest := by
    intro whole h
    split at h
    · cases h
    · split at h
      · cases h
      · cases h
        rfl
  unfold scanNumber at h
  split at h
  next whole rest' hsplit =>
    split at hsplit
    · next hzero =>
        cases hzero
        cases hsplit
        exact hwhole [0] h
    · rw [spanDigits_then_null] at hsplit
      cases hdigit : asciiDigit c with
      | none =>
          rw [hdigit] at hsplit
          cases hsplit
          cases h
      | some d =>
          rw [hdigit] at hsplit
          cases hsplit
          exact hwhole [d] h

omit [Runtime F] in
/-- No word has a null behind its first letter. -/
theorem dropWord_then_null {x y c : Char} (hy : y ≠ '\x00') (word rest : List Char) :
    dropWord (x :: y :: word) (c :: '\x00' :: rest) = none := by
  unfold dropWord startsWith
  rw [if_neg]
  simp [List.isPrefixOf, hy]

theorem scanScalar_then_null {c : Char} {rest after : List Char} {v : PyValue F}
    (h : scanScalar (c :: '\x00' :: rest) = .ok (v, after)) : after = '\x00' :: rest := by
  unfold scanScalar at h
  rw [show "null".toList = ['n', 'u', 'l', 'l'] from rfl,
    show "true".toList = ['t', 'r', 'u', 'e'] from rfl,
    show "false".toList = ['f', 'a', 'l', 's', 'e'] from rfl,
    show "NaN".toList = ['N', 'a', 'N'] from rfl,
    show "Infinity".toList = ['I', 'n', 'f', 'i', 'n', 'i', 't', 'y'] from rfl,
    show "-Infinity".toList = ['-', 'I', 'n', 'f', 'i', 'n', 'i', 't', 'y'] from rfl] at h
  simp only [dropWord_then_null (show 'u' ≠ '\x00' by decide),
    dropWord_then_null (show 'r' ≠ '\x00' by decide),
    dropWord_then_null (show 'a' ≠ '\x00' by decide),
    dropWord_then_null (show 'n' ≠ '\x00' by decide),
    dropWord_then_null (show 'I' ≠ '\x00' by decide)] at h
  split at h
  · next heq =>
      cases heq
      cases h
  · exact scanNumber_then_null h

/-- A value with a null behind its first character is a number of one digit. -/
theorem scanValue_then_null {fuel depth : Nat} {c : Char} {rest after : List Char} {v : PyValue F}
    (h : scanValue fuel depth (c :: '\x00' :: rest) = .ok (v, after)) :
    after = '\x00' :: rest := by
  cases fuel with
  | zero => cases h
  | succ fuel =>
      by_cases hquote : c = '"'
      · subst hquote
        cases h
      by_cases hbracket : c = '['
      · subst hbracket
        cases depth with
        | zero => cases h
        | succ depth =>
            have hitems : scanItems (F := F) fuel depth ('\x00' :: rest) =
                decodeError "Expecting value" := by
              cases fuel with
              | zero => rfl
              | succ fuel =>
                  rw [scanItems, scanValue_null]
                  rfl
            have hlist : scanValue (F := F) (fuel + 1) (depth + 1) ('[' :: '\x00' :: rest) =
                scanItems fuel depth ('\x00' :: rest) >>= fun scanned =>
                  pure (.list scanned.1, scanned.2) := rfl
            rw [hlist, hitems] at h
            cases h
      by_cases hbrace : c = '\x7b'
      · subst hbrace
        cases depth with
        | zero => cases h
        | succ depth =>
            obtain ⟨e, hmembers⟩ : ∃ e, scanMembers (F := F) fuel depth [] ('\x00' :: rest) =
                .error e := by
              cases fuel <;> exact ⟨_, rfl⟩
            have hdict : scanValue (F := F) (fuel + 1) (depth + 1) ('\x7b' :: '\x00' :: rest) =
                scanMembers fuel depth [] ('\x00' :: rest) >>= fun scanned =>
                  pure (.dict scanned.1, scanned.2) := rfl
            rw [hdict, hmembers] at h
            cases h
      · rw [scanValue] at h
        · exact scanScalar_then_null h
        · intro text heq
          exact hquote (List.cons.inj heq).1
        · intro text heq
          exact hbracket (List.cons.inj heq).1
        · intro text heq
          exact hbrace (List.cons.inj heq).1

/-- No document starts with a null. -/
theorem loads_null (rest : List Char) :
    loads (F := F) ('\x00' :: rest) = decodeError "Expecting value" := by
  unfold loads
  rw [if_neg (by simp [startsWith]), skipSpace_null, scanValue_null]
  rfl

/-- No document has a null behind its first character. -/
theorem loads_then_null (c : Char) (rest : List Char) (v : PyValue F) :
    loads (F := F) (c :: '\x00' :: rest) ≠ .ok v := by
  intro h
  unfold loads at h
  split at h
  · cases h
  · obtain ⟨⟨v', after⟩, hscan, h⟩ := Writes.bind_ok_iff.mp h
    by_cases hspace : isJsonSpace c = true
    · have hskip : skipSpace (c :: '\x00' :: rest) = '\x00' :: rest := by
        unfold skipSpace
        rw [List.dropWhile_cons_of_pos hspace]
        rfl
      rw [hskip, scanValue_null] at hscan
      cases hscan
    · have hskip : skipSpace (c :: '\x00' :: rest) = c :: '\x00' :: rest := by
        unfold skipSpace
        rw [List.dropWhile_cons_of_neg hspace]
      rw [hskip] at hscan
      dsimp only at h
      rw [scanValue_then_null hscan, skipSpace_null] at h
      cases h

/-! ## Documents in UTF-8 -/

omit [Runtime F] in
/-- A null is no continuation byte. -/
theorem decodeHead_null {a : UInt8} (ha : 0x80 ≤ a.toNat) (rest : List UInt8) :
    decodeHead a (0x00 :: rest) = none := by
  have hlow : ∀ low high, 0x80 ≤ low → isContinuation low high 0x00 = false := by
    intro low high hlow
    rw [Bool.eq_false_iff]
    intro h
    have hnull : low ≤ 0 := (isContinuation_iff.mp h).1
    omega
  unfold decodeHead
  dsimp only
  rw [if_neg (by omega)]
  split
  · rw [hlow 0x80 0xbf (by omega)]
    rfl
  split
  · cases rest with
    | nil => rfl
    | cons b rest =>
        simp only
        rw [hlow _ _ (by split <;> omega)]
        rfl
  split
  · rcases rest with _ | ⟨b, _ | ⟨c, rest⟩⟩
    · rfl
    · rfl
    · simp only
      rw [hlow _ _ (by split <;> omega)]
      rfl
  · rfl

omit [Runtime F] in
/-- The text of bytes that start with an ASCII byte. -/
theorem decodeStrict_ascii_cons {a : UInt8} (ha : a.toNat < 0x80) (rest : List UInt8) :
    decodeStrict (a :: rest) = (decodeStrict rest).map (scalar a.toNat :: ·) := by
  unfold decodeStrict
  rw [decodeStrictFrom, decodeHead_one (by omega)]

/-- Bytes whose text is a document do not have a null among the first two. -/
theorem ne_zero_of_loads {a : UInt8} {rest : List UInt8} {text : List Char} {v : PyValue F}
    (htext : decodeStrict (a :: rest) = some text) (hloads : loads text = .ok v) :
    a ≠ 0x00 ∧ rest.head? ≠ some 0x00 := by
  have hascii : a.toNat < 0x80 → ∃ more, decodeStrict rest = some more ∧
      scalar a.toNat :: more = text := by
    intro ha
    rw [decodeStrict_ascii_cons ha] at htext
    exact Option.map_eq_some_iff.mp htext
  constructor
  · rintro rfl
    obtain ⟨more, -, rfl⟩ := hascii (by decide)
    have hnull : loads (F := F) ('\x00' :: more) = .ok v := hloads
    rw [loads_null] at hnull
    cases hnull
  · intro hrest
    obtain ⟨tail, rfl⟩ := List.head?_eq_some_iff.mp hrest
    by_cases ha : a.toNat < 0x80
    · obtain ⟨more, hmore, rfl⟩ := hascii ha
      rw [decodeStrict_ascii_cons (by decide)] at hmore
      obtain ⟨last, -, rfl⟩ := Option.map_eq_some_iff.mp hmore
      exact loads_then_null _ last v hloads
    · unfold decodeStrict at htext
      rw [decodeStrictFrom, decodeHead_null (by omega)] at htext
      cases htext

/-- Bytes whose text is a document have no byte order mark. -/
theorem not_isPrefixOf_of_loads {body : List UInt8} {text : List Char} {v : PyValue F}
    (htext : decodeStrict body = some text) (hloads : loads text = .ok v) :
    [0xfe].isPrefixOf body = false ∧ [0xff].isPrefixOf body = false ∧
      [0xef, 0xbb, 0xbf].isPrefixOf body = false := by
  simp only [Bool.eq_false_iff, ne_eq, List.isPrefixOf_iff_prefix]
  refine ⟨?_, ?_, ?_⟩
  · rintro ⟨rest, rfl⟩
    cases htext
  · rintro ⟨rest, rfl⟩
    cases htext
  · rintro ⟨rest, rfl⟩
    obtain ⟨more, -, rfl⟩ := Option.map_eq_some_iff.mp htext
    cases hloads

/-- Bytes whose UTF-8 text is a document are taken for UTF-8. -/
theorem plainUtf8_of_loads {body : List UInt8} {text : List Char} {v : PyValue F}
    (htext : decodeStrict body = some text) (hloads : loads text = .ok v) : PlainUtf8 body := by
  refine ⟨?_, text, htext⟩
  obtain ⟨hfe, hff, hmark⟩ := not_isPrefixOf_of_loads htext hloads
  cases body with
  | nil => rfl
  | cons a rest =>
      obtain ⟨ha, hb⟩ := ne_zero_of_loads htext hloads
      have hguess : guessEncoding (a :: rest) = .utf8 := by
        rcases rest with _ | ⟨b, _ | ⟨c, _ | ⟨d, rest⟩⟩⟩
        · rfl
        · simp_all [guessEncoding]
        · rfl
        · simp_all [guessEncoding]
      simp only [List.isPrefixOf, Bool.and_true] at hfe hff
      unfold detectEncoding
      rw [hmark, hguess]
      simp only [List.isPrefixOf, hfe, hff, Bool.false_and, Bool.or_false]
      rw [if_neg, if_neg Bool.false_ne_true, if_neg Bool.false_ne_true]
      simp [Ne.symm ha]

end Loads

end Python
end FreeLunch
