import FreeLunch.Python.Utf8
import FreeLunch.Tokens.Estimate
import Mathlib.Algebra.Order.Floor.Semiring
import Mathlib.Data.Rat.Floor
import Mathlib.Tactic.Positivity
import Mathlib.Tactic.NormNum

/-!
# The token count of a text without a tokenizer

`_heuristic_text_token_count` of `src/tokens.py`: the bytes of a text over a number of bytes per
token that its kind and the tokenizer family give, and at least a share of its words.

Main results:

- Theorem `wordCount_append`: text appended to a text takes no word away.
- Theorem `heuristicTextTokenCount_append`: a text counts no more than the same text with text
  appended to it, when both are of one kind.
- Theorem `heuristicTokenizer_withSafetyBuffer_mono`: a larger total stays larger with the
  safety buffer.

Current gaps:

- The floats are exact: bytes per token, shares of words and the safety buffer are rational
  numbers.
- `str.lower`, `str.isalnum` and which code points UTF-8 encodes are parameters.
-/

namespace FreeLunch
namespace Tokens

open Python

/-! ## Kinds of text -/

/-- What the heuristic takes from the Unicode database. -/
structure UnicodeData where
  /-- `str.lower`. -/
  lower : String → String
  /-- `str.isalnum` of one code point. -/
  isAlnum : Char → Bool
  /-- The code point is no surrogate. -/
  encodable : Char → Bool

/-- What `_detect_text_content_type` returns. -/
inductive ContentType where
  | prose
  | code
  | json
deriving DecidableEq, Repr

/-- The bytes per token of a tokenizer family. -/
structure HeuristicProfile where
  proseBytesPerToken : ℚ
  codeBytesPerToken : ℚ
  jsonBytesPerToken : ℚ
  pos : 0 < proseBytesPerToken ∧ 0 < codeBytesPerToken ∧ 0 < jsonBytesPerToken := by norm_num

/-- `profile[f"{content_type}_bytes_per_token"]`. -/
def HeuristicProfile.bytesPerToken (profile : HeuristicProfile) : ContentType → ℚ
  | .prose => profile.proseBytesPerToken
  | .code => profile.codeBytesPerToken
  | .json => profile.jsonBytesPerToken

theorem HeuristicProfile.bytesPerToken_pos (profile : HeuristicProfile)
    (contentType : ContentType) : 0 < profile.bytesPerToken contentType := by
  obtain ⟨hprose, hcode, hjson⟩ := profile.pos
  cases contentType with
  | prose => exact hprose
  | code => exact hcode
  | json => exact hjson

/-- `_HEURISTIC_DEFAULT_PROFILE`. -/
def heuristicDefaultProfile : HeuristicProfile where
  proseBytesPerToken := 5.2
  codeBytesPerToken := 2.55
  jsonBytesPerToken := 3.1

/-- `_HEURISTIC_PROFILES`. -/
def heuristicProfiles : List (String × HeuristicProfile) :=
  [("gpt", { proseBytesPerToken := 5.8, codeBytesPerToken := 2.7, jsonBytesPerToken := 3.35 }),
    ("qwen", { proseBytesPerToken := 5.35, codeBytesPerToken := 2.45, jsonBytesPerToken := 3.05 }),
    ("deepseek",
      { proseBytesPerToken := 5.4, codeBytesPerToken := 2.55, jsonBytesPerToken := 3.1 }),
    ("mistral",
      { proseBytesPerToken := 5.3, codeBytesPerToken := 2.55, jsonBytesPerToken := 3.1 }),
    ("llama", { proseBytesPerToken := 5.25, codeBytesPerToken := 2.5, jsonBytesPerToken := 3.05 }),
    ("cohere", { proseBytesPerToken := 5.1, codeBytesPerToken := 2.45, jsonBytesPerToken := 3 }),
    ("claude", heuristicDefaultProfile),
    ("gemini",
      { proseBytesPerToken := 5.15, codeBytesPerToken := 2.5, jsonBytesPerToken := 3.05 }),
    ("grok", { proseBytesPerToken := 5.15, codeBytesPerToken := 2.5, jsonBytesPerToken := 3.05 }),
    ("nova", { proseBytesPerToken := 5.15, codeBytesPerToken := 2.5, jsonBytesPerToken := 3.05 }),
    ("router", heuristicDefaultProfile)]

section Heuristic

variable (unicode : UnicodeData)

/-- `_heuristic_profile`: the first profile whose key is in the family. -/
def heuristicProfile (tokenizerFamily : String) : HeuristicProfile :=
  let family := (unicode.lower (String.ofList (strip tokenizerFamily.toList))).toList
  if family = [] then heuristicDefaultProfile
  else
    match heuristicProfiles.find? fun entry => decide (entry.1.toList <:+: family) with
    | some (_, profile) => profile
    | none => heuristicDefaultProfile

/-- `_JSON_LIKE_RE.match` of a text without outer whitespace. -/
def isJsonLike (stripped : List Char) : Bool :=
  (stripped.head?.any fun c => c = '[' || c = '\x7b') &&
    stripped.getLast?.any fun c => c = ']' || c = '\x7d'

/-- The `code_markers`. -/
def codeMarkers : List String :=
  ["def ", "class ", "return ", "import ", "from ", "function ", "const ", "let ", "var ", "=>",
    "#include", "public ", "private ", "protected ", "fn ", "```"]

/-- `_detect_text_content_type`. -/
def detectTextContentType (text : String) : ContentType :=
  let stripped := strip text.toList
  if stripped = [] then .prose
  else if isJsonLike stripped then .json
  else
    let newlineCount := text.toList.count '\n'
    let lowered := (unicode.lower text).toList
    let hasMarker := codeMarkers.any fun marker => decide (marker.toList <:+: lowered)
    let punctuationCount := text.toList.countP fun c => !unicode.isAlnum c && !isSpace c
    let punctuationDensity : ℚ := punctuationCount / (max text.toList.length 1 : ℕ)
    if newlineCount ≥ 2 ∧ (hasMarker ∨ punctuationDensity ≥ 0.12) then .code
    else if hasMarker then .code
    else .prose

/-! ## Words -/

/-- A `\w` of the `re` module. -/
def isWordChar (c : Char) : Bool :=
  unicode.isAlnum c || c = '_'

/-- The matches of `\w+` that start in a text, which a word may lead up to. -/
def wordCountFrom (inWord : Bool) : List Char → ℕ
  | [] => 0
  | c :: rest =>
      (if isWordChar unicode c && !inWord then 1 else 0) + wordCountFrom (isWordChar unicode c) rest

/-- `len(re.findall(r"\w+", text, re.UNICODE))`. -/
def wordCount (text : String) : ℕ :=
  wordCountFrom unicode false text.toList

/-- The tokens per word that the heuristic counts at least. -/
def wordFloor : ContentType → ℚ
  | .prose => 0.75
  | .code => 0.45
  | .json => 0.55

/-! ## Counting -/

/-- `_heuristic_text_token_count`. -/
def heuristicTextTokenCount (text tokenizerFamily : String) : ℕ :=
  if text = "" then 0
  else
    let contentType := detectTextContentType unicode text
    let bytesPerToken := (heuristicProfile unicode tokenizerFamily).bytesPerToken contentType
    let tokenCount := max ⌈((encodeUtf8 text.toList).length : ℚ) / bytesPerToken⌉₊ 1
    let words := wordCount unicode text
    if words > 0 then max tokenCount ⌈words * wordFloor contentType⌉₊ else tokenCount

/-- The estimates without a tokenizer library. -/
def heuristicTokenizer (room : StackRoom) (safetyBuffer : ℚ) : Tokenizer where
  lower := unicode.lower
  encodable := fun text => text.toList.all unicode.encodable
  exactTextTokenCount := fun _ _ _ => none
  heuristicTextTokenCount := heuristicTextTokenCount unicode
  withSafetyBuffer := fun total => max ⌈(total : ℚ) * (1 + safetyBuffer)⌉ 1
  room := room

/-! ## Appended text -/

theorem wordCountFrom_append (inWord : Bool) (text more : List Char) :
    wordCountFrom unicode inWord text ≤ wordCountFrom unicode inWord (text ++ more) := by
  induction text generalizing inWord with
  | nil => exact Nat.zero_le _
  | cons c rest ih =>
      rw [List.cons_append, wordCountFrom, wordCountFrom]
      exact Nat.add_le_add_left (ih _) _

/-- Appending text takes no word away. -/
theorem wordCount_append (text more : String) :
    wordCount unicode text ≤ wordCount unicode (text ++ more) := by
  unfold wordCount
  rw [String.toList_append]
  exact wordCountFrom_append unicode false text.toList more.toList

theorem length_encodeUtf8_append (text more : String) :
    (encodeUtf8 text.toList).length ≤ (encodeUtf8 (text ++ more).toList).length := by
  rw [String.toList_append, encodeUtf8_append, List.length_append]
  exact Nat.le_add_right _ _

theorem wordFloor_nonneg (contentType : ContentType) : 0 ≤ wordFloor contentType := by
  cases contentType <;> norm_num [wordFloor]

/-- Of two texts of one kind the one with more bytes and more words counts at least as much. -/
theorem heuristicTextTokenCount_le {text longer : String}
    (htype : detectTextContentType unicode text = detectTextContentType unicode longer)
    (hbytes : (encodeUtf8 text.toList).length ≤ (encodeUtf8 longer.toList).length)
    (hwords : wordCount unicode text ≤ wordCount unicode longer) (tokenizerFamily : String) :
    heuristicTextTokenCount unicode text tokenizerFamily ≤
      heuristicTextTokenCount unicode longer tokenizerFamily := by
  unfold heuristicTextTokenCount
  by_cases hempty : text = ""
  · rw [if_pos hempty]
    exact Nat.zero_le _
  · have hlonger : longer ≠ "" := by
      intro h
      rw [h] at hbytes
      cases hchars : text.toList with
      | nil => exact hempty (String.toList_eq_nil_iff.mp hchars)
      | cons c rest =>
          rw [hchars, length_encodeUtf8_cons] at hbytes
          have hsize := Char.utf8Size_pos c
          have hzero : (encodeUtf8 "".toList).length = 0 := rfl
          omega
    rw [if_neg hempty, if_neg hlonger, ← htype]
    dsimp only
    have hpos := (heuristicProfile unicode tokenizerFamily).bytesPerToken_pos
      (detectTextContentType unicode text)
    have hfloor := wordFloor_nonneg (detectTextContentType unicode text)
    generalize (heuristicProfile unicode tokenizerFamily).bytesPerToken
      (detectTextContentType unicode text) = bytesPerToken at hpos
    generalize wordFloor (detectTextContentType unicode text) = floor at hfloor
    have hcount : max ⌈((encodeUtf8 text.toList).length : ℚ) / bytesPerToken⌉₊ 1 ≤
        max ⌈((encodeUtf8 longer.toList).length : ℚ) / bytesPerToken⌉₊ 1 := by
      refine max_le_max_right 1 (Nat.ceil_mono ?_)
      exact div_le_div_of_nonneg_right (Nat.cast_le.mpr hbytes) hpos.le
    have hfloors : ⌈(wordCount unicode text : ℚ) * floor⌉₊ ≤
        ⌈(wordCount unicode longer : ℚ) * floor⌉₊ := by
      exact Nat.ceil_mono (mul_le_mul_of_nonneg_right (Nat.cast_le.mpr hwords) hfloor)
    by_cases hnone : wordCount unicode text > 0
    · rw [if_pos hnone, if_pos (lt_of_lt_of_le hnone hwords)]
      exact max_le_max hcount hfloors
    · rw [if_neg hnone]
      split
      · exact hcount.trans (le_max_left _ _)
      · exact hcount

/-- Appending text to a text of the same kind does not lower its count. -/
theorem heuristicTextTokenCount_append {text more : String}
    (htype : detectTextContentType unicode text = detectTextContentType unicode (text ++ more))
    (tokenizerFamily : String) :
    heuristicTextTokenCount unicode text tokenizerFamily ≤
      heuristicTextTokenCount unicode (text ++ more) tokenizerFamily :=
  heuristicTextTokenCount_le unicode htype (length_encodeUtf8_append text more)
    (wordCount_append unicode text more) tokenizerFamily

/-- A larger total stays larger with the safety buffer. -/
theorem heuristicTokenizer_withSafetyBuffer_mono {room : StackRoom} {safetyBuffer : ℚ}
    (hbuffer : 0 ≤ safetyBuffer) {total larger : ℕ} (h : total ≤ larger) :
    (heuristicTokenizer unicode room safetyBuffer).withSafetyBuffer total ≤
      (heuristicTokenizer unicode room safetyBuffer).withSafetyBuffer larger := by
  refine max_le_max_right 1 (Int.ceil_mono ?_)
  exact mul_le_mul_of_nonneg_right (Nat.cast_le.mpr h) (by linarith)

end Heuristic

end Tokens
end FreeLunch
