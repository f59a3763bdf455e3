import FreeLunch.Python.Value

/-!
# The `json` module

`json.loads` and `json.dumps` with their default arguments, on text that holds
no lone surrogates.  The scanner follows CPython's: it skips the four JSON
whitespace characters, accepts `NaN` and the infinities, keeps the last of
duplicate members, and reports a container nested below the recursion limit as
`RecursionError`, not as a decoding error.

Current gaps:

- An escaped lone surrogate decodes to the replacement character; nothing in the
  modelled code inspects it.
-/

namespace FreeLunch
namespace Python

variable {F : Type}

/-! ## Scanning tokens -/

/-- The whitespace of the JSON grammar. -/
def isJsonSpace (c : Char) : Bool :=
  c == ' ' || c == '\t' || c == '\n' || c == '\r'

/-- Drop JSON whitespace. -/
def skipSpace (text : List Char) : List Char :=
  text.dropWhile isJsonSpace

/-- A `JSONDecodeError`. -/
def decodeError {α : Type} (text : String) : Except Exc α :=
  .error (.jsonDecodeError text)

/-- The value of an ASCII decimal digit. -/
def asciiDigit (c : Char) : Option Nat :=
  if '0' ≤ c && c ≤ '9' then some (c.toNat - 48) else none

/-- The value of an ASCII hexadecimal digit. -/
def hexDigit (c : Char) : Option Nat :=
  if '0' ≤ c && c ≤ '9' then some (c.toNat - 48)
  else if 'a' ≤ c && c ≤ 'f' then some (c.toNat - 87)
  else if 'A' ≤ c && c ≤ 'F' then some (c.toNat - 55)
  else none

/-- The leading ASCII digits of a text. -/
def spanDigits : List Char → List Nat × List Char
  | [] => ([], [])
  | c :: rest =>
      match asciiDigit c with
      | some d => (d :: (spanDigits rest).1, (spanDigits rest).2)
      | none => ([], c :: rest)

/-- The four hexadecimal digits after `\u`. -/
def scanHex4 : List Char → Option (Nat × List Char)
  | a :: b :: c :: d :: rest => do
      let x ← hexDigit a
      let y ← hexDigit b
      let z ← hexDigit c
      let w ← hexDigit d
      pure (x * 0x1000 + y * 0x100 + z * 0x10 + w, rest)
  | _ => none

/-- Combine a surrogate pair. -/
def joinSurrogates (high low : Nat) : Nat :=
  0x10000 + (high - 0xd800) * 0x400 + (low - 0xdc00)

/-- The character of a `\u` escape and the text after it: a high surrogate takes
a following escaped low surrogate with it. -/
def scanUnicodeEscape (text : List Char) : Option (Char × List Char) := do
  let (n, rest) ← scanHex4 text
  if 0xd800 ≤ n && n ≤ 0xdbff then
    match rest with
    | '\\' :: 'u' :: more =>
        match scanHex4 more with
        | some (low, rest') =>
            if 0xdc00 ≤ low && low ≤ 0xdfff then
              pure (Char.ofNat (joinSurrogates n low), rest')
            else pure (Char.ofNat 0xfffd, rest)
        | none => pure (Char.ofNat 0xfffd, rest)
    | _ => pure (Char.ofNat 0xfffd, rest)
  else if 0xdc00 ≤ n && n ≤ 0xdfff then pure (Char.ofNat 0xfffd, rest)
  else pure (Char.ofNat n, rest)

/-- The character of a one-letter escape. -/
def simpleEscape : Char → Option Char
  | '"' => some '"'
  | '\\' => some '\\'
  | '/' => some '/'
  | 'b' => some '\x08'
  | 'f' => some '\x0c'
  | 'n' => some '\n'
  | 'r' => some '\r'
  | 't' => some '\t'
  | _ => none

/-- The rest of a string literal after its opening quote.  The fuel bounds the
characters read. -/
def scanString : Nat → List Char → List Char → Except Exc (List Char × List Char)
  | 0, _, _ => decodeError "Unterminated string"
  | _ + 1, _, [] => decodeError "Unterminated string"
  | _ + 1, acc, '"' :: rest => .ok (acc.reverse, rest)
  | fuel + 1, acc, '\\' :: 'u' :: rest =>
      match scanUnicodeEscape rest with
      | some (c, rest') => scanString fuel (c :: acc) rest'
      | none => decodeError "Invalid \\uXXXX escape"
  | fuel + 1, acc, '\\' :: c :: rest =>
      match simpleEscape c with
      | some d => scanString fuel (d :: acc) rest
      | none => decodeError "Invalid \\escape"
  | _ + 1, _, ['\\'] => decodeError "Unterminated string"
  | fuel + 1, acc, c :: rest =>
      if c.toNat < 0x20 then decodeError "Invalid control character at"
      else scanString fuel (c :: acc) rest

/-- The fraction of a number: a point followed by at least one digit. -/
def scanFraction : List Char → Option (List Nat × List Char)
  | '.' :: rest =>
      match spanDigits rest with
      | ([], _) => none
      | (ds, rest') => some (ds, rest')
  | _ => none

/-- The exponent of a number: `e` or `E`, a sign, at least one digit. -/
def scanExponent : List Char → Option (Int × List Char)
  | c :: rest =>
      if c == 'e' || c == 'E' then
        let (negative, digits) := splitSign rest
        match spanDigits digits with
        | ([], _) => none
        | (ds, rest') =>
            some (if negative then -(ofDigits ds : Int) else ofDigits ds, rest')
      else none
  | [] => none

/-- A number token after its sign: an integer, or a float where a fraction or an
exponent follows. -/
def scanNumber [Runtime F] (negative : Bool) (text : List Char) :
    Except Exc (PyValue F × List Char) :=
  let (whole, rest) :=
    match text with
    | '0' :: rest => ([0], rest)
    | _ => spanDigits text
  if whole.isEmpty then decodeError "Expecting value"
  else
    match scanFraction rest, scanExponent ((scanFraction rest).elim rest Prod.snd) with
    | none, none =>
        if maxStrDigits < whole.length then
          .error (.valueError "Exceeds the limit (4300 digits) for integer string conversion")
        else
          .ok (.int (if negative then -(ofDigits whole : Int) else ofDigits whole), rest)
    | some (fraction, rest'), none =>
        .ok (.float (Runtime.floatOfDecimal negative (ofDigits (whole ++ fraction))
          (-(fraction.length : Int))), rest')
    | none, some (exponent, rest') =>
        .ok (.float (Runtime.floatOfDecimal negative (ofDigits whole) exponent), rest')
    | some (fraction, _), some (exponent, rest') =>
        .ok (.float (Runtime.floatOfDecimal negative (ofDigits (whole ++ fraction))
          (exponent - fraction.length)), rest')

/-- Drop a literal word from the front of a text. -/
def dropWord (word text : List Char) : Option (List Char) :=
  if startsWith text word then some (text.drop word.length) else none

/-- The values that are spelled as words, and numbers. -/
def scanScalar [Runtime F] (text : List Char) : Except Exc (PyValue F × List Char) :=
  if let some rest := dropWord "null".toList text then .ok (.none, rest)
  else if let some rest := dropWord "true".toList text then .ok (.bool true, rest)
  else if let some rest := dropWord "false".toList text then .ok (.bool false, rest)
  else if let some rest := dropWord "NaN".toList text then .ok (.float Runtime.nan, rest)
  else if let some rest := dropWord "Infinity".toList text then
    .ok (.float (Runtime.infinity false), rest)
  else if let some rest := dropWord "-Infinity".toList text then
    .ok (.float (Runtime.infinity true), rest)
  else
    match text with
    | '-' :: rest => scanNumber true rest
    | _ => scanNumber false text

/-! ## Scanning values -/

mutual

/-- `scan_once`: one value at the front of a text.  The fuel bounds the work and
`depth` is what is left of the recursion limit. -/
def scanValue [Runtime F] : Nat → Nat → List Char → Except Exc (PyValue F × List Char)
  | 0, _, _ => decodeError "Expecting value"
  | fuel + 1, _, '"' :: rest => do
      let (s, rest') ← scanString (fuel + 1) [] rest
      pure (.str (String.ofList s), rest')
  | fuel + 1, depth, '[' :: rest =>
      match depth with
      | 0 => .error (.recursionError "maximum recursion depth exceeded")
      | depth + 1 =>
          match skipSpace rest with
          | ']' :: rest' => .ok (.list [], rest')
          | text => do
              let (items, rest') ← scanItems fuel depth text
              pure (.list items, rest')
  | fuel + 1, depth, '\x7b' :: rest =>
      match depth with
      | 0 => .error (.recursionError "maximum recursion depth exceeded")
      | depth + 1 =>
          match skipSpace rest with
          | '\x7d' :: rest' => .ok (.dict [], rest')
          | text => do
              let (members, rest') ← scanMembers fuel depth [] text
              pure (.dict members, rest')
  | _ + 1, _, text => scanScalar text
termination_by structural fuel => fuel

/-- The items of a nonempty array up to its closing bracket. -/
def scanItems [Runtime F] : Nat → Nat → List Char → Except Exc (List (PyValue F) × List Char)
  | 0, _, _ => decodeError "Expecting value"
  | fuel + 1, depth, text => do
      let (v, rest) ← scanValue fuel depth text
      match skipSpace rest with
      | ']' :: rest' => pure ([v], rest')
      | ',' :: rest' =>
          let (items, rest'') ← scanItems fuel depth (skipSpace rest')
          pure (v :: items, rest'')
      | _ => decodeError "Expecting ',' delimiter"
termination_by structural fuel => fuel

/-- The members of a nonempty object up to its closing brace, collected in a
dictionary. -/
def scanMembers [Runtime F] : Nat → Nat → List (String × PyValue F) → List Char →
    Except Exc (List (String × PyValue F) × List Char)
  | 0, _, _, _ => decodeError "Expecting value"
  | fuel + 1, depth, members, text =>
      match text with
      | '"' :: rest => do
          let (key, rest') ← scanString (fuel + 1) [] rest
          match skipSpace rest' with
          | ':' :: rest'' =>
              let (v, after) ← scanValue fuel depth (skipSpace rest'')
              let members' := dictSet members (String.ofList key) v
              match skipSpace after with
              | '\x7d' :: after' => pure (members', after')
              | ',' :: after' => scanMembers fuel depth members' (skipSpace after')
              | _ => decodeError "Expecting ',' delimiter"
          | _ => decodeError "Expecting ':' delimiter"
      | _ => decodeError "Expecting property name enclosed in double quotes"
termination_by structural fuel => fuel

end

/-- `json.loads(text)`.  A value and the array or object around it take two units of
fuel for at least one character, so the fuel outlasts the text. -/
def loads [Runtime F] (text : List Char) : Except Exc (PyValue F) := do
  if startsWith text ['\ufeff'] then decodeError "Unexpected UTF-8 BOM (decode using utf-8-sig)"
  else
    let (v, rest) ← scanValue (2 * text.length + 2) (Runtime.recursionLimit F) (skipSpace text)
    if (skipSpace rest).isEmpty then pure v else decodeError "Extra data"

/-! ## Writing values -/

mutual

/-- How deep lists and dictionaries are nested in a value. -/
def PyValue.nesting : PyValue F → Nat
  | .list items => itemNesting items + 1
  | .dict members => memberNesting members + 1
  | .none | .bool _ | .int _ | .float _ | .str _ => 0

/-- The same for the items of a list. -/
def itemNesting : List (PyValue F) → Nat
  | [] => 0
  | v :: rest => max v.nesting (itemNesting rest)

/-- The same for the members of a dictionary. -/
def memberNesting : List (String × PyValue F) → Nat
  | [] => 0
  | (_, v) :: rest => max v.nesting (memberNesting rest)

end

/-- One character of a string as `json.dumps` writes it. -/
def dumpChar (c : Char) : List Char :=
  if c = '"' then ['\\', '"']
  else if c = '\\' then ['\\', '\\']
  else if c = '\n' then ['\\', 'n']
  else if c = '\r' then ['\\', 'r']
  else if c = '\t' then ['\\', 't']
  else if c = '\x0c' then ['\\', 'f']
  else if c = '\x08' then ['\\', 'b']
  else if 0x20 ≤ c.toNat && c.toNat ≤ 0x7e then [c]
  else if c.toNat < 0x10000 then '\\' :: 'u' :: hexText 4 c.toNat
  else
    let n := c.toNat - 0x10000
    '\\' :: 'u' :: hexText 4 (0xd800 + n / 0x400) ++
      '\\' :: 'u' :: hexText 4 (0xdc00 + n % 0x400)

/-- A string literal. -/
def dumpString (s : String) : String :=
  String.ofList ('"' :: s.toList.flatMap dumpChar ++ ['"'])

mutual

/-- `json.dumps(v)`. -/
def dumps [Runtime F] : PyValue F → String
  | .none => "null"
  | .bool b => if b then "true" else "false"
  | .int n => intText n
  | .float x => Runtime.floatJson x
  | .str s => dumpString s
  | .list items => "[" ++ ", ".intercalate (dumpItems items) ++ "]"
  | .dict members => "\x7b" ++ ", ".intercalate (dumpMembers members) ++ "\x7d"

/-- The items of a list. -/
def dumpItems [Runtime F] : List (PyValue F) → List String
  | [] => []
  | v :: rest => dumps v :: dumpItems rest

/-- The members of a dictionary. -/
def dumpMembers [Runtime F] : List (String × PyValue F) → List String
  | [] => []
  | (key, v) :: rest => (dumpString key ++ ": " ++ dumps v) :: dumpMembers rest

end

end Python
end FreeLunch
