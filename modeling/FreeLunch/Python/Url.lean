import FreeLunch.Python.Value
import Mathlib.Algebra.Group.Nat.Defs
import Mathlib.Data.List.TakeWhile

/-!
# URLs and addresses

`urllib.parse.urlsplit` with `hostname`, `port`, `username` and `password`, and
`ipaddress.ip_address`, on lists of characters; and the addresses that the resolver reads out
of a host name.  The parts of the Unicode database that they use are a parameter.

Main results:

- Theorem `urlsplit_text`: text without control characters, outer blanks, query and fragment is
  its scheme, its network location and its path again.
-/

namespace FreeLunch
namespace Python

/-- `str.lower` and `unicodedata.normalize('NFKC', text)`. -/
structure UnicodeData where
  lower : List Char → List Char
  nfkc : List Char → List Char
  lower_ascii : ∀ text : List Char, (∀ c ∈ text, c.toNat < 128) → lower text = lowerAscii text

/-! ## Network locations -/

/-- A part of the text up to the first `c`, the whole text if there is none. -/
def upTo (c : Char) (text : List Char) : List Char :=
  (splitAtFirst (· == c) text).1

/-- What is behind the first `c`. -/
def behind (c : Char) (text : List Char) : Option (List Char) :=
  (splitAtFirst (· == c) text).2

/-- `netloc.rpartition("@")`: the part before the last `@`, if there is one, and the rest. -/
def splitUserinfo (netloc : List Char) : Option (List Char) × List Char :=
  ((behind '@' netloc.reverse).map List.reverse, (upTo '@' netloc.reverse).reverse)

/-- `username`. -/
def username (netloc : List Char) : Option (List Char) :=
  (splitUserinfo netloc).1.map (upTo ':')

/-- `password`. -/
def password (netloc : List Char) : Option (List Char) :=
  (splitUserinfo netloc).1.bind (behind ':')

/-- `_hostinfo`: the host, and the text of the port. -/
def hostinfo (netloc : List Char) : List Char × List Char :=
  let hostAndPort := (splitUserinfo netloc).2
  match behind '[' hostAndPort with
  | some bracketed =>
      (upTo ']' bracketed, (behind ':' ((behind ']' bracketed).getD [])).getD [])
  | none => (upTo ':' hostAndPort, (behind ':' hostAndPort).getD [])

/-- `hostname`: lowered up to the zone of an address. -/
def hostname (unicode : UnicodeData) (netloc : List Char) : Option (List Char) :=
  let host := (hostinfo netloc).1
  if host = [] then none
  else some (unicode.lower (upTo '%' host) ++
    ((behind '%' host).map fun zone => '%' :: zone).getD [])

/-- The number that digits write. -/
def numberOf (digits : List Char) : Nat :=
  ofDigits (digits.map fun c => c.toNat - 48)

/-- `port`; nothing where it raises `ValueError`. -/
def port (netloc : List Char) : Option (Option Nat) :=
  let text := (hostinfo netloc).2
  if text = [] then some none
  else if text.all Char.isDigit ∧ numberOf text ≤ 65535 then some (some (numberOf text))
  else none

/-! ## Addresses -/

/-- `IPv4Address._parse_octet` accepts the text. -/
def isOctet (text : List Char) : Bool :=
  !text.isEmpty && text.all Char.isDigit && text.length ≤ 3 &&
    (text == ['0'] || text.head? != some '0') && numberOf text ≤ 255

/-- `IPv4Address` accepts the text. -/
def isIpv4 (text : List Char) : Bool :=
  let octets := text.splitOn '.'
  !text.contains '/' && octets.length == 4 && octets.all isOctet

/-- `IPv4Address(text)._ip`. -/
def ipv4Number (text : List Char) : Nat :=
  (text.splitOn '.').foldl (fun n octet => n * 256 + numberOf octet) 0

/-- A hexadecimal digit. -/
def isHexDigit (c : Char) : Bool :=
  c.isDigit || ('a' ≤ c && c ≤ 'f') || ('A' ≤ c && c ≤ 'F')

/-- `IPv6Address._parse_hextet` accepts the text. -/
def isHextet (text : List Char) : Bool :=
  !text.isEmpty && text.all isHexDigit && text.length ≤ 4

/-- An address of version 4 at the end counts as two parts. -/
def expandIpv4 (parts : List (List Char)) : Option (List (List Char)) :=
  let last := parts.getLastD []
  if last.contains '.' then
    if isIpv4 last then
      some (parts.dropLast ++ [Nat.toDigits 16 (ipv4Number last / 65536),
        Nat.toDigits 16 (ipv4Number last % 65536)])
    else none
  else some parts

/-- The parts of an address of version 6, at most one run of which is left out. -/
def isIpv6Parts (parts : List (List Char)) : Bool :=
  let middle := (parts.drop 1).dropLast
  let first := parts.headD []
  let last := parts.getLastD []
  if middle.count [] = 0 then
    parts.length == 8 && !first.isEmpty && !last.isEmpty && parts.all isHextet
  else
    let skip := middle.idxOf [] + 1
    let hi := if first.isEmpty then skip - 1 else skip
    let lo := if last.isEmpty then parts.length - skip - 2 else parts.length - skip - 1
    parts.length ≤ 9 && middle.count [] == 1 &&
      (!first.isEmpty || hi == 0) && (!last.isEmpty || lo == 0) && hi + lo ≤ 7 &&
      (parts.take hi).all isHextet && (parts.drop (parts.length - lo)).all isHextet

/-- `IPv6Address` accepts the text. -/
def isIpv6 (text : List Char) : Bool :=
  let parts := (upTo '%' text).splitOn ':'
  !text.contains '/' &&
    ((behind '%' text).all fun zone => !zone.isEmpty && !zone.contains '%') &&
    3 ≤ parts.length && (expandIpv4 parts).any isIpv6Parts

/-- `ip_address` accepts the text. -/
def isIpAddress (text : List Char) : Bool :=
  isIpv4 text || isIpv6 text

/-- A part of an address as `inet_aton` reads it: decimal, octal behind a zero, or
hexadecimal behind `0x`. -/
def inetPart : List Char → Option Nat
  | '0' :: 'x' :: digits | '0' :: 'X' :: digits =>
      if digits ≠ [] ∧ digits.all isHexDigit then
        some (digits.foldl (fun n c => n * 16 + (if c.isDigit then c.toNat - 48
          else c.toLower.toNat - 87)) 0)
      else none
  | '0' :: digits =>
      if digits.all fun c => '0' ≤ c && c ≤ '7' then
        some (digits.foldl (fun n c => n * 8 + (c.toNat - 48)) 0)
      else none
  | digits => if digits ≠ [] ∧ digits.all Char.isDigit then some (numberOf digits) else none

/-- `inet_aton`: one to four parts, of which the last one fills the rest of the address. -/
def inetAton (text : List Char) : Option Nat := do
  let parts ← (text.splitOn '.').mapM inetPart
  let last := parts.getLastD 0
  if parts.length ≤ 4 ∧ parts.dropLast.all (· < 256) ∧ last < 256 ^ (5 - parts.length) then
    some (parts.dropLast.foldl (fun n part => n * 256 + part) 0 * 256 ^ (5 - parts.length) +
      last)
  else none

/-! ## Splitting a URL -/

/-- What `urlsplit` answers. -/
structure UrlParts where
  scheme : List Char
  netloc : List Char
  path : List Char
  query : List Char
  fragment : List Char
deriving DecidableEq, Repr

/-- `_WHATWG_C0_CONTROL_OR_SPACE`. -/
def isC0OrSpace (c : Char) : Bool :=
  c.toNat ≤ 32

/-- `_UNSAFE_URL_BYTES_TO_REMOVE`. -/
def isUnsafeByte (c : Char) : Bool :=
  c == '\t' || c == '\r' || c == '\n'

/-- `scheme_chars`. -/
def isSchemeChar (c : Char) : Bool :=
  c.isAlpha || c.isDigit || c == '+' || c == '-' || c == '.'

/-- The scheme in lower case, and the rest of the text. -/
def splitScheme (url : List Char) : List Char × List Char :=
  match behind ':' url with
  | some rest =>
      if (url.head?.any Char.isAlpha) && (upTo ':' url).all isSchemeChar then
        (lowerAscii (upTo ':' url), rest)
      else ([], url)
  | none => ([], url)

/-- A character that ends the network location. -/
def endsNetloc (c : Char) : Bool :=
  c == '/' || c == '?' || c == '#'

/-- `_splitnetloc`, behind `//`. -/
def splitNetloc : List Char → List Char × List Char
  | '/' :: '/' :: rest =>
      (rest.takeWhile fun c => !endsNetloc c, rest.dropWhile fun c => !endsNetloc c)
  | url => ([], url)

/-- `_check_bracketed_host` accepts the text. -/
def isBracketedHost (host : List Char) : Bool :=
  match host with
  | 'v' :: rest =>
      !(upTo '.' rest).isEmpty && (upTo '.' rest).all isHexDigit &&
        (behind '.' rest).any fun address => !address.isEmpty
  | _ => !isIpv4 host && isIpv6 host

/-- The brackets of a network location are in order. -/
def bracketsOk (netloc : List Char) : Bool :=
  if netloc.contains '[' then
    netloc.contains ']' && isBracketedHost (upTo ']' ((behind '[' netloc).getD []))
  else !netloc.contains ']'

/-- `_checknetloc`: nothing in it normalizes to a delimiter. -/
def netlocOk (unicode : UnicodeData) (netloc : List Char) : Bool :=
  let bare := netloc.filter fun c => !(c == '@' || c == ':' || c == '#' || c == '?')
  netloc.all (fun c => c.toNat < 128) || unicode.nfkc bare == bare ||
    !(unicode.nfkc bare).any fun c => endsNetloc c || c == '@' || c == ':'

/-- `urlsplit`; nothing where it raises `ValueError`. -/
def urlsplit (unicode : UnicodeData) (text : List Char) : Option UrlParts :=
  let url := (text.dropWhile isC0OrSpace).filter fun c => !isUnsafeByte c
  let located := splitNetloc (splitScheme url).2
  let unfragmented := upTo '#' located.2
  if bracketsOk located.1 && netlocOk unicode located.1 then
    some { scheme := (splitScheme url).1
           netloc := located.1
           path := upTo '?' unfragmented
           query := (behind '?' unfragmented).getD []
           fragment := (behind '#' located.2).getD [] }
  else none

/-! ## Cutting text -/

theorem splitAtFirst_none {p : Char → Bool} {text : List Char}
    (h : (splitAtFirst p text).2 = none) :
    (splitAtFirst p text).1 = text ∧ ∀ c ∈ text, p c = false := by
  induction text with
  | nil => exact ⟨rfl, by simp⟩
  | cons c rest ih =>
      unfold splitAtFirst at h ⊢
      by_cases hc : p c = true
      · rw [if_pos hc] at h
        cases h
      · rw [if_neg hc] at h ⊢
        obtain ⟨hsame, hnone⟩ := ih h
        refine ⟨congrArg (c :: ·) hsame, ?_⟩
        intro d hd
        rcases List.mem_cons.mp hd with rfl | hd
        · exact Bool.eq_false_iff.mpr hc
        · exact hnone d hd

theorem splitAtFirst_some {p : Char → Bool} {text rest : List Char}
    (h : (splitAtFirst p text).2 = some rest) :
    ∃ c, p c = true ∧ text = (splitAtFirst p text).1 ++ c :: rest := by
  induction text with
  | nil => cases h
  | cons c tail ih =>
      unfold splitAtFirst at h ⊢
      by_cases hc : p c = true
      · rw [if_pos hc] at h ⊢
        cases h
        exact ⟨c, hc, rfl⟩
      · rw [if_neg hc] at h ⊢
        obtain ⟨d, hd, htext⟩ := ih h
        exact ⟨d, hd, congrArg (c :: ·) htext⟩

theorem not_mem_of_behind {c : Char} {text : List Char} (h : behind c text = none) :
    c ∉ text := by
  intro hmem
  have hne := (splitAtFirst_none h).2 c hmem
  simp at hne

theorem upTo_of_behind {c : Char} {text : List Char} (h : behind c text = none) :
    upTo c text = text :=
  (splitAtFirst_none h).1

theorem behind_of_not_mem {c : Char} {text : List Char} (h : c ∉ text) :
    behind c text = none := by
  cases hbehind : behind c text with
  | none => rfl
  | some rest =>
      obtain ⟨d, hd, htext⟩ := splitAtFirst_some hbehind
      rw [beq_iff_eq] at hd
      subst hd
      refine absurd ?_ h
      rw [htext]
      exact List.mem_append_right _ List.mem_cons_self

theorem eq_of_behind {c : Char} {text rest : List Char} (h : behind c text = some rest) :
    text = upTo c text ++ c :: rest := by
  obtain ⟨d, hd, htext⟩ := splitAtFirst_some h
  rw [beq_iff_eq] at hd
  subst hd
  exact htext

/-- A location without a user has no `@`. -/
theorem username_eq_none_iff {netloc : List Char} : username netloc = none ↔ '@' ∉ netloc := by
  unfold username splitUserinfo
  rw [Option.map_eq_none_iff, Option.map_eq_none_iff]
  constructor
  · intro h hmem
    exact not_mem_of_behind h (List.mem_reverse.mpr hmem)
  · intro h
    exact behind_of_not_mem fun hmem => h (List.mem_reverse.mp hmem)

theorem password_of_username {netloc : List Char} (h : username netloc = none) :
    password netloc = none := by
  unfold username at h
  unfold password
  rw [Option.map_eq_none_iff.mp h]
  rfl

/-! ## The text of a split URL -/

/-- A scheme is the lowered text before the first colon. -/
theorem splitScheme_cases (url : List Char) :
    splitScheme url = ([], url) ∨
      ∃ scheme rest, url = scheme ++ ':' :: rest ∧ scheme.all isSchemeChar = true ∧
        splitScheme url = (lowerAscii scheme, rest) := by
  unfold splitScheme
  cases hrest : behind ':' url with
  | none => exact .inl rfl
  | some rest =>
      dsimp only
      split
      · next hscheme =>
          rw [Bool.and_eq_true] at hscheme
          exact .inr ⟨upTo ':' url, rest, eq_of_behind hrest, hscheme.2, rfl⟩
      · exact .inl rfl

/-- A network location ends at the first slash. -/
theorem splitNetloc_cases (url : List Char) :
    splitNetloc url = ([], url) ∨
      url = '/' :: '/' :: ((splitNetloc url).1 ++ (splitNetloc url).2) ∧
        (∀ c ∈ (splitNetloc url).1, endsNetloc c = false) ∧
        ((splitNetloc url).2 = [] ∨ ∃ c ∈ (splitNetloc url).2.head?, endsNetloc c = true) := by
  unfold splitNetloc
  split
  · next rest =>
      right
      refine ⟨by rw [List.takeWhile_append_dropWhile], ?_, ?_⟩
      · intro c hc
        simpa using List.mem_takeWhile_imp hc
      cases hpath : rest.dropWhile fun c => !endsNetloc c with
      | nil => exact .inl rfl
      | cons c path =>
          have hc := List.head?_dropWhile_not (fun c => !endsNetloc c) rest
          rw [hpath] at hc
          exact .inr ⟨c, rfl, by simpa using hc⟩
  · exact .inl rfl

/-- Text that is printable throughout is not changed before it is split. -/
theorem cleaned_text {text : List Char} (hfirst : ∀ c ∈ text.head?, isC0OrSpace c = false)
    (hclean : ∀ c ∈ text, isUnsafeByte c = false) :
    (text.dropWhile isC0OrSpace).filter (fun c => !isUnsafeByte c) = text := by
  have hdrop : text.dropWhile isC0OrSpace = text := by
    cases text with
    | nil => rfl
    | cons c rest => rw [List.dropWhile_cons_of_neg (by simp [hfirst c rfl])]
  rw [hdrop]
  exact List.filter_eq_self.mpr fun c hc => by rw [hclean c hc]; rfl

/-- Printable text without query and fragment is its scheme, its network location and its
path. -/
theorem urlsplit_text {unicode : UnicodeData} {text : List Char} {parts : UrlParts}
    (h : urlsplit unicode text = some parts)
    (hfirst : ∀ c ∈ text.head?, isC0OrSpace c = false)
    (hclean : ∀ c ∈ text, isUnsafeByte c = false) (hquery : '?' ∉ text)
    (hfragment : '#' ∉ text) (hscheme : parts.scheme ≠ []) (hnetloc : parts.netloc ≠ []) :
    ∃ scheme, text = scheme ++ "://".toList ++ parts.netloc ++ parts.path ∧
      scheme.all isSchemeChar = true ∧ lowerAscii scheme = parts.scheme ∧
      '/' ∉ parts.netloc ∧ (parts.path = [] ∨ parts.path.head? = some '/') := by
  unfold urlsplit at h
  rw [cleaned_text hfirst hclean] at h
  dsimp only at h
  split at h
  · cases h
    dsimp only at hscheme hnetloc ⊢
    rcases splitScheme_cases text with hnone | ⟨scheme, rest, htext, hchars, hsplit⟩
    · rw [hnone] at hscheme
      exact absurd rfl hscheme
    · rw [hsplit] at hnetloc ⊢
      dsimp only at hnetloc ⊢
      rcases splitNetloc_cases rest with hnone | ⟨hrest, hlocation, hpath⟩
      · rw [hnone] at hnetloc
        exact absurd rfl hnetloc
      · -- the path has neither a fragment nor a query to cut off
        have hmem : ∀ c ∈ (splitNetloc rest).2, c ∈ text := by
          intro c hc
          rw [htext, hrest]
          simp [hc]
        have hnoFragment : behind '#' (splitNetloc rest).2 = none :=
          behind_of_not_mem fun hc => hfragment (hmem _ hc)
        have hnoQuery : behind '?' (splitNetloc rest).2 = none :=
          behind_of_not_mem fun hc => hquery (hmem _ hc)
        rw [upTo_of_behind hnoFragment, upTo_of_behind hnoQuery]
        refine ⟨scheme, ?_, hchars, rfl, ?_, ?_⟩
        · rw [htext]
          conv => lhs; rw [hrest]
          simp
        · intro hslash
          have hends := hlocation _ hslash
          cases hends
        · rcases hpath with hempty | ⟨c, hc, hends⟩
          · exact .inl hempty
          · right
            have hctext : c ∈ text := hmem c (List.mem_of_mem_head? hc)
            have hne : c ≠ '?' ∧ c ≠ '#' :=
              ⟨fun heq => hquery (heq ▸ hctext), fun heq => hfragment (heq ▸ hctext)⟩
            have hslash : c = '/' := by
              simpa [endsNetloc, hne.1, hne.2] using hends
            rw [← hslash]
            exact hc
  · cases h

end Python
end FreeLunch
