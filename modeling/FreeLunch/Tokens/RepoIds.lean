import FreeLunch.Foundations.Distinct
import FreeLunch.Python.Value
import Mathlib.Data.List.Chain
import Mathlib.Data.List.Infix

/-!
# Repository ids of a model hint

`_candidate_hf_repo_ids` of `src/tokens.py`: a provider's name for a model is checked to be one
namespace and one repository name, and then rewritten into the names under which the tokenizer
may be published.

Main results:

- Theorem `safe_lowerAscii_iff`: whether a component is safe does not depend on the case of its
  letters, so the case rewrites keep it.
- Theorem `repoIds_safe_iff`: every id that is produced is a pair of safe components exactly when
  the reordered name of a vision model does not end in a dot or an underscore.

Current gaps:

- `lower`, `upper` and `isalpha` act on the checked components, which are ASCII.
-/

namespace FreeLunch
namespace Tokens

open Python Distinct

/-! ## The check -/

/-- The class `[A-Za-z0-9._-]`. -/
def isComponentChar (c : Char) : Bool :=
  c.isAlphanum || c == '.' || c == '_' || c == '-'

/-- `_HF_REPO_COMPONENT_RE.fullmatch(value)`. -/
def matchesComponent : List Char → Bool
  | [] => false
  | first :: rest =>
      first.isAlphanum &&
        (rest.isEmpty ||
          (decide (rest.length ≤ 95) && rest.dropLast.all isComponentChar &&
            rest.getLast?.any Char.isAlphanum))

/-- `_is_safe_hf_repo_component`. -/
def isSafeHfRepoComponent (value : List Char) : Bool :=
  matchesComponent value && !decide ("..".toList <:+: value) && !decide ("--".toList <:+: value)

/-- `_MODEL_HINT_SUFFIX_RE.sub("", hint)`: the first colon after which only component characters
follow up to the end is dropped with what follows it. -/
def dropHintSuffix : List Char → List Char
  | [] => []
  | c :: rest =>
      if c == ':' && !rest.isEmpty && rest.all isComponentChar then []
      else c :: dropHintSuffix rest

/-! ## The rewrites -/

/-- `_KNOWN_REPO_TOKEN_CASE`. -/
def knownRepoTokenCase : List (String × String) :=
  [("llama", "Llama"), ("meta", "Meta"), ("mistral", "Mistral"), ("mixtral", "Mixtral"),
    ("qwen", "Qwen"), ("gemma", "Gemma"), ("glm", "GLM"), ("deepseek", "DeepSeek"),
    ("instruct", "Instruct"), ("chat", "Chat"), ("coder", "Coder"), ("math", "Math"),
    ("base", "Base"), ("small", "Small"), ("medium", "Medium"), ("large", "Large"),
    ("vision", "Vision"), ("fp8", "FP8"), ("vl", "VL")]

/-- `_KNOWN_ORG_CASE`. -/
def knownOrgCase : List (String × String) :=
  [("qwen", "Qwen"), ("deepseek", "deepseek-ai"), ("stepfun", "stepfun-ai"),
    ("z-ai", "zai-org")]

/-- `_KNOWN_ORG_ALIASES`. -/
def knownOrgAliases : List (String × List String) :=
  [("cohere", ["CohereLabs", "CohereForAI"]), ("coherelabs", ["cohere", "CohereForAI"]),
    ("cohereforai", ["cohere", "CohereLabs"]), ("deepseek-ai", ["deepseek"]),
    ("deepseek", ["deepseek-ai"]), ("meta", ["meta-llama"]), ("mistral", ["mistralai"]),
    ("stepfun-ai", ["stepfun"]), ("stepfun", ["stepfun-ai"]), ("zai-org", ["z-ai"]),
    ("z-ai", ["zai-org"])]

/-- `text.upper()`. -/
def upperAscii (text : List Char) : List Char :=
  text.map Char.toUpper

/-- The text with its first character in upper case. -/
def capitalized : List Char → List Char
  | [] => []
  | c :: rest => c.toUpper :: rest

/-- `re.fullmatch(r"\d+[a-z]+", text)`. -/
def isSizeToken (text : List Char) : Bool :=
  let letters := text.dropWhile Char.isDigit
  decide (letters.length < text.length) && !letters.isEmpty && letters.all Char.isLower

/-- `re.fullmatch(r"[a-z]\d+[a-z]?", text)`. -/
def isSeriesToken : List Char → Bool
  | [] => false
  | c :: rest =>
      let letters := rest.dropWhile Char.isDigit
      c.isLower && decide (letters.length < rest.length) && decide (letters.length ≤ 1) &&
        letters.all Char.isLower

/-- `re.fullmatch(r"v\d.*", text)`. -/
def isVersionToken : List Char → Bool
  | 'v' :: d :: _ => d.isDigit
  | _ => false

/-- `_normalize_repo_token`. -/
def normalizeRepoToken (token : List Char) : List Char :=
  let tokenLower := lowerAscii token
  match dictGet knownRepoTokenCase (String.ofList tokenLower) with
  | some known => known.toList
  | none =>
      if isSizeToken tokenLower then
        let prefixLength := (tokenLower.reverse.dropWhile Char.isLower).length
        tokenLower.take prefixLength ++ upperAscii (tokenLower.drop prefixLength)
      else if isSeriesToken tokenLower then
        let start := capitalized tokenLower
        if start.getLast?.any Char.isAlpha then
          start.dropLast ++ upperAscii (start.drop (start.length - 1))
        else start
      else if isVersionToken tokenLower then capitalized tokenLower
      else if token.head?.any Char.isAlpha then capitalized token
      else token

/-- The repository name with each of its tokens normalised. -/
def canonicalRepo (repo : List Char) : List Char :=
  ['-'].intercalate ((repo.splitOn '-').map normalizeRepoToken)

/-- `_KNOWN_ORG_CASE.get(org.lower(), org)`. -/
def canonicalOrg (org : List Char) : List Char :=
  ((dictGet knownOrgCase (String.ofList (lowerAscii org))).map String.toList).getD org

/-- `_candidate_org_names`. -/
def candidateOrgNames (org : List Char) : List (List Char) :=
  let aliases := (dictGet knownOrgAliases (String.ofList (lowerAscii org))).getD []
  let names := (org :: canonicalOrg org :: aliases.map String.toList).map strip
  firstsFrom id [] (names.filter fun name => !name.isEmpty)

/-- A stem with each of some endings. -/
def withEndings (stem : List Char) (endings : List String) : List (List Char) :=
  endings.map fun ending => stem ++ ending.toList

/-- `text.removeprefix(start).removesuffix(ending)`. -/
def middleOf (start ending text : List Char) : List Char :=
  let rest := if startsWith text start then text.drop start.length else text
  if endsWith rest ending then rest.take (rest.length - ending.length) else rest

/-- The names NVIDIA publishes a Nemotron model under. -/
def nemotronNames (repo : List Char) : List (List Char) :=
  let prefixed := "NVIDIA-".toList ++ repo
  let visionNames :=
    if startsWith repo "Nemotron-Nano-".toList && endsWith repo "-VL".toList then
      let reordered := "NVIDIA-Nemotron-Nano-VL-".toList ++
        middleOf "Nemotron-Nano-".toList "-VL".toList repo
      reordered :: withEndings reordered ["-BF16", "-FP8", "-NVFP4"]
    else []
  prefixed :: withEndings prefixed ["-BF16", "-FP8", "-NVFP4", "-Base"] ++ visionNames

/-- `_candidate_repo_names`. -/
def candidateRepoNames (org repo : List Char) : List (List Char) :=
  let canonical := canonicalRepo repo
  let orgLower := String.ofList (lowerAscii org)
  let names := ([repo, canonical].map strip).filter (fun name => !name.isEmpty)
  let metaNames :=
    if orgLower == "meta-llama" && startsWith canonical "Llama-".toList then
      ["Meta-".toList ++ canonical]
    else []
  let stepNames :=
    if orgLower == "stepfun-ai" && startsWith canonical "Step-".toList &&
        !(endsWith canonical "-FP8".toList || endsWith canonical "-BF16".toList) then
      withEndings canonical ["-FP8", "-BF16"]
    else []
  let mistralNames :=
    if orgLower == "mistralai" &&
        canonical == "Mistral-Small-3.1-24B-Instruct".toList then
      withEndings canonical ["-2503"]
    else []
  let nvidiaNames :=
    if orgLower == "nvidia" && startsWith canonical "Nemotron".toList then
      nemotronNames canonical
    else []
  let zaiNames :=
    if orgLower == "zai-org" && canonical == "GLM-4.5-Air".toList then
      withEndings canonical ["-FP8"]
    else []
  let cohereNames :=
    if ["cohere", "coherelabs", "cohereforai"].contains orgLower &&
        startsWith (lowerAscii repo) "command-".toList then
      ["c4ai-".toList ++ lowerAscii repo]
    else []
  firstsFrom id [] (names ++ metaNames ++ stepNames ++ mistralNames ++ nvidiaNames ++ zaiNames ++
    cohereNames)

/-- `f"{org}/{repo}"`. -/
def repoId (org repo : List Char) : List Char :=
  org ++ '/' :: repo

/-- `_canonicalize_repo_id` of an id with a slash. -/
def canonicalizeRepoId (org repo : List Char) : List Char :=
  repoId (canonicalOrg org) (canonicalRepo repo)

/-- The ids of a namespace and a repository name that passed the check. -/
def repoIdsOf (org repo : List Char) : List (List Char) :=
  let literal := [repoId org repo, canonicalizeRepoId org repo].map strip
  let rewritten := (candidateOrgNames org).flatMap fun candidateOrg =>
    (candidateRepoNames candidateOrg repo).map fun candidateRepo =>
      strip (repoId candidateOrg candidateRepo)
  firstsFrom id [] (literal.filter (fun name => !name.isEmpty && name.contains '/') ++
    rewritten.filter fun name => !name.isEmpty)

/-- `_candidate_hf_repo_ids`. -/
def candidateHfRepoIds (modelHint : List Char) : List (List Char) :=
  let hint := strip modelHint
  if hint.isEmpty || !hint.contains '/' then []
  else
    let sanitized := dropHintSuffix hint
    if sanitized.count '/' != 1 || sanitized.contains '\\' then []
    else
      match sanitized.splitOn '/' with
      | [org, repo] =>
          if isSafeHfRepoComponent org && isSafeHfRepoComponent repo then repoIdsOf org repo
          else []
      | _ => []

/-! ## Safe components -/

/-- What a component has to be: it starts and ends with a letter or a digit, and in between come
letters, digits, dots, underscores and hyphens, without two dots or two hyphens in a row. -/
structure SafeComponent (text : List Char) : Prop where
  first : text.head?.any Char.isAlphanum = true
  last : text.getLast?.any Char.isAlphanum = true
  chars : ∀ c ∈ text, isComponentChar c = true
  noDots : ¬ "..".toList <:+: text
  noHyphens : ¬ "--".toList <:+: text

/-- Two safe components with one slash between them. -/
def SafeRepoId (id : List Char) : Prop :=
  ∃ org repo, id = repoId org repo ∧ SafeComponent org ∧ SafeComponent repo

/-- A text that can stand between the hyphens of a safe component. -/
structure Interior (text : List Char) : Prop where
  nonempty : text ≠ []
  chars : ∀ c ∈ text, isComponentChar c = true
  noDots : ¬ "..".toList <:+: text
  noHyphens : ¬ "--".toList <:+: text
  first : text.head? ≠ some '-'
  last : text.getLast? ≠ some '-'

/-- Whether a component is safe can be computed. -/
instance decidableSafeComponent (text : List Char) : Decidable (SafeComponent text) :=
  decidable_of_iff
    (text.head?.any Char.isAlphanum = true ∧ text.getLast?.any Char.isAlphanum = true ∧
      text.all isComponentChar = true ∧ ¬ "..".toList <:+: text ∧ ¬ "--".toList <:+: text)
    ⟨fun h => ⟨h.1, h.2.1, List.all_eq_true.mp h.2.2.1, h.2.2.2.1, h.2.2.2.2⟩,
      fun h => ⟨h.first, h.last, List.all_eq_true.mpr h.chars, h.noDots, h.noHyphens⟩⟩

instance decidableInterior (text : List Char) : Decidable (Interior text) :=
  decidable_of_iff
    (text ≠ [] ∧ text.all isComponentChar = true ∧ ¬ "..".toList <:+: text ∧
      ¬ "--".toList <:+: text ∧ text.head? ≠ some '-' ∧ text.getLast? ≠ some '-')
    ⟨fun h => ⟨h.1, List.all_eq_true.mp h.2.1, h.2.2.1, h.2.2.2.1, h.2.2.2.2.1, h.2.2.2.2.2⟩,
      fun h => ⟨h.nonempty, List.all_eq_true.mpr h.chars, h.noDots, h.noHyphens, h.first, h.last⟩⟩

/-- A character occurs twice in a row, or any two neighbours are not both that character. -/
theorem not_double_iff {c : Char} {text : List Char} :
    ¬ [c, c] <:+: text ↔ text.IsChain fun x y => ¬ (x = c ∧ y = c) := by
  rw [List.isChain_iff_forall_rel_of_append_cons_cons]
  constructor
  · rintro h x y before after rfl ⟨rfl, rfl⟩
    exact h ⟨before, after, by simp⟩
  · rintro h ⟨before, after, rfl⟩
    have htext : before ++ [c, c] ++ after = before ++ c :: c :: after := by simp
    exact h htext ⟨rfl, rfl⟩

theorem not_dots_iff {text : List Char} :
    ¬ "..".toList <:+: text ↔ text.IsChain fun x y => ¬ (x = '.' ∧ y = '.') :=
  not_double_iff

theorem not_hyphens_iff {text : List Char} :
    ¬ "--".toList <:+: text ↔ text.IsChain fun x y => ¬ (x = '-' ∧ y = '-') :=
  not_double_iff

theorem isComponentChar_of_isAlphanum {c : Char} (h : c.isAlphanum = true) :
    isComponentChar c = true := by
  simp [isComponentChar, h]

/-- A safe component is an interior text whose ends are letters or digits. -/
theorem safeComponent_iff {text : List Char} :
    SafeComponent text ↔ Interior text ∧ text.head?.any Char.isAlphanum = true ∧
      text.getLast?.any Char.isAlphanum = true := by
  have hyphen : ('-' : Char).isAlphanum = false := by decide
  constructor
  · intro h
    refine ⟨⟨?_, h.chars, h.noDots, h.noHyphens, ?_, ?_⟩, h.first, h.last⟩
    · rintro rfl
      cases h.first
    · intro hhead
      have hfirst := h.first
      rw [hhead, Option.any_some, hyphen] at hfirst
      cases hfirst
    · intro hlast
      have hend := h.last
      rw [hlast, Option.any_some, hyphen] at hend
      cases hend
  · rintro ⟨h, hfirst, hlast⟩
    exact ⟨hfirst, hlast, h.chars, h.noDots, h.noHyphens⟩

/-- Two interior texts with a hyphen between them are one. -/
theorem interior_append {a b : List Char} (ha : Interior a) (hb : Interior b) :
    Interior (a ++ '-' :: b) := by
  have hhyphen : isComponentChar '-' = true := by decide
  refine ⟨by simp, ?_, ?_, ?_, ?_, ?_⟩
  · intro c hc
    rw [List.mem_append, List.mem_cons] at hc
    rcases hc with hc | rfl | hc
    · exact ha.chars c hc
    · exact hhyphen
    · exact hb.chars c hc
  · rw [not_dots_iff, List.isChain_append, List.isChain_cons]
    refine ⟨not_dots_iff.mp ha.noDots, ⟨?_, not_dots_iff.mp hb.noDots⟩, ?_⟩
    · rintro y - ⟨h, -⟩
      exact absurd h (by decide)
    · rintro x - y hy ⟨-, rfl⟩
      cases hy
  · rw [not_hyphens_iff, List.isChain_append, List.isChain_cons]
    refine ⟨not_hyphens_iff.mp ha.noHyphens, ⟨?_, not_hyphens_iff.mp hb.noHyphens⟩, ?_⟩
    · rintro y hy ⟨-, rfl⟩
      exact hb.first hy
    · rintro x hx y - ⟨rfl, -⟩
      exact ha.last hx
  · rw [List.head?_append_of_ne_nil _ ha.nonempty]
    exact ha.first
  · obtain ⟨c, rest, rfl⟩ := List.exists_cons_of_ne_nil hb.nonempty
    rw [List.getLast?_append_of_ne_nil _ (by simp), List.getLast?_cons_cons]
    exact hb.last

/-- Between two hyphens of a safe component stands an interior text. -/
theorem interior_of_append {a b c : List Char} (h : SafeComponent (a ++ '-' :: (b ++ '-' :: c))) :
    Interior b := by
  have hinside : b <:+: a ++ '-' :: (b ++ '-' :: c) := ⟨a ++ ['-'], '-' :: c, by simp⟩
  constructor
  case nonempty =>
    rintro rfl
    exact h.noHyphens ⟨a, c, by simp⟩
  case chars =>
    intro x hx
    exact h.chars x (hinside.subset hx)
  case noDots =>
    intro hdots
    exact h.noDots (hdots.trans hinside)
  case noHyphens =>
    intro hhyphens
    exact h.noHyphens (hhyphens.trans hinside)
  case first =>
    intro hhead
    obtain ⟨rest, rfl⟩ := List.head?_eq_some_iff.mp hhead
    exact h.noHyphens ⟨a, rest ++ '-' :: c, by simp⟩
  case last =>
    intro hlast
    obtain ⟨before, rfl⟩ := List.getLast?_eq_some_iff.mp hlast
    exact h.noHyphens ⟨a ++ '-' :: before, c, by simp⟩

/-- Behind a safe component and a hyphen, an interior text is safe when it ends so. -/
theorem safe_append_interior_iff {a b : List Char} (ha : SafeComponent a) (hb : Interior b) :
    SafeComponent (a ++ '-' :: b) ↔ b.getLast?.any Char.isAlphanum = true := by
  obtain ⟨hinterior, hfirst, -⟩ := safeComponent_iff.mp ha
  have hlast : (a ++ '-' :: b).getLast? = b.getLast? := by
    obtain ⟨c, rest, rfl⟩ := List.exists_cons_of_ne_nil hb.nonempty
    rw [List.getLast?_append_of_ne_nil _ (by simp), List.getLast?_cons_cons]
  rw [safeComponent_iff, hlast, List.head?_append_of_ne_nil _ hinterior.nonempty]
  constructor
  · intro h
    exact h.2.2
  · intro h
    exact ⟨interior_append hinterior hb, hfirst, h⟩

theorem safe_append {a b : List Char} (ha : SafeComponent a) (hb : SafeComponent b) :
    SafeComponent (a ++ '-' :: b) :=
  (safe_append_interior_iff ha (safeComponent_iff.mp hb).1).mpr (safeComponent_iff.mp hb).2.2

/-! ## Letter case -/

/-- A property of characters holds when it holds of the ASCII ones and of those that have no
case. -/
theorem forall_char {P : Char → Prop} (hascii : ∀ n < 128, P (Char.ofNat n))
    (hother : ∀ c : Char, c.toLower = c → P c) (c : Char) : P c := by
  by_cases hc : c.toNat < 128
  · have h := hascii c.toNat hc
    rwa [Char.ofNat_toNat] at h
  · apply hother
    unfold Char.toLower
    rw [dif_neg]
    rintro ⟨-, hle⟩
    have hz : c.toNat ≤ 90 := hle
    omega

theorem isAlphanum_toLower (c : Char) : c.toLower.isAlphanum = c.isAlphanum := by
  refine forall_char (P := fun c => c.toLower.isAlphanum = c.isAlphanum) (by decide) ?_ c
  intro c hc
  rw [hc]

theorem isComponentChar_toLower (c : Char) : isComponentChar c.toLower = isComponentChar c := by
  refine forall_char (P := fun c => isComponentChar c.toLower = isComponentChar c) (by decide) ?_ c
  intro c hc
  rw [hc]

theorem toLower_eq_dot_iff (c : Char) : c.toLower = '.' ↔ c = '.' := by
  refine forall_char (P := fun c => c.toLower = '.' ↔ c = '.') (by decide) ?_ c
  intro c hc
  rw [hc]

theorem toLower_eq_hyphen_iff (c : Char) : c.toLower = '-' ↔ c = '-' := by
  refine forall_char (P := fun c => c.toLower = '-' ↔ c = '-') (by decide) ?_ c
  intro c hc
  rw [hc]

theorem toLower_toUpper (c : Char) : c.toUpper.toLower = c.toLower := by
  by_cases hc : c.toNat < 128
  · have h : ∀ n < 128, (Char.ofNat n).toUpper.toLower = (Char.ofNat n).toLower := by decide
    have h' := h c.toNat hc
    rwa [Char.ofNat_toNat] at h'
  · have hupper : c.toUpper = c := by
      unfold Char.toUpper
      rw [dif_neg]
      rintro ⟨-, hle⟩
      have hz : c.toNat ≤ 122 := hle
      omega
    rw [hupper]

theorem toLower_toLower (c : Char) : c.toLower.toLower = c.toLower := by
  refine forall_char (P := fun c => c.toLower.toLower = c.toLower) (by decide) ?_ c
  intro c hc
  rw [hc, hc]

/-- Whether a component is safe does not depend on the case of its letters. -/
theorem safe_lowerAscii_iff {text : List Char} :
    SafeComponent (lowerAscii text) ↔ SafeComponent text := by
  have hany : ∀ o : Option Char, (o.map Char.toLower).any Char.isAlphanum =
      o.any Char.isAlphanum := by
    intro o
    cases o with
    | none => rfl
    | some c => exact isAlphanum_toLower c
  have hhead : (lowerAscii text).head?.any Char.isAlphanum =
      text.head?.any Char.isAlphanum := by
    rw [lowerAscii, List.head?_map, hany]
  have hlast : (lowerAscii text).getLast?.any Char.isAlphanum =
      text.getLast?.any Char.isAlphanum := by
    rw [lowerAscii, List.getLast?_map, hany]
  have hchars : (∀ c ∈ lowerAscii text, isComponentChar c = true) ↔
      ∀ c ∈ text, isComponentChar c = true := by
    simp only [lowerAscii, List.forall_mem_map, isComponentChar_toLower]
  have hdots : ¬ "..".toList <:+: lowerAscii text ↔ ¬ "..".toList <:+: text := by
    rw [not_dots_iff, not_dots_iff, lowerAscii, List.isChain_map]
    simp only [toLower_eq_dot_iff]
  have hhyphens : ¬ "--".toList <:+: lowerAscii text ↔ ¬ "--".toList <:+: text := by
    rw [not_hyphens_iff, not_hyphens_iff, lowerAscii, List.isChain_map]
    simp only [toLower_eq_hyphen_iff]
  constructor
  · intro h
    exact ⟨hhead ▸ h.first, hlast ▸ h.last, hchars.mp h.chars, hdots.mp h.noDots,
      hhyphens.mp h.noHyphens⟩
  · intro h
    exact ⟨hhead ▸ h.first, hlast ▸ h.last, hchars.mpr h.chars, hdots.mpr h.noDots,
      hhyphens.mpr h.noHyphens⟩

/-- Texts that differ in case alone are safe together. -/
theorem safe_iff_of_lowerAscii_eq {a b : List Char} (h : lowerAscii a = lowerAscii b) :
    SafeComponent a ↔ SafeComponent b := by
  rw [← safe_lowerAscii_iff, h, safe_lowerAscii_iff]

theorem lowerAscii_append (a b : List Char) :
    lowerAscii (a ++ b) = lowerAscii a ++ lowerAscii b :=
  List.map_append

theorem lowerAscii_lowerAscii (text : List Char) :
    lowerAscii (lowerAscii text) = lowerAscii text := by
  unfold lowerAscii
  rw [List.map_map]
  exact List.map_congr_left fun c _ => toLower_toLower c

theorem lowerAscii_upperAscii (text : List Char) :
    lowerAscii (upperAscii text) = lowerAscii text := by
  unfold lowerAscii upperAscii
  rw [List.map_map]
  exact List.map_congr_left fun c _ => toLower_toUpper c

theorem lowerAscii_capitalized (text : List Char) :
    lowerAscii (capitalized text) = lowerAscii text := by
  cases text with
  | nil => rfl
  | cons c rest =>
      unfold capitalized lowerAscii
      rw [List.map_cons, List.map_cons, toLower_toUpper]

/-- The known spellings differ from their keys in case alone. -/
theorem lowerAscii_knownRepoTokenCase {token : List Char} {known : String}
    (h : dictGet knownRepoTokenCase (String.ofList (lowerAscii token)) = some known) :
    lowerAscii known.toList = lowerAscii token := by
  have hall : ∀ entry ∈ knownRepoTokenCase, lowerAscii entry.2.toList = entry.1.toList := by
    decide
  have hentry := hall _ (mem_of_dictGet h)
  rwa [String.toList_ofList] at hentry

/-- Normalising a token changes the case of its letters alone. -/
theorem lowerAscii_normalizeRepoToken (token : List Char) :
    lowerAscii (normalizeRepoToken token) = lowerAscii token := by
  unfold normalizeRepoToken
  dsimp only
  cases hknown : dictGet knownRepoTokenCase (String.ofList (lowerAscii token)) with
  | some known => exact lowerAscii_knownRepoTokenCase hknown
  | none =>
      dsimp only
      split
      · rw [lowerAscii_append, lowerAscii_upperAscii, ← lowerAscii_append, List.take_append_drop,
          lowerAscii_lowerAscii]
      · split
        · split
          · rw [lowerAscii_append, lowerAscii_upperAscii, ← lowerAscii_append,
              List.dropLast_eq_take, List.take_append_drop, lowerAscii_capitalized,
              lowerAscii_lowerAscii]
          · rw [lowerAscii_capitalized, lowerAscii_lowerAscii]
        · split
          · rw [lowerAscii_capitalized, lowerAscii_lowerAscii]
          · split
            · exact lowerAscii_capitalized token
            · rfl

/-- So does normalising a repository name. -/
theorem lowerAscii_canonicalRepo (repo : List Char) :
    lowerAscii (canonicalRepo repo) = lowerAscii repo := by
  have hjoin : ∀ tokens : List (List Char),
      lowerAscii (['-'].intercalate (tokens.map normalizeRepoToken)) =
        lowerAscii (['-'].intercalate tokens) := by
    intro tokens
    induction tokens with
    | nil => rfl
    | cons token rest ih =>
        cases rest with
        | nil =>
            simp only [List.map_cons, List.map_nil, List.intercalate_singleton]
            exact lowerAscii_normalizeRepoToken token
        | cons next others =>
            simp only [List.map_cons, List.intercalate_cons_cons] at ih ⊢
            rw [lowerAscii_append, lowerAscii_append, ih, lowerAscii_normalizeRepoToken,
              ← lowerAscii_append, ← lowerAscii_append]
  unfold canonicalRepo
  rw [hjoin, List.intercalate_splitOn]

theorem safe_canonicalRepo {repo : List Char} (h : SafeComponent repo) :
    SafeComponent (canonicalRepo repo) :=
  (safe_iff_of_lowerAscii_eq (lowerAscii_canonicalRepo repo)).mpr h

/-! ## The check and the shape of an id -/

theorem safe_of_isSafe {value : List Char} (h : isSafeHfRepoComponent value = true) :
    SafeComponent value := by
  unfold isSafeHfRepoComponent at h
  simp only [Bool.and_eq_true, Bool.not_eq_true', decide_eq_false_iff_not] at h
  obtain ⟨⟨hmatch, hdots⟩, hhyphens⟩ := h
  cases value with
  | nil => cases hmatch
  | cons first rest =>
      unfold matchesComponent at hmatch
      simp only [Bool.and_eq_true, Bool.or_eq_true, List.isEmpty_iff, decide_eq_true_eq] at hmatch
      obtain ⟨hfirst, rfl | ⟨⟨-, hmiddle⟩, hend⟩⟩ := hmatch
      · refine ⟨hfirst, hfirst, ?_, hdots, hhyphens⟩
        simpa using isComponentChar_of_isAlphanum hfirst
      · have hne : rest ≠ [] := by
          rintro rfl
          cases hend
        have hlast : rest.getLast? = some (rest.getLast hne) :=
          List.getLast?_eq_getLast_of_ne_nil hne
        rw [hlast, Option.any_some] at hend
        refine ⟨hfirst, ?_, ?_, hdots, hhyphens⟩
        · rw [List.getLast?_cons, hlast]
          exact hend
        · intro c hc
          rcases List.mem_cons.mp hc with rfl | hc
          · exact isComponentChar_of_isAlphanum hfirst
          · rw [← List.dropLast_append_getLast hne, List.mem_append, List.mem_singleton] at hc
            rcases hc with hc | rfl
            · exact List.all_eq_true.mp hmiddle c hc
            · exact isComponentChar_of_isAlphanum hend

theorem isSpace_of_isComponentChar {c : Char} (h : isComponentChar c = true) :
    isSpace c = false ∧ c ≠ '/' := by
  have hall : ∀ n < 128, isComponentChar (Char.ofNat n) = true →
      isSpace (Char.ofNat n) = false ∧ Char.ofNat n ≠ '/' := by
    decide
  have hascii : c.toNat < 128 := by
    simp only [isComponentChar, Bool.or_eq_true, beq_iff_eq] at h
    rcases h with ((halphanum | rfl) | rfl) | rfl
    · rcases (Bool.or_eq_true c.isAlpha c.isDigit).mp halphanum with halpha | hdigit
      · exact isAlpha_ascii halpha
      · exact isDigit_ascii hdigit
    · decide
    · decide
    · decide
  have hc := hall c.toNat hascii
  rw [Char.ofNat_toNat] at hc
  exact hc h

/-- Text without whitespace is its own strip. -/
theorem strip_of_forall {text : List Char} (h : ∀ c ∈ text, isSpace c = false) :
    strip text = text := by
  apply strip_of_ends
  · intro c hc
    exact h c (List.mem_of_mem_head? hc)
  · intro c hc
    exact h c (List.mem_of_getLast? hc)

theorem strip_of_chars {text : List Char} (h : ∀ c ∈ text, isComponentChar c = true) :
    strip text = text :=
  strip_of_forall fun c hc => (isSpace_of_isComponentChar (h c hc)).1

theorem strip_repoId {org repo : List Char} (horg : ∀ c ∈ org, isComponentChar c = true)
    (hrepo : ∀ c ∈ repo, isComponentChar c = true) : strip (repoId org repo) = repoId org repo := by
  apply strip_of_forall
  intro c hc
  rw [repoId, List.mem_append, List.mem_cons] at hc
  rcases hc with hc | rfl | hc
  · exact (isSpace_of_isComponentChar (horg c hc)).1
  · decide
  · exact (isSpace_of_isComponentChar (hrepo c hc)).1

/-- An id of component characters is safe exactly when both of its parts are. -/
theorem safeRepoId_iff {org repo : List Char} (horg : ∀ c ∈ org, isComponentChar c = true)
    (hrepo : ∀ c ∈ repo, isComponentChar c = true) :
    SafeRepoId (repoId org repo) ↔ SafeComponent org ∧ SafeComponent repo := by
  have hslash : ∀ {text : List Char}, (∀ c ∈ text, isComponentChar c = true) → '/' ∉ text :=
    fun h hmem => (isSpace_of_isComponentChar (h _ hmem)).2 rfl
  constructor
  · rintro ⟨org', repo', heq, horg', hrepo'⟩
    obtain ⟨rfl, -, rfl⟩ := (List.append_cons_inj_of_notMem (hslash horg) (hslash hrepo)).mp heq
    exact ⟨horg', hrepo'⟩
  · rintro ⟨horg, hrepo⟩
    exact ⟨org, repo, rfl, horg, hrepo⟩

/-! ## The names of a repository -/

/-- The reordered name of this vision model ends in a dot or an underscore. -/
def Dangling (repo : List Char) : Prop :=
  startsWith repo "Nemotron-Nano-".toList = true ∧
    (endsWith repo ".-VL".toList = true ∨ endsWith repo "_-VL".toList = true)

instance (repo : List Char) : Decidable (Dangling repo) :=
  inferInstanceAs (Decidable (_ ∧ _))

theorem startsWith_iff {text start : List Char} : startsWith text start = true ↔ start <+: text :=
  List.isPrefixOf_iff_prefix

theorem endsWith_iff {text ending : List Char} : endsWith text ending = true ↔ ending <:+ text :=
  List.isSuffixOf_iff_suffix

/-- A stem with an ending is safe when the stem is, for endings that are a hyphen and a safe
component. -/
theorem safe_withEndings {stem : List Char} (h : SafeComponent stem) {endings : List String}
    (hendings : ∀ ending ∈ endings, ∃ tail, ending.toList = '-' :: tail ∧ SafeComponent tail) :
    ∀ name ∈ withEndings stem endings, SafeComponent name := by
  intro name hname
  obtain ⟨ending, hending, rfl⟩ := List.mem_map.mp hname
  obtain ⟨tail, htail, hsafe⟩ := hendings ending hending
  rw [htail]
  exact safe_append h hsafe

/-- What stands between `Nemotron-Nano-` and `-VL`: an interior text, or nothing but `VL`. -/
theorem middleOf_cases {repo : List Char} (h : SafeComponent repo)
    (hstart : startsWith repo "Nemotron-Nano-".toList = true)
    (hending : endsWith repo "-VL".toList = true) :
    (∃ middle, repo = "Nemotron-Nano".toList ++ '-' :: (middle ++ '-' :: "VL".toList) ∧
        middleOf "Nemotron-Nano-".toList "-VL".toList repo = middle ∧ Interior middle) ∨
      repo = "Nemotron-Nano-VL".toList ∧
        middleOf "Nemotron-Nano-".toList "-VL".toList repo = "VL".toList := by
  obtain ⟨rest, rfl⟩ := startsWith_iff.mp hstart
  have hdrop : middleOf "Nemotron-Nano-".toList "-VL".toList ("Nemotron-Nano-".toList ++ rest) =
      if endsWith rest "-VL".toList then rest.take (rest.length - "-VL".toList.length)
      else rest := by
    unfold middleOf
    rw [if_pos hstart, List.drop_left]
  by_cases hrest : endsWith rest "-VL".toList = true
  · obtain ⟨middle, rfl⟩ := endsWith_iff.mp hrest
    rw [if_pos hrest, List.length_append, Nat.add_sub_cancel, List.take_left] at hdrop
    have hshape : "Nemotron-Nano-".toList ++ (middle ++ "-VL".toList) =
        "Nemotron-Nano".toList ++ '-' :: (middle ++ '-' :: "VL".toList) := by simp
    refine .inl ⟨middle, hshape, hdrop, ?_⟩
    rw [hshape] at h
    exact interior_of_append h
  · rw [if_neg hrest] at hdrop
    -- the ending overlaps the start, so what is left is shorter than it
    have hshort : rest.length < 3 := by
      by_contra hlong
      apply hrest
      rw [endsWith_iff]
      refine List.suffix_of_suffix_length_le (endsWith_iff.mp hending)
        (List.suffix_append _ rest) ?_
      exact Nat.le_of_not_lt hlong
    have hsuffix : rest <:+ "-VL".toList := by
      refine List.suffix_of_suffix_length_le (List.suffix_append _ rest)
        (endsWith_iff.mp hending) ?_
      exact Nat.le_of_lt hshort
    have htails : rest ∈ "-VL".toList.tails := (List.mem_tails _ _).mpr hsuffix
    have hcases : ∀ tail ∈ "-VL".toList.tails,
        endsWith ("Nemotron-Nano-".toList ++ tail) "-VL".toList = true →
          tail.length < 3 → tail = "VL".toList := by
      decide
    obtain rfl := hcases rest htails hending hshort
    exact .inr ⟨by decide, hdrop⟩

/-- The endings of the published names are hyphens with safe components. -/
theorem endings_safe : ∀ ending ∈ ["-BF16", "-FP8", "-NVFP4", "-Base", "-2503"],
    ∃ tail, ending.toList = '-' :: tail ∧ SafeComponent tail := by
  simp only [List.forall_mem_cons, List.not_mem_nil, false_imp_iff, implies_true, and_true]
  exact ⟨⟨"BF16".toList, rfl, by decide +kernel⟩,
    ⟨"FP8".toList, rfl, by decide +kernel⟩,
    ⟨"NVFP4".toList, rfl, by decide +kernel⟩,
    ⟨"Base".toList, rfl, by decide +kernel⟩,
    ⟨"2503".toList, rfl, by decide +kernel⟩⟩

/-- The reordered names are safe exactly when the text they reorder ends so. -/
theorem reordered_safe_iff {middle : List Char} (h : Interior middle) :
    (∀ name ∈ ("NVIDIA-Nemotron-Nano-VL-".toList ++ middle) ::
        withEndings ("NVIDIA-Nemotron-Nano-VL-".toList ++ middle) ["-BF16", "-FP8", "-NVFP4"],
      SafeComponent name) ↔ middle.getLast?.any Char.isAlphanum = true := by
  have hstem : SafeComponent "NVIDIA-Nemotron-Nano-VL".toList := by
    decide +kernel
  have hname : "NVIDIA-Nemotron-Nano-VL-".toList ++ middle =
      "NVIDIA-Nemotron-Nano-VL".toList ++ '-' :: middle := by simp
  rw [List.forall_mem_cons, hname, safe_append_interior_iff hstem h]
  refine ⟨And.left, fun hlast => ⟨hlast, ?_⟩⟩
  intro name hmem
  obtain ⟨ending, hending, rfl⟩ := List.mem_map.mp hmem
  have hsubset : ["-BF16", "-FP8", "-NVFP4"] ⊆ ["-BF16", "-FP8", "-NVFP4", "-Base", "-2503"] := by
    decide
  obtain ⟨tail, htail, hsafe⟩ := endings_safe ending (hsubset hending)
  rw [htail]
  exact safe_append ((safe_append_interior_iff hstem h).mpr hlast) hsafe

/-- The name of a vision model dangles exactly when what stands before `-VL` does. -/
theorem dangling_iff {middle : List Char} (h : Interior middle) :
    Dangling ("Nemotron-Nano".toList ++ '-' :: (middle ++ '-' :: "VL".toList)) ↔
      ¬ middle.getLast?.any Char.isAlphanum = true := by
  obtain ⟨before, c, rfl⟩ : ∃ before c, middle = before ++ [c] :=
    ⟨_, _, (List.dropLast_append_getLast h.nonempty).symm⟩
  have hstart : startsWith
      ("Nemotron-Nano".toList ++ '-' :: ((before ++ [c]) ++ '-' :: "VL".toList))
      "Nemotron-Nano-".toList = true :=
    startsWith_iff.mpr ⟨(before ++ [c]) ++ '-' :: "VL".toList, by simp⟩
  have hshape : "Nemotron-Nano".toList ++ '-' :: ((before ++ [c]) ++ '-' :: "VL".toList) =
      ("Nemotron-Nano-".toList ++ before) ++ [c, '-', 'V', 'L'] := by simp
  have hends : ∀ d : Char, endsWith
      ("Nemotron-Nano".toList ++ '-' :: ((before ++ [c]) ++ '-' :: "VL".toList))
      [d, '-', 'V', 'L'] = true ↔ d = c := by
    intro d
    rw [endsWith_iff, hshape]
    rw [← List.nil_append [d, '-', 'V', 'L']]
    refine Iff.trans (List.suffix_append_inj_of_length_eq (by rfl)) ?_
    simp
  have hc : isComponentChar c = true := h.chars c (by simp)
  have hlast : (before ++ [c]).getLast?.any Char.isAlphanum = c.isAlphanum := by simp
  have hne : c ≠ '-' := by
    rintro rfl
    exact h.last (by simp)
  unfold Dangling
  rw [hlast]
  constructor
  · rintro ⟨-, hdot | hunderscore⟩
    · rw [← (hends '.').mp hdot]
      decide
    · rw [← (hends '_').mp hunderscore]
      decide
  · intro hnot
    refine ⟨hstart, ?_⟩
    simp only [isComponentChar, Bool.or_eq_true, beq_iff_eq] at hc
    rcases hc with ((hc | hc) | hc) | hc
    · exact absurd hc hnot
    · exact .inl ((hends '.').mpr hc.symm)
    · exact .inr ((hends '_').mpr hc.symm)
    · exact absurd hc hne

/-- The names of a safe Nemotron repository are safe unless the reordered one dangles. -/
theorem nemotronNames_safe_iff {repo : List Char} (h : SafeComponent repo) :
    (∀ name ∈ nemotronNames repo, SafeComponent name) ↔ ¬ Dangling repo := by
  have hnvidia : SafeComponent "NVIDIA".toList := by
    decide +kernel
  have hprefixed : SafeComponent ("NVIDIA-".toList ++ repo) := safe_append hnvidia h
  have hprefixedNames : ∀ name ∈ ("NVIDIA-".toList ++ repo) ::
      withEndings ("NVIDIA-".toList ++ repo) ["-BF16", "-FP8", "-NVFP4", "-Base"],
      SafeComponent name := by
    intro name hname
    rcases List.mem_cons.mp hname with rfl | hname
    · exact hprefixed
    · have hsubset : ["-BF16", "-FP8", "-NVFP4", "-Base"] ⊆
          ["-BF16", "-FP8", "-NVFP4", "-Base", "-2503"] := by
        decide
      exact safe_withEndings hprefixed
        (fun ending hending => endings_safe ending (hsubset hending)) name hname
  unfold nemotronNames
  dsimp only
  rw [List.forall_mem_append]
  by_cases hvision : (startsWith repo "Nemotron-Nano-".toList &&
      endsWith repo "-VL".toList) = true
  · rw [if_pos hvision]
    obtain ⟨hstart, hending⟩ := Bool.and_eq_true_iff.mp hvision
    rcases middleOf_cases h hstart hending with ⟨middle, hrepo, hmiddle, hinterior⟩ | ⟨rfl, hmiddle⟩
    · rw [hmiddle, reordered_safe_iff hinterior]
      rw [hrepo, dangling_iff hinterior, not_not]
      exact ⟨And.right, fun hlast => ⟨hrepo ▸ hprefixedNames, hlast⟩⟩
    · have hinterior : Interior "VL".toList := by
        decide +kernel
      rw [hmiddle, reordered_safe_iff hinterior]
      exact iff_of_true ⟨hprefixedNames, by decide⟩ (by decide)
  · rw [if_neg hvision]
    refine iff_of_true ⟨hprefixedNames, by simp⟩ ?_
    rintro ⟨hstart, hends⟩
    apply hvision
    rw [hstart, Bool.true_and]
    rcases hends with hends | hends
    · exact endsWith_iff.mpr ((by decide : "-VL".toList <:+ ".-VL".toList).trans
        (endsWith_iff.mp hends))
    · exact endsWith_iff.mpr ((by decide : "-VL".toList <:+ "_-VL".toList).trans
        (endsWith_iff.mp hends))

/-- Dangling or not, the names of a safe Nemotron repository are interior texts. -/
theorem interior_nemotronNames {repo : List Char} (h : SafeComponent repo) :
    ∀ name ∈ nemotronNames repo, Interior name := by
  have hendings : ∀ {stem}, Interior stem → ∀ endings ⊆ ["-BF16", "-FP8", "-NVFP4", "-Base",
      "-2503"], ∀ name ∈ withEndings stem endings, Interior name := by
    intro stem hstem endings hsubset name hname
    obtain ⟨ending, hending, rfl⟩ := List.mem_map.mp hname
    obtain ⟨tail, htail, hsafe⟩ := endings_safe ending (hsubset hending)
    rw [htail]
    exact interior_append hstem (safeComponent_iff.mp hsafe).1
  have hprefixed : Interior ("NVIDIA-".toList ++ repo) :=
    interior_append (a := "NVIDIA".toList) (by decide +kernel) (safeComponent_iff.mp h).1
  have hreordered : ∀ {middle}, Interior middle →
      Interior ("NVIDIA-Nemotron-Nano-VL-".toList ++ middle) := by
    intro middle hmiddle
    have hstem : Interior "NVIDIA-Nemotron-Nano-VL".toList := by
      decide +kernel
    have hname : "NVIDIA-Nemotron-Nano-VL-".toList ++ middle =
        "NVIDIA-Nemotron-Nano-VL".toList ++ '-' :: middle := by simp
    rw [hname]
    exact interior_append hstem hmiddle
  unfold nemotronNames
  dsimp only
  rw [List.forall_mem_append, List.forall_mem_cons]
  refine ⟨⟨hprefixed, hendings hprefixed _ (by decide)⟩, ?_⟩
  split
  · rename_i hvision
    obtain ⟨hstart, hending⟩ := Bool.and_eq_true_iff.mp hvision
    rw [List.forall_mem_cons]
    have hmiddle : Interior (middleOf "Nemotron-Nano-".toList "-VL".toList repo) := by
      rcases middleOf_cases h hstart hending with ⟨middle, -, hmiddle, hinterior⟩ | ⟨-, hmiddle⟩
      · rwa [hmiddle]
      · rw [hmiddle]
        decide +kernel
    exact ⟨hreordered hmiddle, hendings (hreordered hmiddle) _ (by decide)⟩
  · simp

theorem mem_firstsFrom_id {texts : List (List Char)} {text : List Char} :
    text ∈ firstsFrom id [] texts ↔ text ∈ texts := by
  constructor
  · exact fun h => (sublist_firstsFrom id [] texts).subset h
  · intro h
    rcases key_mem_firstsFrom id [] h with hseen | hmem
    · cases hseen
    · rwa [List.map_id] at hmem

/-- What holds of safe components holds of every candidate name of a safe repository when it
holds of the names of a Nemotron repository of NVIDIA. -/
theorem forall_candidateRepoNames_iff {P : List Char → Prop}
    (hP : ∀ {name}, SafeComponent name → P name) (org : List Char) {repo : List Char}
    (h : SafeComponent repo) :
    (∀ name ∈ candidateRepoNames org repo, P name) ↔
      (lowerAscii org = "nvidia".toList →
        startsWith (canonicalRepo repo) "Nemotron".toList = true →
          ∀ name ∈ nemotronNames (canonicalRepo repo), P name) := by
  have hcanonical := safe_canonicalRepo h
  have hplain : ∀ name ∈ ([repo, canonicalRepo repo].map strip).filter fun name => !name.isEmpty,
      P name := by
    intro name hname
    have hmem := (List.mem_filter.mp hname).1
    simp only [List.map_cons, List.map_nil, List.mem_cons, List.not_mem_nil, or_false,
      strip_of_chars h.chars, strip_of_chars hcanonical.chars] at hmem
    rcases hmem with rfl | rfl
    · exact hP h
    · exact hP hcanonical
  have hendings : ∀ endings ⊆ ["-BF16", "-FP8", "-NVFP4", "-Base", "-2503"],
      ∀ name ∈ withEndings (canonicalRepo repo) endings, P name :=
    fun endings hsubset name hname => hP (safe_withEndings hcanonical
      (fun ending hending => endings_safe ending (hsubset hending)) name hname)
  have hmeta : SafeComponent ("Meta-".toList ++ canonicalRepo repo) :=
    safe_append (a := "Meta".toList) (by decide +kernel) hcanonical
  have hcohere : SafeComponent ("c4ai-".toList ++ lowerAscii repo) :=
    safe_append (a := "c4ai".toList) (by decide +kernel) (safe_lowerAscii_iff.mpr h)
  have hif : ∀ {p : Bool} {names : List (List Char)}, (∀ name ∈ names, P name) →
      ∀ name ∈ (if p then names else []), P name := by
    intro p names hnames name hname
    cases p with
    | true => exact hnames name hname
    | false => cases hname
  have horg : (String.ofList (lowerAscii org) == "nvidia") = true ↔
      lowerAscii org = "nvidia".toList := by
    rw [beq_iff_eq, ← String.toList_inj, String.toList_ofList]
  have hnvidia : (∀ name ∈ (if String.ofList (lowerAscii org) == "nvidia" &&
      startsWith (canonicalRepo repo) "Nemotron".toList then nemotronNames (canonicalRepo repo)
      else []), P name) ↔ (lowerAscii org = "nvidia".toList →
        startsWith (canonicalRepo repo) "Nemotron".toList = true →
          ∀ name ∈ nemotronNames (canonicalRepo repo), P name) := by
    rw [← horg]
    split
    · rename_i hcond
      obtain ⟨hlower, hstart⟩ := Bool.and_eq_true_iff.mp hcond
      exact ⟨fun hall _ _ => hall, fun hall => hall hlower hstart⟩
    · rename_i hcond
      refine iff_of_true (by simp) fun hlower hstart => absurd ?_ hcond
      rw [hlower, hstart]
      rfl
  unfold candidateRepoNames
  dsimp only
  simp only [mem_firstsFrom_id, List.forall_mem_append, hnvidia]
  constructor
  · intro hall
    exact hall.1.1.2
  · intro hnemotron
    refine ⟨⟨⟨⟨⟨⟨hplain, hif ?_⟩, hif ?_⟩, hif ?_⟩, hnemotron⟩, hif ?_⟩, hif ?_⟩
    · simpa using hP hmeta
    · exact hendings _ (by decide)
    · exact hendings _ (by decide)
    · exact hendings _ (by decide)
    · simpa using hP hcohere

/-- The candidate names of a safe repository are safe unless it is a Nemotron vision model whose
reordered name dangles. -/
theorem candidateRepoNames_safe_iff (org : List Char) {repo : List Char} (h : SafeComponent repo) :
    (∀ name ∈ candidateRepoNames org repo, SafeComponent name) ↔
      ¬ (lowerAscii org = "nvidia".toList ∧ Dangling (canonicalRepo repo)) := by
  rw [forall_candidateRepoNames_iff (fun hsafe => hsafe) org h,
    nemotronNames_safe_iff (safe_canonicalRepo h)]
  constructor
  · rintro hall ⟨hlower, hdangling⟩
    have hstart := startsWith_iff.mp hdangling.1
    refine hall hlower (startsWith_iff.mpr ?_) hdangling
    exact (by decide : "Nemotron".toList <+: "Nemotron-Nano-".toList).trans hstart
  · rintro hnot hlower - hdangling
    exact hnot ⟨hlower, hdangling⟩

/-- Safe or not, a candidate name is made of component characters. -/
theorem chars_candidateRepoNames (org : List Char) {repo : List Char} (h : SafeComponent repo) :
    ∀ name ∈ candidateRepoNames org repo, ∀ c ∈ name, isComponentChar c = true := by
  refine (forall_candidateRepoNames_iff (fun hsafe => hsafe.chars) org h).mpr ?_
  intro _ _ name hname
  exact (interior_nemotronNames (safe_canonicalRepo h) name hname).chars

/-! ## The names of a namespace -/

theorem safe_of_known_org {org : List Char} {known : String}
    (h : dictGet knownOrgCase (String.ofList (lowerAscii org)) = some known) :
    SafeComponent known.toList ∧ lowerAscii known.toList ≠ "nvidia".toList := by
  have hall : ∀ entry ∈ knownOrgCase, isSafeHfRepoComponent entry.2.toList = true ∧
      lowerAscii entry.2.toList ≠ "nvidia".toList := by
    decide
  have hentry := hall _ (mem_of_dictGet h)
  exact ⟨safe_of_isSafe hentry.1, hentry.2⟩

/-- The canonical namespace is a known one or the given one. -/
theorem canonicalOrg_cases (org : List Char) :
    (SafeComponent (canonicalOrg org) ∧ lowerAscii (canonicalOrg org) ≠ "nvidia".toList) ∨
      canonicalOrg org = org := by
  unfold canonicalOrg
  cases hknown : dictGet knownOrgCase (String.ofList (lowerAscii org)) with
  | none => exact .inr rfl
  | some known => exact .inl (safe_of_known_org hknown)

theorem safe_canonicalOrg {org : List Char} (h : SafeComponent org) :
    SafeComponent (canonicalOrg org) := by
  rcases canonicalOrg_cases org with ⟨hsafe, -⟩ | heq
  · exact hsafe
  · rwa [heq]

/-- The candidate namespaces of a safe one are safe, and none of them is NVIDIA's but the given
one. -/
theorem candidateOrgNames_safe {org : List Char} (h : SafeComponent org) :
    ∀ name ∈ candidateOrgNames org, SafeComponent name ∧
      (lowerAscii name = "nvidia".toList → name = org) := by
  have haliases : ∀ entry ∈ knownOrgAliases, ∀ name ∈ entry.2,
      isSafeHfRepoComponent name.toList = true ∧ lowerAscii name.toList ≠ "nvidia".toList := by
    decide
  intro name hname
  have hmem := (List.mem_filter.mp (mem_firstsFrom_id.mp hname)).1
  rw [List.map_cons, List.map_cons, List.mem_cons, List.mem_cons,
    strip_of_chars h.chars, strip_of_chars (safe_canonicalOrg h).chars] at hmem
  rcases hmem with rfl | rfl | hmem
  · exact ⟨h, fun _ => rfl⟩
  · refine ⟨safe_canonicalOrg h, fun hlower => ?_⟩
    rcases canonicalOrg_cases org with ⟨-, hne⟩ | heq
    · exact absurd hlower hne
    · exact heq
  · obtain ⟨text, htext, rfl⟩ := List.mem_map.mp hmem
    obtain ⟨other, hother, rfl⟩ := List.mem_map.mp htext
    cases hknown : dictGet knownOrgAliases (String.ofList (lowerAscii org)) with
    | none =>
        rw [hknown] at hother
        cases hother
    | some names =>
        rw [hknown] at hother
        obtain ⟨hsafe, hne⟩ := haliases _ (mem_of_dictGet hknown) other hother
        have hcomponent := safe_of_isSafe hsafe
        rw [strip_of_chars hcomponent.chars]
        exact ⟨hcomponent, fun hlower => absurd hlower hne⟩

theorem mem_candidateOrgNames {org : List Char} (h : SafeComponent org) :
    org ∈ candidateOrgNames org := by
  have hne : org ≠ [] := (safeComponent_iff.mp h).1.nonempty
  refine mem_firstsFrom_id.mpr (List.mem_filter.mpr ⟨?_, by simpa using hne⟩)
  rw [List.map_cons, strip_of_chars h.chars]
  exact List.mem_cons_self

/-! ## The ids -/

/-- The ids of checked components are safe unless a reordered name dangles. -/
theorem repoIdsOf_safe_iff {org repo : List Char} (horg : SafeComponent org)
    (hrepo : SafeComponent repo) :
    (∀ id ∈ repoIdsOf org repo, SafeRepoId id) ↔
      ¬ (lowerAscii org = "nvidia".toList ∧ Dangling (canonicalRepo repo)) := by
  rw [← candidateRepoNames_safe_iff org hrepo]
  constructor
  · intro hall name hname
    have hchars := chars_candidateRepoNames org hrepo name hname
    have hid := hall (repoId org name) (mem_firstsFrom_id.mpr (List.mem_append_right _
      (List.mem_filter.mpr ⟨List.mem_flatMap.mpr ⟨org, mem_candidateOrgNames horg,
        List.mem_map.mpr ⟨name, hname, strip_repoId horg.chars hchars⟩⟩, by simp [repoId]⟩)))
    exact ((safeRepoId_iff horg.chars hchars).mp hid).2
  · intro hall id hid
    rcases List.mem_append.mp (mem_firstsFrom_id.mp hid) with hmem | hmem
    · have hliteral := (List.mem_filter.mp hmem).1
      have hcanonical := safe_canonicalRepo hrepo
      have hnamespace := safe_canonicalOrg horg
      rw [canonicalizeRepoId, List.map_cons, List.map_singleton,
        strip_repoId horg.chars hrepo.chars, strip_repoId hnamespace.chars hcanonical.chars,
        List.mem_pair] at hliteral
      rcases hliteral with rfl | rfl
      · exact ⟨org, repo, rfl, horg, hrepo⟩
      · exact ⟨_, _, rfl, hnamespace, hcanonical⟩
    · obtain ⟨name, hname, hmap⟩ := List.mem_flatMap.mp (List.mem_filter.mp hmem).1
      obtain ⟨other, hother, rfl⟩ := List.mem_map.mp hmap
      obtain ⟨hsafe, honly⟩ := candidateOrgNames_safe horg name hname
      have hsafeNames : ∀ other ∈ candidateRepoNames name repo, SafeComponent other := by
        rw [candidateRepoNames_safe_iff name hrepo]
        rintro ⟨hlower, hdangling⟩
        rw [honly hlower] at hlower
        exact (candidateRepoNames_safe_iff org hrepo).mp hall ⟨hlower, hdangling⟩
      have hotherSafe := hsafeNames other hother
      rw [strip_repoId hsafe.chars hotherSafe.chars]
      exact ⟨name, other, rfl, hsafe, hotherSafe⟩

/-- The hint names a repository that passes the check and whose reordered name dangles. -/
def DanglingHint (modelHint : List Char) : Prop :=
  ∃ org repo, dropHintSuffix (strip modelHint) = repoId org repo ∧
    isSafeHfRepoComponent org = true ∧ isSafeHfRepoComponent repo = true ∧
      lowerAscii org = "nvidia".toList ∧ Dangling (canonicalRepo repo)

theorem dropHintSuffix_subset (hint : List Char) : dropHintSuffix hint ⊆ hint := by
  induction hint with
  | nil => exact fun c hc => hc
  | cons c rest ih =>
      unfold dropHintSuffix
      split
      · exact List.nil_subset _
      · exact List.cons_subset_cons c ih

/-- A hint that is two safe components has their ids as candidates. -/
theorem candidateHfRepoIds_of_safe {modelHint org repo : List Char}
    (hhint : dropHintSuffix (strip modelHint) = repoId org repo)
    (horg : isSafeHfRepoComponent org = true) (hrepo : isSafeHfRepoComponent repo = true) :
    candidateHfRepoIds modelHint = repoIdsOf org repo := by
  have hplain : ∀ {text : List Char}, isSafeHfRepoComponent text = true →
      '/' ∉ text ∧ '\\' ∉ text := by
    intro text htext
    have hchars := (safe_of_isSafe htext).chars
    refine ⟨fun hmem => (isSpace_of_isComponentChar (hchars _ hmem)).2 rfl, fun hmem => ?_⟩
    exact absurd (hchars _ hmem) (by decide)
  have hslash : '/' ∈ strip modelHint := by
    refine dropHintSuffix_subset _ ?_
    rw [hhint, repoId]
    simp
  have hsplit : (repoId org repo).splitOn '/' = [org, repo] := by
    have htext : repoId org repo = ['/'].intercalate [org, repo] := by
      simp [repoId, List.intercalate_cons_cons]
    rw [htext, List.splitOn_intercalate '/' ?_ (by simp)]
    intro text htext
    rcases List.mem_pair.mp htext with rfl | rfl
    · exact (hplain horg).1
    · exact (hplain hrepo).1
  have hcount : (repoId org repo).count '/' = 1 := by
    rw [repoId, List.count_append, List.count_cons_self,
      List.count_eq_zero_of_not_mem (hplain horg).1, List.count_eq_zero_of_not_mem (hplain hrepo).1]
  have hbackslash : '\\' ∉ repoId org repo := by
    simp [repoId, (hplain horg).2, (hplain hrepo).2]
  have hne : strip modelHint ≠ [] := List.ne_nil_of_mem hslash
  unfold candidateHfRepoIds
  simp [hhint, hne, hslash, hcount, hbackslash, hsplit, horg, hrepo]

/-- Without two safe components there is no candidate. -/
theorem candidateHfRepoIds_cases (modelHint : List Char) :
    candidateHfRepoIds modelHint = [] ∨
      ∃ org repo, dropHintSuffix (strip modelHint) = repoId org repo ∧
        isSafeHfRepoComponent org = true ∧ isSafeHfRepoComponent repo = true := by
  unfold candidateHfRepoIds
  dsimp only
  split
  · exact .inl rfl
  · split
    · exact .inl rfl
    · split
      · rename_i org repo hsplit
        split
        · rename_i hsafe
          obtain ⟨horg, hrepo⟩ := Bool.and_eq_true_iff.mp hsafe
          refine .inr ⟨org, repo, ?_, horg, hrepo⟩
          have hjoin : ['/'].intercalate ((dropHintSuffix (strip modelHint)).splitOn '/') =
              dropHintSuffix (strip modelHint) := List.intercalate_splitOn '/'
          rw [hsplit, List.intercalate_cons_cons, List.intercalate_singleton] at hjoin
          simpa [repoId] using hjoin.symm
        · exact .inl rfl
      · exact .inl rfl

/-- Every id that is produced is a pair of safe components exactly when the hint is no Nemotron
vision model whose reordered name ends in a dot or an underscore. -/
theorem repoIds_safe_iff (modelHint : List Char) :
    (∀ id ∈ candidateHfRepoIds modelHint, SafeRepoId id) ↔ ¬ DanglingHint modelHint := by
  constructor
  · rintro hall ⟨org, repo, hhint, horg, hrepo, hdangling⟩
    rw [candidateHfRepoIds_of_safe hhint horg hrepo,
      repoIdsOf_safe_iff (safe_of_isSafe horg) (safe_of_isSafe hrepo)] at hall
    exact hall hdangling
  · intro hnot
    rcases candidateHfRepoIds_cases modelHint with hnone | ⟨org, repo, hhint, horg, hrepo⟩
    · rw [hnone]
      simp
    · rw [candidateHfRepoIds_of_safe hhint horg hrepo,
        repoIdsOf_safe_iff (safe_of_isSafe horg) (safe_of_isSafe hrepo)]
      exact fun hdangling => hnot ⟨org, repo, hhint, horg, hrepo, hdangling⟩

/-- A name that ends in a dot before `-vl` gives an id that ends in a dot. -/
theorem reordered_name_dangles :
    "nvidia/NVIDIA-Nemotron-Nano-VL-5.".toList ∈
        candidateHfRepoIds "nvidia/nemotron-nano-5.-vl".toList ∧
      ¬ SafeRepoId "nvidia/NVIDIA-Nemotron-Nano-VL-5.".toList := by
  refine ⟨by decide +kernel, fun hsafe => ?_⟩
  have hid : "nvidia/NVIDIA-Nemotron-Nano-VL-5.".toList =
      repoId "nvidia".toList "NVIDIA-Nemotron-Nano-VL-5.".toList := by
    decide
  rw [hid, safeRepoId_iff (List.all_eq_true.mp (by decide +kernel))
    (List.all_eq_true.mp (by decide +kernel))] at hsafe
  exact absurd hsafe.2.last (by decide)

end Tokens
end FreeLunch
