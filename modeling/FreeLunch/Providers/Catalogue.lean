import FreeLunch.Foundations.Writes
import FreeLunch.Python.Exact
import FreeLunch.Runtime.Registry

/-!
# Model catalogues

`discover_models` of `OpenRouterAdapter` and `OpenAICompatibleAdapter`: the entries an
adapter reads from the rows of a models payload.  The rows are JSON values of any shape.

Main results:

- Theorem `openrouterEntry_ok_iff`: the rows the OpenRouter adapter can read.
- Theorem `coerceInt_ok_iff`: the values `_coerce_int` can convert.
- Theorem `openaiCompatibleEntry_ok_iff`: the rows the other adapters can read.
- Theorem `discoverModels_isolated_iff`: the rows of a payload contribute independently of
  each other exactly when every one of them can be read.

Current gaps:

- The HTTP request and the size check of the response are left out: a payload is the
  decoded body.  `str.lower` is a parameter, and `str()` does not run out of stack on a
  value the decoder accepted.
-/

namespace FreeLunch
namespace Providers

open FreeLunch.Runtime Python Writes

/-! ## Entries -/

/-- A dictionary `discover_models` returns.  A rank is absent where the adapter does not set
its key. -/
structure CatalogueEntry (F : Type) where
  id : String
  name : PyValue F
  providerId : String
  providerModelId : PyValue F
  providerBaseUrl : String
  providerApiKeyEnv : String
  contextWindow : PyValue F
  maxOutputTokens : PyValue F
  tokenizerFamily : PyValue F
  supportsTools : Bool
  supportsStreaming : Bool
  supportsVision : Bool
  supportsStructuredOutput : Bool
  supportsSystemMessages : Bool := true
  providerRank : Option Nat := none
  openrouterRank : Option Nat := none
  chatbotArenaElo : Option F := none
  openLlmScore : Option F := none
  isHealthy : Bool := true

/-- The entry with the rank of another position. -/
def CatalogueEntry.atRank {F : Type} (index : Nat) (entry : CatalogueEntry F) :
    CatalogueEntry F :=
  { entry with
    providerRank := entry.providerRank.map fun _ => index
    openrouterRank := entry.openrouterRank.map fun _ => index }

section Discover

variable {F : Type} [Runtime F] (lower : String → String)

/-- Whether one of some names is in a set. -/
def anyIn (names values : List String) : Bool :=
  names.any fun name => values.contains name

/-- The names `_supports_structured_output` looks for. -/
def structuredOutputNames : List String :=
  ["response_format", "json_schema", "structured_outputs", "structured_output"]

/-! ## OpenRouter -/

/-- `_is_free_model`. -/
def isFreeModel (row : PyValue F) : Except Exc Bool := do
  let pricing ← row.get "pricing" (.dict [])
  let promptPrice := stripped (← pricing.get "prompt" (.str "")).toStr
  let completionPrice := stripped (← pricing.get "completion" (.str "")).toStr
  return promptPrice == "0" && completionPrice == "0"

/-- `{str(value).lower() for value in v if value is not None}`. -/
def loweredTexts (v : PyValue F) : Except Exc (List String) := do
  let items ← v.iter
  return (items.filter fun item => !item.isNone).map fun item => lower item.toStr

/-- The body of the loop of `OpenRouterAdapter.discover_models`. -/
def openrouterEntry (adapter : Adapter) (index : Nat) (row : PyValue F) :
    Except Exc (List (CatalogueEntry F)) := do
  let modelId ← row.get "id" .none
  if !modelId.truthy then return []
  if !(← isFreeModel row) then return []
  let supportedParameters ← loweredTexts lower (← row.get "supported_parameters" (.list []))
  let tokenizerFamily ← (← row.get "architecture" (.dict [])).get "tokenizer" .none
  let inputModalities ← loweredTexts lower
    (← (← row.get "architecture" (.dict [])).get "input_modalities" (.list []))
  let topLimit ← (← row.get "top_provider" (.dict [])).get "max_completion_tokens" .none
  let maxCompletionTokens := topLimit.orElse (← row.get "max_completion_tokens" .none)
  let name ← row.get "name" .none
  let contextLength ← row.get "context_length" .none
  return [{
    id := "openrouter/" ++ modelId.toStr
    name := name.orElse modelId
    providerId := adapter.name
    providerModelId := modelId
    providerBaseUrl := adapter.apiBase
    providerApiKeyEnv := "OPENROUTER_API_KEY"
    contextWindow := contextLength.orElse (.int 4096)
    maxOutputTokens := maxCompletionTokens
    tokenizerFamily := tokenizerFamily
    supportsTools := supportedParameters.contains "tools"
    supportsStreaming := true
    supportsVision := inputModalities.contains "image"
    supportsStructuredOutput := anyIn structuredOutputNames supportedParameters
    openrouterRank := some index }]

/-- `_fallback_model`. -/
def fallbackModel (adapter : Adapter) : CatalogueEntry F where
  id := "openrouter/openrouter/free"
  name := .str "openrouter/free"
  providerId := adapter.name
  providerModelId := .str "openrouter/free"
  providerBaseUrl := adapter.apiBase
  providerApiKeyEnv := "OPENROUTER_API_KEY"
  contextWindow := .int 4096
  maxOutputTokens := .none
  tokenizerFamily := .none
  supportsTools := true
  supportsStreaming := true
  supportsVision := true
  supportsStructuredOutput := false
  openrouterRank := some 1

/-- `OpenRouterAdapter.discover_models` on what the provider answers. -/
def openrouterDiscoverModels (adapter : Adapter) (payload : PyValue F) :
    Except Exc (List (CatalogueEntry F)) :=
  if adapter.apiKey = "" then
    if adapter.devStubEnabled then .ok [fallbackModel adapter]
    else .error (.other "openrouter api key is required")
  else do
    let rows ← (← payload.get "data" (.list [])).iter
    collectFrom (openrouterEntry lower adapter) 1 rows

/-! ## OpenAI-compatible providers -/

/-- `_nested_get` along the parts of a dotted key. -/
def nestedGetPath : PyValue F → List String → PyValue F
  | current, [] => current
  | .dict members, part :: rest => nestedGetPath ((dictGet members part).getD .none) rest
  | _, _ :: _ => .none

/-- The parts of a dotted key. -/
def keyParts (key : String) : List String :=
  match splitAtFirst (· == '.') key.toList with
  | (first, none) => [String.ofList first]
  | (first, some rest) => [String.ofList first, String.ofList rest]

/-- `_nested_get`; no key of the adapter has two dots. -/
def nestedGet (members : List (String × PyValue F)) (key : String) : PyValue F :=
  nestedGetPath (.dict members) (keyParts key)

/-- What one member adds to `_extract_capabilities`. -/
def capabilitiesOf (v : PyValue F) : List String :=
  match v with
  | .dict members =>
      (members.filter fun member => member.2.truthy).map fun member => lower member.1
  | .list items => items.map fun item => lower item.toStr
  | _ => []

/-- `_extract_capabilities`. -/
def extractCapabilities (members : List (String × PyValue F)) : List String :=
  ["supported_parameters", "capabilities", "supported_features", "features"].flatMap
    fun key => capabilitiesOf lower (nestedGet members key)

/-- What one member adds to `_extract_input_modalities`. -/
def modalitiesOf (v : PyValue F) : List String :=
  match v with
  | .list items => items.map fun item => lower item.toStr
  | _ => []

/-- `_extract_input_modalities`. -/
def extractInputModalities (members : List (String × PyValue F)) : List String :=
  ["input_modalities", "modalities", "supported_modalities",
    "architecture.input_modalities"].flatMap
    fun key => modalitiesOf lower (nestedGet members key)

/-- `_coerce_int`. -/
def coerceInt [FloatArith F] (v : PyValue F) : Except Exc (Option Int) :=
  match v with
  | .int n => .ok (if 0 ≤ n then some n else none)
  | .float x =>
      if FloatArith.intLe 0 x then (Runtime.floatToInt x).map some else .ok none
  | .str s =>
      let text := strip s.toList
      if isDigitText text then (intOfText text).map some else .ok none
  | _ => .ok none

/-- `_extract_int`. -/
def extractInt [FloatArith F] (members : List (String × PyValue F)) :
    List String → Except Exc (Option Int)
  | [] => .ok none
  | key :: keys => do
      match ← coerceInt (nestedGet members key) with
      | some n => return some n
      | none => extractInt members keys

/-- `_extract_str`. -/
def extractStr (members : List (String × PyValue F)) : List String → Option String
  | [] => none
  | key :: keys =>
      let v := nestedGet members key
      if v.isNone then extractStr members keys
      else
        let out := stripped v.toStr
        if out ≠ "" then some out else extractStr members keys

/-- One value in `_extract_bool`. -/
def boolOf (v : PyValue F) : Option Bool :=
  match v with
  | .bool b => some b
  | .int n => some (n != 0)
  | .str s =>
      let normalized := lower (stripped s)
      if normalized ∈ ["1", "true", "yes", "on"] then some true
      else if normalized ∈ ["0", "false", "no", "off"] then some false
      else none
  | _ => none

/-- `_extract_bool`. -/
def extractBool (members : List (String × PyValue F)) (keys : List String) : Option Bool :=
  keys.findSome? fun key => boolOf lower (nestedGet members key)

/-- The keys of the context window. -/
def contextWindowKeys : List String :=
  ["context_window", "context_length", "max_context_length", "max_input_tokens",
    "input_token_limit", "token_limit", "max_tokens", "architecture.context_length"]

/-- The keys of the output limit. -/
def maxOutputTokensKeys : List String :=
  ["max_output_tokens", "max_completion_tokens", "max_output_token", "output_token_limit",
    "completion_token_limit"]

/-- `default_context_window`. -/
def defaultContextWindow : Int := 4096

/-- `str(row.get("id") or "").strip()`. -/
def modelIdOf (members : List (String × PyValue F)) : String :=
  stripped (((dictGet members "id").getD .none).orElse (.str "")).toStr

/-- What follows the two checks on a row in `OpenAICompatibleAdapter.discover_models`. -/
def describeModel [FloatArith F] (adapter : Adapter) (apiKeyEnv : String) (index : Nat)
    (members : List (String × PyValue F)) : Except Exc (CatalogueEntry F) := do
  let modelId := modelIdOf members
  let capabilities := extractCapabilities lower members
  let inputModalities := extractInputModalities lower members
  let supportsTools := (extractBool lower members
    ["supports_tools", "tool_calling", "supports_function_calling"]).getD
      (anyIn ["tools", "tool_use", "tool_choice", "function_calling", "functions"] capabilities)
  let supportsStreaming := (extractBool lower members
    ["supports_streaming", "streaming", "supports_stream"]).getD
      (if capabilities.isEmpty then true else capabilities.contains "stream")
  let supportsStructuredOutput := (extractBool lower members
    ["supports_structured_output", "supports_json_schema"]).getD
      (anyIn structuredOutputNames capabilities)
  let supportsVision := (extractBool lower members ["supports_vision", "vision"]).getD
    (anyIn ["image", "vision", "multimodal"] inputModalities)
  let contextWindow ← extractInt members contextWindowKeys
  let maxOutputTokens ← extractInt members maxOutputTokensKeys
  let tokenizerFamily := extractStr members
    ["tokenizer_family", "tokenizer", "architecture.tokenizer"]
  let window := contextWindow.getD 0
  return {
    id := adapter.name ++ "/" ++ modelId
    name := .str (((dictGet members "name").getD .none).orElse (.str modelId)).toStr
    providerId := adapter.name
    providerModelId := .str modelId
    providerBaseUrl := adapter.apiBase
    providerApiKeyEnv := apiKeyEnv
    contextWindow := .int (if window = 0 then defaultContextWindow else window)
    maxOutputTokens := (maxOutputTokens.map PyValue.int).getD .none
    tokenizerFamily := (tokenizerFamily.map PyValue.str).getD .none
    supportsTools := supportsTools
    supportsStreaming := supportsStreaming
    supportsVision := supportsVision
    supportsStructuredOutput := supportsStructuredOutput
    providerRank := some index }

/-- The body of the loop of `OpenAICompatibleAdapter.discover_models`. -/
def openaiCompatibleEntry [FloatArith F] (adapter : Adapter) (apiKeyEnv : String)
    (index : Nat) (row : PyValue F) : Except Exc (List (CatalogueEntry F)) :=
  match row with
  | .dict members =>
      if modelIdOf members = "" then .ok []
      else (describeModel lower adapter apiKeyEnv index members).map fun entry => [entry]
  | _ => .ok []

/-- `OpenAICompatibleAdapter.discover_models` on what the provider answers, with the check of
`_parse_json` that the body is an object. -/
def openaiCompatibleDiscoverModels [FloatArith F] (adapter : Adapter) (apiKeyEnv : String)
    (payload : PyValue F) : Except Exc (List (CatalogueEntry F)) :=
  if adapter.apiKey = "" then .error (.other (adapter.name ++ " api key is required"))
  else
    match payload with
    | .dict members =>
        match dictGet members "data" with
        | some (.list rows) => collectFrom (openaiCompatibleEntry lower adapter apiKeyEnv) 1 rows
        | _ => .ok []
    | _ => .ok []

/-- `discover_models` of an adapter; only those of the OpenAI-compatible class name a
variable for their key. -/
def discoverModels [FloatArith F] (adapter : Adapter) (payload : PyValue F) :
    Except Exc (List (CatalogueEntry F)) :=
  match adapter.providerApiKeyEnv with
  | none => openrouterDiscoverModels lower adapter payload
  | some apiKeyEnv => openaiCompatibleDiscoverModels lower adapter apiKeyEnv payload

/-! ## The rows OpenRouter's adapter can read -/

omit [Runtime F] in
/-- `d.get(key, default)`. -/
def memberOr (members : List (String × PyValue F)) (key : String) (default : PyValue F) :
    PyValue F :=
  (dictGet members key).getD default

/-- A row that names a free model has objects and collections where the adapter looks for
them; of the other rows only what is looked at first matters. -/
def OpenrouterReadable (row : PyValue F) : Prop :=
  ∃ members, row = .dict members ∧
    ((memberOr members "id" .none).truthy = true →
      (memberOr members "pricing" (.dict [])).isDict = true ∧
      (isFreeModel row = .ok true →
        (memberOr members "supported_parameters" (.list [])).items?.isSome = true ∧
        (∃ architecture, memberOr members "architecture" (.dict []) = .dict architecture ∧
          (memberOr architecture "input_modalities" (.list [])).items?.isSome = true) ∧
        (memberOr members "top_provider" (.dict [])).isDict = true))

/-- The position of a row decides the rank of its entry and nothing else. -/
theorem openrouterEntry_eq (adapter : Adapter) (index : Nat) (row : PyValue F) :
    openrouterEntry lower adapter index row =
      (openrouterEntry lower adapter 1 row).map (List.map (CatalogueEntry.atRank index)) := by
  change _ = List.map (CatalogueEntry.atRank index) <$> openrouterEntry lower adapter 1 row
  unfold openrouterEntry
  simp only [map_bind, apply_ite (Functor.map _), map_pure, List.map_nil, List.map_cons]
  rfl

/-- Prices can be looked up in an object only. -/
theorem isFreeModel_ok_iff (members : List (String × PyValue F)) :
    (∃ free, isFreeModel (.dict members) = .ok free) ↔
      (memberOr members "pricing" (.dict [])).isDict = true := by
  change (∃ free, (do
    let promptPrice := stripped (← (memberOr members "pricing" (.dict [])).get "prompt"
      (.str "")).toStr
    let completionPrice := stripped (← (memberOr members "pricing" (.dict [])).get "completion"
      (.str "")).toStr
    return promptPrice == "0" && completionPrice == "0" : Except Exc Bool) = .ok free) ↔ _
  cases memberOr members "pricing" (.dict []) with
  | dict pricing => exact iff_of_true ⟨_, rfl⟩ rfl
  | _ =>
      refine iff_of_false ?_ Bool.false_ne_true
      rintro ⟨free, h⟩
      cases h

omit [Runtime F] in
theorem get_dict (members : List (String × PyValue F)) (key : String) (default : PyValue F) :
    (PyValue.dict members).get key default = .ok (memberOr members key default) :=
  rfl

omit [Runtime F] in
theorem get_error {v : PyValue F} (h : v.isDict ≠ true) (key : String) (default : PyValue F) :
    ∃ exc, v.get key default = .error exc := by
  cases v with
  | dict members => exact absurd rfl h
  | _ => exact ⟨_, rfl⟩

omit [Runtime F] in
/-- Only an object has members. -/
theorem dict_of_get {v value : PyValue F} {key : String} {default : PyValue F}
    (h : v.get key default = .ok value) : ∃ members, v = .dict members := by
  cases v with
  | dict members => exact ⟨members, rfl⟩
  | _ => cases h

theorem loweredTexts_ok_iff (v : PyValue F) :
    (∃ texts, loweredTexts lower v = .ok texts) ↔ v.items?.isSome = true := by
  rw [loweredTexts, exists_bind_ok_iff, ← iter_ok_iff]
  constructor
  · rintro ⟨items, hitems, -⟩
    exact ⟨items, hitems⟩
  · rintro ⟨items, hitems⟩
    exact ⟨items, hitems, _, rfl⟩

/-- The rows the adapter can read. -/
theorem openrouterEntry_ok_iff (adapter : Adapter) (index : Nat) (row : PyValue F) :
    (∃ part, openrouterEntry lower adapter index row = .ok part) ↔ OpenrouterReadable row := by
  by_cases hrow : row.isDict = true
  · obtain ⟨value, hvalue⟩ : ∃ value, row.get "id" .none = .ok value := get_ok_iff.mpr hrow
    obtain ⟨members, rfl⟩ := dict_of_get hvalue
    simp only [OpenrouterReadable, PyValue.dict.injEq, exists_eq_left', openrouterEntry,
      get_dict, ok_bind]
    by_cases hid : (memberOr members "id" .none).truthy = true
    · simp only [hid, Bool.not_true, Bool.false_eq_true, if_false, forall_const]
      rw [exists_bind_ok_iff, ← isFreeModel_ok_iff]
      cases hfree : isFreeModel (.dict members) with
      | error exc =>
          refine iff_of_false ?_ ?_
          · rintro ⟨free, h, -⟩
            cases h
          · rintro ⟨⟨free, h⟩, -⟩
            cases h
      | ok free =>
          cases free with
          | false =>
              refine iff_of_true ⟨false, rfl, _, rfl⟩ ⟨⟨false, rfl⟩, ?_⟩
              intro h
              cases h
          | true =>
              simp only [Except.ok.injEq, exists_eq_left', Bool.not_true, Bool.false_eq_true,
                if_false, exists_bind_ok_iff, exists_eq', true_and, forall_const,
                ← loweredTexts_ok_iff lower (memberOr members "supported_parameters" _),
                ← @get_ok_iff _ _ "max_completion_tokens" .none]
              constructor
              · rintro ⟨parameters, hparameters, tokenizer, htokenizer, modalities, hmodalities,
                  texts, htexts, topLimit, htop, -⟩
                obtain ⟨architecture, harchitecture⟩ := dict_of_get htokenizer
                rw [harchitecture, get_dict, Except.ok.injEq] at hmodalities
                rw [← hmodalities] at htexts
                exact ⟨⟨parameters, hparameters⟩,
                  ⟨architecture, harchitecture, (loweredTexts_ok_iff lower _).mp ⟨texts, htexts⟩⟩,
                  topLimit, htop⟩
              · rintro ⟨⟨parameters, hparameters⟩, ⟨architecture, harchitecture, hmodalities⟩,
                  topLimit, htop⟩
                obtain ⟨texts, htexts⟩ := (loweredTexts_ok_iff lower _).mpr hmodalities
                rw [harchitecture]
                exact ⟨parameters, hparameters, _, rfl, _, rfl, texts, htexts, topLimit, htop, _,
                  rfl⟩
    · simp only [hid, Bool.not_false, if_true, Bool.false_eq_true, false_implies, iff_true]
      exact ⟨[], rfl⟩
  · refine iff_of_false ?_ ?_
    · obtain ⟨exc, hexc⟩ := get_error hrow "id" .none
      rintro ⟨part, h⟩
      rw [openrouterEntry, hexc] at h
      cases h
    · rintro ⟨members, rfl, -⟩
      exact hrow rfl

/-! ## The rows the other adapters can read -/

section Numbers

variable [FloatArith F]

/-- `int()` has a result where `_coerce_int` calls it: a float that is not negative is
finite, and digits are decimal and not too many. -/
def Convertible : PyValue F → Prop
  | .float x => FloatArith.intLe 0 x = true → ∃ n, Runtime.floatToInt x = .ok n
  | .str s => isDigitText (strip s.toList) = true →
      ((strip s.toList).all fun c => (decimalValue c).isSome) = true ∧
        (strip s.toList).length ≤ maxStrDigits
  | _ => True

/-- A value `_coerce_int` passes over. -/
def Skipped : PyValue F → Prop
  | .int n => n < 0
  | .float x => FloatArith.intLe 0 x = false
  | .str s => isDigitText (strip s.toList) = false
  | _ => True

/-- The values under some keys can be converted, up to the first that is a number. -/
def LimitReadable (members : List (String × PyValue F)) : List String → Prop
  | [] => True
  | key :: keys => Convertible (nestedGet members key) ∧
      (Skipped (nestedGet members key) → LimitReadable members keys)

/-- A row with an id has limits that can be converted. -/
def OpenaiCompatibleReadable (row : PyValue F) : Prop :=
  ∀ members, row = .dict members → modelIdOf members ≠ "" →
    LimitReadable members contextWindowKeys ∧ LimitReadable members maxOutputTokensKeys

/-- `_coerce_int` returns exactly on the convertible values. -/
theorem coerceInt_ok_iff (v : PyValue F) : (∃ n, coerceInt v = .ok n) ↔ Convertible v := by
  cases v with
  | float x =>
      simp only [coerceInt, Convertible]
      by_cases hsign : FloatArith.intLe 0 x = true
      · rw [if_pos hsign]
        cases Runtime.floatToInt x <;> simp [hsign, Except.map]
      · rw [if_neg hsign]
        exact iff_of_true ⟨none, rfl⟩ fun h => absurd h hsign
  | str s =>
      simp only [coerceInt, Convertible]
      by_cases hdigits : isDigitText (strip s.toList) = true
      · rw [← intOfText_of_isDigitText hdigits]
        cases intOfText (strip s.toList) <;> simp [hdigits, Except.map]
      · exact iff_of_true ⟨none, if_neg hdigits⟩ fun h => absurd h hdigits
  | _ => exact iff_of_true ⟨_, rfl⟩ trivial

/-- `_coerce_int` gives no number exactly for the values it passes over. -/
theorem coerceInt_eq_none_iff (v : PyValue F) : coerceInt v = .ok none ↔ Skipped v := by
  cases v with
  | int n =>
      simp only [coerceInt, Skipped]
      by_cases hsign : 0 ≤ n
      · simp [if_pos hsign]
        omega
      · simp [if_neg hsign]
        omega
  | float x =>
      simp only [coerceInt, Skipped]
      by_cases hsign : FloatArith.intLe 0 x = true
      · cases Runtime.floatToInt x <;> simp [hsign, Except.map]
      · simp [hsign]
  | str s =>
      simp only [coerceInt, Skipped]
      by_cases hdigits : isDigitText (strip s.toList) = true
      · cases intOfText (strip s.toList) <;> simp [hdigits, Except.map]
      · simp [hdigits]
  | _ => exact iff_of_true rfl trivial

/-- `_extract_int` returns exactly when the values it looks at can be converted. -/
theorem extractInt_ok_iff (members : List (String × PyValue F)) (keys : List String) :
    (∃ n, extractInt members keys = .ok n) ↔ LimitReadable members keys := by
  induction keys with
  | nil => exact iff_of_true ⟨none, rfl⟩ trivial
  | cons key keys ih =>
      rw [extractInt, exists_bind_ok_iff, LimitReadable, ← coerceInt_ok_iff,
        ← coerceInt_eq_none_iff, ← ih]
      cases hvalue : coerceInt (nestedGet members key) with
      | error exc =>
          refine iff_of_false ?_ ?_
          · rintro ⟨n, h, -⟩
            cases h
          · rintro ⟨⟨n, h⟩, -⟩
            cases h
      | ok value =>
          cases value with
          | some n =>
              refine iff_of_true ⟨some n, rfl, _, rfl⟩ ⟨⟨some n, rfl⟩, ?_⟩
              intro h
              cases h
          | none =>
              simp only [Except.ok.injEq, exists_eq_left', exists_eq', true_and, forall_const]

theorem describeModel_ok_iff (adapter : Adapter) (apiKeyEnv : String) (index : Nat)
    (members : List (String × PyValue F)) :
    (∃ entry, describeModel lower adapter apiKeyEnv index members = .ok entry) ↔
      LimitReadable members contextWindowKeys ∧ LimitReadable members maxOutputTokensKeys := by
  rw [← extractInt_ok_iff, ← extractInt_ok_iff]
  unfold describeModel
  rw [exists_bind_ok_iff]
  simp only [exists_bind_ok_iff]
  constructor
  · rintro ⟨contextWindow, hcontext, maxOutputTokens, houtput, -⟩
    exact ⟨⟨contextWindow, hcontext⟩, maxOutputTokens, houtput⟩
  · rintro ⟨⟨contextWindow, hcontext⟩, maxOutputTokens, houtput⟩
    exact ⟨contextWindow, hcontext, maxOutputTokens, houtput, _, rfl⟩

/-- The rows the adapter can read. -/
theorem openaiCompatibleEntry_ok_iff (adapter : Adapter) (apiKeyEnv : String) (index : Nat)
    (row : PyValue F) :
    (∃ part, openaiCompatibleEntry lower adapter apiKeyEnv index row = .ok part) ↔
      OpenaiCompatibleReadable row := by
  unfold OpenaiCompatibleReadable
  cases row with
  | dict members =>
      simp only [PyValue.dict.injEq, forall_eq', openaiCompatibleEntry,
        ← describeModel_ok_iff lower adapter apiKeyEnv index members]
      by_cases hid : modelIdOf members = ""
      · simp [hid]
      · cases describeModel lower adapter apiKeyEnv index members <;> simp [hid, Except.map]
  | _ =>
      refine iff_of_true ⟨[], rfl⟩ ?_
      intro members h
      cases h

/-- The position of a row decides the rank of its entry and nothing else. -/
theorem openaiCompatibleEntry_eq (adapter : Adapter) (apiKeyEnv : String) (index : Nat)
    (row : PyValue F) :
    openaiCompatibleEntry lower adapter apiKeyEnv index row =
      (openaiCompatibleEntry lower adapter apiKeyEnv 1 row).map
        (List.map (CatalogueEntry.atRank index)) := by
  cases row with
  | dict members =>
      unfold openaiCompatibleEntry
      by_cases hid : modelIdOf members = ""
      · simp only [if_pos hid]
        rfl
      · simp only [if_neg hid]
        unfold describeModel
        cases extractInt members contextWindowKeys with
        | error exc => rfl
        | ok contextWindow => cases extractInt members maxOutputTokensKeys <;> rfl
  | _ => rfl

/-! ## Rows on their own -/

/-- What an adapter makes of the row at a position. -/
def entryOf (adapter : Adapter) (index : Nat) (row : PyValue F) :
    Except Exc (List (CatalogueEntry F)) :=
  match adapter.providerApiKeyEnv with
  | none => openrouterEntry lower adapter index row
  | some apiKeyEnv => openaiCompatibleEntry lower adapter apiKeyEnv index row

/-- An adapter can read a row. -/
structure Readable (adapter : Adapter) (row : PyValue F) : Prop where
  openrouter : adapter.providerApiKeyEnv = none → OpenrouterReadable row
  openaiCompatible : adapter.providerApiKeyEnv ≠ none → OpenaiCompatibleReadable row

/-- A payload with one row. -/
def loneRow (row : PyValue F) : PyValue F :=
  .dict [("data", .list [row])]

/-- The adapter returns, for a payload, what it returns for each of its rows alone, put
together in row order with the ranks of the positions. -/
def RowByRow (adapter : Adapter) (payload : PyValue F) (rows : List (PyValue F)) : Prop :=
  ∃ parts, List.Forall₂
      (fun row part => discoverModels lower adapter (loneRow row) = .ok part) rows parts ∧
    discoverModels lower adapter payload = .ok (numbered CatalogueEntry.atRank 1 parts)

theorem entryOf_eq (adapter : Adapter) (index : Nat) (row : PyValue F) :
    entryOf lower adapter index row =
      (entryOf lower adapter 1 row).map (List.map (CatalogueEntry.atRank index)) := by
  unfold entryOf
  cases adapter.providerApiKeyEnv with
  | none => exact openrouterEntry_eq lower adapter index row
  | some apiKeyEnv => exact openaiCompatibleEntry_eq lower adapter apiKeyEnv index row

theorem entryOf_ok_iff (adapter : Adapter) (index : Nat) (row : PyValue F) :
    (∃ part, entryOf lower adapter index row = .ok part) ↔ Readable adapter row := by
  unfold entryOf
  cases henv : adapter.providerApiKeyEnv with
  | none =>
      rw [openrouterEntry_ok_iff]
      constructor
      · intro h
        exact ⟨fun _ => h, fun hne => absurd henv hne⟩
      · intro h
        exact h.openrouter henv
  | some apiKeyEnv =>
      rw [openaiCompatibleEntry_ok_iff]
      have hne : adapter.providerApiKeyEnv ≠ none := by
        rw [henv]
        exact Option.some_ne_none apiKeyEnv
      constructor
      · intro h
        exact ⟨fun hnone => absurd hnone hne, fun _ => h⟩
      · intro h
        exact h.openaiCompatible hne

/-- An adapter with a key collects the entries of the rows. -/
theorem discoverModels_of_data {adapter : Adapter} (hkey : adapter.apiKey ≠ "")
    {members : List (String × PyValue F)} {rows : List (PyValue F)}
    (hdata : dictGet members "data" = some (.list rows)) :
    discoverModels lower adapter (.dict members) =
      (rows.mapM (entryOf lower adapter 1)).map (numbered CatalogueEntry.atRank 1) := by
  rw [← collectFrom_eq (entryOf_eq lower adapter)]
  unfold discoverModels openrouterDiscoverModels openaiCompatibleDiscoverModels entryOf
  cases adapter.providerApiKeyEnv with
  | none =>
      simp only [if_neg hkey, get_dict, memberOr, hdata, ok_bind]
      rfl
  | some apiKeyEnv => simp only [if_neg hkey, hdata]

/-- What a row contributes alone. -/
theorem discoverModels_loneRow {adapter : Adapter} (hkey : adapter.apiKey ≠ "")
    (row : PyValue F) :
    discoverModels lower adapter (loneRow row) = entryOf lower adapter 1 row := by
  have hself := entryOf_eq lower adapter 1 row
  have hdata : dictGet [("data", PyValue.list [row])] "data" = some (.list [row]) := rfl
  rw [loneRow, discoverModels_of_data lower hkey hdata]
  cases hpart : entryOf lower adapter 1 row with
  | error exc => simp [hpart, Except.map, bind, Except.bind]
  | ok part =>
      rw [hpart] at hself
      have hpart' : part = part.map (CatalogueEntry.atRank 1) := Except.ok.inj hself
      simp [hpart, Except.map, bind, Except.bind, pure, Except.pure, numbered, ← hpart']

/-- Every row of a payload contributes on its own exactly when the adapter can read every
row. -/
theorem discoverModels_isolated_iff {adapter : Adapter} (hkey : adapter.apiKey ≠ "")
    {members : List (String × PyValue F)} {rows : List (PyValue F)}
    (hdata : dictGet members "data" = some (.list rows)) :
    RowByRow lower adapter (.dict members) rows ↔ ∀ row ∈ rows, Readable adapter row := by
  have hrows : (∃ parts, rows.mapM (entryOf lower adapter 1) = .ok parts) ↔
      ∀ row ∈ rows, Readable adapter row := by
    rw [mapM_ok_iff]
    simp only [entryOf_ok_iff]
  unfold RowByRow
  simp only [discoverModels_loneRow lower hkey]
  rw [← hrows]
  constructor
  · rintro ⟨parts, hparts, -⟩
    exact ⟨parts, mapM_ok_iff_forall₂.mpr hparts⟩
  · rintro ⟨parts, hparts⟩
    refine ⟨parts, mapM_ok_iff_forall₂.mp hparts, ?_⟩
    rw [discoverModels_of_data lower hkey hdata, hparts]
    rfl

end Numbers

end Discover

/-- The adapters that the samples below run. -/
def openrouterAdapter : Adapter where
  name := "openrouter"
  apiKey := "key"
  apiBase := "https://openrouter.ai/api/v1"

def groqAdapter : Adapter where
  name := "groq"
  apiKey := "key"
  apiBase := "https://api.groq.com/openai/v1"
  providerApiKeyEnv := some "GROQ_API_KEY"

/-- A row of a free model. -/
def freeRow : PyValue Exact :=
  .dict [("id", .str "m"), ("pricing", .dict [("prompt", .str "0"), ("completion", .int 0)])]

/-- A row whose context length is a superscript digit. -/
def superscriptRow : PyValue Exact :=
  .dict [("id", .str "m"), ("context_length", .str "²")]

/-- A free model without its optional members and a row without an id are read. -/
theorem discoverModels_isolated_sample :
    RowByRow id openrouterAdapter (.dict [("data", .list [freeRow, .dict []])])
      [freeRow, .dict []] := by
  refine (discoverModels_isolated_iff id (by decide) rfl).mpr ?_
  intro row hrow
  refine ⟨fun _ => ?_, fun hne => absurd rfl hne⟩
  rcases List.mem_cons.mp hrow with rfl | hrow
  · exact ⟨_, rfl, fun _ => ⟨rfl, fun _ => ⟨rfl, ⟨[], rfl, rfl⟩, rfl⟩⟩⟩
  · rw [List.mem_singleton.mp hrow]
    refine ⟨[], rfl, ?_⟩
    intro hid
    cases hid

/-- One row that is no object, or one limit in superscript digits, discards the catalogue. -/
theorem malformed_row_discards :
    ¬ RowByRow id openrouterAdapter (.dict [("data", .list [freeRow, .none])])
        [freeRow, .none] ∧
      ¬ RowByRow id groqAdapter (.dict [("data", .list [freeRow, superscriptRow])])
        [freeRow, superscriptRow] := by
  have hopenrouter : discoverModels id openrouterAdapter
      (.dict [("data", .list [freeRow, .none])]) =
        .error (.attributeError "'NoneType' object has no attribute 'get'") := by
    rfl
  have hgroq : discoverModels id groqAdapter
      (.dict [("data", .list [freeRow, superscriptRow])]) =
        .error (.valueError "invalid literal for int() with base 10") := by
    rfl
  constructor
  · rintro ⟨parts, -, h⟩
    rw [hopenrouter] at h
    cases h
  · rintro ⟨parts, -, h⟩
    rw [hgroq] at h
    cases h

end Providers
end FreeLunch
