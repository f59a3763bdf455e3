import FreeLunch.Gateway.ChatCompletions
import FreeLunch.Providers.Catalogue
import FreeLunch.Providers.Requests
import FreeLunch.Python.JsonBytes
import FreeLunch.Python.JsonRoundTrip

/-!
# The result of a chat completion

`chat_completions` of `OpenAICompatibleAdapter` and `OpenRouterAdapter`: the request is sent with
retries, the body of the response is the payload of the result, and its `usage` member gives the
token counts.

Main results:

- Theorem `openrouterChatCompletions_usage_iff`: OpenRouter's adapter returns the result that the
  other adapter returns exactly when `usage` is absent or an object of counts and the body is in
  plain UTF-8.

Current gaps:

- The latency is a number that the clock gives.
- What `response.json()` makes of a body in UTF-16 or UTF-32, and of one with lone surrogates in
  its bytes, is a parameter; a byte order mark of UTF-8 is followed.
-/

namespace FreeLunch
namespace Providers

open Gateway Python Writes

section ChatResults

variable {F : Type} [Runtime F] {otherJson : List UInt8 → Except Exc (PyValue F)}

/-- What `chat_completions` can raise. -/
abbrev ChatRaised := ProviderError ⊕ Exc

/-- The body of the request: `dict(request_body)` with the model's name. -/
def chatBody (requestBody : List (String × PyValue F)) (model : String) :
    List (String × PyValue F) :=
  dictSet requestBody "model" (.str model)

/-- `raise ProviderFatalError(f"{self.name} api key is required", ...)`. -/
def apiKeyError (adapter : HttpAdapter) : ProviderError :=
  providerFatalError (adapter.name ++ " api key is required") .authError (some 401)

/-- A built-in exception that leaves the method. -/
def builtin {α : Type} (result : Except Exc α) : Except ChatRaised α :=
  result.mapError .inr

/-! ## OpenAI-compatible providers -/

/-- `_parse_json`. -/
def parseJson (rawBody : List UInt8) : Except ChatRaised (List (String × PyValue F)) := do
  match ← builtin (loadsBody F rawBody) with
  | none => .error (.inl (providerRetryableError "provider returned invalid json"))
  | some (.dict payload) => return payload
  | some _ => return []

/-- A token count as the result holds it. -/
def countValue (count : Option Int) : PyValue F :=
  match count with
  | none => .none
  | some n => .int n

/-- `OpenAICompatibleAdapter.chat_completions`, from the upstream that answers a body. -/
def openaiCompatibleChatCompletions [FloatArith F] (lower : String → String) (name : String)
    (maxRetries : Int) (maxResponseBytes : Nat) (apiKey : String) (latencyMs : Int)
    (upstream : List (String × PyValue F) → Nat → UpstreamOutcome)
    (requestBody : List (String × PyValue F)) (model : String) :
    Except ChatRaised (ChatResult F) := do
  let adapter := HttpAdapter.openaiCompatible name maxRetries maxResponseBytes
  if apiKey = "" then .error (.inl (apiKeyError adapter))
  else do
    let response ← (requestWithRetries F lower adapter
      (upstream (chatBody requestBody model))).result
    let payload ← parseJson response.content
    let usage :=
      match dictGet payload "usage" with
      | some (.dict usage) => usage
      | _ => []
    let promptTokens ← builtin (coerceInt ((dictGet usage "prompt_tokens").getD .none))
    let completionTokens ← builtin (coerceInt ((dictGet usage "completion_tokens").getD .none))
    let totalTokens ← builtin (coerceInt ((dictGet usage "total_tokens").getD .none))
    return {
      payload := .dict payload
      latencyMs := .int latencyMs
      ttfbMs := .int latencyMs
      promptTokens := countValue promptTokens
      completionTokens := countValue completionTokens
      totalTokens := countValue totalTokens }

/-! ## OpenRouter -/

/-- `value[-1]`. -/
def lastItem (value : PyValue F) : Except Exc (PyValue F) :=
  match value with
  | .list items =>
      match items.getLast? with
      | some item => .ok item
      | none => .error (.other "list index out of range")
  | .str s =>
      match s.toList.getLast? with
      | some c => .ok (.str (String.ofList [c]))
      | none => .error (.other "string index out of range")
  | .dict _ => .error (.keyError "-1")
  | v => .error (.typeError ("'" ++ v.typeName ++ "' object is not subscriptable"))

/-- The result without an upstream, which echoes the prompt. -/
def stubResult (requestBody : List (String × PyValue F)) (model : String) :
    Except Exc (ChatResult F) := do
  let last ← lastItem ((dictGet requestBody "messages").getD (.list [.dict []]))
  let prompt ← last.get "content" (.str "")
  return {
    payload := .dict [
      ("id", .str "chatcmpl-freelunch-stub"),
      ("object", .str "chat.completion"),
      ("model", .str model),
      ("choices", .list [.dict [
        ("index", .int 0),
        ("message", .dict [
          ("role", .str "assistant"), ("content", .str ("Echo: " ++ prompt.toStr))]),
        ("finish_reason", .str "stop")]])] }

/-- `response.json()`, which passes the bytes to `json.loads`. -/
def responseJson (otherJson : List UInt8 → Except Exc (PyValue F)) (rawBody : List UInt8) :
    Except Exc (PyValue F) :=
  loadsBytes otherJson rawBody

/-- `OpenRouterAdapter.chat_completions`, from the upstream that answers a body. -/
def openrouterChatCompletions (lower : String → String)
    (otherJson : List UInt8 → Except Exc (PyValue F)) (maxResponseBytes : Nat) (apiKey : String)
    (devStubEnabled : Bool) (latencyMs : Int)
    (upstream : List (String × PyValue F) → Nat → UpstreamOutcome)
    (requestBody : List (String × PyValue F)) (model : String) :
    Except ChatRaised (ChatResult F) :=
  let adapter := HttpAdapter.openrouter maxResponseBytes
  if apiKey = "" then
    if devStubEnabled then builtin (stubResult requestBody model)
    else .error (.inl (apiKeyError adapter))
  else do
    let response ← (requestWithRetries F lower adapter
      (upstream (chatBody requestBody model))).result
    if maxResponseBytes < response.content.length then .error (.inl sizeLimitError)
    else do
      let payload ← builtin (responseJson otherJson response.content)
      let usage ← builtin (payload.get "usage" (.dict []))
      let promptTokens ← builtin (usage.get "prompt_tokens" .none)
      let completionTokens ← builtin (usage.get "completion_tokens" .none)
      let totalTokens ← builtin (usage.get "total_tokens" .none)
      return {
        payload
        latencyMs := .int latencyMs
        ttfbMs := .int latencyMs
        promptTokens
        completionTokens
        totalTokens }

/-! ## The contract -/

/-- A non-negative integer or `None`. -/
def IsCount (v : PyValue F) : Prop :=
  v = .none ∨ ∃ n : Nat, v = .int n

/-- A result with a payload and token counts. -/
def CountedResult (payload : List (String × PyValue F)) (result : ChatResult F) : Prop :=
  result.payload = .dict payload ∧ IsCount result.promptTokens ∧
    IsCount result.completionTokens ∧ IsCount result.totalTokens

/-- The members of `usage` that the adapters read. -/
def usageKeys : List String :=
  ["prompt_tokens", "completion_tokens", "total_tokens"]

/-- A payload without `usage`, or with an object there that holds counts. -/
def UsageCounts (payload : List (String × PyValue F)) : Prop :=
  dictGet payload "usage" = none ∨
    ∃ usage, dictGet payload "usage" = some (.dict usage) ∧
      ∀ key ∈ usageKeys, IsCount ((dictGet usage key).getD .none)

/-- The other adapter, receiving the same body, returns the same payload and counts. -/
def SameAsOpenaiCompatible [FloatArith F] (lower : String → String) (content : List UInt8)
    (result : ChatResult F) : Prop :=
  ∀ (name : String) (maxRetries : Int) (maxResponseBytes : Nat) (apiKey : String)
    (latencyMs : Int) (upstream : List (String × PyValue F) → Nat → UpstreamOutcome)
    (requestBody : List (String × PyValue F)) (model : String) (response : UpstreamResponse),
    apiKey ≠ "" →
    (requestWithRetries F lower (.openaiCompatible name maxRetries maxResponseBytes)
      (upstream (chatBody requestBody model))).result = .ok response →
    response.content = content →
    ∃ other, openaiCompatibleChatCompletions lower name maxRetries maxResponseBytes apiKey
        latencyMs upstream requestBody model = .ok other ∧
      other.payload = result.payload ∧ other.promptTokens = result.promptTokens ∧
      other.completionTokens = result.completionTokens ∧ other.totalTokens = result.totalTokens

/-! ## The token counts -/

theorem coerceInt_of_isCount [FloatArith F] {v : PyValue F} (h : IsCount v) :
    ∃ count, coerceInt v = .ok count ∧ countValue count = v := by
  rcases h with rfl | ⟨n, rfl⟩
  · exact ⟨none, rfl, rfl⟩
  · refine ⟨some n, ?_, rfl⟩
    rw [coerceInt, if_pos (Int.natCast_nonneg n)]

/-- The member of `usage` that both adapters read. -/
def usageMember (payload : List (String × PyValue F)) (key : String) : PyValue F :=
  match dictGet payload "usage" with
  | some (.dict usage) => (dictGet usage key).getD .none
  | _ => .none

/-- OpenRouter's adapter returns exactly when `usage` is absent or an object. -/
theorem openrouterChatCompletions_ok_iff {lower : String → String} {maxResponseBytes : Nat}
    {apiKey : String} (hkey : apiKey ≠ "") {devStubEnabled : Bool} {latencyMs : Int}
    {upstream : List (String × PyValue F) → Nat → UpstreamOutcome}
    {requestBody : List (String × PyValue F)} {model : String} {response : UpstreamResponse}
    (hrun : (requestWithRetries F lower (.openrouter maxResponseBytes)
      (upstream (chatBody requestBody model))).result = .ok response)
    {payload : List (String × PyValue F)}
    (hpayload : responseJson otherJson response.content = .ok (.dict payload))
    {result : ChatResult F} :
    openrouterChatCompletions lower otherJson maxResponseBytes apiKey devStubEnabled latencyMs
        upstream requestBody model = .ok result ↔
      (dictGet payload "usage" = none ∨
          ∃ usage, dictGet payload "usage" = some (.dict usage)) ∧
        result = {
          payload := .dict payload
          latencyMs := .int latencyMs
          ttfbMs := .int latencyMs
          promptTokens := usageMember payload "prompt_tokens"
          completionTokens := usageMember payload "completion_tokens"
          totalTokens := usageMember payload "total_tokens" } := by
  obtain ⟨i, hreceived, -⟩ := received_of_retryLoop F lower _ _ _ _ _ hrun
  have hlength : ¬ maxResponseBytes < response.content.length :=
    Nat.not_lt.mpr hreceived.length_le
  unfold openrouterChatCompletions usageMember
  simp only
  rw [if_neg hkey, hrun, ok_bind, if_neg hlength, hpayload]
  cases husage : dictGet payload "usage" with
  | none =>
      simp only [PyValue.get, husage, Option.getD_none, builtin, Except.mapError, ok_bind]
      constructor
      · intro h
        cases h
        exact ⟨.inl trivial, rfl⟩
      · rintro ⟨-, rfl⟩
        rfl
  | some value =>
      cases value with
      | dict usage =>
          simp only [PyValue.get, husage, Option.getD_some, builtin, Except.mapError, ok_bind]
          constructor
          · intro h
            cases h
            exact ⟨.inr ⟨usage, rfl⟩, rfl⟩
          · rintro ⟨-, rfl⟩
            rfl
      | _ =>
          simp [PyValue.get, husage, builtin, Except.mapError, bind, Except.bind]

/-- The other adapter returns the counts that `usage` holds. -/
theorem openaiCompatibleChatCompletions_of_usageCounts [FloatArith F] {lower : String → String}
    {name : String} {maxRetries : Int} {maxResponseBytes : Nat} {apiKey : String}
    (hkey : apiKey ≠ "") {latencyMs : Int}
    {upstream : List (String × PyValue F) → Nat → UpstreamOutcome}
    {requestBody : List (String × PyValue F)} {model : String} {response : UpstreamResponse}
    (hrun : (requestWithRetries F lower (.openaiCompatible name maxRetries maxResponseBytes)
      (upstream (chatBody requestBody model))).result = .ok response) {text : List Char}
    (htext : decodeStrict response.content = some text) {payload : List (String × PyValue F)}
    (hpayload : loads text = .ok (.dict payload)) (husage : UsageCounts payload) :
    openaiCompatibleChatCompletions lower name maxRetries maxResponseBytes apiKey latencyMs
        upstream requestBody model = .ok {
      payload := .dict payload
      latencyMs := .int latencyMs
      ttfbMs := .int latencyMs
      promptTokens := usageMember payload "prompt_tokens"
      completionTokens := usageMember payload "completion_tokens"
      totalTokens := usageMember payload "total_tokens" } := by
  have hjson : parseJson response.content = .ok payload := by
    have hloads := (loadsBody_some_iff F).mpr ⟨text, htext, hpayload⟩
    rw [parseJson, hloads]
    rfl
  unfold openaiCompatibleChatCompletions usageMember
  simp only
  rw [if_neg hkey, hrun, ok_bind, hjson, ok_bind]
  rcases husage with hnone | ⟨usage, hsome, hcounts⟩
  · rw [hnone]
    rfl
  · rw [hsome]
    obtain ⟨prompt, hprompt, hpromptValue⟩ :=
      coerceInt_of_isCount (hcounts "prompt_tokens" (by decide))
    obtain ⟨completion, hcompletion, hcompletionValue⟩ :=
      coerceInt_of_isCount (hcounts "completion_tokens" (by decide))
    obtain ⟨total, htotal, htotalValue⟩ :=
      coerceInt_of_isCount (hcounts "total_tokens" (by decide))
    simp only [hprompt, hcompletion, htotal, builtin, Except.mapError, ok_bind]
    rw [hpromptValue, hcompletionValue, htotalValue]
    rfl

omit [Runtime F] in
theorem isCount_usageMember {payload : List (String × PyValue F)} (h : UsageCounts payload)
    {key : String} (hkey : key ∈ usageKeys) : IsCount (usageMember payload key) := by
  unfold usageMember
  rcases h with hnone | ⟨usage, hsome, hcounts⟩
  · rw [hnone]
    exact .inl rfl
  · rw [hsome]
    exact hcounts key hkey

/-- A payload is read from plain UTF-8 alone. -/
theorem plainUtf8_of_parseJson {rawBody : List UInt8} {payload : List (String × PyValue F)}
    (h : parseJson rawBody = .ok payload) : PlainUtf8 rawBody := by
  unfold parseJson at h
  cases hloads : loadsBody F rawBody with
  | error exc =>
      rw [hloads] at h
      cases h
  | ok read =>
      rw [hloads] at h
      cases read with
      | none => cases h
      | some value =>
          obtain ⟨text, htext, hvalue⟩ := (loadsBody_some_iff F).mp hloads
          exact plainUtf8_of_loads htext hvalue

/-- An upstream from which the other adapter receives any given body. -/
theorem received_openaiCompatible (lower : String → String) (content : List UInt8) :
    (requestWithRetries F lower (.openaiCompatible "" 1 content.length)
      fun _ => .response 200 none [content] .complete).result = .ok ⟨200, content⟩ := by
  have hread : readBody content.length .complete [] [content] = .ok content := by
    rw [readBody, if_neg (by simp)]
    rfl
  have honce : requestOnce F lower (.openaiCompatible "" 1 content.length)
      (.response 200 none [content] .complete) = .ok ⟨200, content⟩ := by
    simp only [requestOnce, declaredTooLong, HttpAdapter.maxResponseBytes, hread, ok_bind]
    rfl
  have hattempts : (HttpAdapter.openaiCompatible "" 1 content.length).attempts = 1 := rfl
  rw [requestWithRetries, hattempts, retryLoop, honce]

/-- What both adapters return was read from plain UTF-8. -/
theorem SameAsOpenaiCompatible.plainUtf8 [FloatArith F] {lower : String → String}
    {content : List UInt8} {result : ChatResult F}
    (h : SameAsOpenaiCompatible lower content result) : PlainUtf8 content := by
  have hreceived := received_openaiCompatible (F := F) lower content
  obtain ⟨other, hother, -⟩ := h "" 1 content.length "key" 0
    (fun _ _ => .response 200 none [content] .complete) [] "" ⟨200, content⟩ (by decide)
    hreceived rfl
  unfold openaiCompatibleChatCompletions at hother
  dsimp only at hother
  rw [if_neg (by decide), hreceived, ok_bind] at hother
  obtain ⟨payload, hparse, -⟩ := bind_ok_iff.mp hother
  exact plainUtf8_of_parseJson hparse

/-- For a JSON object received without an error status, OpenRouter's adapter returns that payload
with counts, and the result of the other adapter, exactly when `usage` is absent or an object of
counts and the body is in plain UTF-8. -/
theorem openrouterChatCompletions_usage_iff [FloatArith F] {lower : String → String}
    {maxResponseBytes : Nat} {apiKey : String} (hkey : apiKey ≠ "") {devStubEnabled : Bool}
    {latencyMs : Int} {upstream : List (String × PyValue F) → Nat → UpstreamOutcome}
    {requestBody : List (String × PyValue F)} {model : String} {response : UpstreamResponse}
    (hrun : (requestWithRetries F lower (.openrouter maxResponseBytes)
      (upstream (chatBody requestBody model))).result = .ok response)
    {payload : List (String × PyValue F)}
    (hpayload : responseJson otherJson response.content = .ok (.dict payload)) :
    (∃ result, openrouterChatCompletions lower otherJson maxResponseBytes apiKey devStubEnabled
          latencyMs upstream requestBody model = .ok result ∧ CountedResult payload result ∧
        SameAsOpenaiCompatible lower response.content result) ↔
      UsageCounts payload ∧ PlainUtf8 response.content := by
  simp only [openrouterChatCompletions_ok_iff hkey hrun hpayload]
  constructor
  · rintro ⟨result, ⟨husage, rfl⟩, ⟨-, hprompt, hcompletion, htotal⟩, hsame⟩
    refine ⟨?_, hsame.plainUtf8⟩
    rcases husage with hnone | ⟨usage, hsome⟩
    · exact .inl hnone
    · refine .inr ⟨usage, hsome, fun key hmem => ?_⟩
      simp only [usageMember, hsome] at hprompt hcompletion htotal
      simp only [usageKeys, List.mem_cons, List.not_mem_nil, or_false] at hmem
      rcases hmem with rfl | rfl | rfl
      · exact hprompt
      · exact hcompletion
      · exact htotal
  · rintro ⟨h, hdetected, text, htext⟩
    have hloads : loads text = .ok (.dict payload) := by
      rw [← hpayload, responseJson, loadsBytes_of_plainUtf8 hdetected htext]
    refine ⟨_, ⟨?_, rfl⟩, ⟨rfl, isCount_usageMember h (by decide),
      isCount_usageMember h (by decide), isCount_usageMember h (by decide)⟩, ?_⟩
    · rcases h with hnone | ⟨usage, hsome, -⟩
      · exact .inl hnone
      · exact .inr ⟨usage, hsome⟩
    · intro name maxRetries maxResponseBytes' apiKey' latencyMs' upstream' requestBody' model'
        response' hkey' hrun' hcontent
      rw [← hcontent] at htext
      exact ⟨_, openaiCompatibleChatCompletions_of_usageCounts hkey' hrun' htext hloads h,
        rfl, rfl, rfl, rfl⟩

end ChatResults

/-- The lower case of ASCII text. -/
def asciiLower (text : String) : String :=
  String.ofList (lowerAscii text.toList)

/-- The body of a completion with this usage. -/
def bodyWith (usage : PyValue Exact) : List Char :=
  (dumps (.dict [("usage", usage)])).toList

/-- The upstream that answers so. -/
def completionWith (usage : PyValue Exact) : UpstreamOutcome :=
  .response 200 none [encodeUtf8 (bodyWith usage)] .complete

/-- The response received. -/
def responseWith (usage : PyValue Exact) : UpstreamResponse where
  statusCode := 200
  content := encodeUtf8 (bodyWith usage)

/-- An object with one count. -/
def oneCount : PyValue Exact :=
  .dict [("prompt_tokens", .int 3)]

/-- A `json.loads` that reads plain UTF-8 and the mark of UTF-8 alone. -/
def utf8Only : List UInt8 → Except Exc (PyValue Exact) := fun _ =>
  .error (.valueError "'utf-8' codec can't decode the body")

/-- A body of the adapters' responses, as `response.json()` reads it. -/
theorem responseJson_responseWith (usage : PyValue Exact)
    (hdetected : detectEncoding (responseWith usage).content = .utf8)
    (hlegible : ∀ w ∈ (PyValue.dict [("usage", usage)]).parts, w.Legible)
    (hdepth : (PyValue.dict [("usage", usage)]).nesting ≤ Runtime.recursionLimit Exact) :
    PlainUtf8 (responseWith usage).content ∧
      responseJson utf8Only (responseWith usage).content = .ok (.dict [("usage", usage)]) := by
  have htext : decodeStrict (responseWith usage).content = some (bodyWith usage) :=
    decodeStrict_encodeUtf8 _
  refine ⟨⟨hdetected, _, htext⟩, ?_⟩
  rw [responseJson, loadsBytes_of_plainUtf8 hdetected htext]
  exact loads_dumps hlegible hdepth

/-- An object of counts is returned by both adapters. -/
theorem counted_completion :
    ∃ result, openrouterChatCompletions (F := Exact) asciiLower utf8Only 1000 "key" false 5
        (fun _ _ => completionWith oneCount) [] "m" = .ok result ∧
      CountedResult [("usage", oneCount)] result ∧
      SameAsOpenaiCompatible asciiLower (responseWith oneCount).content result := by
  have hrun : (requestWithRetries Exact asciiLower (.openrouter 1000)
      fun _ => completionWith oneCount).result = .ok (responseWith oneCount) := by
    decide +kernel
  obtain ⟨hplain, hpayload⟩ := responseJson_responseWith oneCount (by decide +kernel)
    (by
      simp only [oneCount, PyValue.parts, memberParts, List.append_nil, List.forall_mem_cons,
        PyValue.Legible]
      exact ⟨by decide, by decide, by decide, nofun⟩)
    (by decide)
  refine (openrouterChatCompletions_usage_iff (by decide) hrun hpayload).mpr
    ⟨.inr ⟨[("prompt_tokens", .int 3)], rfl, ?_⟩, hplain⟩
  intro key hkey
  simp only [usageKeys, List.mem_cons, List.not_mem_nil, or_false] at hkey
  rcases hkey with rfl | rfl | rfl
  · exact .inr ⟨3, rfl⟩
  · exact .inl rfl
  · exact .inl rfl

-- Behind a byte order mark, OpenRouter's adapter alone reads an object.
example : responseJson utf8Only [0xef, 0xbb, 0xbf, 0x7b, 0x7d] = .ok (.dict []) ∧
    loadsBody Exact [0xef, 0xbb, 0xbf, 0x7b, 0x7d] = .ok none :=
  ⟨rfl, rfl⟩

/-- A null in the place of the object raises in OpenRouter's adapter alone. -/
theorem null_usage_raises :
    (requestWithRetries Exact asciiLower (.openrouter 1000)
        fun _ => completionWith .none).result = .ok (responseWith .none) ∧
      responseJson utf8Only (responseWith .none).content =
        .ok (.dict [("usage", (.none : PyValue Exact))]) ∧
      openrouterChatCompletions (F := Exact) asciiLower utf8Only 1000 "key" false 5
          (fun _ _ => completionWith .none) [] "m" =
        .error (.inr (.attributeError "'NoneType' object has no attribute 'get'")) ∧
      ∃ result, openaiCompatibleChatCompletions (F := Exact) asciiLower "groq" 3 1000 "key" 5
          (fun _ _ => completionWith .none) [] "m" = .ok result := by
  have hrun : (requestWithRetries Exact asciiLower (.openrouter 1000)
      fun _ => completionWith .none).result = .ok (responseWith .none) := by
    decide +kernel
  have hother : (requestWithRetries Exact asciiLower (.openaiCompatible "groq" 3 1000)
      fun _ => completionWith .none).result = .ok (responseWith .none) := by
    decide +kernel
  have hlegible : ∀ w ∈ (PyValue.dict [("usage", (.none : PyValue Exact))]).parts, w.Legible := by
    simp [PyValue.parts, memberParts, PyValue.Legible]
  obtain ⟨-, hjson⟩ :=
    responseJson_responseWith .none (by decide +kernel) hlegible (by decide)
  have hparse : parseJson (F := Exact) (responseWith .none).content = .ok [("usage", .none)] := by
    have hloads := (loadsBody_some_iff Exact).mpr
      ⟨_, decodeStrict_encodeUtf8 _, loads_dumps hlegible (by decide)⟩
    have hbody : loadsBody Exact (responseWith .none).content =
        .ok (some (.dict [("usage", .none)])) := hloads
    rw [parseJson, hbody]
    rfl
  refine ⟨hrun, hjson, ?_, ?_⟩
  · unfold openrouterChatCompletions
    dsimp only
    rw [if_neg (by decide), hrun, ok_bind, if_neg (by decide +kernel), hjson]
    rfl
  · unfold openaiCompatibleChatCompletions
    dsimp only
    rw [if_neg (by decide), hother, ok_bind, hparse]
    exact ⟨_, rfl⟩

end Providers
end FreeLunch
