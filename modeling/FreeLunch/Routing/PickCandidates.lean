import FreeLunch.Python.Exact
import FreeLunch.Store.Models
import Mathlib.Data.List.Sort

/-!
# Candidate selection

`pick_candidates` of `src/routing.py`: the SQL filter, the tokenizer estimate, the
three orderings (explicit match, `:free` base match, preference sort), the
insertion of the fallback model and the final truncation, with what they raise.
The token estimate is a parameter.

Each stage that can raise has a plain counterpart, which says what it returns
where it does not; the rest of the argument is about these.  Python's `sorted` and SQLite's
`ORDER BY` are insertion sorts here; on comparisons that order the keys totally a stable sort has
one result.

Main results:

- Theorem `perm_orderOf`: every ordering is a permutation of the
  candidates.
- Theorem `pickCandidates_raised_iff`: the selection raises something other than
  `NoHealthyModelsError` exactly when a bound, a context window or an estimate
  cannot be read.
- Theorem `pickCandidates_noHealthyModels_iff`: that error is raised exactly when
  all of them can and no row satisfies the hard constraints.
- Theorem `pickCandidates_spec`: size, distinctness and soundness of the result,
  and the effect of the fallback model.

Current gaps:

- The sum of the failures and the backoff level of a row is in the range of a
  float.
-/

namespace FreeLunch
namespace Routing

open Python Store Writes

/-! ## Requests and candidates -/

/-- `NoHealthyModelsError`. -/
structure NoHealthyModelsError where
  message : String
deriving DecidableEq, Repr

/-- What `pick_candidates` raises. -/
inductive PickError where
  | noHealthyModels (error : NoHealthyModelsError)
  | raised (exc : Exc)
deriving DecidableEq, Repr

/-- `RoutingPreferences`. -/
structure RoutingPreferences where
  preference : String := "balanced"
  maxLatencyMs : Option Int := none
  minContextTokens : Option Int := none
deriving DecidableEq, Repr

/-- `RoutingRequirements`. -/
structure RoutingRequirements (F : Type) where
  requestedModel : Option String := none
  requiresTools : Bool := false
  requiresVision : Bool := false
  requiresStreaming : Bool := false
  requiresStructuredOutput : Bool := false
  requiresSystemMessages : Bool := true
  minContextWindow : Int := 0
  minOutputTokens : Int := 0
  tokenEstimationMessages : Option (List (PyValue F)) := none
  tokenEstimationTools : PyValue F := .none
  tokenEstimationResponseFormat : PyValue F := .none
  tokenEstimationSafetyBuffer : F

/-- `estimate_required_tokens` on messages, tools, response format, safety buffer,
tokenizer family and model hint. -/
abbrev EstimateRequiredTokens (F : Type) :=
  List (PyValue F) → PyValue F → PyValue F → F → String → String → Except Exc Int

/-- The dictionary `_serialize_candidate` builds from a row. -/
structure Candidate (F : Type) where
  id : String
  providerId : String
  providerModelId : String
  compositeScore : F
  avgLatencyMs : F
  avgTtfbMs : F
  contextWindow : Int
  consecutiveFailures : Int
  backoffLevel : Int
  tokenizerFamily : Option String

/-- What `pick_candidates` returns for each chosen candidate. -/
structure Routed where
  id : String
  providerId : String
  providerModelId : String
deriving DecidableEq, Repr

section Selection

variable {F : Type} [Runtime F] [FloatArith F]

omit [Runtime F] in
/-- The candidate of a row with a given context window. -/
def candidateWith (row : ModelRow F) (contextWindow : Int) : Candidate F where
  id := row.id
  providerId := row.providerId
  providerModelId := row.providerModelId
  compositeScore := floatOr row.compositeScore 0.0
  avgLatencyMs := floatOr row.avgLatencyMs 0.0
  avgTtfbMs := floatOr row.avgTtfbMs 0.0
  contextWindow := contextWindow
  consecutiveFailures := intOrZero row.consecutiveFailures
  backoffLevel := intOrZero row.backoffLevel
  tokenizerFamily := row.tokenizerFamily

/-- `_serialize_candidate`, whose `int` of the context window can raise. -/
def serializeCandidate (row : ModelRow F) : Except Exc (Candidate F) := do
  return candidateWith row (← row.contextWindow.intOrZero)

omit [FloatArith F] in
/-- `int(context_window or 0)`, where it returns. -/
def contextWindowOf (row : ModelRow F) : Int :=
  row.contextWindow.intOrZero.toOption.getD 0

/-- The candidate of a row, where it has one. -/
def candidateOf (row : ModelRow F) : Candidate F :=
  candidateWith row (contextWindowOf row)

omit [Runtime F] [FloatArith F] in
/-- The fields of a candidate that are returned. -/
def Candidate.routed (candidate : Candidate F) : Routed where
  id := candidate.id
  providerId := candidate.providerId
  providerModelId := candidate.providerModelId

omit [Runtime F] [FloatArith F] in
/-- The routed form of a row. -/
def routedRow (row : ModelRow F) : Routed where
  id := row.id
  providerId := row.providerId
  providerModelId := row.providerModelId

/-! ## Filtering -/

/-- An integer parameter of a query. -/
def bindInt (n : Int) : Except Exc SqlInt :=
  if h : FitsInt64 n then .ok ⟨n, h⟩
  else .error (.overflowError "Python int too large to convert to SQLite INTEGER")

/-- A capability column against a required capability: `(? = 0 OR column = 1)`. -/
def capable (required : Bool) (column : Option Int) : Bool :=
  !required || column == some 1

omit [Runtime F] in
/-- The `WHERE` clause of `_load_eligible_candidates`.  A comparison with `NULL`
is not true, and text is above every number. -/
def eligible (now : String) (req : RoutingRequirements F) (row : ModelRow F) : Bool :=
  row.isActive == some 1 && row.isHealthy == some 1 &&
    (match row.cooldownUntil with
      | none => true
      | some cooldown => decide (cooldown < now)) &&
    capable req.requiresTools row.supportsTools &&
    capable req.requiresVision row.supportsVision &&
    capable req.requiresStreaming row.supportsStreaming &&
    capable req.requiresStructuredOutput row.supportsStructuredOutput &&
    capable req.requiresSystemMessages row.supportsSystemMessages &&
    row.contextWindow.ge req.minContextWindow &&
    (row.maxOutputTokens.isNull || row.maxOutputTokens.ge req.minOutputTokens)

omit [Runtime F] in
/-- `a < b` on a nullable score, with `NULL` below every number. -/
def scoreLt : Option F → Option F → Bool
  | none, none => false
  | none, some _ => true
  | some _, none => false
  | some x, some y => FloatArith.lt x y

omit [Runtime F] in
/-- The rows the query of `_load_eligible_candidates` returns. -/
def eligibleRows (table : ModelsTable F) (now : String) (req : RoutingRequirements F) :
    List (ModelRow F) :=
  (table.rows.filter (eligible now req)).insertionSort fun a b =>
    scoreLt a.compositeScore b.compositeScore = false

/-- `_load_eligible_candidates`, whose query binds the two bounds. -/
def loadEligibleCandidates (table : ModelsTable F) (now : String)
    (req : RoutingRequirements F) : Except Exc (List (Candidate F)) := do
  let _ ← bindInt req.minContextWindow
  let _ ← bindInt req.minOutputTokens
  (eligibleRows table now req).mapM serializeCandidate

/-- The candidates of the rows the query returns. -/
def eligibleCandidates (table : ModelsTable F) (now : String) (req : RoutingRequirements F) :
    List (Candidate F) :=
  (eligibleRows table now req).map candidateOf

omit [Runtime F] [FloatArith F] in
/-- The test of `_filter_candidates_by_tokenizer_estimate` on one candidate. -/
def fitsEstimate (estimate : EstimateRequiredTokens F) (req : RoutingRequirements F)
    (candidate : Candidate F) : Except Exc Bool :=
  match req.tokenEstimationMessages with
  | none => .ok true
  | some messages => do
      let tokens ← estimate messages req.tokenEstimationTools req.tokenEstimationResponseFormat
        req.tokenEstimationSafetyBuffer (candidate.tokenizerFamily.getD "")
        candidate.providerModelId
      return decide (max req.minContextWindow tokens ≤ candidate.contextWindow)

omit [Runtime F] [FloatArith F] in
/-- `_filter_candidates_by_tokenizer_estimate`. -/
def filterCandidatesByTokenizerEstimate (estimate : EstimateRequiredTokens F)
    (candidates : List (Candidate F)) (req : RoutingRequirements F) :
    Except Exc (List (Candidate F)) :=
  keepM (fitsEstimate estimate req) candidates

omit [Runtime F] [FloatArith F] in
/-- The answer of the test, where it returns. -/
def fits (estimate : EstimateRequiredTokens F) (req : RoutingRequirements F)
    (candidate : Candidate F) : Bool :=
  (fitsEstimate estimate req candidate).toOption.getD false

/-! ## Ordering -/

omit [Runtime F] [FloatArith F] in
/-- The candidates whose id or provider model id is the given name. -/
def namedCandidates (candidates : List (Candidate F)) (name : List Char) :
    List (Candidate F) :=
  candidates.filter fun candidate =>
    candidate.id.toList == name || candidate.providerModelId.toList == name

omit [Runtime F] [FloatArith F] in
/-- `_match_explicit_model`. -/
def matchExplicitModel (candidates : List (Candidate F)) (requestedModel : String) :
    List (Candidate F) :=
  let requested := requestedModel.toList
  let exact := namedCandidates candidates requested
  if !exact.isEmpty then exact
  else if endsWith requested ":free".toList then
    namedCandidates candidates (requested.take (requested.length - 5))
  else []

omit [Runtime F] in
/-- The latency `_preference_score` uses: the time to the first byte, else the
average latency, else a constant. -/
def effectiveLatency (candidate : Candidate F) : F :=
  if FloatArith.eq candidate.avgTtfbMs 0.0 then
    if FloatArith.eq candidate.avgLatencyMs 0.0 then 999999.0 else candidate.avgLatencyMs
  else candidate.avgTtfbMs

omit [Runtime F] in
/-- `_preference_score`, where it returns. -/
def preferenceScore (candidate : Candidate F) (preferences : Option RoutingPreferences) :
    List F :=
  match preferences with
  | none => [candidate.compositeScore, 0.0, 0.0, 0.0]
  | some preferences =>
      let latencyMs := effectiveLatency candidate
      let contextWindow := FloatArith.ofInt candidate.contextWindow
      let reliability :=
        FloatArith.ofInt (candidate.consecutiveFailures + candidate.backoffLevel)
      let bonus : F := 0.0
      let bonus :=
        match preferences.maxLatencyMs with
        | some limit => if FloatArith.intLt limit latencyMs then bonus - 25.0 else bonus
        | none => bonus
      let bonus :=
        match preferences.minContextTokens with
        | some tokens => if FloatArith.intLe tokens contextWindow then bonus + 10.0 else bonus
        | none => bonus
      let bonus :=
        if preferences.preference = "quality" then
          bonus + candidate.compositeScore * 0.20
        else if preferences.preference = "latency" then
          bonus + floatMax 0.0 (5000.0 - latencyMs) / 100.0
        else if preferences.preference = "context" then
          bonus + contextWindow / 1000.0
        else if preferences.preference = "reliability" then
          bonus - reliability * 15.0 + floatMax 0.0 (5000.0 - latencyMs) / 500.0
        else
          bonus + floatMax 0.0 (5000.0 - latencyMs) / 500.0 + contextWindow / 10000.0 -
            reliability * 2.0
      [candidate.compositeScore + bonus, candidate.compositeScore, -latencyMs, contextWindow]

/-- `_preference_score`, whose `float` of the context window can overflow. -/
def preferenceKey (preferences : Option RoutingPreferences) (candidate : Candidate F) :
    Except Exc (List F) :=
  match preferences with
  | none => .ok (preferenceScore candidate none)
  | some preferences =>
      (Runtime.floatOfInt (F := F) candidate.contextWindow).map fun _ =>
        preferenceScore candidate (some preferences)

omit [Runtime F] in
/-- Python's `<` on tuples of floats. -/
def tupleLt : List F → List F → Bool
  | x :: xs, y :: ys => if FloatArith.eq x y then tupleLt xs ys else FloatArith.lt x y
  | [], _ :: _ => true
  | _, [] => false

omit [Runtime F] in
/-- The order of the keys, the larger ones first. -/
def sortByPreference (candidates : List (Candidate F))
    (preferences : Option RoutingPreferences) : List (Candidate F) :=
  candidates.insertionSort fun a b =>
    tupleLt (preferenceScore a preferences) (preferenceScore b preferences) = false

/-- `sorted(candidates, key=_preference_score, reverse=True)`. -/
def sortedByPreference (candidates : List (Candidate F))
    (preferences : Option RoutingPreferences) : Except Exc (List (Candidate F)) := do
  let _ ← candidates.mapM (preferenceKey preferences)
  return sortByPreference candidates preferences

omit [Runtime F] [FloatArith F] in
/-- The explicit matches and the candidates without them. -/
def explicitFirst (candidates : List (Candidate F)) (requestedModel : String) :
    List (Candidate F) :=
  let explicit := matchExplicitModel candidates requestedModel
  explicit ++ candidates.filter fun candidate =>
    !(explicit.map Candidate.id).contains candidate.id

/-- The ordering stage of `pick_candidates`. -/
def orderCandidates (candidates : List (Candidate F)) (requestedModel : String)
    (preferences : Option RoutingPreferences) : Except Exc (List (Candidate F)) :=
  if requestedModel != "auto" then
    if !(matchExplicitModel candidates requestedModel).isEmpty then
      .ok (explicitFirst candidates requestedModel)
    else sortedByPreference candidates preferences
  else sortedByPreference candidates preferences

omit [Runtime F] in
/-- The order of the candidates, where it can be computed. -/
def orderOf (candidates : List (Candidate F)) (requestedModel : String)
    (preferences : Option RoutingPreferences) : List (Candidate F) :=
  if requestedModel != "auto" then
    if !(matchExplicitModel candidates requestedModel).isEmpty then
      explicitFirst candidates requestedModel
    else sortByPreference candidates preferences
  else sortByPreference candidates preferences

/-! ## Selection -/

/-- The slice `items[:n]`. -/
def sliceTo {α : Type} (n : Int) (items : List α) : List α :=
  if 0 ≤ n then items.take n.toNat else items.take (items.length - (-n).toNat)

omit [Runtime F] [FloatArith F] in
/-- The fallback stage of `pick_candidates`: a fallback that is a candidate but
not among the first `limit` ones is spliced in at position `limit - 1`. -/
def insertFallback (candidates ordered : List (Candidate F)) (fallbackModelId : String)
    (limit : Int) : List (Candidate F) :=
  match candidates.find? fun candidate => candidate.id == fallbackModelId with
  | none => ordered
  | some fallback =>
      if (sliceTo limit ordered).all fun candidate => candidate.id != fallbackModelId then
        ordered.take (max (limit - 1) 0).toNat ++ [fallback] ++
          ordered.drop (max (limit - 1) 0).toNat
      else ordered

omit [Runtime F] [FloatArith F] in
/-- The fallback stage with the optional fallback id; an empty id is no fallback. -/
def withFallback (candidates ordered : List (Candidate F)) (fallbackModelId : Option String)
    (limit : Int) : List (Candidate F) :=
  match fallbackModelId with
  | some fallback =>
      if fallback != "" then insertFallback candidates ordered fallback limit else ordered
  | none => ordered

omit [Runtime F] [FloatArith F] in
/-- `effective_req`: the preference raises the requested context. -/
def effectiveRequirements (req : RoutingRequirements F)
    (preferences : Option RoutingPreferences) : RoutingRequirements F :=
  match preferences.bind RoutingPreferences.minContextTokens with
  | some tokens => { req with minContextWindow := max req.minContextWindow tokens }
  | none => req

/-- The candidates after both filters. -/
def filteredCandidates (estimate : EstimateRequiredTokens F) (table : ModelsTable F)
    (now : String) (req : RoutingRequirements F) : List (Candidate F) :=
  (eligibleCandidates table now req).filter (fits estimate req)

/-- `value or "auto"` of the requested model. -/
def requestedOrAuto (requestedModel : Option String) : String :=
  match requestedModel with
  | some model => if model = "" then "auto" else model
  | none => "auto"

/-- A stage that raises something else. -/
def raising {α : Type} (x : Except Exc α) : Except PickError α :=
  x.mapError .raised

/-- `pick_candidates` at the time `now`. -/
def pickCandidates (estimate : EstimateRequiredTokens F) (table : ModelsTable F)
    (now : String) (req : RoutingRequirements F) (preferences : Option RoutingPreferences)
    (fallbackModelId : Option String) (limit : Int) : Except PickError (List Routed) := do
  let req := effectiveRequirements req preferences
  let candidates ← raising (loadEligibleCandidates table now req)
  let candidates ← raising (filterCandidatesByTokenizerEstimate estimate candidates req)
  if candidates.isEmpty then
    .error (.noHealthyModels ⟨"No healthy, capability-compatible models are available"⟩)
  else do
    let ordered ← raising
      (orderCandidates candidates (requestedOrAuto req.requestedModel) preferences)
    let ordered := withFallback candidates ordered fallbackModelId limit
    return (sliceTo limit ordered).map Candidate.routed

/-! ## The hard constraints -/

/-- What a row must satisfy to be a candidate. -/
structure Satisfies (estimate : EstimateRequiredTokens F) (now : String)
    (req : RoutingRequirements F) (preferences : Option RoutingPreferences)
    (row : ModelRow F) : Prop where
  active : row.isActive = some 1
  healthy : row.isHealthy = some 1
  cooled : ∀ cooldown, row.cooldownUntil = some cooldown → cooldown < now
  tools : req.requiresTools = true → row.supportsTools = some 1
  vision : req.requiresVision = true → row.supportsVision = some 1
  streaming : req.requiresStreaming = true → row.supportsStreaming = some 1
  structuredOutput :
    req.requiresStructuredOutput = true → row.supportsStructuredOutput = some 1
  systemMessages : req.requiresSystemMessages = true → row.supportsSystemMessages = some 1
  output : row.maxOutputTokens.isNull = true ∨
    row.maxOutputTokens.ge req.minOutputTokens = true
  context : row.contextWindow.ge (effectiveRequirements req preferences).minContextWindow = true
  estimate : ∀ messages, req.tokenEstimationMessages = some messages →
    ∃ tokens, estimate messages req.tokenEstimationTools req.tokenEstimationResponseFormat
      req.tokenEstimationSafetyBuffer (row.tokenizerFamily.getD "") row.providerModelId =
        .ok tokens ∧
      max (effectiveRequirements req preferences).minContextWindow tokens ≤ contextWindowOf row

/-- Both filters together, on a row. -/
def passes (estimate : EstimateRequiredTokens F) (now : String)
    (req : RoutingRequirements F) (preferences : Option RoutingPreferences)
    (row : ModelRow F) : Bool :=
  eligible now (effectiveRequirements req preferences) row &&
    fits estimate (effectiveRequirements req preferences) (candidateOf row)

omit [Runtime F] [FloatArith F] in
theorem capable_iff {required : Bool} {column : Option Int} :
    capable required column = true ↔ (required = true → column = some 1) := by
  unfold capable
  cases required <;> simp

omit [Runtime F] in
/-- The `WHERE` clause, read as constraints. -/
theorem eligible_iff {now : String} {req : RoutingRequirements F} {row : ModelRow F} :
    eligible now req row = true ↔
      row.isActive = some 1 ∧ row.isHealthy = some 1 ∧
      (∀ cooldown, row.cooldownUntil = some cooldown → cooldown < now) ∧
      (req.requiresTools = true → row.supportsTools = some 1) ∧
      (req.requiresVision = true → row.supportsVision = some 1) ∧
      (req.requiresStreaming = true → row.supportsStreaming = some 1) ∧
      (req.requiresStructuredOutput = true → row.supportsStructuredOutput = some 1) ∧
      (req.requiresSystemMessages = true → row.supportsSystemMessages = some 1) ∧
      row.contextWindow.ge req.minContextWindow = true ∧
      (row.maxOutputTokens.isNull = true ∨
        row.maxOutputTokens.ge req.minOutputTokens = true) := by
  unfold eligible
  simp only [Bool.and_eq_true, Bool.or_eq_true, capable_iff, beq_iff_eq, and_assoc]
  cases row.cooldownUntil <;> simp

omit [Runtime F] [FloatArith F] in
/-- The effective request differs from the request in its context bound. -/
theorem effectiveRequirements_eq (req : RoutingRequirements F)
    (preferences : Option RoutingPreferences) :
    effectiveRequirements req preferences =
      { req with
        minContextWindow := (effectiveRequirements req preferences).minContextWindow } := by
  unfold effectiveRequirements
  cases preferences.bind RoutingPreferences.minContextTokens <;> rfl

omit [Runtime F] [FloatArith F] in
/-- A candidate fits when its estimate returns and its window has room for it. -/
theorem fits_iff {estimate : EstimateRequiredTokens F} {req : RoutingRequirements F}
    {candidate : Candidate F} :
    fits estimate req candidate = true ↔
      ∀ messages, req.tokenEstimationMessages = some messages →
        ∃ tokens, estimate messages req.tokenEstimationTools
            req.tokenEstimationResponseFormat req.tokenEstimationSafetyBuffer
            (candidate.tokenizerFamily.getD "") candidate.providerModelId = .ok tokens ∧
          max req.minContextWindow tokens ≤ candidate.contextWindow := by
  unfold fits fitsEstimate
  cases req.tokenEstimationMessages with
  | none => simp [Except.toOption]
  | some messages =>
      simp only [Option.some.injEq, forall_eq']
      cases estimate messages req.tokenEstimationTools req.tokenEstimationResponseFormat
          req.tokenEstimationSafetyBuffer (candidate.tokenizerFamily.getD "")
          candidate.providerModelId with
      | error exc => simp [bind, Except.bind, Except.toOption]
      | ok tokens => simp [bind, Except.bind, pure, Except.pure, Except.toOption]

/-- The two filters let exactly the rows with the hard constraints through. -/
theorem satisfies_iff_passes {estimate : EstimateRequiredTokens F} {now : String}
    {req : RoutingRequirements F} {preferences : Option RoutingPreferences}
    {row : ModelRow F} :
    Satisfies estimate now req preferences row ↔
      passes estimate now req preferences row = true := by
  unfold passes
  rw [Bool.and_eq_true, eligible_iff, fits_iff, effectiveRequirements_eq]
  constructor
  · intro h
    exact ⟨⟨h.active, h.healthy, h.cooled, h.tools, h.vision, h.streaming, h.structuredOutput,
      h.systemMessages, h.context, h.output⟩, h.estimate⟩
  · rintro ⟨⟨hactive, hhealthy, hcooled, htools, hvision, hstreaming, hstructured, hsystem,
      hcontext, houtput⟩, hestimate⟩
    exact ⟨hactive, hhealthy, hcooled, htools, hvision, hstreaming, hstructured, hsystem,
      houtput, hcontext, hestimate⟩

instance (estimate : EstimateRequiredTokens F) (now : String) (req : RoutingRequirements F)
    (preferences : Option RoutingPreferences) (row : ModelRow F) :
    Decidable (Satisfies estimate now req preferences row) :=
  decidable_of_iff _ satisfies_iff_passes.symm

/-! ## The candidates and their order -/

/-- The candidates are the rows that pass, in some order. -/
theorem perm_filteredCandidates (estimate : EstimateRequiredTokens F)
    (table : ModelsTable F) (now : String) (req : RoutingRequirements F)
    (preferences : Option RoutingPreferences) :
    (filteredCandidates estimate table now (effectiveRequirements req preferences)).Perm
      ((table.rows.filter (passes estimate now req preferences)).map candidateOf) := by
  unfold filteredCandidates eligibleCandidates eligibleRows
  have hsorted := (List.perm_insertionSort
    (fun a b : ModelRow F => scoreLt a.compositeScore b.compositeScore = false)
    (table.rows.filter (eligible now (effectiveRequirements req preferences))))
  have hfiltered := (hsorted.map candidateOf).filter
    (fits estimate (effectiveRequirements req preferences))
  refine hfiltered.trans (List.Perm.of_eq ?_)
  rw [List.filter_map, List.filter_filter]
  congr 1
  apply List.filter_congr
  intro row _
  unfold passes
  rw [Bool.and_comm]
  rfl

theorem ids_filteredCandidates_nodup (estimate : EstimateRequiredTokens F)
    (table : ModelsTable F) (now : String) (req : RoutingRequirements F)
    (preferences : Option RoutingPreferences) :
    ((filteredCandidates estimate table now
      (effectiveRequirements req preferences)).map Candidate.id).Nodup := by
  have hperm := (perm_filteredCandidates estimate table now req preferences).map Candidate.id
  rw [hperm.nodup_iff, List.map_map]
  have hsub : ((table.rows.filter (passes estimate now req preferences)).map
      (Candidate.id ∘ candidateOf)).Sublist (table.rows.map ModelRow.id) :=
    List.filter_sublist.map ModelRow.id
  exact hsub.nodup table.ids_nodup

omit [Runtime F] [FloatArith F] in
/-- A list with unique ids is its named part and the rest. -/
theorem perm_explicit_append {candidates explicit : List (Candidate F)}
    (hsub : explicit.Sublist candidates) (hnodup : (candidates.map Candidate.id).Nodup) :
    (explicit ++ candidates.filter fun candidate =>
      !(explicit.map Candidate.id).contains candidate.id).Perm candidates := by
  induction hsub with
  | slnil => exact List.Perm.refl _
  | @cons explicit candidates candidate hsub ih =>
      rw [List.map_cons, List.nodup_cons] at hnodup
      have hfresh : candidate.id ∉ explicit.map Candidate.id := fun hmem =>
        hnodup.1 ((hsub.map Candidate.id).subset hmem)
      have hkeep : (!(explicit.map Candidate.id).contains candidate.id) = true := by
        simpa using hfresh
      rw [List.filter_cons, if_pos hkeep]
      exact List.perm_middle.trans ((ih hnodup.2).cons candidate)
  | @cons_cons explicit candidates candidate hsub ih =>
      rw [List.map_cons, List.nodup_cons] at hnodup
      have hdrop : (!((candidate :: explicit).map Candidate.id).contains candidate.id) =
          false := by
        simp
      rw [List.filter_cons, hdrop]
      simp only [Bool.false_eq_true, if_false, List.cons_append]
      refine List.Perm.cons candidate (List.Perm.trans ?_ (ih hnodup.2))
      apply List.Perm.append_left
      apply List.Perm.of_eq
      apply List.filter_congr
      intro other hother
      have hne : other.id ≠ candidate.id := fun h =>
        hnodup.1 (h ▸ List.mem_map_of_mem hother)
      simp [hne]

omit [Runtime F] [FloatArith F] in
theorem matchExplicitModel_sublist (candidates : List (Candidate F))
    (requestedModel : String) :
    (matchExplicitModel candidates requestedModel).Sublist candidates := by
  unfold matchExplicitModel namedCandidates
  dsimp only
  split
  · exact List.filter_sublist
  · split
    · exact List.filter_sublist
    · exact List.nil_sublist _

omit [Runtime F] in
/-- Every ordering is a permutation of the candidates. -/
theorem perm_orderOf {candidates : List (Candidate F)}
    (hnodup : (candidates.map Candidate.id).Nodup) (requestedModel : String)
    (preferences : Option RoutingPreferences) :
    (orderOf candidates requestedModel preferences).Perm candidates := by
  unfold orderOf sortByPreference
  split
  · split
    · exact perm_explicit_append (matchExplicitModel_sublist candidates requestedModel) hnodup
    · exact List.perm_insertionSort _ _
  · exact List.perm_insertionSort _ _

/-! ## Truncation and the fallback -/

theorem sliceTo_of_nonneg {α : Type} {n : Int} (h : 0 ≤ n) (items : List α) :
    sliceTo n items = items.take n.toNat := by
  unfold sliceTo
  rw [if_pos h]

/-- What the selection guarantees about a list made from the candidates. -/
structure Chosen (candidates chosen : List (Candidate F)) (limit : Int) : Prop where
  length_eq : chosen.length = min limit.toNat candidates.length
  ids_nodup : (chosen.map Candidate.id).Nodup
  subset : chosen ⊆ candidates

omit [Runtime F] [FloatArith F] in
/-- Truncating a permutation of the candidates. -/
theorem chosen_take {candidates ordered : List (Candidate F)}
    (hnodup : (candidates.map Candidate.id).Nodup) (hperm : ordered.Perm candidates)
    {limit : Int} (hlimit : 1 ≤ limit) :
    Chosen candidates (sliceTo limit ordered) limit := by
  rw [sliceTo_of_nonneg (by omega)]
  have hordered : (ordered.map Candidate.id).Nodup :=
    (hperm.map Candidate.id).nodup_iff.mpr hnodup
  refine ⟨?_, ?_, ?_⟩
  · rw [List.length_take, hperm.length_eq]
  · exact ((List.take_sublist limit.toNat ordered).map Candidate.id).nodup hordered
  · intro candidate hmem
    exact hperm.subset (List.mem_of_mem_take hmem)

omit [Runtime F] [FloatArith F] in
/-- The fallback stage either leaves the order alone or puts the fallback last in
the truncated list. -/
theorem sliceTo_insertFallback {candidates ordered : List (Candidate F)}
    (hperm : ordered.Perm candidates) (fallbackModelId : String) {limit : Int}
    (hlimit : 1 ≤ limit) :
    (sliceTo limit (insertFallback candidates ordered fallbackModelId limit) =
        sliceTo limit ordered ∧
      ((∀ candidate ∈ candidates, candidate.id ≠ fallbackModelId) ∨
        ∃ candidate ∈ sliceTo limit ordered, candidate.id = fallbackModelId)) ∨
    ∃ fallback ∈ candidates, fallback.id = fallbackModelId ∧
      (∀ candidate ∈ sliceTo limit ordered, candidate.id ≠ fallbackModelId) ∧
      limit.toNat < ordered.length ∧
      sliceTo limit (insertFallback candidates ordered fallbackModelId limit) =
        ordered.take (limit - 1).toNat ++ [fallback] := by
  have hslice : ∀ items : List (Candidate F), sliceTo limit items = items.take limit.toNat :=
    sliceTo_of_nonneg (by omega)
  unfold insertFallback
  cases hfind : candidates.find? fun candidate => candidate.id == fallbackModelId with
  | none =>
      refine .inl ⟨rfl, .inl ?_⟩
      intro candidate hmem
      have hne := List.find?_eq_none.mp hfind candidate hmem
      simpa using hne
  | some fallback =>
      have hmem : fallback ∈ candidates := List.mem_of_find?_eq_some hfind
      have hid : fallback.id = fallbackModelId := by
        have h := List.find?_some hfind
        simpa using h
      dsimp only
      by_cases hall : ((sliceTo limit ordered).all fun candidate =>
          candidate.id != fallbackModelId) = true
      · have habsent : ∀ candidate ∈ sliceTo limit ordered, candidate.id ≠ fallbackModelId := by
          intro candidate hcandidate
          have h := List.all_eq_true.mp hall candidate hcandidate
          simpa using h
        have hlong : limit.toNat < ordered.length := by
          by_contra hshort
          have htake : sliceTo limit ordered = ordered := by
            rw [hslice]
            exact List.take_of_length_le (by omega)
          rw [htake] at habsent
          exact habsent fallback (hperm.symm.subset hmem) hid
        refine .inr ⟨fallback, hmem, hid, habsent, hlong, ?_⟩
        rw [if_pos hall, hslice]
        have hmax : (max (limit - 1) 0).toNat = (limit - 1).toNat := by omega
        have hstart : (ordered.take (limit - 1).toNat ++ [fallback]).length =
            limit.toNat := by
          rw [List.length_append, List.length_take, List.length_singleton]
          omega
        rw [hmax, List.take_append_of_le_length (by omega),
          List.take_of_length_le (by omega)]
      · refine .inl ⟨by rw [if_neg hall], .inr ?_⟩
        simpa using hall

omit [Runtime F] [FloatArith F] in
/-- Replacing the last chosen candidate by a fallback that is not chosen. -/
theorem chosen_insertFallback {candidates ordered : List (Candidate F)}
    (hnodup : (candidates.map Candidate.id).Nodup) (hperm : ordered.Perm candidates)
    (fallbackModelId : String) {limit : Int} (hlimit : 1 ≤ limit) :
    Chosen candidates
      (sliceTo limit (insertFallback candidates ordered fallbackModelId limit)) limit := by
  have hbase := chosen_take hnodup hperm hlimit
  rcases sliceTo_insertFallback hperm fallbackModelId hlimit with
    ⟨hsame, -⟩ | ⟨fallback, hmem, hid, habsent, hlong, heq⟩
  · rw [hsame]
    exact hbase
  · rw [heq]
    rw [sliceTo_of_nonneg (by omega)] at hbase habsent
    have hshorter : (ordered.take (limit - 1).toNat).Sublist (ordered.take limit.toNat) :=
      List.take_sublist_take_left (by omega)
    refine ⟨?_, ?_, ?_⟩
    · rw [List.length_append, List.length_take, List.length_singleton, ← hperm.length_eq]
      omega
    · rw [List.map_append, List.map_singleton, List.nodup_append]
      refine ⟨(hshorter.map Candidate.id).nodup hbase.ids_nodup, List.nodup_singleton _, ?_⟩
      intro a ha b hb hab
      rw [List.mem_singleton] at hb
      obtain ⟨candidate, hcandidate, hcid⟩ := List.mem_map.mp ha
      exact habsent candidate (hshorter.subset hcandidate)
        (by rw [hcid, hab, hb, hid])
    · intro candidate hcandidate
      rcases List.mem_append.mp hcandidate with htake | hlast
      · exact hbase.subset (hshorter.subset htake)
      · rw [List.mem_singleton] at hlast
        exact hlast ▸ hmem

/-! ## The contract of the selection -/

/-- The list the truncation works on. -/
def orderedCandidates (estimate : EstimateRequiredTokens F) (table : ModelsTable F)
    (now : String) (req : RoutingRequirements F) (preferences : Option RoutingPreferences) :
    List (Candidate F) :=
  orderOf
    (filteredCandidates estimate table now (effectiveRequirements req preferences))
    (requestedOrAuto req.requestedModel) preferences

theorem perm_orderedCandidates (estimate : EstimateRequiredTokens F)
    (table : ModelsTable F) (now : String) (req : RoutingRequirements F)
    (preferences : Option RoutingPreferences) :
    (orderedCandidates estimate table now req preferences).Perm
      (filteredCandidates estimate table now (effectiveRequirements req preferences)) :=
  perm_orderOf
    (ids_filteredCandidates_nodup estimate table now req preferences) _ preferences

theorem mem_filteredCandidates {estimate : EstimateRequiredTokens F}
    {table : ModelsTable F} {now : String} {req : RoutingRequirements F}
    {preferences : Option RoutingPreferences} {candidate : Candidate F} :
    candidate ∈ filteredCandidates estimate table now (effectiveRequirements req preferences) ↔
      ∃ row ∈ table.rows, Satisfies estimate now req preferences row ∧
        candidateOf row = candidate := by
  rw [(perm_filteredCandidates estimate table now req preferences).mem_iff, List.mem_map]
  constructor
  · rintro ⟨row, hrow, heq⟩
    rw [List.mem_filter] at hrow
    exact ⟨row, hrow.1, satisfies_iff_passes.mpr hrow.2, heq⟩
  · rintro ⟨row, hmem, hsat, heq⟩
    exact ⟨row, List.mem_filter.mpr ⟨hmem, satisfies_iff_passes.mp hsat⟩, heq⟩

/-- There are as many candidates as rows with the hard constraints. -/
theorem length_filteredCandidates (estimate : EstimateRequiredTokens F)
    (table : ModelsTable F) (now : String) (req : RoutingRequirements F)
    (preferences : Option RoutingPreferences) :
    (filteredCandidates estimate table now
      (effectiveRequirements req preferences)).length =
      table.rows.countP fun row => decide (Satisfies estimate now req preferences row) := by
  rw [(perm_filteredCandidates estimate table now req preferences).length_eq,
    List.length_map, ← List.countP_eq_length_filter]
  apply List.countP_congr
  intro row _
  rw [decide_eq_true_iff, satisfies_iff_passes]

/-- The candidates run out exactly when no row satisfies the hard constraints. -/
theorem filteredCandidates_eq_nil_iff (estimate : EstimateRequiredTokens F)
    (table : ModelsTable F) (now : String) (req : RoutingRequirements F)
    (preferences : Option RoutingPreferences) :
    filteredCandidates estimate table now (effectiveRequirements req preferences) = [] ↔
      ∀ row ∈ table.rows, ¬ Satisfies estimate now req preferences row := by
  rw [List.eq_nil_iff_forall_not_mem]
  constructor
  · intro hnone row hrow hsat
    exact hnone _ (mem_filteredCandidates.mpr ⟨row, hrow, hsat, rfl⟩)
  · intro hnone candidate hmem
    obtain ⟨row, hrow, hsat, -⟩ := mem_filteredCandidates.mp hmem
    exact hnone row hrow hsat

/-! ## What a call raises -/

/-- The order does not go by a score that cannot be computed: the preferences are given, no
candidate has the requested name, and a context window is beyond the range of a float. -/
def Scorable (candidates : List (Candidate F)) (requestedModel : String)
    (preferences : Option RoutingPreferences) : Prop :=
  preferences ≠ none →
    (requestedModel = "auto" ∨ matchExplicitModel candidates requestedModel = []) →
      ∀ candidate ∈ candidates,
        ∃ x : F, Runtime.floatOfInt candidate.contextWindow = .ok x

/-- The window of each row that the query returns can be read. -/
def WindowsReadable (table : ModelsTable F) (now : String) (req : RoutingRequirements F) :
    Prop :=
  ∀ row ∈ table.rows, eligible now req row = true → ∃ n, row.contextWindow.intOrZero = .ok n

/-- What `pick_candidates` needs of a call: bounds of 64 bits, windows that `int` reads, and
estimates that return, each for the rows that the query returns, and scores. -/
structure Readable (estimate : EstimateRequiredTokens F) (table : ModelsTable F)
    (now : String) (req : RoutingRequirements F) (preferences : Option RoutingPreferences) :
    Prop where
  minContextWindow : FitsInt64 (effectiveRequirements req preferences).minContextWindow
  minOutputTokens : FitsInt64 req.minOutputTokens
  windows : WindowsReadable table now (effectiveRequirements req preferences)
  estimates : ∀ row ∈ table.rows,
    eligible now (effectiveRequirements req preferences) row = true →
      ∀ messages, req.tokenEstimationMessages = some messages →
        ∃ tokens, estimate messages req.tokenEstimationTools req.tokenEstimationResponseFormat
          req.tokenEstimationSafetyBuffer (row.tokenizerFamily.getD "") row.providerModelId =
            .ok tokens
  scores : Scorable
    (filteredCandidates estimate table now (effectiveRequirements req preferences))
    (requestedOrAuto req.requestedModel) preferences

theorem bindInt_ok_iff (n : Int) : (∃ bound, bindInt n = .ok bound) ↔ FitsInt64 n := by
  unfold bindInt
  by_cases h : FitsInt64 n
  · rw [dif_pos h]
    exact iff_of_true ⟨_, rfl⟩ h
  · rw [dif_neg h]
    refine iff_of_false ?_ h
    rintro ⟨bound, hbound⟩
    cases hbound

theorem serializeCandidate_ok_iff (row : ModelRow F) :
    (∃ candidate, serializeCandidate row = .ok candidate) ↔
      ∃ n, row.contextWindow.intOrZero = .ok n := by
  unfold serializeCandidate
  rw [exists_bind_ok_iff]
  constructor
  · rintro ⟨n, hn, -⟩
    exact ⟨n, hn⟩
  · rintro ⟨n, hn⟩
    exact ⟨n, hn, _, rfl⟩

theorem serializeCandidate_eq {row : ModelRow F} (h : ∃ n, row.contextWindow.intOrZero = .ok n) :
    serializeCandidate row = .ok (candidateOf row) := by
  obtain ⟨n, hn⟩ := h
  unfold serializeCandidate candidateOf contextWindowOf
  rw [hn]
  rfl

omit [Runtime F] in
theorem mem_eligibleRows {table : ModelsTable F} {now : String} {req : RoutingRequirements F}
    {row : ModelRow F} :
    row ∈ eligibleRows table now req ↔ row ∈ table.rows ∧ eligible now req row = true := by
  unfold eligibleRows
  rw [List.mem_insertionSort, List.mem_filter]

/-- The candidates can be loaded when the bounds can be bound and the windows read. -/
theorem loadEligibleCandidates_ok_iff (table : ModelsTable F) (now : String)
    (req : RoutingRequirements F) :
    (∃ candidates, loadEligibleCandidates table now req = .ok candidates) ↔
      FitsInt64 req.minContextWindow ∧ FitsInt64 req.minOutputTokens ∧
        WindowsReadable table now req := by
  have hrows : (∃ candidates, (eligibleRows table now req).mapM serializeCandidate =
      .ok candidates) ↔ WindowsReadable table now req := by
    rw [mapM_ok_iff]
    simp only [mem_eligibleRows, serializeCandidate_ok_iff, and_imp]
    rfl
  unfold loadEligibleCandidates
  rw [← bindInt_ok_iff, ← bindInt_ok_iff, ← hrows]
  simp only [exists_bind_ok_iff]
  constructor
  · rintro ⟨context, hcontext, output, houtput, h⟩
    exact ⟨⟨context, hcontext⟩, ⟨output, houtput⟩, h⟩
  · rintro ⟨⟨context, hcontext⟩, ⟨output, houtput⟩, h⟩
    exact ⟨context, hcontext, output, houtput, h⟩

theorem loadEligibleCandidates_eq {table : ModelsTable F} {now : String}
    {req : RoutingRequirements F}
    (h : FitsInt64 req.minContextWindow ∧ FitsInt64 req.minOutputTokens ∧
      WindowsReadable table now req) :
    loadEligibleCandidates table now req = .ok (eligibleCandidates table now req) := by
  obtain ⟨context, hcontext⟩ := (bindInt_ok_iff _).mpr h.1
  obtain ⟨output, houtput⟩ := (bindInt_ok_iff _).mpr h.2.1
  unfold loadEligibleCandidates
  rw [hcontext, ok_bind, houtput, ok_bind]
  apply mapM_eq_map
  intro row hrow
  obtain ⟨hmem, heligible⟩ := mem_eligibleRows.mp hrow
  exact serializeCandidate_eq (h.2.2 row hmem heligible)

omit [Runtime F] [FloatArith F] in
theorem fitsEstimate_ok_iff (estimate : EstimateRequiredTokens F)
    (req : RoutingRequirements F) (candidate : Candidate F) :
    (∃ fits, fitsEstimate estimate req candidate = .ok fits) ↔
      ∀ messages, req.tokenEstimationMessages = some messages →
        ∃ tokens, estimate messages req.tokenEstimationTools req.tokenEstimationResponseFormat
          req.tokenEstimationSafetyBuffer (candidate.tokenizerFamily.getD "")
          candidate.providerModelId = .ok tokens := by
  unfold fitsEstimate
  cases req.tokenEstimationMessages with
  | none => simp
  | some messages =>
      simp only [Option.some.injEq, forall_eq', exists_bind_ok_iff]
      constructor
      · rintro ⟨tokens, htokens, -⟩
        exact ⟨tokens, htokens⟩
      · rintro ⟨tokens, htokens⟩
        exact ⟨tokens, htokens, _, rfl⟩

omit [Runtime F] [FloatArith F] in
theorem fitsEstimate_eq {estimate : EstimateRequiredTokens F} {req : RoutingRequirements F}
    {candidate : Candidate F} (h : ∃ fits, fitsEstimate estimate req candidate = .ok fits) :
    fitsEstimate estimate req candidate = .ok (fits estimate req candidate) := by
  obtain ⟨answer, hanswer⟩ := h
  rw [fits, hanswer]
  rfl

/-- The candidates can be filtered when each of them has an estimate. -/
theorem filterCandidates_ok_iff (estimate : EstimateRequiredTokens F) (table : ModelsTable F)
    (now : String) (req : RoutingRequirements F) :
    (∃ kept, filterCandidatesByTokenizerEstimate estimate (eligibleCandidates table now req)
        req = .ok kept) ↔
      ∀ row ∈ table.rows, eligible now req row = true →
        ∃ fits, fitsEstimate estimate req (candidateOf row) = .ok fits := by
  unfold filterCandidatesByTokenizerEstimate eligibleCandidates
  rw [keepM_ok_iff, List.forall_mem_map]
  simp only [mem_eligibleRows, and_imp]

theorem filterCandidates_eq {estimate : EstimateRequiredTokens F} {table : ModelsTable F}
    {now : String} {req : RoutingRequirements F}
    (h : ∀ row ∈ table.rows, eligible now req row = true →
      ∃ fits, fitsEstimate estimate req (candidateOf row) = .ok fits) :
    filterCandidatesByTokenizerEstimate estimate (eligibleCandidates table now req) req =
      .ok (filteredCandidates estimate table now req) := by
  apply keepM_eq_filter
  intro candidate hcandidate
  obtain ⟨row, hrow, rfl⟩ := List.mem_map.mp hcandidate
  obtain ⟨hmem, heligible⟩ := mem_eligibleRows.mp hrow
  exact fitsEstimate_eq (h row hmem heligible)

theorem preferenceKey_ok_iff (preferences : Option RoutingPreferences)
    (candidate : Candidate F) :
    (∃ key, preferenceKey preferences candidate = .ok key) ↔
      (preferences ≠ none → ∃ x : F, Runtime.floatOfInt candidate.contextWindow = .ok x) := by
  unfold preferenceKey
  cases preferences with
  | none => simp
  | some preferences =>
      cases Runtime.floatOfInt (F := F) candidate.contextWindow <;> simp [Except.map]

theorem sortedByPreference_ok_iff (candidates : List (Candidate F))
    (preferences : Option RoutingPreferences) :
    (∃ ordered, sortedByPreference candidates preferences = .ok ordered) ↔
      (preferences ≠ none → ∀ candidate ∈ candidates,
        ∃ x : F, Runtime.floatOfInt candidate.contextWindow = .ok x) := by
  have hkeys : (∃ keys, candidates.mapM (preferenceKey preferences) = .ok keys) ↔
      (preferences ≠ none → ∀ candidate ∈ candidates,
        ∃ x : F, Runtime.floatOfInt candidate.contextWindow = .ok x) := by
    rw [mapM_ok_iff]
    simp only [preferenceKey_ok_iff]
    exact ⟨fun h hne candidate hmem => h candidate hmem hne,
      fun h candidate hmem hne => h hne candidate hmem⟩
  unfold sortedByPreference
  rw [← hkeys, exists_bind_ok_iff]
  constructor
  · rintro ⟨keys, h, -⟩
    exact ⟨keys, h⟩
  · rintro ⟨keys, h⟩
    exact ⟨keys, h, _, rfl⟩

theorem sortedByPreference_eq {candidates ordered : List (Candidate F)}
    {preferences : Option RoutingPreferences}
    (h : sortedByPreference candidates preferences = .ok ordered) :
    ordered = sortByPreference candidates preferences := by
  obtain ⟨keys, -, heq⟩ := bind_ok_iff.mp h
  exact (Except.ok.inj heq).symm

/-- The candidates can be ordered when their scores can be computed, if they are needed. -/
theorem orderCandidates_ok_iff (candidates : List (Candidate F)) (requestedModel : String)
    (preferences : Option RoutingPreferences) :
    (∃ ordered, orderCandidates candidates requestedModel preferences = .ok ordered) ↔
      Scorable candidates requestedModel preferences := by
  unfold orderCandidates Scorable
  by_cases hauto : requestedModel = "auto"
  · simp [hauto, sortedByPreference_ok_iff]
  · by_cases hnone : matchExplicitModel candidates requestedModel = []
    · simp [hauto, hnone, sortedByPreference_ok_iff]
    · simp [hauto, hnone]

theorem orderCandidates_eq {candidates : List (Candidate F)} {requestedModel : String}
    {preferences : Option RoutingPreferences}
    (h : Scorable candidates requestedModel preferences) :
    orderCandidates candidates requestedModel preferences =
      .ok (orderOf candidates requestedModel preferences) := by
  obtain ⟨ordered, hordered⟩ := (orderCandidates_ok_iff _ _ _).mpr h
  rw [hordered]
  unfold orderCandidates at hordered
  unfold orderOf
  split at hordered
  · next hnamed =>
      rw [if_pos hnamed]
      split at hordered
      · next hexplicit =>
          rw [if_pos hexplicit]
          exact hordered.symm
      · next hnone => rw [if_neg hnone, sortedByPreference_eq hordered]
  · next hauto => rw [if_neg hauto, sortedByPreference_eq hordered]

omit [Runtime F] [FloatArith F] in
@[simp]
theorem requestedModel_effective (req : RoutingRequirements F)
    (preferences : Option RoutingPreferences) :
    (effectiveRequirements req preferences).requestedModel = req.requestedModel := by
  rw [effectiveRequirements_eq]

omit [Runtime F] [FloatArith F] in
@[simp]
theorem minOutputTokens_effective (req : RoutingRequirements F)
    (preferences : Option RoutingPreferences) :
    (effectiveRequirements req preferences).minOutputTokens = req.minOutputTokens := by
  rw [effectiveRequirements_eq]

omit [Runtime F] [FloatArith F] in
/-- The estimate does not depend on the preferred context. -/
theorem fitsEstimate_effective_ok_iff (estimate : EstimateRequiredTokens F)
    (req : RoutingRequirements F) (preferences : Option RoutingPreferences)
    (candidate : Candidate F) :
    (∃ fits, fitsEstimate estimate (effectiveRequirements req preferences) candidate =
        .ok fits) ↔
      ∀ messages, req.tokenEstimationMessages = some messages →
        ∃ tokens, estimate messages req.tokenEstimationTools req.tokenEstimationResponseFormat
          req.tokenEstimationSafetyBuffer (candidate.tokenizerFamily.getD "")
          candidate.providerModelId = .ok tokens := by
  rw [fitsEstimate_ok_iff, effectiveRequirements_eq]

theorem raising_ok_bind {α β : Type} (a : α) (f : α → Except PickError β) :
    raising (.ok a) >>= f = f a :=
  rfl

theorem raising_error_bind {α β : Type} (exc : Exc) (f : α → Except PickError β) :
    raising (.error exc) >>= f = .error (.raised exc) :=
  rfl

/-- A readable call in one equation. -/
theorem pickCandidates_eq {estimate : EstimateRequiredTokens F} {table : ModelsTable F}
    {now : String} {req : RoutingRequirements F} {preferences : Option RoutingPreferences}
    (h : Readable estimate table now req preferences) (fallbackModelId : Option String)
    (limit : Int) :
    pickCandidates estimate table now req preferences fallbackModelId limit =
      if (filteredCandidates estimate table now
          (effectiveRequirements req preferences)).isEmpty then
        .error (.noHealthyModels ⟨"No healthy, capability-compatible models are available"⟩)
      else
        .ok ((sliceTo limit (withFallback
          (filteredCandidates estimate table now (effectiveRequirements req preferences))
          (orderedCandidates estimate table now req preferences) fallbackModelId
          limit)).map Candidate.routed) := by
  have hload : loadEligibleCandidates table now (effectiveRequirements req preferences) =
      .ok (eligibleCandidates table now (effectiveRequirements req preferences)) :=
    loadEligibleCandidates_eq
      ⟨h.minContextWindow, by simpa using h.minOutputTokens, h.windows⟩
  have hfilter : filterCandidatesByTokenizerEstimate estimate
      (eligibleCandidates table now (effectiveRequirements req preferences))
      (effectiveRequirements req preferences) =
      .ok (filteredCandidates estimate table now (effectiveRequirements req preferences)) := by
    refine filterCandidates_eq fun row hrow heligible => ?_
    exact (fitsEstimate_effective_ok_iff estimate req preferences _).mpr
      (h.estimates row hrow heligible)
  have horder := orderCandidates_eq h.scores
  unfold pickCandidates orderedCandidates
  dsimp only
  rw [hload, raising_ok_bind, hfilter, raising_ok_bind, requestedModel_effective, horder]
  rfl

/-- A call that does not raise something else is readable. -/
theorem readable_of_not_raised {estimate : EstimateRequiredTokens F} {table : ModelsTable F}
    {now : String} {req : RoutingRequirements F} {preferences : Option RoutingPreferences}
    {fallbackModelId : Option String} {limit : Int}
    (h : ∀ exc, pickCandidates estimate table now req preferences fallbackModelId limit ≠
      .error (.raised exc)) : Readable estimate table now req preferences := by
  unfold pickCandidates at h
  dsimp only at h
  cases hload : loadEligibleCandidates table now (effectiveRequirements req preferences) with
  | error exc =>
      rw [hload, raising_error_bind] at h
      exact absurd rfl (h exc)
  | ok candidates =>
      have hloads := (loadEligibleCandidates_ok_iff _ _ _).mp ⟨candidates, hload⟩
      rw [loadEligibleCandidates_eq hloads, raising_ok_bind] at h
      cases hfilter : filterCandidatesByTokenizerEstimate estimate
          (eligibleCandidates table now (effectiveRequirements req preferences))
          (effectiveRequirements req preferences) with
      | error exc =>
          rw [hfilter, raising_error_bind] at h
          exact absurd rfl (h exc)
      | ok kept =>
          have hestimates := (filterCandidates_ok_iff _ _ _ _).mp ⟨kept, hfilter⟩
          rw [filterCandidates_eq hestimates, raising_ok_bind, requestedModel_effective] at h
          refine ⟨hloads.1, by simpa using hloads.2.1, hloads.2.2, ?_, ?_⟩
          · intro row hrow heligible
            exact (fitsEstimate_effective_ok_iff _ _ _ _).mp (hestimates row hrow heligible)
          · split at h
            · next hempty =>
                rw [List.isEmpty_iff.mp hempty]
                intro _ _ candidate hcandidate
                cases hcandidate
            · rw [← orderCandidates_ok_iff]
              cases horder : orderCandidates (filteredCandidates estimate table now
                  (effectiveRequirements req preferences))
                  (requestedOrAuto req.requestedModel) preferences with
              | error exc =>
                  rw [horder, raising_error_bind] at h
                  exact absurd rfl (h exc)
              | ok ordered => exact ⟨ordered, rfl⟩

/-- A call raises something other than `NoHealthyModelsError` exactly when it is not
readable. -/
theorem pickCandidates_raised_iff (estimate : EstimateRequiredTokens F)
    (table : ModelsTable F) (now : String) (req : RoutingRequirements F)
    (preferences : Option RoutingPreferences) (fallbackModelId : Option String)
    (limit : Int) :
    (∃ exc, pickCandidates estimate table now req preferences fallbackModelId limit =
        .error (.raised exc)) ↔ ¬ Readable estimate table now req preferences := by
  constructor
  · rintro ⟨exc, h⟩ hreadable
    rw [pickCandidates_eq hreadable] at h
    split at h <;> cases h
  · intro h
    by_contra hno
    exact h (readable_of_not_raised fun exc hexc => hno ⟨exc, hexc⟩)

/-- A call that selects anything is readable. -/
theorem readable_of_ok {estimate : EstimateRequiredTokens F} {table : ModelsTable F}
    {now : String} {req : RoutingRequirements F} {preferences : Option RoutingPreferences}
    {fallbackModelId : Option String} {limit : Int} {result : List Routed}
    (h : pickCandidates estimate table now req preferences fallbackModelId limit =
      .ok result) : Readable estimate table now req preferences := by
  have hnot : ∀ exc, pickCandidates estimate table now req preferences fallbackModelId limit ≠
      .error (.raised exc) := by
    intro exc hexc
    rw [h] at hexc
    cases hexc
  exact readable_of_not_raised hnot

/-- `NoHealthyModelsError` is raised exactly when the call is readable and no row satisfies the
hard constraints. -/
theorem pickCandidates_noHealthyModels_iff (estimate : EstimateRequiredTokens F)
    (table : ModelsTable F) (now : String) (req : RoutingRequirements F)
    (preferences : Option RoutingPreferences) (fallbackModelId : Option String)
    (limit : Int) :
    (∃ err, pickCandidates estimate table now req preferences fallbackModelId limit =
        .error (.noHealthyModels err)) ↔
      Readable estimate table now req preferences ∧
        ∀ row ∈ table.rows, ¬ Satisfies estimate now req preferences row := by
  rw [← filteredCandidates_eq_nil_iff, ← List.isEmpty_iff]
  by_cases hreadable : Readable estimate table now req preferences
  · rw [pickCandidates_eq hreadable, and_iff_right hreadable]
    by_cases hempty : (filteredCandidates estimate table now
        (effectiveRequirements req preferences)).isEmpty = true
    · simp [hempty]
    · simp [hempty]
  · obtain ⟨exc, hexc⟩ := (pickCandidates_raised_iff estimate table now req preferences
      fallbackModelId limit).mpr hreadable
    rw [hexc]
    refine iff_of_false ?_ fun h => hreadable h.1
    rintro ⟨err, h⟩
    cases h

/-- What a successful selection returns. -/
theorem pickCandidates_eq_ok {estimate : EstimateRequiredTokens F} {table : ModelsTable F}
    {now : String} {req : RoutingRequirements F} {preferences : Option RoutingPreferences}
    {fallbackModelId : Option String} {limit : Int} {result : List Routed}
    (h : pickCandidates estimate table now req preferences fallbackModelId limit =
      .ok result) :
    result = (sliceTo limit (withFallback
      (filteredCandidates estimate table now (effectiveRequirements req preferences))
      (orderedCandidates estimate table now req preferences) fallbackModelId
      limit)).map Candidate.routed := by
  rw [pickCandidates_eq (readable_of_ok h)] at h
  split at h
  · cases h
  · cases h
    rfl

omit [Runtime F] [FloatArith F] in
/-- With or without a fallback, the truncated list is chosen from the candidates. -/
theorem chosen_withFallback {candidates ordered : List (Candidate F)}
    (hnodup : (candidates.map Candidate.id).Nodup) (hperm : ordered.Perm candidates)
    (fallbackModelId : Option String) {limit : Int} (hlimit : 1 ≤ limit) :
    Chosen candidates
      (sliceTo limit (withFallback candidates ordered fallbackModelId limit)) limit := by
  unfold withFallback
  split
  · split
    · exact chosen_insertFallback hnodup hperm _ hlimit
    · exact chosen_take hnodup hperm hlimit
  · exact chosen_take hnodup hperm hlimit

/-- Where the limit is positive it is met as far as there are candidates. -/
theorem length_of_pickCandidates {estimate : EstimateRequiredTokens F}
    {table : ModelsTable F} {now : String} {req : RoutingRequirements F}
    {preferences : Option RoutingPreferences} {fallbackModelId : Option String}
    {limit : Int} (hlimit : 1 ≤ limit) {result : List Routed}
    (h : pickCandidates estimate table now req preferences fallbackModelId limit =
      .ok result) :
    result.length = min limit.toNat
      (table.rows.countP fun row => decide (Satisfies estimate now req preferences row)) := by
  have hchosen := chosen_withFallback
    (ids_filteredCandidates_nodup estimate table now req preferences)
    (perm_orderedCandidates estimate table now req preferences) fallbackModelId hlimit
  rw [pickCandidates_eq_ok h, List.length_map, hchosen.length_eq, length_filteredCandidates]

theorem sliceTo_subset {α : Type} (n : Int) (items : List α) : sliceTo n items ⊆ items := by
  unfold sliceTo
  split <;> exact List.take_subset _ _

omit [Runtime F] [FloatArith F] in
/-- The fallback stage only rearranges and repeats candidates. -/
theorem withFallback_subset {candidates ordered : List (Candidate F)}
    (hordered : ordered ⊆ candidates) (fallbackModelId : Option String) (limit : Int) :
    withFallback candidates ordered fallbackModelId limit ⊆ candidates := by
  intro candidate hmem
  unfold withFallback insertFallback at hmem
  repeat' split at hmem
  all_goals try exact hordered hmem
  rename_i fallback hfind _
  rcases List.mem_append.mp hmem with hleft | hright
  · rcases List.mem_append.mp hleft with htake | hlast
    · exact hordered (List.mem_of_mem_take htake)
    · rw [List.mem_singleton.mp hlast]
      exact List.mem_of_find?_eq_some hfind
  · exact hordered (List.mem_of_mem_drop hright)

/-- Whatever the limit, every returned model satisfies the hard constraints. -/
theorem satisfies_of_mem_pickCandidates {estimate : EstimateRequiredTokens F}
    {table : ModelsTable F} {now : String} {req : RoutingRequirements F}
    {preferences : Option RoutingPreferences} {fallbackModelId : Option String}
    {limit : Int} {result : List Routed}
    (h : pickCandidates estimate table now req preferences fallbackModelId limit =
      .ok result) {routed : Routed} (hrouted : routed ∈ result) :
    ∃ row ∈ table.rows, routedRow row = routed ∧
      Satisfies estimate now req preferences row := by
  rw [pickCandidates_eq_ok h] at hrouted
  obtain ⟨candidate, hcandidate, hroutedEq⟩ := List.mem_map.mp hrouted
  have hordered := (perm_orderedCandidates estimate table now req preferences).subset
  have hmem := withFallback_subset hordered fallbackModelId limit
    (sliceTo_subset limit _ hcandidate)
  obtain ⟨row, hrow, hsat, hserialized⟩ := mem_filteredCandidates.mp hmem
  refine ⟨row, hrow, ?_, hsat⟩
  rw [← hroutedEq, ← hserialized]
  rfl

/-- A candidate is determined by its id. -/
theorem eq_of_mem_filteredCandidates {estimate : EstimateRequiredTokens F}
    {table : ModelsTable F} {now : String} {req : RoutingRequirements F}
    {preferences : Option RoutingPreferences} {a b : Candidate F}
    (ha : a ∈ filteredCandidates estimate table now (effectiveRequirements req preferences))
    (hb : b ∈ filteredCandidates estimate table now (effectiveRequirements req preferences))
    (hid : a.id = b.id) : a = b :=
  List.inj_on_of_nodup_map
    (ids_filteredCandidates_nodup estimate table now req preferences) ha hb hid

/-- A fallback that satisfies the constraints and is not in the baseline replaces
the last element of the baseline. -/
theorem pickCandidates_fallback {estimate : EstimateRequiredTokens F}
    {table : ModelsTable F} {now : String} {req : RoutingRequirements F}
    {preferences : Option RoutingPreferences} {limit : Int} (hlimit : 1 ≤ limit)
    {result baseline : List Routed} {row : ModelRow F} (hid : row.id ≠ "")
    (hresult : pickCandidates estimate table now req preferences (some row.id) limit =
      .ok result)
    (hbaseline : pickCandidates estimate table now req preferences none limit =
      .ok baseline)
    (hrow : row ∈ table.rows) (hsat : Satisfies estimate now req preferences row)
    (habsent : row.id ∉ baseline.map Routed.id) :
    result = baseline.dropLast ++ [routedRow row] := by
  have hcandidate := mem_filteredCandidates.mpr ⟨row, hrow, hsat, rfl⟩
  have hperm := perm_orderedCandidates estimate table now req preferences
  rw [pickCandidates_eq_ok hresult]
  rw [pickCandidates_eq_ok hbaseline] at habsent ⊢
  have hne : (row.id != "") = true := by simpa using hid
  simp only [withFallback, hne, if_true] at habsent ⊢
  rcases sliceTo_insertFallback hperm row.id hlimit with
    ⟨-, hnone | ⟨candidate, hmem, hcandidateId⟩⟩ | ⟨fallback, hmem, hfallback, -, hlong, heq⟩
  · exact absurd rfl (hnone _ hcandidate)
  · refine absurd ?_ habsent
    rw [List.map_map]
    exact List.mem_map.mpr ⟨candidate, hmem, hcandidateId⟩
  · have hsame : fallback = candidateOf row :=
      eq_of_mem_filteredCandidates hmem hcandidate hfallback
    rw [heq, sliceTo_of_nonneg (by omega), List.map_append, ← List.map_dropLast,
      List.dropLast_take hlong, hsame]
    have hpred : (limit - 1).toNat = limit.toNat - 1 := by omega
    rw [hpred]
    rfl

/-- The contract of `pick_candidates`. -/
theorem pickCandidates_spec (estimate : EstimateRequiredTokens F) (table : ModelsTable F)
    (now : String) (req : RoutingRequirements F) (preferences : Option RoutingPreferences)
    (fallbackModelId : Option String) {limit : Int} (hlimit : 1 ≤ limit) :
    ((∃ exc, pickCandidates estimate table now req preferences fallbackModelId limit =
        .error (.raised exc)) ↔ ¬ Readable estimate table now req preferences) ∧
    ((∃ err, pickCandidates estimate table now req preferences fallbackModelId limit =
        .error (.noHealthyModels err)) ↔
      Readable estimate table now req preferences ∧
        ∀ row ∈ table.rows, ¬ Satisfies estimate now req preferences row) ∧
    ∀ result, pickCandidates estimate table now req preferences fallbackModelId limit =
        .ok result →
      result.length = min limit.toNat
        (table.rows.countP fun row => decide (Satisfies estimate now req preferences row)) ∧
      (result.map Routed.id).Nodup ∧
      (∀ routed ∈ result, ∃ row ∈ table.rows, routedRow row = routed ∧
        Satisfies estimate now req preferences row) ∧
      ∀ baseline, pickCandidates estimate table now req preferences none limit =
          .ok baseline →
        ∀ row ∈ table.rows, row.id ≠ "" → fallbackModelId = some row.id →
          Satisfies estimate now req preferences row → row.id ∉ baseline.map Routed.id →
            result = baseline.dropLast ++ [routedRow row] := by
  refine ⟨pickCandidates_raised_iff estimate table now req preferences fallbackModelId limit,
    pickCandidates_noHealthyModels_iff estimate table now req preferences fallbackModelId limit,
    ?_⟩
  intro result hresult
  have hchosen := chosen_withFallback
    (ids_filteredCandidates_nodup estimate table now req preferences)
    (perm_orderedCandidates estimate table now req preferences) fallbackModelId hlimit
  refine ⟨length_of_pickCandidates hlimit hresult, ?_, ?_, ?_⟩
  · rw [pickCandidates_eq_ok hresult, List.map_map]
    exact hchosen.ids_nodup
  · intro routed hrouted
    exact satisfies_of_mem_pickCandidates hresult hrouted
  · intro baseline hbaseline row hrow hid hfallback hsat habsent
    rw [hfallback] at hresult
    exact pickCandidates_fallback hlimit hid hresult hbaseline hrow hsat habsent

end Selection

/-! ## The empty fallback id -/

/-- A discovered model with a name and a score, for small tables. -/
def sampleRow (id : String) (compositeScore : Rat) : ModelRow Rat :=
  ({ id := id, name := id, providerId := "p", providerModelId := id, providerBaseUrl := "",
      providerApiKeyEnv := "" : DiscoveredModel Rat }.newRow "2024-01-01T00:00:00Z").setScore
    compositeScore "2024-01-01T00:00:00Z"

/-- Two routable models, one of them with the empty id. -/
def sampleTable : ModelsTable Rat where
  rows := [sampleRow "a" 2, sampleRow "" 1]
  ids_nodup := by decide

/-- A plain chat request. -/
def plainRequest : RoutingRequirements Rat where
  tokenEstimationSafetyBuffer := 0

/-- The contract at a table of two models and a limit of one. -/
theorem pickCandidates_spec_sample :
    [routedRow (sampleRow "a" 2)].length = min (1 : Int).toNat
      (sampleTable.rows.countP fun row => decide (Satisfies (fun _ _ _ _ _ _ => .ok 0)
        "2024-01-02T00:00:00Z" plainRequest none row)) :=
  ((pickCandidates_spec (fun _ _ _ _ _ _ => .ok 0) sampleTable "2024-01-02T00:00:00Z"
    plainRequest none (some "a") (by decide : (1 : Int) ≤ 1)).2.2
      [routedRow (sampleRow "a" 2)] (by decide +kernel)).1

/-- An empty fallback id counts as none: the model with that id satisfies the
constraints and is not in the baseline, and the result is the baseline. -/
theorem empty_fallback_is_none :
    (∀ row ∈ sampleTable.rows, Satisfies (fun _ _ _ _ _ _ => .ok 0) "2024-01-02T00:00:00Z"
        plainRequest none row) ∧
      sampleRow "" 1 ∈ sampleTable.rows ∧
      pickCandidates (fun _ _ _ _ _ _ => .ok 0) sampleTable "2024-01-02T00:00:00Z" plainRequest
        none none 1 = .ok [routedRow (sampleRow "a" 2)] ∧
      pickCandidates (fun _ _ _ _ _ _ => .ok 0) sampleTable "2024-01-02T00:00:00Z" plainRequest
        none (some "") 1 = .ok [routedRow (sampleRow "a" 2)] ∧
      [routedRow (sampleRow "a" 2)] ≠
        [routedRow (sampleRow "a" 2)].dropLast ++ [routedRow (sampleRow "" 1)] := by
  decide +kernel

end Routing
end FreeLunch
