import FreeLunch.Foundations.Groups
import FreeLunch.Store.StoredModels
import Mathlib.Data.Int.ConditionallyCompleteOrder
import Mathlib.Data.Set.Card
import Mathlib.Data.String.Basic
import Mathlib.Data.Prod.Lex
import Mathlib.Order.WithBot

/-!
# The review of context failovers

The part of `get_token_estimation_review_summary` of `src/health.py` that counts the requests
which failed over from an exceeded context to a model with a larger one: the query of the log
rows, the loop that flushes the rows of each request, and the sorted listings.

Main results:

- Theorem `contextFailoverRecoveries_direct_iff`: the single pass computes the numbers of requests
  that the definition over all rows gives, exactly when `int()` accepts the windows it reads.
- Theorem `readableWindows_of_forall`: it accepts them when the log or the `models` table holds an
  integer for each row.

Current gaps:

- The other parts of the summary are left out: the failure rates, the mismatch ratios and the
  flags collected from all parts.
- A log without the columns that later migrations add reads as one whose rows hold null there.
-/

namespace FreeLunch
namespace Health

open FreeLunch.Runtime Python Store Writes Groups

/-! ## The rows -/

/-- The columns of a row of the `request_log` table that the review reads. -/
structure RequestLogRow where
  id : SqlInt
  requestId : Option String
  timestamp : String
  requestSource : String
  selectedModelId : String
  selectedProviderModelId : Option String
  selectedTokenizerFamily : Option String
  attemptIndex : Option SqlInt
  selectedContextWindow : Option SqlInt
  success : Option SqlInt
  gatewayErrorCategory : Option String

/-- A row of the query of the failovers. -/
structure FailoverRow (F : Type) where
  id : SqlInt
  requestId : String
  attemptIndex : Option SqlInt
  success : Option SqlInt
  gatewayErrorCategory : Option String
  selectedModelId : String
  providerModelId : String
  tokenizerFamily : String
  contextWindow : SqlValue F

/-- `TRIM`, which removes spaces only. -/
def sqlTrim (text : String) : String :=
  String.ofList
    (((text.toList.dropWhile (· == ' ')).reverse.dropWhile (· == ' ')).reverse)

/-- `NULLIF(TRIM(column), '')`. -/
def trimmed (column : Option String) : Option String :=
  (column.map sqlTrim).filter (· ≠ "")

/-- `int(value or 0)` of an integer column. -/
def columnInt (column : Option SqlInt) : Int :=
  (column.map Subtype.val).getD 0

section Review

variable {F : Type}

/-- The tokenizer family of a row, from the log or else from the model. -/
def tokenizerExpr (row : RequestLogRow) (model : Option (StoredRow F)) : String :=
  ((trimmed row.selectedTokenizerFamily).or (trimmed (model.bind (·.tokenizerFamily)))).getD
    "unknown"

/-- The provider's model of a row, from the log or else from the model. -/
def providerModelExpr (row : RequestLogRow) (model : Option (StoredRow F)) : String :=
  ((trimmed row.selectedProviderModelId).or (trimmed (model.map (·.providerModelId)))).getD
    row.selectedModelId

/-- A column whose null is another one's value. -/
def coalesce (column other : SqlValue F) : SqlValue F :=
  if column.isNull then other else column

/-- The context window of a row, from the log or else from the model. -/
def contextWindowExpr (row : RequestLogRow) (model : Option (StoredRow F)) : SqlValue F :=
  coalesce (row.selectedContextWindow.elim .null .integer)
    (coalesce (model.elim .null (·.contextWindow)) (.integer ⟨0, fitsInt64_zero⟩))

/-- The `WHERE` clause and the columns of the query. -/
def failoverRow (table : StoredTable F) (since : String) (row : RequestLogRow) :
    Option (FailoverRow F) :=
  if row.requestSource = "client" ∧ since ≤ row.timestamp then
    row.requestId.map fun requestId => {
      id := row.id
      requestId
      attemptIndex := row.attemptIndex
      success := row.success
      gatewayErrorCategory := row.gatewayErrorCategory
      selectedModelId := row.selectedModelId
      providerModelId := providerModelExpr row (table.row? row.selectedModelId)
      tokenizerFamily := tokenizerExpr row (table.row? row.selectedModelId)
      contextWindow := contextWindowExpr row (table.row? row.selectedModelId) }
  else none

/-- The rows of the review window, in storage order. -/
def windowRows (table : StoredTable F) (since : String) (log : List RequestLogRow) :
    List (FailoverRow F) :=
  log.filterMap (failoverRow table since)

/-- The sort key of the query; null comes first. -/
def FailoverRow.sortKey (row : FailoverRow F) : String ×ₗ (WithBot Int ×ₗ Int) :=
  toLex (row.requestId, toLex (row.attemptIndex.elim ⊥ fun n => n.val, row.id.val))

/-- `ORDER BY request_id, attempt_index ASC, id ASC`. -/
def SortedBefore (a b : FailoverRow F) : Prop :=
  a.sortKey ≤ b.sortKey

instance (a b : FailoverRow F) : Decidable (SortedBefore a b) :=
  inferInstanceAs (Decidable (_ ≤ _))

/-- The rows the loop reads. -/
def failoverRows (table : StoredTable F) (since : String) (log : List RequestLogRow) :
    List (FailoverRow F) :=
  (windowRows table since log).insertionSort SortedBefore

/-! ## The pass -/

/-- `_tokenizer_family_label`. -/
def tokenizerFamilyLabel (value : String) : String :=
  let normalized := strip value.toList
  if normalized = [] then "unknown" else String.ofList normalized

/-- `_provider_model_label`. -/
def providerModelLabel (providerModelId selectedModelId : String) : String :=
  let normalized := strip providerModelId.toList
  if normalized = [] then
    let fallback := strip selectedModelId.toList
    if fallback = [] then "unknown" else String.ofList fallback
  else String.ofList normalized

/-- The name of the tokenizer family of a failed row. -/
def FailoverRow.family (row : FailoverRow F) : String :=
  tokenizerFamilyLabel row.tokenizerFamily

/-- The names of the provider's model and of the tokenizer family of a failed row. -/
def FailoverRow.model (row : FailoverRow F) : String ×ₗ String :=
  toLex (providerModelLabel row.providerModelId row.selectedModelId, row.family)

/-- `int(row["success"] or 0) == 1`. -/
def FailoverRow.succeeded (row : FailoverRow F) : Bool :=
  columnInt row.success == 1

/-- A failure with the category `CONTEXT_EXCEEDED`. -/
def FailoverRow.exceededContext (row : FailoverRow F) : Bool :=
  columnInt row.success == 0 && row.gatewayErrorCategory.getD "" == "CONTEXT_EXCEEDED"

/-- What the loop has counted. -/
structure ReviewCounts where
  recoveredRequestIds : ℕ
  failoverByFamilyCounts : List (String × ℕ)
  failoverByModelCounts : List ((String ×ₗ String) × ℕ)

variable [Runtime F]

/-- The test of one success, which reads its window only if its index is larger. -/
def isLaterAndLarger (failed : FailoverRow F) (failedContextWindow : Int)
    (success : FailoverRow F) : Except Exc Bool :=
  if columnInt success.attemptIndex > columnInt failed.attemptIndex then do
    let contextWindow ← success.contextWindow.intOrZero
    return decide (contextWindow > failedContextWindow)
  else return false

/-- The `any` over the successes. -/
def isRecovered (successRows : List (FailoverRow F)) (failed : FailoverRow F) :
    Except Exc Bool := do
  let failedContextWindow ← failed.contextWindow.intOrZero
  successRows.anyM (isLaterAndLarger failed failedContextWindow)

/-- The failures of a request from which a later success recovered. -/
def recoveredFailures (rows : List (FailoverRow F)) : Except Exc (List (FailoverRow F)) :=
  keepM (isRecovered (rows.filter (·.succeeded))) (rows.filter (·.exceededContext))

/-- `_flush_request`. The sets are lists without repetition. -/
def flushRequest (counts : ReviewCounts) (rows : List (FailoverRow F)) :
    Except Exc ReviewCounts :=
  if rows = [] then return counts
  else do
    let recovered ← recoveredFailures rows
    let recoveredFamilies := (recovered.map (·.family)).dedup
    let recoveredModels := (recovered.map (·.model)).dedup
    return {
      recoveredRequestIds :=
        if recoveredFamilies ≠ [] ∨ recoveredModels ≠ [] then counts.recoveredRequestIds + 1
        else counts.recoveredRequestIds
      failoverByFamilyCounts := tallyFrom counts.failoverByFamilyCounts recoveredFamilies
      failoverByModelCounts := tallyFrom counts.failoverByModelCounts recoveredModels }

/-- The loop over the rows, with the flush at its end. -/
def reviewPass (rows : List (FailoverRow F)) : Except Exc ReviewCounts :=
  pass (·.requestId) flushRequest
    { recoveredRequestIds := 0, failoverByFamilyCounts := [], failoverByModelCounts := [] } rows

/-- `TOKEN_FAILOVER_RECOVERY_MIN_COUNT`. -/
def tokenFailoverRecoveryMinCount : ℕ := 3

/-- An entry of `by_tokenizer_family`. -/
structure FamilyRecoveries where
  tokenizerFamily : String
  recoveredRequests : ℕ
  flaggedForReview : Bool
deriving DecidableEq

/-- An entry of `by_provider_model`. -/
structure ModelRecoveries where
  providerModelId : String
  tokenizerFamily : String
  recoveredRequests : ℕ
  flaggedForReview : Bool
deriving DecidableEq

/-- `context_failover_recoveries`. -/
structure ContextFailoverRecoveries where
  totalRequests : ℕ
  byTokenizerFamily : List FamilyRecoveries
  byProviderModel : List ModelRecoveries
deriving DecidableEq

/-- The entry of a family and its counter. -/
def familyEntry (item : String × ℕ) : FamilyRecoveries where
  tokenizerFamily := item.1
  recoveredRequests := item.2
  flaggedForReview := decide (tokenFailoverRecoveryMinCount ≤ item.2)

/-- The entry of a model and its counter. -/
def modelEntry (item : (String ×ₗ String) × ℕ) : ModelRecoveries where
  providerModelId := (ofLex item.1).1
  tokenizerFamily := (ofLex item.1).2
  recoveredRequests := item.2
  flaggedForReview := decide (tokenFailoverRecoveryMinCount ≤ item.2)

/-- `context_failover_recoveries` of `get_token_estimation_review_summary`. -/
def contextFailoverRecoveries (table : StoredTable F) (since : String) (log : List RequestLogRow) :
    Except Exc ContextFailoverRecoveries := do
  let counts ← reviewPass (failoverRows table since log)
  return {
    totalRequests := counts.recoveredRequestIds
    byTokenizerFamily := (byCount counts.failoverByFamilyCounts).map familyEntry
    byProviderModel := (byCount counts.failoverByModelCounts).map modelEntry }

/-! ## The direct definition -/

/-- A later success with a strictly larger context window. -/
def Recovers (failed success : FailoverRow F) : Prop :=
  success.succeeded = true ∧ columnInt failed.attemptIndex < columnInt success.attemptIndex ∧
    ∃ n m, failed.contextWindow.intOrZero = .ok n ∧ success.contextWindow.intOrZero = .ok m ∧ n < m

/-- A failure of a request with an exceeded context that the request recovered from. -/
def RecoveredIn (rows : List (FailoverRow F)) (requestId : String) (failed : FailoverRow F) :
    Prop :=
  failed ∈ rows ∧ failed.requestId = requestId ∧ failed.exceededContext = true ∧
    ∃ success ∈ rows, success.requestId = requestId ∧ Recovers failed success

/-- The requests that recovered from a failure of which `p` holds. -/
def recoveredRequests (rows : List (FailoverRow F)) (p : FailoverRow F → Prop) : Set String :=
  {requestId | ∃ failed, RecoveredIn rows requestId failed ∧ p failed}

/-- The recoveries, defined over all rows at once. -/
structure DirectRecoveries (rows : List (FailoverRow F)) (result : ContextFailoverRecoveries) :
    Prop where
  totalRequests : result.totalRequests = (recoveredRequests rows fun _ => True).ncard
  mem_byTokenizerFamily : ∀ entry, entry ∈ result.byTokenizerFamily ↔
    entry.recoveredRequests =
        (recoveredRequests rows fun failed => failed.family = entry.tokenizerFamily).ncard ∧
      0 < entry.recoveredRequests ∧ (entry.flaggedForReview = true ↔ 3 ≤ entry.recoveredRequests)
  mem_byProviderModel : ∀ entry, entry ∈ result.byProviderModel ↔
    entry.recoveredRequests =
        (recoveredRequests rows fun failed =>
          failed.model = toLex (entry.providerModelId, entry.tokenizerFamily)).ncard ∧
      0 < entry.recoveredRequests ∧ (entry.flaggedForReview = true ↔ 3 ≤ entry.recoveredRequests)
  families_nodup : (result.byTokenizerFamily.map (·.tokenizerFamily)).Nodup
  models_nodup :
    (result.byProviderModel.map fun entry => (entry.providerModelId, entry.tokenizerFamily)).Nodup
  families_sorted : result.byTokenizerFamily.Pairwise fun a b =>
    b.recoveredRequests < a.recoveredRequests ∨
      a.recoveredRequests = b.recoveredRequests ∧ a.tokenizerFamily ≤ b.tokenizerFamily
  models_sorted : result.byProviderModel.Pairwise fun a b =>
    b.recoveredRequests < a.recoveredRequests ∨ a.recoveredRequests = b.recoveredRequests ∧
      (a.providerModelId < b.providerModelId ∨
        a.providerModelId = b.providerModelId ∧ a.tokenizerFamily ≤ b.tokenizerFamily)

omit [Runtime F] in
theorem pairwise_failoverRows (table : StoredTable F) (since : String) (log : List RequestLogRow) :
    (failoverRows table since log).Pairwise fun a b => a.requestId ≤ b.requestId := by
  unfold failoverRows
  have : Std.Total (SortedBefore (F := F)) := ⟨fun a b => le_total a.sortKey b.sortKey⟩
  have : IsTrans (FailoverRow F) SortedBefore := ⟨fun _ _ _ hab hbc => le_trans hab hbc⟩
  refine (List.pairwise_insertionSort SortedBefore _).imp ?_
  intro a b h
  unfold SortedBefore FailoverRow.sortKey at h
  exact (Prod.Lex.toLex_le_toLex'.mp h).1

omit [Runtime F] in
theorem mem_failoverRows_iff {table : StoredTable F} {since : String} {log : List RequestLogRow}
    {row : FailoverRow F} :
    row ∈ failoverRows table since log ↔ row ∈ windowRows table since log := by
  unfold failoverRows
  exact List.mem_insertionSort _

/-! ## One request -/

theorem isLaterAndLarger_eq_true_iff {failed success : FailoverRow F} {n : Int}
    (hn : failed.contextWindow.intOrZero = .ok n) (hsuccess : success.succeeded = true) :
    isLaterAndLarger failed n success = .ok true ↔ Recovers failed success := by
  unfold Recovers isLaterAndLarger
  rw [and_iff_right hsuccess]
  by_cases hlater : columnInt success.attemptIndex > columnInt failed.attemptIndex
  · rw [if_pos hlater, bind_ok_iff, and_iff_right hlater]
    constructor
    · rintro ⟨m, hm, h⟩
      cases hlt : decide (m > n) with
      | true => exact ⟨n, m, hn, hm, of_decide_eq_true hlt⟩
      | false =>
          rw [hlt] at h
          cases h
    · rintro ⟨n', m, hn', hm, hlt⟩
      rw [hn, Except.ok.injEq] at hn'
      refine ⟨m, hm, ?_⟩
      rw [decide_eq_true (hn' ▸ hlt : m > n)]
      rfl
  · rw [if_neg hlater]
    refine iff_of_false (fun h => ?_) fun h => hlater h.1
    cases h

/-- The window of a success is read only if it comes later. -/
theorem isLaterAndLarger_ok_iff {failed success : FailoverRow F} {n : Int} :
    (∃ b, isLaterAndLarger failed n success = .ok b) ↔
      (columnInt failed.attemptIndex < columnInt success.attemptIndex →
        ∃ m, success.contextWindow.intOrZero = .ok m) := by
  unfold isLaterAndLarger
  by_cases hlater : columnInt success.attemptIndex > columnInt failed.attemptIndex
  · rw [if_pos hlater, exists_bind_ok_iff]
    constructor
    · rintro ⟨m, hm, -⟩ _
      exact ⟨m, hm⟩
    · intro h
      obtain ⟨m, hm⟩ := h hlater
      exact ⟨m, hm, _, rfl⟩
  · rw [if_neg hlater]
    exact iff_of_true ⟨false, rfl⟩ fun h => absurd h hlater

/-- The `any` over a list of successes. -/
theorem anyM_isLaterAndLarger_eq_true_iff {failed : FailoverRow F} {n : Int}
    (hn : failed.contextWindow.intOrZero = .ok n) {successRows : List (FailoverRow F)}
    (hsuccess : ∀ success ∈ successRows, success.succeeded = true) {b : Bool}
    (h : successRows.anyM (isLaterAndLarger failed n) = .ok b) :
    b = true ↔ ∃ success ∈ successRows, Recovers failed success := by
  induction successRows with
  | nil =>
      cases h
      simp
  | cons success rest ih =>
      obtain ⟨hfirst, hrest⟩ := List.forall_mem_cons.mp hsuccess
      rw [List.anyM] at h
      obtain ⟨found, hfound, h⟩ := bind_ok_iff.mp h
      have hiff := isLaterAndLarger_eq_true_iff hn hfirst
      rw [hfound] at hiff
      rw [List.exists_mem_cons_iff]
      cases found with
      | true =>
          cases h
          constructor
          · intro _
            exact .inl (hiff.mp rfl)
          · intro _
            rfl
      | false =>
          rw [ih hrest h]
          constructor
          · intro hex
            exact .inr hex
          · rintro (hhead | hex)
            · cases hiff.mpr hhead
            · exact hex

/-- The failures kept for the rows of a request are those it recovered from. -/
theorem mem_recoveredFailures {rows recovered : List (FailoverRow F)} {requestId : String}
    (h : recoveredFailures (group (·.requestId) rows requestId) = .ok recovered)
    (failed : FailoverRow F) : failed ∈ recovered ↔ RecoveredIn rows requestId failed := by
  unfold recoveredFailures at h
  rw [mem_of_keepM_ok h, List.mem_filter, mem_group_iff]
  unfold RecoveredIn
  have hsuccesses : ∀ success ∈ (group (·.requestId) rows requestId).filter (·.succeeded),
      success.succeeded = true := fun success hsuccess => (List.mem_filter.mp hsuccess).2
  have hexists : (∃ success ∈ (group (·.requestId) rows requestId).filter (·.succeeded),
      Recovers failed success) ↔
      ∃ success ∈ rows, success.requestId = requestId ∧ Recovers failed success := by
    constructor
    · rintro ⟨success, hsuccess, hrecovers⟩
      obtain ⟨hmem, hid⟩ := mem_group_iff.mp (List.mem_filter.mp hsuccess).1
      exact ⟨success, hmem, hid, hrecovers⟩
    · rintro ⟨success, hmem, hid, hrecovers⟩
      exact ⟨success, List.mem_filter.mpr ⟨mem_group_iff.mpr ⟨hmem, hid⟩, hrecovers.1⟩, hrecovers⟩
  constructor
  · rintro ⟨⟨⟨hmem, hid⟩, hfailed⟩, hrecovered⟩
    obtain ⟨n, hn, hany⟩ := bind_ok_iff.mp hrecovered
    exact ⟨hmem, hid, hfailed,
      hexists.mp ((anyM_isLaterAndLarger_eq_true_iff hn hsuccesses hany).mp rfl)⟩
  · rintro ⟨hmem, hid, hfailed, hrecovers⟩
    refine ⟨⟨⟨hmem, hid⟩, hfailed⟩, ?_⟩
    have hkept := (keepM_ok_iff.mp ⟨recovered, h⟩) failed
      (List.mem_filter.mpr ⟨mem_group_iff.mpr ⟨hmem, hid⟩, hfailed⟩)
    obtain ⟨b, hb⟩ := hkept
    obtain ⟨n, hn, hany⟩ := bind_ok_iff.mp hb
    rw [hb, (anyM_isLaterAndLarger_eq_true_iff hn hsuccesses hany).mpr (hexists.mpr hrecovers)]

/-! ## The windows that are read -/

/-- `int()` accepts the windows of the later successes of the failure's request, up to the first
with a larger window. -/
def SuccessesReadable (rows : List (FailoverRow F)) (failed : FailoverRow F) : Prop :=
  ∀ before success after, rows = before ++ success :: after →
    success.requestId = failed.requestId → success.succeeded = true →
    columnInt failed.attemptIndex < columnInt success.attemptIndex →
    (∀ earlier ∈ before, earlier.requestId = failed.requestId → ¬ Recovers failed earlier) →
      ∃ m, success.contextWindow.intOrZero = .ok m

/-- `int()` accepts the windows that the pass reads: those of the failures with an exceeded
context, and of the later successes of their requests up to the recovery. -/
structure ReadableWindows (rows : List (FailoverRow F)) : Prop where
  failed : ∀ failed ∈ rows, failed.exceededContext = true →
    ∃ n, failed.contextWindow.intOrZero = .ok n
  success : ∀ failed ∈ rows, failed.exceededContext = true → SuccessesReadable rows failed

/-- The successes of a failure's request are searched exactly when their windows up to the
recovery are integers. -/
theorem anyM_isLaterAndLarger_ok_iff {rows : List (FailoverRow F)} {failed : FailoverRow F}
    {n : Int} (hn : failed.contextWindow.intOrZero = .ok n) :
    (∃ b, ((group (·.requestId) rows failed.requestId).filter (·.succeeded)).anyM
        (isLaterAndLarger failed n) = .ok b) ↔ SuccessesReadable rows failed := by
  unfold group SuccessesReadable
  rw [anyM_ok_iff, List.filter_filter, forall_split_filter_iff]
  refine forall_congr' fun before => forall_congr' fun success => forall_congr' fun after =>
    imp_congr_right fun _ => ?_
  have hrecovered : (∃ earlier ∈ before.filter
        (fun row => row.succeeded && decide (row.requestId = failed.requestId)),
        isLaterAndLarger failed n earlier = .ok true) ↔
      ∃ earlier ∈ before, earlier.requestId = failed.requestId ∧ Recovers failed earlier := by
    refine exists_congr fun earlier => ?_
    rw [List.mem_filter, Bool.and_eq_true, decide_eq_true_eq]
    constructor
    · rintro ⟨⟨hmem, hsucceeded, hid⟩, hhit⟩
      exact ⟨hmem, hid, (isLaterAndLarger_eq_true_iff hn hsucceeded).mp hhit⟩
    · rintro ⟨hmem, hid, hrecovers⟩
      exact ⟨⟨hmem, hrecovers.1, hid⟩,
        (isLaterAndLarger_eq_true_iff hn hrecovers.1).mpr hrecovers⟩
  rw [hrecovered, isLaterAndLarger_ok_iff, Bool.and_eq_true, decide_eq_true_eq]
  constructor
  · intro h hid hsucceeded hlater hnone
    rcases h ⟨hsucceeded, hid⟩ with hread | ⟨earlier, hmem, hid', hrecovers⟩
    · exact hread hlater
    · exact absurd hrecovers (hnone earlier hmem hid')
  · rintro h ⟨hsucceeded, hid⟩
    by_cases hsome : ∃ earlier ∈ before,
        earlier.requestId = failed.requestId ∧ Recovers failed earlier
    · exact .inr hsome
    · refine .inl fun hlater => h hid hsucceeded hlater fun earlier hmem hid' hrecovers => ?_
      exact hsome ⟨earlier, hmem, hid', hrecovers⟩

/-- A failure of a request is looked into exactly when its window and those of the successes up
to its recovery are integers. -/
theorem isRecovered_ok_iff {rows : List (FailoverRow F)} {failed : FailoverRow F} :
    (∃ b, isRecovered ((group (·.requestId) rows failed.requestId).filter (·.succeeded)) failed =
        .ok b) ↔
      (∃ n, failed.contextWindow.intOrZero = .ok n) ∧ SuccessesReadable rows failed := by
  unfold isRecovered
  rw [exists_bind_ok_iff]
  constructor
  · rintro ⟨n, hn, h⟩
    exact ⟨⟨n, hn⟩, (anyM_isLaterAndLarger_ok_iff hn).mp h⟩
  · rintro ⟨⟨n, hn⟩, h⟩
    exact ⟨n, hn, (anyM_isLaterAndLarger_ok_iff hn).mpr h⟩

/-- The failures of all requests are looked into exactly when all windows that are read are
integers. -/
theorem recoveredFailures_ok_iff {rows : List (FailoverRow F)} :
    (∀ requestId ∈ rows.map (·.requestId),
        ∃ recovered, recoveredFailures (group (·.requestId) rows requestId) = .ok recovered) ↔
      ReadableWindows rows := by
  unfold recoveredFailures
  simp only [keepM_ok_iff]
  constructor
  · intro h
    have hok : ∀ failed ∈ rows, failed.exceededContext = true → _ := fun failed hmem hfailed =>
      isRecovered_ok_iff.mp (h failed.requestId (List.mem_map.mpr ⟨failed, hmem, rfl⟩) failed
        (List.mem_filter.mpr ⟨mem_group_iff.mpr ⟨hmem, rfl⟩, hfailed⟩))
    exact ⟨fun failed hmem hfailed => (hok failed hmem hfailed).1,
      fun failed hmem hfailed => (hok failed hmem hfailed).2⟩
  · rintro h requestId - failed hfailed
    obtain ⟨hgroup, hexceeded⟩ := List.mem_filter.mp hfailed
    obtain ⟨hmem, rfl⟩ := mem_group_iff.mp hgroup
    exact isRecovered_ok_iff.mpr ⟨h.failed failed hmem hexceeded, h.success failed hmem hexceeded⟩

/-! ## All requests -/

/-- The counters after the recovered failures of one more request. -/
def ReviewCounts.add (counts : ReviewCounts) (recovered : List (FailoverRow F)) :
    ReviewCounts where
  recoveredRequestIds :=
    if recovered = [] then counts.recoveredRequestIds else counts.recoveredRequestIds + 1
  failoverByFamilyCounts :=
    tallyFrom counts.failoverByFamilyCounts (recovered.map (·.family)).dedup
  failoverByModelCounts := tallyFrom counts.failoverByModelCounts (recovered.map (·.model)).dedup

theorem flushRequest_eq (counts : ReviewCounts) (rows : List (FailoverRow F)) :
    flushRequest counts rows = (recoveredFailures rows).map counts.add := by
  unfold flushRequest
  by_cases hrows : rows = []
  · rw [if_pos hrows, hrows]
    rfl
  · rw [if_neg hrows]
    cases recoveredFailures rows with
    | error e => rfl
    | ok recovered =>
        cases recovered with
        | nil => rfl
        | cons first rest =>
            have hfamilies : ((first :: rest).map (·.family)).dedup ≠ [] := by
              intro hnil
              have hmem : first.family ∈ ((first :: rest).map (·.family)).dedup :=
                List.mem_dedup.mpr (by simp)
              rw [hnil] at hmem
              cases hmem
            simp only [ok_bind]
            rw [if_pos (Or.inl hfamilies), Except.map, ReviewCounts.add,
              if_neg (List.cons_ne_nil _ _)]
            rfl

omit [Runtime F] in
/-- The counters after the recovered failures of several requests. -/
theorem foldl_add (counts : ReviewCounts) (failures : List (List (FailoverRow F))) :
    failures.foldl ReviewCounts.add counts = {
      recoveredRequestIds := counts.recoveredRequestIds + (failures.filter (· ≠ [])).length
      failoverByFamilyCounts := tallyFrom counts.failoverByFamilyCounts
        (failures.flatMap fun recovered => (recovered.map (·.family)).dedup)
      failoverByModelCounts := tallyFrom counts.failoverByModelCounts
        (failures.flatMap fun recovered => (recovered.map (·.model)).dedup) } := by
  induction failures generalizing counts with
  | nil => rfl
  | cons recovered rest ih =>
      rw [List.foldl_cons, ih]
      unfold ReviewCounts.add
      simp only [List.flatMap_cons, ← tallyFrom_append]
      by_cases hnil : recovered = []
      · rw [if_pos hnil, List.filter_cons_of_neg (by simpa using hnil)]
      · rw [if_neg hnil, List.filter_cons_of_pos (by simpa using hnil), List.length_cons]
        rw [Nat.add_right_comm, Nat.add_assoc]

/-- The failures the pass keeps for a request. -/
def failuresOf (rows : List (FailoverRow F)) (requestId : String) : List (FailoverRow F) :=
  (recoveredFailures (group (·.requestId) rows requestId)).toOption.getD []

/-- The requests of the rows, with the failures that each recovered from. -/
structure Flushed (rows : List (FailoverRow F)) (requestIds : List String)
    (failures : String → List (FailoverRow F)) : Prop where
  nodup : requestIds.Nodup
  mem_iff : ∀ requestId, requestId ∈ requestIds ↔ requestId ∈ rows.map (·.requestId)
  failures_iff : ∀ requestId ∈ requestIds, ∀ failed,
    failed ∈ failures requestId ↔ RecoveredIn rows requestId failed

/-- The requests whose failures pass a test are those that recovered from such a failure. -/
theorem Flushed.length_filter {rows : List (FailoverRow F)} {requestIds : List String}
    {failures : String → List (FailoverRow F)} (h : Flushed rows requestIds failures)
    {p : FailoverRow F → Prop} {q : List (FailoverRow F) → Bool}
    (hq : ∀ recovered, q recovered = true ↔ ∃ failed ∈ recovered, p failed) :
    ((requestIds.map failures).filter q).length = (recoveredRequests rows p).ncard := by
  have hset : recoveredRequests rows p =
      ((requestIds.filter fun requestId => q (failures requestId)).toFinset : Set String) := by
    apply Set.ext
    intro requestId
    rw [List.coe_toFinset, Set.mem_ofPred_eq, List.mem_filter, hq]
    constructor
    · rintro ⟨failed, hrecovered, hp⟩
      have hmem : requestId ∈ requestIds :=
        (h.mem_iff requestId).mpr (List.mem_map.mpr ⟨failed, hrecovered.1, hrecovered.2.1⟩)
      exact ⟨hmem, failed, (h.failures_iff requestId hmem failed).mpr hrecovered, hp⟩
    · rintro ⟨hmem, failed, hfailed, hp⟩
      exact ⟨failed, (h.failures_iff requestId hmem failed).mp hfailed, hp⟩
  rw [hset, Set.ncard_coe_finset, List.toFinset_card_of_nodup (h.nodup.filter _),
    List.filter_map, List.length_map]
  rfl

/-- The pass over rows sorted by request adds up the recovered failures of each request. -/
theorem exists_requestIds_reviewPass {rows : List (FailoverRow F)}
    (hsorted : rows.Pairwise fun a b => a.requestId ≤ b.requestId) :
    ∃ requestIds : List String, requestIds.Nodup ∧
      (∀ requestId, requestId ∈ requestIds ↔ requestId ∈ rows.map (·.requestId)) ∧
      reviewPass rows = ((requestIds.map (group (·.requestId) rows)).mapM recoveredFailures).map
        fun failures => failures.foldl ReviewCounts.add
          { recoveredRequestIds := 0, failoverByFamilyCounts := []
            failoverByModelCounts := [] } := by
  have hempty : ∀ counts, flushRequest counts ([] : List (FailoverRow F)) = .ok counts :=
    fun _ => rfl
  obtain ⟨requestIds, hnodup, hmem, hpass⟩ := exists_keys_pass (·.requestId) hempty hsorted
  have hflush : (flushRequest : ReviewCounts → List (FailoverRow F) → _) =
      fun counts rows => (recoveredFailures rows).map (counts.add) := by
    funext counts rows
    exact flushRequest_eq counts rows
  refine ⟨requestIds, hnodup, hmem, ?_⟩
  unfold reviewPass
  rw [hpass, hflush, foldlM_map]

/-- The pass over sorted rows returns exactly when all windows it reads are integers. -/
theorem reviewPass_ok_iff {rows : List (FailoverRow F)}
    (hsorted : rows.Pairwise fun a b => a.requestId ≤ b.requestId) :
    (∃ counts, reviewPass rows = .ok counts) ↔ ReadableWindows rows := by
  obtain ⟨requestIds, -, hmem, hpass⟩ := exists_requestIds_reviewPass hsorted
  rw [hpass, ← recoveredFailures_ok_iff]
  simp only [← hmem]
  rw [← List.forall_mem_map (P := fun rows => ∃ recovered, recoveredFailures rows = .ok recovered),
    ← mapM_ok_iff]
  cases (requestIds.map (group (·.requestId) rows)).mapM recoveredFailures with
  | ok failures => exact iff_of_true ⟨_, rfl⟩ ⟨failures, rfl⟩
  | error e =>
      refine iff_of_false ?_ ?_
      · rintro ⟨counts, h⟩
        cases h
      · rintro ⟨failures, h⟩
        cases h

/-- The counters of the pass over rows sorted by request. -/
theorem exists_flushed_of_reviewPass {rows : List (FailoverRow F)} {counts : ReviewCounts}
    (hsorted : rows.Pairwise fun a b => a.requestId ≤ b.requestId)
    (h : reviewPass rows = .ok counts) :
    ∃ requestIds failures, Flushed rows requestIds failures ∧ counts = {
        recoveredRequestIds := ((requestIds.map failures).filter (· ≠ [])).length
        failoverByFamilyCounts := tallyFrom [] ((requestIds.map failures).flatMap
          fun recovered => (recovered.map (·.family)).dedup)
        failoverByModelCounts := tallyFrom [] ((requestIds.map failures).flatMap
          fun recovered => (recovered.map (·.model)).dedup) } := by
  obtain ⟨requestIds, hnodup, hmem, hpass⟩ := exists_requestIds_reviewPass hsorted
  rw [hpass] at h
  cases hfailures : (requestIds.map (group (·.requestId) rows)).mapM recoveredFailures with
  | error e =>
      rw [hfailures] at h
      cases h
  | ok lists =>
      refine ⟨requestIds, failuresOf rows, ⟨hnodup, hmem, fun requestId hid failed => ?_⟩, ?_⟩
      · obtain ⟨recovered, hrecovered⟩ := (mapM_ok_iff.mp ⟨lists, hfailures⟩) _
          (List.mem_map.mpr ⟨requestId, hid, rfl⟩)
        unfold failuresOf
        rw [hrecovered]
        exact mem_recoveredFailures hrecovered failed
      · have hlists : lists = requestIds.map (failuresOf rows) := by
          have hmap := map_of_mapM_ok (g := id)
            (h := fun rows => (recoveredFailures rows).toOption.getD [])
            (fun rows recovered hok => by rw [hok]; rfl) hfailures
          rw [List.map_id, List.map_map] at hmap
          exact hmap
        rw [hfailures, Except.map, Except.ok.injEq, foldl_add, Nat.zero_add, hlists] at h
        exact h.symm

/-! ## The listings -/

/-- A name is counted once for each request with a failure of that name. -/
theorem Flushed.mem_tally_iff {κ : Type} [DecidableEq κ] {rows : List (FailoverRow F)}
    {requestIds : List String} {failures : String → List (FailoverRow F)}
    (h : Flushed rows requestIds failures) (name : FailoverRow F → κ) (item : κ × ℕ) :
    item ∈ tallyFrom [] ((requestIds.map failures).flatMap
        fun recovered => (recovered.map name).dedup) ↔
      item.2 = (recoveredRequests rows fun failed => name failed = item.1).ncard ∧
        0 < item.2 := by
  rw [Groups.mem_tally_iff, count_flatMap (fun recovered => List.nodup_dedup _),
    h.length_filter (p := fun failed => name failed = item.1)]
  intro recovered
  rw [decide_eq_true_eq, List.mem_dedup, List.mem_map]

theorem nodup_byCount {κ : Type} [LinearOrder κ] (ks : List κ) :
    ((byCount (tallyFrom [] ks)).map Prod.fst).Nodup :=
  ((List.perm_insertionSort _ _).map Prod.fst).nodup_iff.mpr (counted_nil.tallyFrom ks).nodup

/-- The entries of the families counted. -/
theorem mem_map_familyEntry_iff {counts : List (String × ℕ)} {n : String → ℕ}
    (hcounts : ∀ item, item ∈ counts ↔ item.2 = n item.1 ∧ 0 < item.2)
    (entry : FamilyRecoveries) :
    entry ∈ (byCount counts).map familyEntry ↔
      entry.recoveredRequests = n entry.tokenizerFamily ∧ 0 < entry.recoveredRequests ∧
        (entry.flaggedForReview = true ↔ 3 ≤ entry.recoveredRequests) := by
  rw [List.mem_map]
  constructor
  · rintro ⟨item, hitem, rfl⟩
    obtain ⟨hcount, hpos⟩ := (hcounts item).mp (mem_byCount_iff.mp hitem)
    exact ⟨hcount, hpos, decide_eq_true_iff⟩
  · rintro ⟨hcount, hpos, hflag⟩
    refine ⟨(entry.tokenizerFamily, entry.recoveredRequests),
      mem_byCount_iff.mpr ((hcounts _).mpr ⟨hcount, hpos⟩), ?_⟩
    unfold familyEntry
    have hdecide : decide (tokenFailoverRecoveryMinCount ≤ entry.recoveredRequests) =
        entry.flaggedForReview := by
      rw [Bool.eq_iff_iff, decide_eq_true_iff, hflag]
      rfl
    rw [hdecide]

/-- The entries of the models counted. -/
theorem mem_map_modelEntry_iff {counts : List ((String ×ₗ String) × ℕ)}
    {n : String ×ₗ String → ℕ}
    (hcounts : ∀ item, item ∈ counts ↔ item.2 = n item.1 ∧ 0 < item.2)
    (entry : ModelRecoveries) :
    entry ∈ (byCount counts).map modelEntry ↔
      entry.recoveredRequests = n (toLex (entry.providerModelId, entry.tokenizerFamily)) ∧
        0 < entry.recoveredRequests ∧
        (entry.flaggedForReview = true ↔ 3 ≤ entry.recoveredRequests) := by
  rw [List.mem_map]
  constructor
  · rintro ⟨item, hitem, rfl⟩
    obtain ⟨hcount, hpos⟩ := (hcounts item).mp (mem_byCount_iff.mp hitem)
    exact ⟨hcount, hpos, decide_eq_true_iff⟩
  · rintro ⟨hcount, hpos, hflag⟩
    refine ⟨(toLex (entry.providerModelId, entry.tokenizerFamily), entry.recoveredRequests),
      mem_byCount_iff.mpr ((hcounts _).mpr ⟨hcount, hpos⟩), ?_⟩
    unfold modelEntry
    have hdecide : decide (tokenFailoverRecoveryMinCount ≤ entry.recoveredRequests) =
        entry.flaggedForReview := by
      rw [Bool.eq_iff_iff, decide_eq_true_iff, hflag]
      rfl
    rw [hdecide]
    rfl

/-- The window of a row of the query is an integer unless the log holds none and the `models`
table holds one that is no integer. -/
theorem readableWindows_of_forall {table : StoredTable F} {since : String}
    {log : List RequestLogRow}
    (h : ∀ logged ∈ log, logged.selectedContextWindow = none →
      ∀ model, table.row? logged.selectedModelId = some model →
        ∃ n, model.contextWindow.intOrZero = .ok n) :
    ReadableWindows (failoverRows table since log) := by
  have hwindow : ∀ row ∈ failoverRows table since log,
      ∃ n, row.contextWindow.intOrZero = .ok n := by
    intro row hrow
    obtain ⟨logged, hlogged, hsome⟩ := List.mem_filterMap.mp (mem_failoverRows_iff.mp hrow)
    unfold failoverRow at hsome
    split at hsome
    · obtain ⟨requestId, -, rfl⟩ := Option.map_eq_some_iff.mp hsome
      change ∃ n, (contextWindowExpr logged (table.row? logged.selectedModelId)).intOrZero = .ok n
      unfold contextWindowExpr
      cases hcolumn : logged.selectedContextWindow with
      | some n => exact ⟨n.val, rfl⟩
      | none =>
          cases hmodel : table.row? logged.selectedModelId with
          | none => exact ⟨0, rfl⟩
          | some model =>
              obtain ⟨n, hn⟩ := h logged hlogged hcolumn model hmodel
              cases hvalue : model.contextWindow with
              | null =>
                  simp only [Option.elim, hvalue]
                  exact ⟨0, rfl⟩
              | _ =>
                  rw [hvalue] at hn
                  simp only [Option.elim, hvalue]
                  exact ⟨n, hn⟩
    · cases hsome
  constructor
  · intro failed hmem _
    exact hwindow failed hmem
  · intro _ _ _ before success after hsplit _ _ _ _
    refine hwindow success ?_
    rw [hsplit]
    exact List.mem_append_right _ List.mem_cons_self

/-- What the pass counts over the sorted rows is what the definition over all rows gives. -/
theorem directRecoveries_of_reviewPass {table : StoredTable F} {since : String}
    {log : List RequestLogRow} {counts : ReviewCounts}
    (hpass : reviewPass (failoverRows table since log) = .ok counts) :
    DirectRecoveries (windowRows table since log) {
      totalRequests := counts.recoveredRequestIds
      byTokenizerFamily := (byCount counts.failoverByFamilyCounts).map familyEntry
      byProviderModel := (byCount counts.failoverByModelCounts).map modelEntry } := by
  have hrequests : ∀ p, recoveredRequests (failoverRows table since log) p =
      recoveredRequests (windowRows table since log) p := by
    intro p
    unfold recoveredRequests RecoveredIn
    simp only [mem_failoverRows_iff]
  obtain ⟨requestIds, failures, h, rfl⟩ :=
    exists_flushed_of_reviewPass (pairwise_failoverRows table since log) hpass
  constructor
  · rw [← hrequests]
    apply h.length_filter
    intro recovered
    cases recovered <;> simp
  · intro entry
    rw [← hrequests]
    exact mem_map_familyEntry_iff (n := fun family => (recoveredRequests _
      fun failed => failed.family = family).ncard) (h.mem_tally_iff (·.family)) entry
  · intro entry
    rw [← hrequests]
    exact mem_map_modelEntry_iff (n := fun model => (recoveredRequests _
      fun failed => failed.model = model).ncard) (h.mem_tally_iff (·.model)) entry
  · rw [List.map_map]
    exact nodup_byCount _
  · have hnames := (nodup_byCount (((requestIds.map failures).flatMap
      fun recovered => (recovered.map (·.model)).dedup))).map ofLex.injective
    rw [List.map_map] at hnames ⊢
    exact hnames
  · rw [List.pairwise_map]
    exact pairwise_byCount _
  · rw [List.pairwise_map]
    refine (pairwise_byCount _).imp ?_
    intro a b hbefore
    rcases hbefore with hlt | ⟨heq, hle⟩
    · exact .inl hlt
    · exact .inr ⟨heq, Prod.Lex.toLex_le_toLex.mp hle⟩

/-- The single pass over the sorted rows computes what the definition over all rows gives exactly
when `int()` accepts the windows it reads. -/
theorem contextFailoverRecoveries_direct_iff (table : StoredTable F) (since : String)
    (log : List RequestLogRow) :
    (∃ result, contextFailoverRecoveries table since log = .ok result ∧
        DirectRecoveries (windowRows table since log) result) ↔
      ReadableWindows (failoverRows table since log) := by
  rw [← reviewPass_ok_iff (pairwise_failoverRows table since log)]
  unfold contextFailoverRecoveries
  constructor
  · rintro ⟨result, hresult, -⟩
    obtain ⟨counts, hpass, -⟩ := bind_ok_iff.mp hresult
    exact ⟨counts, hpass⟩
  · rintro ⟨counts, hpass⟩
    rw [hpass]
    exact ⟨_, rfl, directRecoveries_of_reviewPass hpass⟩

end Review

/-- A model whose provider reported its context window as a text. -/
def textWindowModel : StoredRow Rat where
  id := "openrouter/a"
  name := "A"
  providerId := "openrouter"
  providerModelId := "a"
  contextWindow := .text "128k"
  maxOutputTokens := .null
  tokenizerFamily := some "llama"
  supportsTools := none
  supportsStreaming := none
  supportsVision := none
  supportsStructuredOutput := none
  supportsSystemMessages := none
  chatbotArenaElo := none
  openLlmScore := none
  providerRank := none
  openrouterRank := none
  isHealthy := none
  avgLatencyMs := none
  avgTtfbMs := none
  consecutiveFailures := none
  backoffLevel := none
  cooldownUntil := none
  compositeScore := none
  isActive := none

/-- A number of 16 bits in a column. -/
def smallColumn (n : Fin 65536) : SqlInt :=
  ⟨n.val, by
    unfold FitsInt64
    omega⟩

/-- An attempt of a client's request, on the model `openrouter/a`. -/
def loggedAttempt (id : Fin 65536) (requestId : String) (attemptIndex : Fin 65536)
    (contextWindow : Option (Fin 65536)) (failed : Bool) : RequestLogRow where
  id := smallColumn id
  requestId := some requestId
  timestamp := "2024-01-02T00:00:00Z"
  requestSource := "client"
  selectedModelId := "openrouter/a"
  selectedProviderModelId := some "a"
  selectedTokenizerFamily := some "llama"
  attemptIndex := some (smallColumn attemptIndex)
  selectedContextWindow := contextWindow.map smallColumn
  success := some (smallColumn (if failed then 0 else 1))
  gatewayErrorCategory := if failed then some "CONTEXT_EXCEEDED" else none

/-- Two requests whose first attempt exceeded the context; the second one's was logged without
its window. -/
def recoveryLog : List RequestLogRow :=
  [loggedAttempt 1 "r1" 0 (some 8192) true,
    loggedAttempt 2 "r1" 1 (some 32768) false,
    loggedAttempt 3 "r2" 0 none true,
    loggedAttempt 4 "r2" 1 (some 32768) false]

/-- A window that is a text costs the counts of all requests: the first one has recovered, and
the pass returns nothing. -/
theorem text_window_loses_counts :
    let table : StoredTable Rat := ⟨[textWindowModel], List.nodup_singleton _⟩
    "r1" ∈ recoveredRequests (windowRows table "2024-01-01T00:00:00Z" recoveryLog)
        (fun _ => True) ∧
      ¬ ∃ result,
        contextFailoverRecoveries table "2024-01-01T00:00:00Z" recoveryLog = .ok result ∧
        DirectRecoveries (windowRows table "2024-01-01T00:00:00Z" recoveryLog) result := by
  intro table
  constructor
  · refine ⟨_, ⟨List.mem_cons_self, rfl, by decide, _, List.mem_cons_of_mem _ List.mem_cons_self,
      rfl, by decide, by decide, 8192, 32768, rfl, rfl, by decide⟩, trivial⟩
  · rintro ⟨result, h, -⟩
    have hraised : contextFailoverRecoveries table "2024-01-01T00:00:00Z" recoveryLog =
        .error (.valueError "invalid literal for int() with base 10") := by
      decide +kernel
    rw [hraised] at h
    cases h

example :
    contextFailoverRecoveries ⟨[textWindowModel], List.nodup_singleton _⟩ "2024-01-01T00:00:00Z"
        (recoveryLog.take 2) =
      .ok { totalRequests := 1, byTokenizerFamily := [⟨"llama", 1, false⟩],
            byProviderModel := [⟨"a", "llama", 1, false⟩] } := by
  decide +kernel

end Health
end FreeLunch
