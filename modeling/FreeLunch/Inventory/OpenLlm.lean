import FreeLunch.Foundations.Maxima
import FreeLunch.Foundations.Writes
import FreeLunch.Python.Exact
import Mathlib.Algebra.Group.Nat.Defs

/-!
# The scores of the Open LLM leaderboard

`fetch_open_llm_scores` of `src/benchmarks.py` against the dataset server: the inner loop asks
for a page of rows and shrinks the page when the server rejects its length, the outer loop
takes the rows in and moves on by what it got.

Main results:

- Theorem `fetchRows_eq`: whatever the server sends, the fetch is one pass over the dataset.
- Theorem `fetchOpenLlmScores_iff`: the fetch processes every row once and maps each name to the
  maximum of its scores, the same for every server, exactly when each score can be converted
  and compared and each limit that is met can be read.

Current gaps:

- `str.lower` is a parameter.
- The client answers the requests one after another; the log of processed rows is kept beside
  the scores.
-/

namespace FreeLunch
namespace Inventory

open Maxima Python Writes

/-! ## Names and scores -/

/-- `_NOISE_TOKENS`. -/
def noiseTokens : List String :=
  ["free", "instruct", "chat", "preview"]

/-- `_OPEN_LLM_MAX_ROWS_PAGE_SIZE`. -/
def openLlmMaxRowsPageSize : Int := 100

/-- `[a-z0-9]`. -/
def isNameChar (c : Char) : Bool :=
  ('a' ≤ c && c ≤ 'z') || ('0' ≤ c && c ≤ '9')

/-- `re.sub(r"[^a-z0-9]+", " ", text)`, after a run of other characters or not. -/
def substituteOthers : Bool → List Char → List Char
  | _, [] => []
  | inRun, c :: rest =>
      if isNameChar c then c :: substituteOthers false rest
      else if inRun then substituteOthers true rest
      else ' ' :: substituteOthers true rest

/-- `text.split()`, with the word that is being read. -/
def splitWords (word : List Char) : List Char → List (List Char)
  | [] => if word.isEmpty then [] else [word]
  | c :: rest =>
      if isSpace c then
        if word.isEmpty then splitWords [] rest else word :: splitWords [] rest
      else splitWords (word ++ [c]) rest

/-- `normalize_model_name`. -/
def normalizeModelName (lower : String → String) (name : String) : String :=
  let cleaned := substituteOthers false (lower name).toList
  let tokens := ((splitWords [] cleaned).map String.ofList).filter fun token =>
    !noiseTokens.contains token
  " ".intercalate tokens

example : normalizeModelName (fun s => String.ofList (lowerAscii s.toList))
    "Meta-Llama/Llama-3.3-70B-Instruct:Free" = "meta llama llama 3 3 70b" := by
  decide +kernel

/-- `needle in text`. -/
def containsText (needle : List Char) : List Char → Bool
  | [] => needle.isEmpty
  | c :: rest => startsWith (c :: rest) needle || containsText needle rest

section OpenLlm

variable {F : Type} [Runtime F] [FloatArith F]

/-- A row of the dataset or an object around it. -/
abbrev Row (F : Type) := List (String × PyValue F)

/-- `row.get(key)`. -/
def rowGet (row : Row F) (key : String) : PyValue F :=
  (dictGet row key).getD .none

/-- `float(value)`, or `None` after a `TypeError` or a `ValueError`. -/
def convertScore (value : PyValue F) : Except Exc (Option F) :=
  match value.toFloat with
  | .ok score => .ok (some score)
  | .error (.typeError _) | .error (.valueError _) => .ok none
  | .error exc => .error exc

/-- `_safe_float`. -/
def safeFloat (value : PyValue F) : Except Exc (Option F) :=
  match value with
  | .none => .ok none
  | .str text => if text = "" then .ok none else convertScore (.str text)
  | value => convertScore value

/-- `_update_score`. -/
def updateScore (lower : String → String) (scores : List (String × F)) (modelName : String)
    (score : Option F) : List (String × F) :=
  let normalized := normalizeModelName lower modelName
  match score with
  | none => scores
  | some score =>
      if normalized = "" then scores
      else
        match dictGet scores normalized with
        | none => dictSet scores normalized score
        | some previous =>
            if FloatArith.lt previous score then dictSet scores normalized score else scores

/-- `_open_llm_model_name`. -/
def openLlmModelName (row : Row F) : String :=
  (((((rowGet row "fullname").orElse (rowGet row "eval_name")).orElse
    (rowGet row "model")).orElse (rowGet row "Model")).orElse (.str "")).toStr

/-- The first of some values that has a score. -/
def firstScore : List (PyValue F) → Except Exc (Option F)
  | [] => .ok none
  | value :: rest => do
      match ← safeFloat value with
      | some score => return some score
      | none => firstScore rest

/-- `"average" in str(key).strip().lower()`. -/
def isAverageKey (lower : String → String) (key : String) : Bool :=
  containsText "average".toList (lower (String.ofList (strip key.toList))).toList

/-- `_open_llm_average_score`. -/
def openLlmAverageScore (lower : String → String) (row : Row F) : Except Exc (Option F) := do
  match ← firstScore (["Average ⬆️", "Average", "average"].map (rowGet row)) with
  | some score => return some score
  | none => firstScore ((row.filter fun member => isAverageKey lower member.1).map Prod.snd)

/-! ## Responses -/

/-- A response of `httpx`: what `response.json()` returns or raises, and `response.text`. -/
structure HttpxResponse (F : Type) where
  statusCode : Int
  json : Except Exc (PyValue F)
  text : String

/-- What a fetch raises: `HTTPStatusError` with its response, or a built-in exception. -/
inductive FetchError (F : Type) where
  | status (response : HttpxResponse F)
  | raised (exc : Exc)

/-- `response.raise_for_status()`. -/
def raiseForStatus (response : HttpxResponse F) : Except (FetchError F) Unit :=
  if 200 ≤ response.statusCode && response.statusCode < 300 then .ok ()
  else .error (.status response)

/-- What precedes the limit in a message. -/
def limitPhrase : List Char :=
  "must not be greater than".toList

/-- The group of `re.search(r"must not be greater than\s+(\d+)", message)`. -/
def searchLimit : List Char → Option (List Char)
  | [] => none
  | c :: rest =>
      let after := (c :: rest).drop limitPhrase.length
      let digits := (after.dropWhile isSpace).takeWhile fun d => (decimalValue d).isSome
      if startsWith (c :: rest) limitPhrase && !(after.takeWhile isSpace).isEmpty &&
          !digits.isEmpty then
        some digits
      else searchLimit rest

/-- The message of an error response. -/
def errorMessage (response : HttpxResponse F) : Except Exc String :=
  match response.json with
  | .ok (.dict payload) => .ok ((rowGet payload "error").orElse (.str "")).toStr
  | .ok _ => .ok ""
  | .error (.valueError _) | .error (.jsonDecodeError _) => .ok response.text
  | .error exc => .error exc

/-- `_parse_rows_length_limit`. -/
def parseRowsLengthLimit (response : HttpxResponse F) : Except Exc (Option Nat) :=
  if response.statusCode ≠ 422 then .ok none
  else do
    let message ← errorMessage response
    match searchLimit message.toList with
    | none => return none
    | some digits => do
        let limit ← intOfText digits
        return if 0 < limit then some limit.toNat else none

/-- A built-in exception of a fetch. -/
def builtin {α : Type} (result : Except Exc α) : Except (FetchError F) α :=
  result.mapError .raised

/-- The members of a dictionary. -/
def dictMembers? : PyValue F → Option (Row F)
  | .dict members => some members
  | _ => none

/-- `_fetch_open_llm_rows_page`, from what the client does. -/
def fetchOpenLlmRowsPage (answer : Except Exc (HttpxResponse F)) :
    Except (FetchError F) (List (Row F)) := do
  let response ← builtin answer
  raiseForStatus response
  let payload ← builtin response.json
  let rows ← builtin (payload.get "rows" (.list []))
  let items ← builtin rows.iter
  return items.filterMap dictMembers?

/-- `num_rows`, from the response about the size of the dataset. -/
def openLlmNumRows (response : HttpxResponse F) : Except (FetchError F) Int := do
  raiseForStatus response
  let payload ← builtin response.json
  let size ← builtin (payload.get "size" (.dict []))
  let dataset ← builtin (size.get "dataset" (.dict []))
  let numRows ← builtin (dataset.get "num_rows" (.int 0))
  builtin (numRows.orElse (.int 0)).toInt

/-! ## The loops -/

/-- What the client does at each request: its number, the offset and the length. -/
abbrev RowsServer (F : Type) := Nat → Nat → Nat → Except Exc (HttpxResponse F)

/-- The page size after a rejection with a limit. -/
def nextPageSize (pageSize limit : Nat) : Nat :=
  if pageSize ≤ limit then max (pageSize / 2) 1 else limit

/-- A rejection shrinks the page. -/
theorem nextPageSize_lt {pageSize : Nat} (h : ¬ pageSize ≤ 1) (limit : Nat) :
    nextPageSize pageSize limit < pageSize := by
  unfold nextPageSize
  split
  · omega
  · omega

/-- A page, with the page size and the number of the next request after it. -/
structure RowsPage (F : Type) where
  rows : List (Row F)
  pageSize : Nat
  requests : Nat

/-- The inner loop: ask for a page until its length is accepted. -/
def requestRows (server : RowsServer F) (offset requests pageSize : Nat) :
    Except (FetchError F) (RowsPage F) :=
  match fetchOpenLlmRowsPage (server requests offset pageSize) with
  | .ok rows => .ok { rows, pageSize, requests := requests + 1 }
  | .error (.raised exc) => .error (.raised exc)
  | .error (.status response) =>
      match parseRowsLengthLimit response with
      | .error exc => .error (.raised exc)
      | .ok none => .error (.status response)
      | .ok (some limit) =>
          if h : pageSize ≤ 1 then .error (.status response)
          else requestRows server offset (requests + 1) (nextPageSize pageSize limit)
termination_by pageSize
decreasing_by exact nextPageSize_lt h limit

/-- The scores so far, and the rows that were processed for them. -/
structure FetchedScores (F : Type) where
  scores : List (String × F)
  processed : List (Row F)

/-- `wrapped_row.get("row", {})`, where it is a dictionary. -/
def innerRow? (wrapped : Row F) : Option (Row F) :=
  dictMembers? ((dictGet wrapped "row").getD (.dict []))

/-- The loop body over the rows of a page. -/
def processRow (lower : String → String) (fetched : FetchedScores F) (wrapped : Row F) :
    Except Exc (FetchedScores F) :=
  match innerRow? wrapped with
  | some row => do
      let score ← openLlmAverageScore lower row
      return {
        scores := updateScore lower fetched.scores (openLlmModelName row) score
        processed := fetched.processed ++ [wrapped] }
  | none => return { fetched with processed := fetched.processed ++ [wrapped] }

/-- The loop over the rows of a page. -/
def processRows (lower : String → String) (fetched : FetchedScores F) (rows : List (Row F)) :
    Except Exc (FetchedScores F) :=
  rows.foldlM (processRow lower) fetched

/-- The outer loop. -/
def fetchRows (lower : String → String) (server : RowsServer F) (numRows : Int)
    (offset requests pageSize : Nat) (fetched : FetchedScores F) :
    Except (FetchError F) (FetchedScores F) :=
  if offset < numRows.toNat then
    match requestRows server offset requests pageSize with
    | .error exc => .error exc
    | .ok page =>
        match processRows lower fetched page.rows with
        | .error exc => .error (.raised exc)
        | .ok fetched' =>
            if page.rows.length ≤ 0 then .ok fetched'
            else
              fetchRows lower server numRows (offset + page.rows.length) page.requests
                page.pageSize fetched'
  else .ok fetched
termination_by numRows.toNat - offset
decreasing_by omega

/-- `max(min(int(page_size), _OPEN_LLM_MAX_ROWS_PAGE_SIZE), 1)`. -/
def effectivePageSize (pageSize : Int) : Nat :=
  (max (min pageSize openLlmMaxRowsPageSize) 1).toNat

/-- `fetch_open_llm_scores`, from the response about the size and the server of the rows. -/
def fetchOpenLlmScores (lower : String → String) (sizeResponse : HttpxResponse F)
    (server : RowsServer F) (pageSize : Int) : Except (FetchError F) (FetchedScores F) := do
  let numRows ← openLlmNumRows sizeResponse
  if numRows ≤ 0 then .ok { scores := [], processed := [] }
  else
    fetchRows lower server numRows 0 0 (effectivePageSize pageSize)
      { scores := [], processed := [] }

/-! ## The dataset server -/

/-- The digits of the limit that a rejection names. -/
def NamesLimit (response : HttpxResponse F) (digits : List Nat) : Prop :=
  ∃ message text, errorMessage response = .ok message ∧
    searchLimit message.toList = some text ∧ decimalDigits text = some digits

/-- A server of a dataset: it rejects a request that is longer than some limit and names a
positive number, and otherwise returns a nonempty prefix of the requested rows wherever there
are any. -/
structure ServesDataset (dataset : List (Row F)) (limit : Nat) (server : RowsServer F) : Prop where
  limit_pos : 1 ≤ limit
  rejects : ∀ requests offset length, limit < length →
    ∃ response digits, server requests offset length = .ok response ∧
      response.statusCode = 422 ∧ NamesLimit response digits ∧ 0 < ofDigits digits
  serves : ∀ requests offset length, 1 ≤ length → length ≤ limit → offset < dataset.length →
    ∃ count response payload, 0 < count ∧ count ≤ length ∧
      server requests offset length = .ok response ∧
      200 ≤ response.statusCode ∧ response.statusCode < 300 ∧
      response.json = .ok (.dict payload) ∧
      dictGet payload "rows" = some (.list (((dataset.drop offset).take count).map .dict))

omit [Runtime F] [FloatArith F] in
/-- What a page of rows is, from the response with them. -/
theorem fetchOpenLlmRowsPage_of_rows {response : HttpxResponse F} {rows : List (Row F)}
    {members : Row F} (hlow : 200 ≤ response.statusCode) (hhigh : response.statusCode < 300)
    (hjson : response.json = .ok (.dict members))
    (hrows : dictGet members "rows" = some (.list (rows.map .dict))) :
    fetchOpenLlmRowsPage (.ok response) = .ok rows := by
  have hraise : raiseForStatus response = .ok () := by
    unfold raiseForStatus
    rw [if_pos (by simp [hlow, hhigh])]
  have hmembers : (rows.map PyValue.dict).filterMap dictMembers? = rows := by
    rw [List.filterMap_map]
    exact List.filterMap_some
  unfold fetchOpenLlmRowsPage
  rw [show builtin (Except.ok (ε := Exc) response) = .ok response from rfl, ok_bind, hraise,
    ok_bind, hjson]
  simp only [builtin, Except.mapError, ok_bind, PyValue.get, hrows, Option.getD_some,
    PyValue.iter, PyValue.items?, hmembers]
  rfl

omit [Runtime F] [FloatArith F] in
/-- What a page of rows is, from a rejection. -/
theorem fetchOpenLlmRowsPage_of_rejected {response : HttpxResponse F}
    (hstatus : response.statusCode = 422) :
    fetchOpenLlmRowsPage (.ok response) = .error (.status response) := by
  have hraise : raiseForStatus response = .error (.status response) := by
    unfold raiseForStatus
    rw [hstatus]
    rfl
  unfold fetchOpenLlmRowsPage
  rw [show builtin (Except.ok (ε := Exc) response) = .ok response from rfl, ok_bind, hraise]
  rfl

/-- The group of a match consists of digits. -/
theorem isDigitText_of_searchLimit {message text : List Char}
    (h : searchLimit message = some text) : isDigitText text = true := by
  induction message with
  | nil => cases h
  | cons c rest ih =>
      rw [searchLimit] at h
      split at h
      · rename_i hmatch
        rw [Bool.and_eq_true] at hmatch
        cases h
        unfold isDigitText
        rw [Bool.and_eq_true, List.all_eq_true]
        refine ⟨hmatch.2, fun d hd => ?_⟩
        have hdecimal := List.all_eq_true.mp List.all_takeWhile d hd
        unfold isDigit
        rw [Bool.or_eq_true]
        exact .inl hdecimal
      · exact ih h

omit [FloatArith F] in
/-- The limit of a rejection, unless it has too many digits for `int()`. -/
theorem parseRowsLengthLimit_of_names {response : HttpxResponse F} {digits : List Nat}
    (hstatus : response.statusCode = 422) (hnames : NamesLimit response digits)
    (hpos : 0 < ofDigits digits) :
    parseRowsLengthLimit response =
      if maxStrDigits < digits.length then
        .error (.valueError "Exceeds the limit (4300 digits) for integer string conversion")
      else .ok (some (ofDigits digits)) := by
  obtain ⟨message, text, hmessage, hsearch, hdigits⟩ := hnames
  unfold parseRowsLengthLimit
  rw [if_neg (by simp [hstatus]), hmessage, ok_bind]
  simp only [hsearch]
  rw [intOfText_digits (isDigitText_of_searchLimit hsearch) hdigits]
  by_cases hlong : maxStrDigits < digits.length
  · rw [if_pos hlong, if_pos hlong]
    rfl
  · rw [if_neg hlong, if_neg hlong, ok_bind, if_pos (by omega)]
    rfl

/-- The requests that follow one another at the same offset while the server rejects them with
a limit that can be read. -/
inductive Follows (server : RowsServer F) (offset : Nat) : Nat → Nat → Nat → Nat → Prop where
  | here (requests pageSize : Nat) : Follows server offset requests pageSize requests pageSize
  | after {requests pageSize limit requests' pageSize' : Nat} {response : HttpxResponse F}
      (hanswer : server requests offset pageSize = .ok response)
      (hlimit : parseRowsLengthLimit response = .ok (some limit))
      (hrest : Follows server offset (requests + 1) (nextPageSize pageSize limit) requests'
        pageSize') :
      Follows server offset requests pageSize requests' pageSize'

/-- Every limit that is met from some request on can be read: it has at most the digits that
`int()` reads. -/
def ReadableLimits (server : RowsServer F) (limit offset requests pageSize : Nat) : Prop :=
  ∀ requests' pageSize' response digits,
    Follows server offset requests pageSize requests' pageSize' → limit < pageSize' →
      server requests' offset pageSize' = .ok response → NamesLimit response digits →
        digits.length ≤ maxStrDigits

omit [FloatArith F] in
theorem NamesLimit.unique {response : HttpxResponse F} {digits digits' : List Nat}
    (h : NamesLimit response digits) (h' : NamesLimit response digits') : digits' = digits := by
  obtain ⟨message, text, hmessage, hsearch, hdigits⟩ := h
  obtain ⟨message', text', hmessage', hsearch', hdigits'⟩ := h'
  rw [hmessage] at hmessage'
  cases hmessage'
  rw [hsearch] at hsearch'
  cases hsearch'
  rw [hdigits] at hdigits'
  exact (Option.some.inj hdigits').symm

/-! ## The inner loop -/

section Contract

variable {dataset : List (Row F)} {limit : Nat} {server : RowsServer F}

omit [FloatArith F] in
/-- An accepted length is answered with rows at once. -/
theorem requestRows_of_accepted (h : ServesDataset dataset limit server) (requests : Nat)
    {offset pageSize : Nat} (hoffset : offset < dataset.length) (hpos : 1 ≤ pageSize)
    (hle : pageSize ≤ limit) :
    ∃ count, 0 < count ∧ requestRows server offset requests pageSize = .ok {
      rows := (dataset.drop offset).take count, pageSize, requests := requests + 1 } := by
  obtain ⟨count, response, members, hcount, -, hanswer, hlow, hhigh, hjson, hrows⟩ :=
    h.serves requests offset pageSize hpos hle hoffset
  refine ⟨count, hcount, ?_⟩
  rw [requestRows, hanswer, fetchOpenLlmRowsPage_of_rows hlow hhigh hjson hrows]

omit [FloatArith F] in
/-- A rejected length is followed by a smaller one when the limit can be read. -/
theorem requestRows_of_rejected {offset requests pageSize : Nat} (hpos : 1 < pageSize)
    {response : HttpxResponse F} (hanswer : server requests offset pageSize = .ok response)
    (hstatus : response.statusCode = 422) :
    requestRows server offset requests pageSize =
      match parseRowsLengthLimit response with
      | .error exc => .error (.raised exc)
      | .ok none => .error (.status response)
      | .ok (some named) =>
          requestRows server offset (requests + 1) (nextPageSize pageSize named) := by
  rw [requestRows, hanswer, fetchOpenLlmRowsPage_of_rejected hstatus]
  dsimp only
  cases parseRowsLengthLimit response with
  | error exc => rfl
  | ok named =>
      cases named with
      | none => rfl
      | some named =>
          dsimp only
          rw [dif_neg (by omega)]

theorem nextPageSize_pos {pageSize named : Nat} (hpos : 0 < named) :
    1 ≤ nextPageSize pageSize named := by
  unfold nextPageSize
  split <;> omega

omit [FloatArith F] in
/-- The limits met after a rejection are those met from the next request on. -/
theorem readableLimits_of_rejected {offset requests pageSize : Nat} {response : HttpxResponse F}
    {digits : List Nat} (hanswer : server requests offset pageSize = .ok response)
    (hnames : NamesLimit response digits) (hshort : digits.length ≤ maxStrDigits)
    (hparse : parseRowsLengthLimit response = .ok (some (ofDigits digits))) :
    ReadableLimits server limit offset requests pageSize ↔
      ReadableLimits server limit offset (requests + 1)
        (nextPageSize pageSize (ofDigits digits)) := by
  constructor
  · intro h requests' pageSize' response' digits' hfollows
    exact h requests' pageSize' response' digits' (.after hanswer hparse hfollows)
  · intro h requests' pageSize' response' digits' hfollows hlong hanswer' hnames'
    cases hfollows with
    | here =>
        rw [hanswer] at hanswer'
        cases hanswer'
        rw [hnames.unique hnames']
        exact hshort
    | after hfirst hnamed hrest =>
        rw [hanswer] at hfirst
        cases hfirst
        rw [hparse] at hnamed
        cases hnamed
        exact h requests' pageSize' response' digits' hrest hlong hanswer' hnames'

omit [FloatArith F] in
/-- The inner loop ends with rows exactly when every limit that is met can be read; the length
is then one that the server accepts.  By induction on the page size. -/
theorem requestRows_spec (h : ServesDataset dataset limit server) {offset : Nat}
    (hoffset : offset < dataset.length) (requests pageSize : Nat) (hpos : 1 ≤ pageSize) :
    ((∃ page, requestRows server offset requests pageSize = .ok page) ↔
        ReadableLimits server limit offset requests pageSize) ∧
      ∀ page, requestRows server offset requests pageSize = .ok page →
        1 ≤ page.pageSize ∧ page.pageSize ≤ limit ∧
          ∃ count, 0 < count ∧ page.rows = (dataset.drop offset).take count := by
  induction pageSize using Nat.strongRecOn generalizing requests with
  | ind pageSize ih =>
      by_cases hle : pageSize ≤ limit
      · obtain ⟨count, hcount, hrows⟩ := requestRows_of_accepted h requests hoffset hpos hle
        rw [hrows]
        refine ⟨⟨fun _ => ?_, fun _ => ⟨_, rfl⟩⟩, ?_⟩
        · intro requests' pageSize' response digits hfollows hlong
          cases hfollows with
          | here => omega
          | after hanswer hlimit hrest =>
              obtain ⟨-, response', members, -, -, hanswer', hlow, hhigh, -⟩ :=
                h.serves requests offset pageSize hpos hle hoffset
              rw [hanswer] at hanswer'
              cases hanswer'
              unfold parseRowsLengthLimit at hlimit
              rw [if_pos (by omega)] at hlimit
              cases hlimit
        · intro page hpage
          cases hpage
          exact ⟨hpos, hle, count, hcount, rfl⟩
      · obtain ⟨response, digits, hanswer, hstatus, hnames, hnamed⟩ :=
          h.rejects requests offset pageSize (by omega)
        have hparse := parseRowsLengthLimit_of_names hstatus hnames hnamed
        have hlimit := h.limit_pos
        rw [requestRows_of_rejected (by omega) hanswer hstatus, hparse]
        by_cases hshort : digits.length ≤ maxStrDigits
        · rw [if_neg (by omega)] at hparse ⊢
          rw [readableLimits_of_rejected hanswer hnames hshort hparse]
          exact ih _ (nextPageSize_lt (by omega) _) (requests + 1) (nextPageSize_pos hnamed)
        · rw [if_pos (by omega)]
          refine ⟨⟨fun hpage => ?_, fun hreadable => ?_⟩, nofun⟩
          · obtain ⟨page, hpage⟩ := hpage
            cases hpage
          · exact absurd (hreadable requests pageSize response digits (.here requests pageSize)
              (by omega) hanswer hnames) hshort

/-! ## The outer loop -/

theorem processRows_nil (lower : String → String) (fetched : FetchedScores F) :
    processRows lower fetched [] = .ok fetched := by
  unfold processRows
  rw [List.foldlM_nil]
  rfl

theorem processRows_append (lower : String → String) (fetched : FetchedScores F)
    (rows more : List (Row F)) :
    processRows lower fetched (rows ++ more) =
      (processRows lower fetched rows).bind fun fetched' => processRows lower fetched' more := by
  unfold processRows
  rw [List.foldlM_append]
  rfl

/-- Whatever the server sends, the fetch is one pass over what is left of the dataset, once the
first page is accepted.  By induction on what is left. -/
theorem fetchRows_eq (h : ServesDataset dataset limit server) (lower : String → String)
    (offset requests pageSize : Nat) (hpos : 1 ≤ pageSize) (fetched : FetchedScores F) :
    fetchRows lower server dataset.length offset requests pageSize fetched =
      if offset < dataset.length then
        (requestRows server offset requests pageSize).bind fun _ =>
          builtin (processRows lower fetched (dataset.drop offset))
      else .ok fetched := by
  induction hleft : dataset.length - offset using Nat.strongRecOn
    generalizing offset requests pageSize fetched with
  | ind left ih =>
      rw [fetchRows, Int.toNat_natCast]
      by_cases hoffset : offset < dataset.length
      · rw [if_pos hoffset, if_pos hoffset]
        have hspec := (requestRows_spec h hoffset requests pageSize hpos).2
        cases hpage : requestRows server offset requests pageSize with
        | error exc => rfl
        | ok page =>
            obtain ⟨hpagePos, hpageLe, count, hcount, hrows⟩ := hspec page hpage
            have hlength : 0 < page.rows.length := by
              rw [hrows, List.length_take, List.length_drop]
              omega
            have hsplit : dataset.drop offset =
                page.rows ++ dataset.drop (offset + page.rows.length) := by
              have hbegins : page.rows <+: dataset.drop offset := by
                rw [hrows]
                exact List.take_prefix count _
              rw [← List.drop_drop]
              exact (List.prefix_iff_eq_append.mp hbegins).symm
            dsimp only [Except.bind]
            rw [hsplit, processRows_append]
            cases processRows lower fetched page.rows with
            | error exc => rfl
            | ok fetched' =>
                dsimp only [Except.bind]
                rw [if_neg (by omega), ih _ (by omega) _ page.requests page.pageSize hpagePos
                  fetched' rfl]
                by_cases hmore : offset + page.rows.length < dataset.length
                · obtain ⟨more, -, hnext⟩ :=
                    requestRows_of_accepted h page.requests hmore hpagePos hpageLe
                  rw [if_pos hmore, hnext]
                  rfl
                · rw [if_neg hmore, List.drop_eq_nil_of_le (by omega)]
                  rfl
      · rw [if_neg hoffset, if_neg hoffset]

/-- The whole fetch. -/
theorem fetchOpenLlmScores_ok_iff (h : ServesDataset dataset limit server)
    (lower : String → String) {sizeResponse : HttpxResponse F}
    (hsize : openLlmNumRows sizeResponse = .ok (dataset.length : Int)) (pageSize : Int)
    {fetched : FetchedScores F} :
    fetchOpenLlmScores lower sizeResponse server pageSize = .ok fetched ↔
      (dataset ≠ [] → ReadableLimits server limit 0 0 (effectivePageSize pageSize)) ∧
        processRows lower { scores := [], processed := [] } dataset = .ok fetched := by
  have hpos : 1 ≤ effectivePageSize pageSize := by
    unfold effectivePageSize
    omega
  unfold fetchOpenLlmScores
  rw [hsize, ok_bind]
  by_cases hempty : dataset = []
  · subst hempty
    rw [if_pos (by simp), processRows_nil]
    refine ⟨fun hok => ⟨fun hne => absurd rfl hne, ?_⟩, fun hok => ?_⟩
    · cases hok
      rfl
    · cases hok.2
      rfl
  · have hlength := List.length_pos_iff.mpr hempty
    obtain ⟨hreadable, -⟩ := requestRows_spec h hlength 0 (effectivePageSize pageSize) hpos
    rw [if_neg (by omega), fetchRows_eq h lower 0 0 _ hpos, if_pos hlength, List.drop_zero]
    cases hpage : requestRows server 0 0 (effectivePageSize pageSize) with
    | error exc =>
        rw [hpage] at hreadable
        refine ⟨nofun, fun hok => ?_⟩
        obtain ⟨page, hcontra⟩ := hreadable.mpr (hok.1 hempty)
        cases hcontra
    | ok page =>
        have hlimits := hreadable.mp ⟨page, hpage⟩
        dsimp only [Except.bind]
        cases processRows lower { scores := [], processed := [] } dataset with
        | error exc => exact ⟨nofun, fun hok => nomatch hok.2⟩
        | ok other =>
            exact ⟨fun hok => ⟨fun _ => hlimits, by cases hok; rfl⟩,
              fun hok => by cases hok.2; rfl⟩

end Contract

/-! ## The rows -/

/-- What a row says about a model: its normalized name and its score. -/
def scoredModel (lower : String → String) (wrapped : Row F) : Option (String × F) :=
  match innerRow? wrapped with
  | some row =>
      match openLlmAverageScore lower row with
      | .ok (some score) =>
          if normalizeModelName lower (openLlmModelName row) = "" then none
          else some (normalizeModelName lower (openLlmModelName row), score)
      | _ => none
  | none => none

/-- The values of a row that are tried for its average, in their order. -/
def averageCandidates (lower : String → String) (row : Row F) : List (PyValue F) :=
  ["Average ⬆️", "Average", "average"].map (rowGet row) ++
    (row.filter fun member => isAverageKey lower member.1).map Prod.snd

/-- `float(n)` raises. -/
def BeyondRange (F : Type) [Runtime F] (n : Int) : Prop :=
  ∃ exc, Runtime.floatOfInt (F := F) n = .error exc

/-- No integer beyond the range of floats is tried for the average of a row: before each such
integer stands a value that is a score. -/
def Convertible (lower : String → String) (wrapped : Row F) : Prop :=
  ∀ row, innerRow? wrapped = some row → ∀ tried n rest,
    averageCandidates lower row = tried ++ .int n :: rest →
      (∀ value ∈ tried, safeFloat value = .ok none) → ¬ BeyondRange F n

omit [FloatArith F] in
theorem firstScore_of_none {value : PyValue F} (h : safeFloat value = .ok none)
    (values : List (PyValue F)) : firstScore (value :: values) = firstScore values := by
  rw [firstScore, h]
  rfl

omit [FloatArith F] in
theorem firstScore_append (values more : List (PyValue F)) :
    firstScore (values ++ more) = (firstScore values).bind fun score =>
      match score with
      | some score => .ok (some score)
      | none => firstScore more := by
  induction values with
  | nil => rfl
  | cons value values ih =>
      rw [List.cons_append, firstScore, firstScore]
      cases safeFloat value with
      | error exc => rfl
      | ok score =>
          cases score with
          | some score => rfl
          | none => exact ih

omit [FloatArith F] in
/-- The average of a row is the first score of its candidates. -/
theorem openLlmAverageScore_eq (lower : String → String) (row : Row F) :
    openLlmAverageScore lower row = firstScore (averageCandidates lower row) := by
  unfold openLlmAverageScore averageCandidates
  rw [firstScore_append]
  rfl

omit [FloatArith F] in
/-- `float()` of a text raises a `ValueError` only. -/
theorem floatOfText_error {text : List Char} {exc : Exc}
    (h : floatOfText (F := F) text = .error exc) : ∃ message, exc = .valueError message := by
  unfold floatOfText at h
  dsimp only at h
  split at h
  · cases h
  · split at h
    · cases h
    · split at h
      · split at h
        · cases h
        · cases h
          exact ⟨_, rfl⟩
      · split at h
        · cases h
        · cases h
          exact ⟨_, rfl⟩

/-- What is assumed of floats: a number is equal to itself, of two numbers one is at most the
other, and the order is transitive; `float()` knows the truth values, and raises an
`OverflowError` for an integer out of range. -/
class OrderedFloat (F : Type) [Runtime F] [FloatArith F] : Prop where
  eq_self_of_le : ∀ x y : F, floatLessEq x y = true → FloatArith.eq x x = true
  le_of_not_lt : ∀ x y : F, FloatArith.eq x x = true → FloatArith.eq y y = true →
    FloatArith.lt x y = false → floatLessEq y x = true
  le_of_le_of_lt : ∀ x y z : F, floatLessEq x y = true → FloatArith.lt y z = true →
    floatLessEq x z = true
  floatOfInt_bool : ∀ b : Bool, ∃ x : F, Runtime.floatOfInt (if b then 1 else 0) = .ok x
  floatOfInt_error : ∀ n exc, Runtime.floatOfInt (F := F) n = .error exc →
    ∃ message, exc = .overflowError message

omit [FloatArith F] in
theorem convertScore_of_ok {value : PyValue F} {score : F} (h : value.toFloat = .ok score) :
    convertScore value = .ok (some score) := by
  unfold convertScore
  rw [h]

omit [FloatArith F] in
theorem convertScore_of_overflow {value : PyValue F} {message : String}
    (h : value.toFloat = .error (.overflowError message)) :
    convertScore value = .error (.overflowError message) := by
  unfold convertScore
  rw [h]

omit [FloatArith F] in
theorem convertScore_of_invalid {value : PyValue F} {message : String}
    (h : value.toFloat = .error (.valueError message)) : convertScore value = .ok none := by
  unfold convertScore
  rw [h]

section Scores

variable [OrderedFloat F]

/-- Only an integer beyond the range of floats makes `_safe_float` raise. -/
theorem safeFloat_error_iff {value : PyValue F} :
    (∃ exc, safeFloat value = .error exc) ↔ ∃ n, value = .int n ∧ BeyondRange F n := by
  cases value with
  | int n =>
      unfold safeFloat BeyondRange
      dsimp only
      cases hn : Runtime.floatOfInt (F := F) n with
      | ok score =>
          rw [convertScore_of_ok (show (PyValue.int n).toFloat = .ok score from hn)]
          refine ⟨nofun, ?_⟩
          rintro ⟨m, hm, exc, hexc⟩
          cases hm
          rw [hn] at hexc
          cases hexc
      | error exc =>
          obtain ⟨message, rfl⟩ := OrderedFloat.floatOfInt_error n exc hn
          exact ⟨fun _ => ⟨n, rfl, _, hn⟩, fun _ => ⟨_, convertScore_of_overflow hn⟩⟩
  | bool b =>
      obtain ⟨score, hscore⟩ := OrderedFloat.floatOfInt_bool (F := F) b
      unfold safeFloat
      dsimp only
      rw [convertScore_of_ok (show (PyValue.bool b).toFloat = .ok score from hscore)]
      exact ⟨nofun, nofun⟩
  | str text =>
      refine ⟨fun h => ?_, nofun⟩
      obtain ⟨exc, h⟩ := h
      unfold safeFloat at h
      dsimp only at h
      split at h
      · cases h
      · cases htext : (PyValue.str (F := F) text).toFloat with
        | ok score =>
            rw [convertScore_of_ok htext] at h
            cases h
        | error exc' =>
            obtain ⟨message, rfl⟩ := floatOfText_error htext
            rw [convertScore_of_invalid htext] at h
            cases h
  | none => exact ⟨nofun, nofun⟩
  | float x => exact ⟨nofun, nofun⟩
  | _ => exact ⟨nofun, nofun⟩

/-- The search for a score ends exactly when no integer beyond the range of floats is tried. -/
theorem firstScore_ok_iff (values : List (PyValue F)) :
    (∃ score, firstScore values = .ok score) ↔
      ∀ tried n rest, values = tried ++ .int n :: rest →
        (∀ value ∈ tried, safeFloat value = .ok none) → ¬ BeyondRange F n := by
  induction values with
  | nil =>
      refine ⟨fun _ tried n rest h => ?_, fun _ => ⟨none, rfl⟩⟩
      exact absurd h.symm (List.append_ne_nil_of_right_ne_nil tried (List.cons_ne_nil _ rest))
  | cons value values ih =>
      cases hvalue : safeFloat value with
      | error exc =>
          rw [firstScore, hvalue]
          obtain ⟨n, rfl, hbeyond⟩ := safeFloat_error_iff.mp ⟨exc, hvalue⟩
          refine ⟨nofun, fun h => ?_⟩
          exact absurd hbeyond (h [] n values rfl (fun _ hmem => nomatch hmem))
      | ok score =>
          have hfirst : ∀ n, value = .int n → ¬ BeyondRange F n := by
            intro n hn hbeyond
            obtain ⟨exc, herror⟩ := safeFloat_error_iff.mpr ⟨n, hn, hbeyond⟩
            rw [hvalue] at herror
            cases herror
          cases score with
          | some score =>
              rw [firstScore, hvalue]
              refine ⟨fun _ tried n rest hsplit htried => ?_, fun _ => ⟨some score, rfl⟩⟩
              cases tried with
              | nil => exact hfirst n (List.cons.inj hsplit).1
              | cons head tried =>
                  have hnone := htried head List.mem_cons_self
                  rw [← (List.cons.inj hsplit).1, hvalue] at hnone
                  cases hnone
          | none =>
              rw [firstScore_of_none hvalue, ih]
              constructor
              · intro h tried n rest hsplit htried
                cases tried with
                | nil => exact hfirst n (List.cons.inj hsplit).1
                | cons head tried =>
                    exact h tried n rest (List.cons.inj hsplit).2
                      fun value hmem => htried value (List.mem_cons_of_mem _ hmem)
              · intro h tried n rest hsplit htried
                refine h (value :: tried) n rest (congrArg (value :: ·) hsplit) ?_
                exact List.forall_mem_cons.mpr ⟨hvalue, htried⟩

theorem processRow_ok_iff (lower : String → String) (fetched : FetchedScores F)
    (wrapped : Row F) :
    (∃ fetched', processRow lower fetched wrapped = .ok fetched') ↔ Convertible lower wrapped := by
  unfold processRow Convertible
  cases innerRow? wrapped with
  | some row =>
      dsimp only
      rw [exists_bind_ok_iff, openLlmAverageScore_eq]
      constructor
      · rintro ⟨score, hscore, -⟩ other hother
        cases hother
        exact (firstScore_ok_iff _).mp ⟨score, hscore⟩
      · intro h
        obtain ⟨score, hscore⟩ := (firstScore_ok_iff _).mpr (h row rfl)
        exact ⟨score, hscore, _, rfl⟩
  | none =>
      constructor
      · intro _ row hrow
        cases hrow
      · intro _
        exact ⟨_, rfl⟩

end Scores

omit [Runtime F] in
/-- A score is taken in under its name. -/
theorem dictGet_updateScore (lower : String → String) (scores : List (String × F))
    (modelName : String) (score : F) (hname : normalizeModelName lower modelName ≠ "") :
    dictGet (updateScore lower scores modelName (some score)) =
      keepGreater FloatArith.lt (dictGet scores) (normalizeModelName lower modelName, score) := by
  funext key
  unfold updateScore keepGreater greater
  dsimp only
  rw [if_neg hname, Function.update_apply]
  cases hprevious : dictGet scores (normalizeModelName lower modelName) with
  | none =>
      dsimp only
      rw [dictGet_dictSet]
      by_cases hkey : key = normalizeModelName lower modelName
      · rw [if_pos hkey, if_pos hkey.symm]
      · rw [if_neg hkey, if_neg (Ne.symm hkey)]
  | some previous =>
      dsimp only
      by_cases hlt : FloatArith.lt previous score = true
      · rw [if_pos hlt, if_pos hlt, dictGet_dictSet]
        by_cases hkey : key = normalizeModelName lower modelName
        · rw [if_pos hkey, if_pos hkey.symm]
        · rw [if_neg hkey, if_neg (Ne.symm hkey)]
      · rw [if_neg hlt, if_neg hlt]
        by_cases hkey : key = normalizeModelName lower modelName
        · rw [if_pos hkey, hkey, hprevious]
        · rw [if_neg hkey]

/-- A row is logged, and its score is taken in. -/
theorem processRow_spec {lower : String → String} {fetched fetched' : FetchedScores F}
    {wrapped : Row F} (h : processRow lower fetched wrapped = .ok fetched') :
    fetched'.processed = fetched.processed ++ [wrapped] ∧
      dictGet fetched'.scores = ((scoredModel lower wrapped).toList).foldl
        (keepGreater FloatArith.lt) (dictGet fetched.scores) := by
  unfold processRow at h
  unfold scoredModel
  cases hrow : innerRow? wrapped with
  | some row =>
      rw [hrow] at h
      obtain ⟨score, hscore, h⟩ := bind_ok_iff.mp h
      cases h
      refine ⟨rfl, ?_⟩
      dsimp only
      rw [hscore]
      cases score with
      | none => rfl
      | some score =>
          dsimp only
          by_cases hname : normalizeModelName lower (openLlmModelName row) = ""
          · rw [if_pos hname]
            unfold updateScore
            dsimp only
            rw [if_pos hname]
            rfl
          · rw [if_neg hname, dictGet_updateScore lower _ _ _ hname]
            rfl
  | none =>
      rw [hrow] at h
      cases h
      exact ⟨rfl, rfl⟩

/-- All rows are logged in their order, and their scores are taken in. -/
theorem processRows_spec {lower : String → String} {rows : List (Row F)}
    {fetched fetched' : FetchedScores F} (h : processRows lower fetched rows = .ok fetched') :
    fetched'.processed = fetched.processed ++ rows ∧
      dictGet fetched'.scores = (rows.filterMap (scoredModel lower)).foldl
        (keepGreater FloatArith.lt) (dictGet fetched.scores) := by
  induction rows generalizing fetched with
  | nil =>
      cases h
      exact ⟨(List.append_nil _).symm, rfl⟩
  | cons wrapped rows ih =>
      unfold processRows at h
      rw [List.foldlM_cons] at h
      obtain ⟨next, hnext, h⟩ := bind_ok_iff.mp h
      obtain ⟨hlog, hscores⟩ := processRow_spec hnext
      obtain ⟨hlogs, hall⟩ := ih h
      refine ⟨by rw [hlogs, hlog, List.append_assoc, List.singleton_append], ?_⟩
      rw [hall, hscores]
      cases hscored : scoredModel lower wrapped with
      | none => rw [List.filterMap_cons_none hscored, Option.toList_none, List.foldl_nil]
      | some entry =>
          rw [List.filterMap_cons_some hscored, Option.toList_some, List.foldl_cons,
            List.foldl_nil, List.foldl_cons]

/-! ## The result -/

/-- The scores map each normalized name to the maximum of the scores of the rows with that
name. -/
def MaximumScores (lower : String → String) (dataset : List (Row F))
    (scores : List (String × F)) : Prop :=
  Greatest (fun x y : F => floatLessEq x y = true) (dataset.filterMap (scoredModel lower))
    (dictGet scores)

/-- Every fetch of the dataset that returns, from any server of it and with any page size,
returns the same scores. -/
def SameForEveryServer (lower : String → String) (dataset : List (Row F))
    (scores : List (String × F)) : Prop :=
  ∀ (limit : Nat) (server : RowsServer F) (sizeResponse : HttpxResponse F) (pageSize : Int)
    (fetched : FetchedScores F), ServesDataset dataset limit server →
    openLlmNumRows sizeResponse = .ok (dataset.length : Int) →
    fetchOpenLlmScores lower sizeResponse server pageSize = .ok fetched →
    fetched.scores = scores

/-- A score that is a number. -/
def ComparableScore (lower : String → String) (wrapped : Row F) : Prop :=
  ∀ name score, scoredModel lower wrapped = some (name, score) →
    FloatArith.eq score score = true

/-- From any server of a dataset, whatever it accepts, names and returns, the fetch processes
every row exactly once and returns the maximum score under each name, the same as from every
other server, if and only if no row has an integer beyond the range of floats for its score, no
score is a NaN, and each limit that is met on the way down can be read. -/
theorem fetchOpenLlmScores_iff [OrderedFloat F] {dataset : List (Row F)} {limit : Nat}
    {server : RowsServer F} (h : ServesDataset dataset limit server) (lower : String → String)
    {sizeResponse : HttpxResponse F}
    (hsize : openLlmNumRows sizeResponse = .ok (dataset.length : Int)) (pageSize : Int) :
    (∃ fetched, fetchOpenLlmScores lower sizeResponse server pageSize = .ok fetched ∧
        fetched.processed = dataset ∧ MaximumScores lower dataset fetched.scores ∧
          SameForEveryServer lower dataset fetched.scores) ↔
      (∀ wrapped ∈ dataset, Convertible lower wrapped) ∧
        (∀ wrapped ∈ dataset, ComparableScore lower wrapped) ∧
          (dataset ≠ [] → ReadableLimits server limit 0 0 (effectivePageSize pageSize)) := by
  have hprocess := foldlM_ok_iff (processRow_ok_iff (F := F) lower) dataset
    { scores := [], processed := [] }
  constructor
  · rintro ⟨fetched, hfetch, -, hmaximum, -⟩
    obtain ⟨hlimits, hrows⟩ := (fetchOpenLlmScores_ok_iff h lower hsize pageSize).mp hfetch
    refine ⟨hprocess.mp ⟨fetched, hrows⟩, fun wrapped hmem name score hscored => ?_, hlimits⟩
    obtain ⟨value, -, hle⟩ :=
      le_of_greatest hmaximum (List.mem_filterMap.mpr ⟨wrapped, hmem, hscored⟩)
    exact OrderedFloat.eq_self_of_le _ _ hle
  · rintro ⟨hconvertible, hcomparable, hlimits⟩
    obtain ⟨fetched, hrows⟩ := hprocess.mpr hconvertible
    have hspec := processRows_spec hrows
    refine ⟨fetched, (fetchOpenLlmScores_ok_iff h lower hsize pageSize).mpr ⟨hlimits, hrows⟩,
      ?_, ?_, ?_⟩
    · rw [hspec.1, List.nil_append]
    · have horder : OrdersOn (FloatArith.lt (F := F)) (fun x y => floatLessEq x y = true)
          (fun x => FloatArith.eq x x = true) := by
        refine ⟨fun x hx => ?_, OrderedFloat.le_of_not_lt, OrderedFloat.le_of_le_of_lt⟩
        unfold floatLessEq
        rw [hx, Bool.or_true]
      have hnumbers : ∀ entry ∈ dataset.filterMap (scoredModel lower),
          FloatArith.eq entry.2 entry.2 = true := by
        intro entry hentry
        obtain ⟨wrapped, hmem, hscored⟩ := List.mem_filterMap.mp hentry
        exact hcomparable wrapped hmem entry.1 entry.2 hscored
      unfold MaximumScores
      rw [hspec.2]
      exact greatest_foldl horder hnumbers
    · intro limit' server' sizeResponse' pageSize' other h' hsize' hother
      obtain ⟨-, hothers⟩ := (fetchOpenLlmScores_ok_iff h' lower hsize' pageSize').mp hother
      have hsame : Except.ok (ε := Exc) other = .ok fetched := hothers.symm.trans hrows
      cases hsame
      rfl

end OpenLlm

/-! ## A dataset server -/

/-- The response to a request that is too long. -/
def rejectedResponse (F : Type) : HttpxResponse F where
  statusCode := 422
  json := .ok (.dict
    [("error", .str "Parameter 'length' must not be greater than 100")])
  text := ""

/-- The response with some rows. -/
def rowsResponse {F : Type} (rows : List (Row F)) : HttpxResponse F where
  statusCode := 200
  json := .ok (.dict [("rows", .list (rows.map .dict))])
  text := ""

/-- The response with the size of a dataset. -/
def sizeResponse (F : Type) (count : Nat) : HttpxResponse F where
  statusCode := 200
  json := .ok (.dict [("size", .dict [("dataset", .dict [("num_rows", .int count)])])])
  text := ""

/-- A server that returns all requested rows, up to a limit; it names 100 beyond that. -/
def rowsServer {F : Type} (dataset : List (Row F)) (limit : Nat) : RowsServer F :=
  fun _ offset length =>
    if limit < length then .ok (rejectedResponse F)
    else .ok (rowsResponse ((dataset.drop offset).take length))

section Server

variable {F : Type} [Runtime F]

theorem namesLimit_rejectedResponse : NamesLimit (rejectedResponse F) [1, 0, 0] := by
  refine ⟨"Parameter 'length' must not be greater than 100", "100".toList, rfl, ?_, ?_⟩
  · decide +kernel
  · decide +kernel

theorem servesDataset_rowsServer (dataset : List (Row F)) {limit : Nat} (h : 1 ≤ limit) :
    ServesDataset dataset limit (rowsServer dataset limit) where
  limit_pos := h
  rejects requests offset length hlong := by
    refine ⟨rejectedResponse F, [1, 0, 0], ?_, rfl, namesLimit_rejectedResponse, by decide⟩
    unfold rowsServer
    rw [if_pos hlong]
  serves requests offset length hpos hle _ := by
    refine ⟨length, rowsResponse ((dataset.drop offset).take length), _, hpos, Nat.le_refl _, ?_,
      (by decide : (200 : Int) ≤ 200), (by decide : (200 : Int) < 300), rfl, rfl⟩
    unfold rowsServer
    rw [if_neg (by omega)]

/-- The limit that the server names can be read. -/
theorem readableLimits_rowsServer (dataset : List (Row F)) (limit offset requests pageSize : Nat) :
    ReadableLimits (rowsServer dataset limit) limit offset requests pageSize := by
  intro requests' pageSize' response digits _ hlong hanswer hnames
  unfold rowsServer at hanswer
  rw [if_pos hlong] at hanswer
  cases hanswer
  rw [namesLimit_rejectedResponse.unique hnames]
  decide

end Server

/-! ## Exact floats -/

instance : OrderedFloat Exact where
  eq_self_of_le x y h := by
    refine decide_eq_true ⟨rfl, ?_⟩
    rcases Exact.floatLessEq_iff.mp h with hlt | heq
    · intro hx
      subst hx
      cases hlt
    · exact heq.2
  le_of_not_lt x y hx hy h :=
    Exact.floatLessEq_iff.mpr
      (Exact.le_of_not_lt (of_decide_eq_true hx).2 (of_decide_eq_true hy).2 h)
  le_of_le_of_lt x y z hxy hyz := by
    rw [Exact.floatLessEq_iff] at hxy ⊢
    rcases hxy with hlt | ⟨rfl, -⟩
    · exact .inl (Exact.lt_trans hlt hyz)
    · exact .inl hyz
  floatOfInt_bool b := ⟨_, rfl⟩
  floatOfInt_error n exc h := by cases h

/-- Two rows of one model. -/
def twoScores : List (Row Exact) :=
  [[("row", .dict [("fullname", .str "Org/Model-Instruct"), ("Average", .int 5)])],
   [("row", .dict [("fullname", .str "org model"), ("average", .int 7)])]]

theorem scoredModel_twoScores :
    twoScores.map (scoredModel fun s => String.ofList (lowerAscii s.toList)) =
      [some ("org model", .finite 5), some ("org model", .finite 7)] := by
  decide +kernel

/-- Asked for pages of ninety rows, a server that accepts one row but names 100 is asked until
the page is small enough. -/
theorem twoScores_fetched :
    ∃ fetched, fetchOpenLlmScores (fun s => String.ofList (lowerAscii s.toList))
      (sizeResponse Exact 2) (rowsServer twoScores 1) 90 = .ok fetched ∧
        fetched.processed = twoScores ∧
          MaximumScores (fun s => String.ofList (lowerAscii s.toList)) twoScores fetched.scores ∧
            SameForEveryServer (fun s => String.ofList (lowerAscii s.toList)) twoScores
              fetched.scores := by
  refine (fetchOpenLlmScores_iff (servesDataset_rowsServer twoScores (Nat.le_refl 1)) _ rfl
    90).mpr ⟨?_, ?_, ?_⟩
  · rintro wrapped hmem row hrow tried n rest hsplit htried ⟨exc, hexc⟩
    cases hexc
  · intro wrapped hmem name score hscored
    have hmapped := List.mem_map_of_mem (f := scoredModel fun s =>
      String.ofList (lowerAscii s.toList)) hmem
    rw [scoredModel_twoScores, hscored] at hmapped
    rcases List.mem_cons.mp hmapped with hfirst | hmore
    · cases hfirst
      decide +kernel
    · cases List.mem_singleton.mp hmore
      decide +kernel
  · intro _
    exact readableLimits_rowsServer twoScores 1 0 0 _

/-! ## Floats with a range -/

/-- Exact numbers; an integer is converted only within the range of the interpreter's floats. -/
def Ranged := Exact

/-- The least magnitude of an integer that `float()` rejects. -/
@[irreducible] def floatRange : Nat :=
  2 ^ 1024 - 2 ^ 970

instance : Runtime Ranged :=
  let exactRuntime : Runtime Exact := inferInstance
  { exactRuntime with
    floatOfInt := fun n =>
      if n.natAbs < floatRange then .ok (Exact.finite n)
      else .error (.overflowError "int too large to convert to float") }

instance : FloatArith Ranged :=
  inferInstanceAs (FloatArith Exact)

theorem floatOfInt_ranged (n : Int) :
    Runtime.floatOfInt (F := Ranged) n =
      if n.natAbs < floatRange then .ok (Exact.finite n)
      else .error (.overflowError "int too large to convert to float") :=
  rfl

instance : OrderedFloat Ranged where
  eq_self_of_le := OrderedFloat.eq_self_of_le (F := Exact)
  le_of_not_lt := OrderedFloat.le_of_not_lt (F := Exact)
  le_of_le_of_lt := OrderedFloat.le_of_le_of_lt (F := Exact)
  floatOfInt_bool b := by
    have hrange : (if b = true then 1 else 0 : Int).natAbs < floatRange := by
      cases b <;> decide +kernel
    exact ⟨_, (floatOfInt_ranged _).trans (if_pos hrange)⟩
  floatOfInt_error n exc h := by
    rw [floatOfInt_ranged] at h
    split at h
    · cases h
    · cases h
      exact ⟨_, rfl⟩

/-- A row whose average is an integer of 401 digits. -/
def hugeAverage : List (Row Ranged) :=
  [[("row", .dict [("fullname", .str "m"), ("Average", .int (10 ^ 400 : Nat))])]]

theorem processRows_hugeAverage :
    (processRows id { scores := [], processed := [] } hugeAverage).isOk = false := by
  decide +kernel

/-- The fetch of a dataset with one such row fails, whatever the limit and the page size. -/
theorem hugeAverage_raises :
    ServesDataset hugeAverage 100 (rowsServer hugeAverage 100) ∧
      openLlmNumRows (sizeResponse Ranged 1) = .ok (hugeAverage.length : Int) ∧
        ¬ ∃ fetched, fetchOpenLlmScores id (sizeResponse Ranged 1) (rowsServer hugeAverage 100)
          500 = .ok fetched := by
  have hlimit : 1 ≤ 100 := by decide
  have hserves := servesDataset_rowsServer hugeAverage hlimit
  refine ⟨hserves, rfl, ?_⟩
  rintro ⟨fetched, hfetch⟩
  obtain ⟨-, hrows⟩ := (fetchOpenLlmScores_ok_iff hserves id rfl 500).mp hfetch
  have hfails := processRows_hugeAverage
  rw [hrows] at hfails
  cases hfails

end Inventory
end FreeLunch
