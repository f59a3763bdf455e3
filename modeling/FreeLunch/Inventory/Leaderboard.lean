import FreeLunch.Foundations.Runs
import FreeLunch.Foundations.Tables
import FreeLunch.Foundations.Writes
import FreeLunch.Python.Exact

/-!
# The leaderboard cache

Two benchmark sources share the rows of `leaderboard_cache`: `upsert_leaderboard_cache` keeps
a score that it is not given and stamps the whole row, `_source_cache_ready` and
`get_leaderboard_cache` read that stamp as the age of each score in it, and
`refresh_leaderboard_cache` fetches a source again when none of its scores is fresh.

Every call enqueues its statement, and the writer applies the statements in order; a call
counts as a fetch of the scores it is given.

Main results:

- Theorem `trustworthy_iff`: a state answers right exactly when every score is as old as the
  stamp of its row.
- Theorem `step_trustworthy_iff`: a statement keeps it so exactly when it restamps no score
  that it was not given.
- Theorem `leaderboard_trustworthy_iff`: the runs in which every state answers right.

Current gaps:

- The writer applies every statement it accepts, and what the sources answer is a parameter.
-/

namespace FreeLunch
namespace Inventory

open Runs Python Writes

/-! ## Time -/

/-- `9999-12-31T23:59:59Z` in seconds from the first date of the calendar. -/
def lastDate : Int := 315537897599

/-- A point in time as `utc_now_iso` writes it, in seconds from the first date of the
calendar.  The texts have one width, so their order is the order of time. -/
abbrev Timestamp := { seconds : Int // 0 ≤ seconds ∧ seconds ≤ lastDate }

/-- `now - timedelta(hours=max_age_hours)`. -/
def ageCutoff (now : Timestamp) (maxAgeHours : Int) : Except Exc Timestamp :=
  if h : 0 ≤ now.val - maxAgeHours * 3600 ∧ now.val - maxAgeHours * 3600 ≤ lastDate then
    .ok ⟨now.val - maxAgeHours * 3600, h⟩
  else .error (.overflowError "date value out of range")

/-- `_cache_cutoff_iso`. -/
def cacheCutoff (now : Timestamp) (maxAgeHours : Int) : Except Exc Timestamp :=
  ageCutoff now (max maxAgeHours 1)

/-! ## The table -/

/-- The benchmark sources, with the column of each. -/
inductive Source where
  | chatbotArena
  | openLlm
deriving DecidableEq

/-- A row of `leaderboard_cache`. -/
structure LeaderboardRow (F : Type) where
  modelNameNormalized : String
  chatbotArenaElo : Option F
  openLlmAvgScore : Option F
  fetchedAt : Timestamp
deriving DecidableEq

/-- The arguments of `upsert_leaderboard_cache`, and the time it reads. -/
structure UpsertCall (F : Type) where
  modelNameNormalized : String
  chatbotArenaElo : Option F
  openLlmAvgScore : Option F
  now : Timestamp
deriving DecidableEq

section Leaderboard

variable {F : Type} [FloatArith F]

/-- A float as SQLite stores it: what is not a number becomes `NULL`. -/
def bindReal (x : F) : Option F :=
  if FloatArith.eq x x then some x else none

omit [FloatArith F] in
/-- The column of a source. -/
def LeaderboardRow.score (row : LeaderboardRow F) : Source → Option F
  | .chatbotArena => row.chatbotArenaElo
  | .openLlm => row.openLlmAvgScore

/-- The score of a source that a call stores. -/
def UpsertCall.score (call : UpsertCall F) : Source → Option F
  | .chatbotArena => call.chatbotArenaElo.bind bindReal
  | .openLlm => call.openLlmAvgScore.bind bindReal

/-- The row that is inserted. -/
def UpsertCall.newRow (call : UpsertCall F) : LeaderboardRow F where
  modelNameNormalized := call.modelNameNormalized
  chatbotArenaElo := call.score .chatbotArena
  openLlmAvgScore := call.score .openLlm
  fetchedAt := call.now

/-- `DO UPDATE SET`: the scores that are given, else the old ones, and the new time. -/
def UpsertCall.update (call : UpsertCall F) (row : LeaderboardRow F) : LeaderboardRow F :=
  { row with
    chatbotArenaElo := (call.score .chatbotArena).or row.chatbotArenaElo
    openLlmAvgScore := (call.score .openLlm).or row.openLlmAvgScore
    fetchedAt := call.now }

/-- The statement of `upsert_leaderboard_cache`. -/
def upsertLeaderboardCache (cache : List (LeaderboardRow F)) (call : UpsertCall F) :
    List (LeaderboardRow F) :=
  Tables.upsert LeaderboardRow.modelNameNormalized call.modelNameNormalized call.newRow
    call.update cache

omit [FloatArith F] in
/-- The rows that `_count_cached_source_entries` counts. -/
def cachedSourceEntries (cache : List (LeaderboardRow F)) (source : Source)
    (cutoff : Timestamp) : List (LeaderboardRow F) :=
  cache.filter fun row => (row.score source).isSome && decide (cutoff.val ≤ row.fetchedAt.val)

omit [FloatArith F] in
/-- `_count_cached_source_entries`. -/
def countCachedSourceEntries (cache : List (LeaderboardRow F)) (source : Source)
    (now : Timestamp) (maxAgeHours : Int) : Except Exc Nat := do
  let cutoff ← cacheCutoff now maxAgeHours
  return (cachedSourceEntries cache source cutoff).length

omit [FloatArith F] in
/-- `_source_cache_ready`. -/
def sourceCacheReady (cache : List (LeaderboardRow F)) (source : Source) (now : Timestamp)
    (maxAgeHours : Int) : Except Exc Bool := do
  let count ← countCachedSourceEntries cache source now maxAgeHours
  return decide (0 < count)

omit [FloatArith F] in
/-- `get_leaderboard_cache`. -/
def getLeaderboardCache (cache : List (LeaderboardRow F)) (modelNameNormalized : String)
    (now : Timestamp) (maxAgeHours : Int) : Except Exc (Option (LeaderboardRow F)) := do
  let cutoff ← ageCutoff now maxAgeHours
  return (Tables.lookup LeaderboardRow.modelNameNormalized modelNameNormalized cache).filter
    fun row => decide (cutoff.val ≤ row.fetchedAt.val)

/-! ## The refresh -/

/-- The settings that `refresh_leaderboard_cache` reads. -/
structure LeaderboardSettings where
  chatbotArenaEnabled : Bool
  chatbotArenaCacheHours : Int
  openLlmEnabled : Bool
  openLlmCacheHours : Int

/-- `discovery_leaderboard_…_enabled`. -/
def LeaderboardSettings.enabled (settings : LeaderboardSettings) : Source → Bool
  | .chatbotArena => settings.chatbotArenaEnabled
  | .openLlm => settings.openLlmEnabled

/-- `discovery_leaderboard_…_cache_hours`. -/
def LeaderboardSettings.cacheHours (settings : LeaderboardSettings) : Source → Int
  | .chatbotArena => settings.chatbotArenaCacheHours
  | .openLlm => settings.openLlmCacheHours

omit [FloatArith F] in
/-- What a refresh meets: the time at each reading, the answers of the sources, and the table
when it counts the entries. -/
structure RefreshEnv (F : Type) where
  checked : Source → Timestamp
  fetch : Source → Except Exc (List (String × F))
  upserted : Nat → Timestamp
  counted : Source → Timestamp
  afterwards : List (LeaderboardRow F)

/-- What a refresh returns. -/
structure RefreshOutcome where
  chatbotArenaEntries : Nat
  openLlmEntries : Nat
  cacheUpdates : Nat

/-- A refresh: the sources it fetched, the calls it made, and how it ended. -/
structure Refresh (F : Type) where
  fetched : List Source
  upserts : List (UpsertCall F)
  outcome : Except Exc RefreshOutcome

omit [FloatArith F] in
/-- The check of one source: whether it has to be fetched. -/
def sourceTask (cache : List (LeaderboardRow F)) (settings : LeaderboardSettings)
    (env : RefreshEnv F) (source : Source) : Except Exc (List Source) :=
  if settings.enabled source then do
    let ready ← sourceCacheReady cache source (env.checked source) (settings.cacheHours source)
    return if ready then [] else [source]
  else .ok []

omit [FloatArith F] in
/-- `tasks`. -/
def refreshTasks (cache : List (LeaderboardRow F)) (settings : LeaderboardSettings)
    (env : RefreshEnv F) : Except Exc (List Source) := do
  let chatbotArena ← sourceTask cache settings env .chatbotArena
  let openLlm ← sourceTask cache settings env .openLlm
  return chatbotArena ++ openLlm

/-- `source_results`: what a source that was fetched answered, if it did not fail. -/
def sourceResults (env : RefreshEnv F) (fetched : List Source) (source : Source) :
    List (String × F) :=
  if source ∈ fetched then
    match env.fetch source with
    | .ok scores => scores
    | .error _ => []
  else []

/-- The scores of one key of `merged`. -/
structure MergedScores (F : Type) where
  chatbotArenaElo : Option F
  openLlmAvgScore : Option F

/-- One of the two loops that fill `merged`. -/
def mergeScores (set : MergedScores F → F → MergedScores F)
    (merged : List (String × MergedScores F)) (scores : List (String × F)) :
    List (String × MergedScores F) :=
  scores.foldl (fun merged entry =>
    dictSet merged entry.1 (set ((dictGet merged entry.1).getD ⟨none, none⟩) entry.2)) merged

/-- `refresh_leaderboard_cache`. -/
def refreshLeaderboardCache (cache : List (LeaderboardRow F)) (settings : LeaderboardSettings)
    (env : RefreshEnv F) : Refresh F :=
  match refreshTasks cache settings env with
  | .error exc => { fetched := [], upserts := [], outcome := .error exc }
  | .ok fetched =>
      let chatbotArena := sourceResults env fetched .chatbotArena
      let openLlm := sourceResults env fetched .openLlm
      let merged := mergeScores (fun values score => { values with openLlmAvgScore := some score })
        (mergeScores (fun values score => { values with chatbotArenaElo := some score }) []
          chatbotArena) openLlm
      { fetched := fetched
        upserts := merged.mapIdx fun i entry =>
          { modelNameNormalized := entry.1
            chatbotArenaElo := entry.2.chatbotArenaElo
            openLlmAvgScore := entry.2.openLlmAvgScore
            now := env.upserted i }
        outcome := do
          let arenaCount ← countCachedSourceEntries env.afterwards .chatbotArena
            (env.counted .chatbotArena) settings.chatbotArenaCacheHours
          let llmCount ← countCachedSourceEntries env.afterwards .openLlm
            (env.counted .openLlm) settings.openLlmCacheHours
          return {
            chatbotArenaEntries := max chatbotArena.length arenaCount
            openLlmEntries := max openLlm.length llmCount
            cacheUpdates := merged.length } }

/-! ## Runs -/

/-- The table, the statements in the queue of the writer, and the calls whose statements have
been applied. -/
structure CacheState (F : Type) where
  cache : List (LeaderboardRow F)
  queue : List (UpsertCall F)
  applied : List (UpsertCall F)

/-- An empty table and an idle writer. -/
def CacheState.initial : CacheState F where
  cache := []
  queue := []
  applied := []

/-- What happens to the cache.  A refresh whose calls come later than its checks is a
sequence of calls. -/
inductive CacheEvent (F : Type) where
  | upsert (call : UpsertCall F)
  | refresh (settings : LeaderboardSettings) (env : RefreshEnv F)
  | drain

/-- One event. -/
def cacheStep (st : CacheState F) : CacheEvent F → Option (CacheState F)
  | .upsert call => some { st with queue := st.queue ++ [call] }
  | .refresh settings env =>
      some { st with queue := st.queue ++ (refreshLeaderboardCache st.cache settings env).upserts }
  | .drain =>
      match st.queue with
      | [] => none
      | call :: queue =>
          some
            { cache := upsertLeaderboardCache st.cache call
              queue := queue
              applied := st.applied ++ [call] }

/-! ## What the cache should answer -/

/-- The score of a model has been fetched from the source, no earlier than at a time. -/
def FetchedSince (st : CacheState F) (source : Source) (modelNameNormalized : String) (score : F)
    (time : Timestamp) : Prop :=
  ∃ call ∈ st.applied, call.modelNameNormalized = modelNameNormalized ∧
    call.score source = some score ∧ time.val ≤ call.now.val

/-- A score that counts as fresh, or that is returned, has been fetched from its source within
the maximum age, and a source none of whose fetches is within its age is fetched again. -/
structure Trustworthy (st : CacheState F) : Prop where
  counted : ∀ source now maxAgeHours cutoff, cacheCutoff now maxAgeHours = .ok cutoff →
    ∀ row ∈ cachedSourceEntries st.cache source cutoff, ∀ score, row.score source = some score →
      FetchedSince st source row.modelNameNormalized score cutoff
  returned : ∀ modelNameNormalized now maxAgeHours row,
    getLeaderboardCache st.cache modelNameNormalized now maxAgeHours = .ok (some row) →
    ∀ cutoff, ageCutoff now maxAgeHours = .ok cutoff → ∀ source score,
      row.score source = some score →
        FetchedSince st source modelNameNormalized score cutoff
  refetched : ∀ settings (env : RefreshEnv F) fetched,
    refreshTasks st.cache settings env = .ok fetched → ∀ source,
    settings.enabled source = true →
    (∀ cutoff, cacheCutoff (env.checked source) (settings.cacheHours source) = .ok cutoff →
      ∀ call ∈ st.applied, call.score source ≠ none → call.now.val < cutoff.val) →
    source ∈ (refreshLeaderboardCache st.cache settings env).fetched

/-- The call is given every score that its row has, or comes no later than a fetch of it. -/
def RestampsNothing (st : CacheState F) (call : UpsertCall F) : Prop :=
  ∀ row ∈ st.cache, row.modelNameNormalized = call.modelNameNormalized → ∀ source score,
    call.score source = none → row.score source = some score →
      FetchedSince st source call.modelNameNormalized score call.now

/-- Each score is at least as young as the stamp of its row. -/
def Dated (st : CacheState F) : Prop :=
  ∀ row ∈ st.cache, ∀ source score, row.score source = some score →
    FetchedSince st source row.modelNameNormalized score row.fetchedAt

/-! ## A state that answers right -/

/-- No two rows have one name. -/
def UniqueNames (st : CacheState F) : Prop :=
  (st.cache.map LeaderboardRow.modelNameNormalized).Nodup

theorem FetchedSince.mono {st : CacheState F} {source : Source} {name : String} {score : F}
    {time earlier : Timestamp} (h : FetchedSince st source name score time)
    (hle : earlier.val ≤ time.val) : FetchedSince st source name score earlier := by
  obtain ⟨call, hmem, hname, hscore, htime⟩ := h
  exact ⟨call, hmem, hname, hscore, Int.le_trans hle htime⟩

omit [FloatArith F] in
theorem mem_cachedSourceEntries {cache : List (LeaderboardRow F)} {source : Source}
    {cutoff : Timestamp} {row : LeaderboardRow F} :
    row ∈ cachedSourceEntries cache source cutoff ↔
      row ∈ cache ∧ (row.score source).isSome = true ∧ cutoff.val ≤ row.fetchedAt.val := by
  unfold cachedSourceEntries
  rw [List.mem_filter, Bool.and_eq_true, decide_eq_true_eq]

omit [FloatArith F] in
/-- A source that is enabled is fetched or has an entry that counts as fresh. -/
theorem fetched_or_fresh {cache : List (LeaderboardRow F)} {settings : LeaderboardSettings}
    {env : RefreshEnv F} {fetched : List Source}
    (h : refreshTasks cache settings env = .ok fetched) {source : Source}
    (henabled : settings.enabled source = true) :
    source ∈ fetched ∨
      ∃ cutoff, cacheCutoff (env.checked source) (settings.cacheHours source) = .ok cutoff ∧
        cachedSourceEntries cache source cutoff ≠ [] := by
  obtain ⟨chatbotArena, harena, h⟩ := bind_ok_iff.mp h
  obtain ⟨openLlm, hllm, h⟩ := bind_ok_iff.mp h
  cases h
  obtain ⟨tasks, htasks, hmem⟩ : ∃ tasks, sourceTask cache settings env source = .ok tasks ∧
      ∀ task ∈ tasks, task ∈ chatbotArena ++ openLlm := by
    cases source with
    | chatbotArena => exact ⟨_, harena, fun _ htask => List.mem_append_left _ htask⟩
    | openLlm => exact ⟨_, hllm, fun _ htask => List.mem_append_right _ htask⟩
  unfold sourceTask at htasks
  rw [if_pos henabled] at htasks
  obtain ⟨ready, hready, htasks⟩ := bind_ok_iff.mp htasks
  obtain ⟨count, hcount, hready⟩ := bind_ok_iff.mp hready
  obtain ⟨cutoff, hcutoff, hcount⟩ := bind_ok_iff.mp hcount
  cases hcount
  cases hready
  cases htasks
  by_cases hnone : cachedSourceEntries cache source cutoff = []
  · left
    apply hmem
    rw [hnone]
    exact List.mem_singleton_self source
  · exact .inr ⟨cutoff, hcutoff, hnone⟩

/-- The state answers right exactly when every score is as young as the stamp of its row. -/
theorem trustworthy_iff {st : CacheState F} (hunique : UniqueNames st) :
    Trustworthy st ↔ Dated st := by
  constructor
  · intro h row hrow source score hscore
    have hcutoff : ageCutoff row.fetchedAt 0 = .ok row.fetchedAt := by
      unfold ageCutoff
      have hzero : row.fetchedAt.val - 0 * 3600 = row.fetchedAt.val := by omega
      rw [dif_pos (by rw [hzero]; exact row.fetchedAt.property)]
      congr 1
      exact Subtype.ext hzero
    refine h.returned row.modelNameNormalized row.fetchedAt 0 row ?_ row.fetchedAt hcutoff source
      score hscore
    have hlookup : Tables.lookup LeaderboardRow.modelNameNormalized row.modelNameNormalized
        st.cache = some row :=
      (Tables.lookup_eq_some_iff hunique).mpr ⟨hrow, rfl⟩
    unfold getLeaderboardCache
    rw [hcutoff, hlookup]
    simp [bind, Except.bind, pure, Except.pure]
  · intro h
    have hcounted : ∀ source cutoff, ∀ row ∈ cachedSourceEntries st.cache source cutoff,
        ∀ score, row.score source = some score →
          FetchedSince st source row.modelNameNormalized score cutoff := by
      intro source cutoff row hrow score hscore
      obtain ⟨hmem, -, hfresh⟩ := mem_cachedSourceEntries.mp hrow
      exact (h row hmem source score hscore).mono hfresh
    constructor
    case counted =>
      intro source now maxAgeHours cutoff _
      exact hcounted source cutoff
    case returned =>
      intro name now maxAgeHours row hget cutoff hcutoff source score hscore
      unfold getLeaderboardCache at hget
      rw [hcutoff] at hget
      have hfound : (Tables.lookup LeaderboardRow.modelNameNormalized name st.cache).filter
          (fun row => decide (cutoff.val ≤ row.fetchedAt.val)) = some row :=
        Except.ok.inj hget
      obtain ⟨hlookup, hfresh⟩ := Option.filter_eq_some_iff.mp hfound
      obtain ⟨hmem, rfl⟩ := (Tables.lookup_eq_some_iff hunique).mp hlookup
      exact (h row hmem source score hscore).mono (of_decide_eq_true hfresh)
    case refetched =>
      intro settings env fetched htasks source henabled hstale
      have hfetched : (refreshLeaderboardCache st.cache settings env).fetched = fetched := by
        unfold refreshLeaderboardCache
        rw [htasks]
      rw [hfetched]
      rcases fetched_or_fresh htasks henabled with hmem | ⟨cutoff, hcutoff, hfresh⟩
      · exact hmem
      · obtain ⟨row, hrow⟩ := List.exists_mem_of_ne_nil _ hfresh
        obtain ⟨-, hsome, -⟩ := mem_cachedSourceEntries.mp hrow
        obtain ⟨score, hscore⟩ := Option.isSome_iff_exists.mp hsome
        obtain ⟨call, hcall, -, hgiven, htime⟩ := hcounted source cutoff row hrow score hscore
        have hold := hstale cutoff hcutoff call hcall (by rw [hgiven]; exact Option.some_ne_none _)
        omega

/-! ## One statement -/

theorem name_newRow (call : UpsertCall F) :
    call.newRow.modelNameNormalized = call.modelNameNormalized :=
  rfl

theorem name_update (call : UpsertCall F) (row : LeaderboardRow F) :
    (call.update row).modelNameNormalized = row.modelNameNormalized :=
  rfl

theorem score_newRow (call : UpsertCall F) (source : Source) :
    call.newRow.score source = call.score source := by
  cases source <;> rfl

theorem score_update (call : UpsertCall F) (row : LeaderboardRow F) (source : Source) :
    (call.update row).score source = (call.score source).or (row.score source) := by
  cases source <;> rfl

theorem uniqueNames_step {st st' : CacheState F} {event : CacheEvent F}
    (h : cacheStep st event = some st') (hunique : UniqueNames st) : UniqueNames st' := by
  cases event with
  | upsert call =>
      cases h
      exact hunique
  | refresh settings env =>
      cases h
      exact hunique
  | drain =>
      unfold cacheStep at h
      dsimp only at h
      split at h
      · cases h
      · cases h
        exact Tables.nodup_upsert (name_newRow _) (name_update _) hunique

/-- The row of a call after its statement. -/
theorem lookup_called (cache : List (LeaderboardRow F)) (call : UpsertCall F) :
    Tables.lookup LeaderboardRow.modelNameNormalized call.modelNameNormalized
        (upsertLeaderboardCache cache call) =
      some ((Tables.lookup LeaderboardRow.modelNameNormalized call.modelNameNormalized
        cache).elim call.newRow call.update) :=
  Tables.lookup_upsert_self (name_newRow call) (name_update call) cache

theorem lookup_other {call : UpsertCall F} {name : String} (hne : name ≠ call.modelNameNormalized)
    (cache : List (LeaderboardRow F)) :
    Tables.lookup LeaderboardRow.modelNameNormalized name (upsertLeaderboardCache cache call) =
      Tables.lookup LeaderboardRow.modelNameNormalized name cache :=
  Tables.lookup_upsert_of_ne (name_newRow call) (name_update call) hne cache

/-- A fetch stays one. -/
theorem FetchedSince.append {st st' : CacheState F} {more : List (UpsertCall F)}
    (happlied : st'.applied = st.applied ++ more) {source : Source} {name : String} {score : F}
    {time : Timestamp} (h : FetchedSince st source name score time) :
    FetchedSince st' source name score time := by
  obtain ⟨call, hmem, hcall⟩ := h
  refine ⟨call, ?_, hcall⟩
  rw [happlied]
  exact List.mem_append_left _ hmem

/-- A statement leaves every score as young as its stamp exactly when it restamps no score
that it was not given. -/
theorem drain_dated_iff {st st' : CacheState F} {call : UpsertCall F} (hunique : UniqueNames st)
    (hcache : st'.cache = upsertLeaderboardCache st.cache call)
    (happlied : st'.applied = st.applied ++ [call]) (h : Dated st) :
    Dated st' ↔ RestampsNothing st call := by
  have hunique' : UniqueNames st' := by
    unfold UniqueNames
    rw [hcache]
    exact Tables.nodup_upsert (name_newRow _) (name_update _) hunique
  have hgiven : ∀ {source : Source} {score : F}, call.score source = some score →
      FetchedSince st' source call.modelNameNormalized score call.now := by
    intro source score hscore
    refine ⟨call, ?_, rfl, hscore, Int.le_refl _⟩
    rw [happlied]
    exact List.mem_append_right _ (List.mem_singleton_self call)
  have hcalled := lookup_called st.cache call
  rw [← hcache] at hcalled
  constructor
  · intro hdated row hrow hname source score hmissing hscore
    have hlookup := (Tables.lookup_eq_some_iff hunique).mpr ⟨hrow, hname⟩
    rw [hlookup, Option.elim_some] at hcalled
    obtain ⟨hmem, hsame⟩ := (Tables.lookup_eq_some_iff hunique').mp hcalled
    have hkept : (call.update row).score source = some score := by
      rw [score_update, hmissing, Option.none_or, hscore]
    obtain ⟨fetch, hfetch, hfetchName, hfetchScore, htime⟩ := hdated _ hmem source score hkept
    rw [happlied, List.mem_append, List.mem_singleton] at hfetch
    rcases hfetch with hearlier | rfl
    · exact ⟨fetch, hearlier, hfetchName.trans hsame, hfetchScore, htime⟩
    · rw [hmissing] at hfetchScore
      cases hfetchScore
  · intro hrestamps row hrow source score hscore
    by_cases hname : row.modelNameNormalized = call.modelNameNormalized
    · have hlookup := (Tables.lookup_eq_some_iff hunique').mpr ⟨hrow, hname⟩
      rw [hcalled, Option.some.injEq] at hlookup
      cases hold : Tables.lookup LeaderboardRow.modelNameNormalized call.modelNameNormalized
          st.cache with
      | none =>
          rw [hold, Option.elim_none] at hlookup
          rw [← hlookup, score_newRow] at hscore
          rw [← hlookup]
          exact hgiven hscore
      | some old =>
          rw [hold, Option.elim_some] at hlookup
          obtain ⟨holdMem, holdName⟩ := (Tables.lookup_eq_some_iff hunique).mp hold
          rw [← hlookup, score_update] at hscore
          rw [hname, ← hlookup]
          cases hcall : call.score source with
          | none =>
              rw [hcall, Option.none_or] at hscore
              exact (hrestamps old holdMem holdName source score hcall hscore).append happlied
          | some given =>
              rw [hcall, Option.some_or] at hscore
              cases hscore
              exact hgiven hcall
    · have hlookup := (Tables.lookup_eq_some_iff hunique').mpr ⟨hrow, rfl⟩
      rw [hcache, lookup_other hname] at hlookup
      obtain ⟨hmem, -⟩ := (Tables.lookup_eq_some_iff hunique).mp hlookup
      exact (h row hmem source score hscore).append happlied

/-! ## Runs -/

/-- The statement that the writer applies next restamps no score that it was not given. -/
def cacheGuard (st : CacheState F) (event : CacheEvent F) : Prop :=
  event = .drain → ∀ call ∈ st.queue.head?, RestampsNothing st call

/-- An event keeps a state that answers right exactly under the guard. -/
theorem step_trustworthy_iff {st st' : CacheState F} {event : CacheEvent F}
    (h : cacheStep st event = some st') (hunique : UniqueNames st) (hgood : Trustworthy st) :
    Trustworthy st' ↔ cacheGuard st event := by
  have hunique' := uniqueNames_step h hunique
  rw [trustworthy_iff hunique']
  rw [trustworthy_iff hunique] at hgood
  unfold cacheGuard
  cases event with
  | upsert call =>
      cases h
      exact iff_of_true hgood fun hdrain => by cases hdrain
  | refresh settings env =>
      cases h
      exact iff_of_true hgood fun hdrain => by cases hdrain
  | drain =>
      unfold cacheStep at h
      dsimp only at h
      cases hqueue : st.queue with
      | nil =>
          rw [hqueue] at h
          cases h
      | cons call queue =>
          rw [hqueue] at h
          cases h
          rw [drain_dated_iff hunique rfl rfl hgood]
          constructor
          · rintro hrestamps - _ ⟨⟩
            exact hrestamps
          · intro hguard
            exact hguard rfl call rfl

/-- In a run from an empty table every state answers right exactly when no statement of the
run restamps a score that it was not given. -/
theorem leaderboard_trustworthy_iff {events : List (CacheEvent F)} {st : CacheState F}
    (hrun : run cacheStep .initial events = some st) :
    (∀ before after state, events = before ++ after →
        run cacheStep .initial before = some state → Trustworthy state) ↔
      Guarded cacheStep cacheGuard .initial events := by
  have hunique : UniqueNames (CacheState.initial (F := F)) := List.nodup_nil
  refine forall_prefix_iff_guarded UniqueNames Trustworthy ?_ ?_ hrun hunique ?_
  · intro s event s' hs hs'
    exact uniqueNames_step hs hs'
  · intro s event s' hs hs' hgood
    exact step_trustworthy_iff hs hs' hgood
  · refine (trustworthy_iff hunique).mpr ?_
    intro row hrow
    cases hrow

end Leaderboard

/-! ## A source that is never fetched again -/

/-- A full hour. -/
def hour (n : Fin 200) : Timestamp :=
  ⟨n.val * 3600, by have h := n.isLt; unfold lastDate; omega⟩

/-- Both sources are enabled, with the default age. -/
def dailySettings : LeaderboardSettings where
  chatbotArenaEnabled := true
  chatbotArenaCacheHours := 24
  openLlmEnabled := true
  openLlmCacheHours := 24

/-- A refresh within one second. -/
def hourlyRefresh (n : Fin 200) (chatbotArena openLlm : Except Exc (List (String × Rat))) :
    RefreshEnv Rat where
  checked _ := hour n
  fetch
    | .chatbotArena => chatbotArena
    | .openLlm => openLlm
  upserted _ := hour n
  counted _ := hour n
  afterwards := []

/-- One source answers at first, and the other one twelve hours later. -/
def alternatingRun : List (CacheEvent Rat) :=
  [.refresh dailySettings (hourlyRefresh 100 (.ok [("m", 1200)]) (.error (.other "down"))), .drain,
    .refresh dailySettings (hourlyRefresh 112 (.error (.other "down")) (.ok [("m", 77)])), .drain]

/-- The state after it. -/
def alternatedState : CacheState Rat where
  cache := [⟨"m", some 1200, some 77, hour 112⟩]
  queue := []
  applied := [⟨"m", some 1200, none, hour 100⟩, ⟨"m", none, some 77, hour 112⟩]

/-- The score of the first source is thirty hours old, and it is returned, counts as fresh and
keeps the source from being fetched. -/
theorem restamped_score_fresh :
    run cacheStep .initial alternatingRun = some alternatedState ∧
      getLeaderboardCache alternatedState.cache "m" (hour 130) 24 =
        .ok (some ⟨"m", some 1200, some 77, hour 112⟩) ∧
      sourceCacheReady alternatedState.cache .chatbotArena (hour 130) 24 = .ok true ∧
      (refreshLeaderboardCache alternatedState.cache dailySettings
        (hourlyRefresh 130 (.ok [("m", 1250)]) (.ok []))).fetched = [] ∧
      (∀ call ∈ alternatedState.applied, call.score .chatbotArena ≠ none →
        call.now = hour 100) ∧
      ¬ Trustworthy alternatedState := by
  have hget : getLeaderboardCache alternatedState.cache "m" (hour 130) 24 =
      .ok (some ⟨"m", some 1200, some 77, hour 112⟩) := by
    decide +kernel
  refine ⟨rfl, hget, by decide +kernel, by decide +kernel, by decide +kernel, ?_⟩
  intro h
  obtain ⟨call, hcall, -, hscore, htime⟩ :=
    h.returned "m" (hour 130) 24 _ hget (hour 106) (by decide +kernel) .chatbotArena 1200 rfl
  rcases List.mem_cons.mp hcall with rfl | hcall
  · exact absurd htime (by decide)
  · rcases List.mem_singleton.mp hcall with rfl
    cases hscore

/-- The second source answers for the same model when it is asked again within the hour, and both
answer thirty hours later. -/
def sharedRun : List (CacheEvent Rat) :=
  [.refresh dailySettings (hourlyRefresh 100 (.ok [("m", 1200)]) (.error (.other "down"))), .drain,
    .refresh dailySettings (hourlyRefresh 100 (.ok []) (.ok [("m", 77)])), .drain,
    .refresh dailySettings (hourlyRefresh 130 (.ok [("m", 1250)]) (.ok [("m", 80)])), .drain]

/-- The state after it. -/
def sharedState : CacheState Rat where
  cache := [⟨"m", some 1250, some 80, hour 130⟩]
  queue := []
  applied := [⟨"m", some 1200, none, hour 100⟩, ⟨"m", none, some 77, hour 100⟩,
    ⟨"m", some 1250, some 80, hour 130⟩]

/-- No statement leaves out a score that is older than itself: the state answers right. -/
theorem leaderboard_trustworthy_once :
    run cacheStep .initial sharedRun = some sharedState ∧ Trustworthy sharedState := by
  have hrun : run cacheStep .initial sharedRun = some sharedState := rfl
  refine ⟨hrun, (leaderboard_trustworthy_iff hrun).mpr ?_ _ [] _ (List.append_nil _).symm hrun⟩
  have hrefresh : ∀ st settings env, cacheGuard (F := Rat) st (.refresh settings env) :=
    fun _ _ _ hdrain => by cases hdrain
  refine ⟨hrefresh _ _ _, ?_⟩
  rintro _ ⟨⟩
  refine ⟨?_, ?_⟩
  · rintro - call ⟨⟩ row hrow
    cases hrow
  rintro _ ⟨⟩
  refine ⟨hrefresh _ _ _, ?_⟩
  rintro _ ⟨⟩
  refine ⟨?_, ?_⟩
  · rintro - call ⟨⟩ row hrow - source score hgiven hscore
    rcases List.mem_singleton.mp hrow with rfl
    cases source with
    | chatbotArena => exact ⟨_, List.mem_singleton_self _, rfl, hscore, Int.le_refl _⟩
    | openLlm => cases hgiven
  rintro _ ⟨⟩
  refine ⟨hrefresh _ _ _, ?_⟩
  rintro _ ⟨⟩
  refine ⟨?_, fun _ _ => trivial⟩
  rintro - call ⟨⟩ row - - source score hgiven -
  cases source <;> cases hgiven

end Inventory
end FreeLunch
