import FreeLunch.Foundations.Runs
import FreeLunch.Tokens.RepoIds

/-!
# Tokenizer preloads

`schedule_tokenizer_preload`, `_load_hf_tokenizer_blocking` and `_tokenizer_future_done` of
`src/tokens.py` as one transition system: calls from any number of threads, loads in the
background and the callbacks of their futures, each section under the lock as one step.

Main results:

- Theorem `invariant_of_run`: the future of a load in flight is the current one of its hint, and
  the cache has exactly the hints with a load that succeeded.
- Theorem `schedule_submits_iff`: a call that takes the lock submits a load exactly when all
  loads of its hint so far have failed.
- Theorem `preload_single_flight`: at most one load of a hint is in flight, a hint whose load
  succeeded is not loaded again, a call returns true exactly when it submitted a load, and the
  first call after a failed load submits a new one.

Current gaps:

- Starting a thread and logging do not raise.
- `str.lower` is ASCII: other hints have no repository.
-/

namespace FreeLunch
namespace Tokens
namespace Preload

open Python Distinct Runs

/-! ## Hints that are loaded -/

/-- What a call or a load finds when it looks. -/
structure Environment where
  /-- `AutoTokenizer is not None`. -/
  hasAutoTokenizer : Bool
  /-- `os.environ.get("HF_ENDPOINT")`. -/
  hfEndpoint : Option String
  /-- `_encoding_for_model(name) is not None`. -/
  encodingForModel : List Char → Bool
  /-- `_get_tiktoken_encoding(name) is not None`. -/
  getTiktokenEncoding : String → Bool

/-- `_hf_endpoint_is_trusted`. -/
def hfEndpointIsTrusted (env : Environment) : Bool :=
  match env.hfEndpoint with
  | none => true
  | some endpoint =>
      (endpoint.toList.reverse.dropWhile (· == '/')).reverse == "https://huggingface.co".toList

/-- `_TIKTOKEN_MODEL_PREFIX_ENCODINGS`. -/
def tiktokenModelPrefixEncodings : List (String × String) :=
  [("gpt-5", "o200k_base"), ("gpt-4o", "o200k_base"), ("gpt-audio", "o200k_base"),
    ("chatgpt-4o", "o200k_base"), ("o1", "o200k_base"), ("o3", "o200k_base"),
    ("o4", "o200k_base"), ("gpt-4", "cl100k_base"), ("gpt-3.5", "cl100k_base")]

/-- `_candidate_tiktoken_model_names`. -/
def candidateTiktokenModelNames (modelHint : List Char) : List (List Char) :=
  let hint := strip modelHint
  if hint.isEmpty then []
  else
    let sanitized := dropHintSuffix hint
    let name := if sanitized.contains '/' then (sanitized.dropWhile (· != '/')).drop 1 else []
    firstsFrom id [] (([sanitized, name].map strip).filter fun candidate => !candidate.isEmpty)

/-- `_fallback_tiktoken_encoding_name`. -/
def fallbackTiktokenEncodingName (modelName : List Char) : Option String :=
  let normalized := lowerAscii (strip modelName)
  (tiktokenModelPrefixEncodings.find? fun entry => startsWith normalized entry.1.toList).map
    Prod.snd

/-- `_resolve_tiktoken_encoding(model_hint=hint) is not None`. -/
def resolvesTiktokenEncoding (env : Environment) (hint : List Char) : Bool :=
  let names := candidateTiktokenModelNames hint
  names.any env.encodingForModel ||
    (names.findSome? fallbackTiktokenEncodingName).any env.getTiktokenEncoding

/-- The checks ahead of the lock. -/
def isEligible (env : Environment) (hint : List Char) : Bool :=
  !hint.isEmpty && env.hasAutoTokenizer && hfEndpointIsTrusted env &&
    !resolvesTiktokenEncoding env hint && !(candidateHfRepoIds hint).isEmpty

/-! ## States -/

/-- How a load ends. -/
inductive Outcome (τ : Type) where
  | tokenizer (tokenizer : τ)
  /-- `None`. -/
  | missing
  /-- An `Exception`. -/
  | raised
  /-- An exception that is no `Exception`. -/
  | aborted
deriving DecidableEq

/-- How far a load is. -/
inductive Phase (τ : Type) where
  | queued
  /-- The repositories that are still to be tried. -/
  | loading (repoIds : List (List Char))
  /-- The tokenizer is in the cache, and the future does not have it yet. -/
  | cached (tokenizer : τ)
  | done (outcome : Outcome τ)
deriving DecidableEq

/-- How far the callback of a future is. -/
inductive Callback where
  | unset
  | added
  | running
  | finished
deriving DecidableEq

/-- A load with its future. -/
structure Load (τ : Type) where
  hint : String
  /-- The call that submitted it. -/
  call : ℕ
  phase : Phase τ
  callback : Callback
deriving DecidableEq

/-- How far a call of `schedule_tokenizer_preload` is. -/
inductive Call where
  /-- It waits for the lock. -/
  | waiting (hint : String)
  | submitted (load : ℕ)
  /-- The callback is added, or runs within the call. -/
  | watching (load : ℕ) (within : Bool)
  | returned (result : Bool)
  | raised
deriving DecidableEq

/-- The state of the module: `_HF_TOKENIZER_CACHE`, `_HF_TOKENIZER_FUTURES` with each future as
the index of its load, and all loads and calls so far. -/
structure State (τ : Type) where
  cache : List (String × τ)
  futures : List (String × ℕ)
  loads : List (Load τ)
  calls : List Call
deriving DecidableEq

/-- `from_pretrained` for one repository. -/
inductive Attempt (τ : Type) where
  | tokenizer (tokenizer : τ)
  | failed
  /-- An `Exception` whose `str()` raises. -/
  | unprintable
  /-- An exception that is no `Exception`. -/
  | aborted

/-- What happens in some thread. -/
inductive Event (τ : Type) where
  | enter (env : Environment) (modelHint : Option String)
  | lock (call : ℕ)
  | addCallback (call : ℕ)
  | leave (call : ℕ)
  | start (env : Environment) (load : ℕ)
  | attempt (load : ℕ) (result : Attempt τ)
  | finish (load : ℕ)
  | callback (load : ℕ)

section Steps

variable {τ : Type}

/-- `future.done()`. -/
def Load.isDone (load : Load τ) : Bool :=
  match load.phase with
  | .done _ => true
  | _ => false

/-- The load found a tokenizer. -/
def Load.succeeded (load : Load τ) : Bool :=
  match load.phase with
  | .cached _ => true
  | .done (.tokenizer _) => true
  | _ => false

/-- The load ended without a tokenizer. -/
def Load.failed (load : Load τ) : Bool :=
  load.isDone && !load.succeeded

/-- An exception that is no `Exception` ended the load. -/
def Load.isAborted (load : Load τ) : Bool :=
  match load.phase with
  | .done .aborted => true
  | _ => false

/-! ## Steps -/

/-- The future gets its result, and its callback runs if it was added. -/
def Load.finish (load : Load τ) (outcome : Outcome τ) : Load τ :=
  { load with
    phase := .done outcome
    callback := if load.callback = .added then .running else load.callback }

/-- The section of `schedule_tokenizer_preload` under the lock. -/
def State.schedule (s : State τ) (call : ℕ) (hint : String) : State τ :=
  let isCached := (dictGet s.cache hint).isSome
  let isPending := (dictGet s.futures hint).any fun id =>
    (s.loads[id]?).any fun load => !load.isDone
  if isCached || isPending then { s with calls := s.calls.set call (.returned false) }
  else
    { s with
      futures := dictSet s.futures hint s.loads.length
      loads := s.loads ++ [⟨hint, call, .queued, .unset⟩]
      calls := s.calls.set call (.submitted s.loads.length) }

/-- The section of `_tokenizer_future_done` under the lock. -/
def State.futureDone (s : State τ) (id : ℕ) (hint : String) (tokenizer : Option τ) : State τ :=
  if dictGet s.futures hint = some id then
    { s with
      futures := dictPop s.futures hint
      cache := match tokenizer with
        | some tokenizer => dictSet s.cache hint tokenizer
        | none => s.cache }
  else s

/-- A load takes the place of another one. -/
def State.setLoad (s : State τ) (id : ℕ) (load : Load τ) : State τ :=
  { s with loads := s.loads.set id load }

/-- `_load_hf_tokenizer_blocking` tries its next repository. -/
def State.attempt (s : State τ) (id : ℕ) (load : Load τ) (rest : List (List Char)) :
    Attempt τ → State τ
  | .tokenizer tokenizer =>
      { s.setLoad id { load with phase := .cached tokenizer } with
        cache := dictSet s.cache load.hint tokenizer }
  | .failed => s.setLoad id { load with phase := .loading rest }
  | .unprintable => s.setLoad id (load.finish .raised)
  | .aborted => s.setLoad id (load.finish .aborted)

/-- `_tokenizer_future_done`: `future.result()` raises what it does not catch. -/
def State.callback (s : State τ) (id : ℕ) (load : Load τ) : Outcome τ → State τ
  | .tokenizer tokenizer =>
      (s.setLoad id { load with callback := .finished }).futureDone id load.hint (some tokenizer)
  | .missing => (s.setLoad id { load with callback := .finished }).futureDone id load.hint none
  | .raised => (s.setLoad id { load with callback := .finished }).futureDone id load.hint none
  | .aborted => s.setLoad id { load with callback := .finished }

/-- One step of some thread. -/
def step (s : State τ) : Event τ → Option (State τ)
  | .enter env modelHint =>
      let hint := strip (modelHint.getD "").toList
      some { s with calls := s.calls ++
        [if isEligible env hint then .waiting (String.ofList hint) else .returned false] }
  | .lock call =>
      match s.calls[call]? with
      | some (.waiting hint) => some (s.schedule call hint)
      | _ => none
  | .addCallback call =>
      match s.calls[call]? with
      | some (.submitted id) => (s.loads[id]?).map fun load =>
          { s.setLoad id { load with callback := if load.isDone then .running else .added } with
            calls := s.calls.set call (.watching id load.isDone) }
      | _ => none
  | .leave call =>
      match s.calls[call]? with
      | some (.watching id within) => (s.loads[id]?).bind fun load =>
          -- a callback that runs within the call passes on what it does not catch
          if within && load.callback ≠ .finished then none
          else
            let result := if within && load.isAborted then .raised else .returned true
            some { s with calls := s.calls.set call result }
      | _ => none
  | .start env id =>
      (s.loads[id]?).bind fun load =>
        match load.phase with
        | .queued => some (s.setLoad id
            (if !env.hasAutoTokenizer || !hfEndpointIsTrusted env then load.finish .missing
            else { load with phase := .loading (candidateHfRepoIds load.hint.toList) }))
        | _ => none
  | .attempt id result =>
      (s.loads[id]?).bind fun load =>
        match load.phase with
        | .loading (_ :: rest) => some (s.attempt id load rest result)
        | _ => none
  | .finish id =>
      (s.loads[id]?).bind fun load =>
        match load.phase with
        | .loading [] => some (s.setLoad id (load.finish .missing))
        | .cached tokenizer => some (s.setLoad id (load.finish (.tokenizer tokenizer)))
        | _ => none
  | .callback id =>
      (s.loads[id]?).bind fun load =>
        match load.phase with
        | .done outcome =>
            if load.callback = .running then some (s.callback id load outcome) else none
        | _ => none

/-- The module after its import. -/
def State.initial : State τ :=
  ⟨[], [], [], []⟩

/-! ## What a step does -/

/-- The call has submitted a load. -/
def Call.hasSubmitted : Call → Bool
  | .waiting _ => false
  | .submitted _ => true
  | .watching _ _ => true
  | .returned result => result
  | .raised => true

/-- A load took the place of another one for the same hint. -/
structure Replaces (s s' : State τ) (id : ℕ) (load load' : Load τ) : Prop where
  old : s.loads[id]? = some load
  loads : s'.loads = s.loads.set id load'
  hint : load'.hint = load.hint
  call : load'.call = load.call
  failed : load.failed = true → load'.failed = true
  succeeded : load.succeeded = true → load'.succeeded = true
  done : load.isDone = true → load'.isDone = true
  futures : ∀ hint other, dictGet s'.futures hint = some other →
    dictGet s.futures hint = some other
  kept : ∀ hint other, dictGet s.futures hint = some other → other ≠ id ∨ load'.isDone = false →
    dictGet s'.futures hint = some other
  cacheKept : ∀ hint, (dictGet s.cache hint).isSome = true → (dictGet s'.cache hint).isSome = true
  cacheFrom : ∀ hint, (dictGet s'.cache hint).isSome = true →
    (dictGet s.cache hint).isSome = true ∨ hint = load.hint ∧ load'.succeeded = true
  cacheNew : load'.succeeded = true → load.succeeded = false →
    (dictGet s'.cache load.hint).isSome = true

/-- What a step does to the cache, the futures, the loads and the calls. -/
inductive Moved (s s' : State τ) : Prop where
  | entered (call : Call) (hcall : call.hasSubmitted = false)
      (h : s' = { s with calls := s.calls ++ [call] })
  | kept (hcache : s'.cache = s.cache) (hfutures : s'.futures = s.futures)
      (hloads : s'.loads = s.loads)
      (hcalls : s'.calls.map Call.hasSubmitted = s.calls.map Call.hasSubmitted)
  | submitted (call : ℕ) (hint : String) (hcall : s.calls[call]? = some (.waiting hint))
      (hcache : (dictGet s.cache hint).isSome = false)
      (hpending : ∀ id load, dictGet s.futures hint = some id → s.loads[id]? = some load →
        load.isDone = true)
      (h : s' = { s with
        futures := dictSet s.futures hint s.loads.length
        loads := s.loads ++ [⟨hint, call, .queued, .unset⟩]
        calls := s.calls.set call (.submitted s.loads.length) })
  | replaced (id : ℕ) (load load' : Load τ) (h : Replaces s s' id load load')
      (hcalls : s'.calls.map Call.hasSubmitted = s.calls.map Call.hasSubmitted)

theorem map_set_of_eq {α β : Type} {f : α → β} {l : List α} {i : ℕ} {a b : α}
    (h : l[i]? = some a) (hf : f b = f a) : (l.set i b).map f = l.map f := by
  rw [List.map_set, hf]
  refine List.ext_getElem? fun j => ?_
  by_cases hij : i = j
  · rw [← hij, List.getElem?_map, h, List.getElem?_set_self]
    · rfl
    · rw [List.length_map]
      exact (List.getElem?_eq_some_iff.mp h).1
  · rw [List.getElem?_set_ne hij]

/-- A load that is not done yet is replaced; the cache may get its tokenizer. -/
theorem replaces_of_not_done {s s' : State τ} {id : ℕ} {load load' : Load τ}
    (hold : s.loads[id]? = some load) (hloads : s'.loads = s.loads.set id load')
    (hhint : load'.hint = load.hint) (hcall : load'.call = load.call)
    (hdone : load.isDone = false) (hfutures : s'.futures = s.futures)
    (hsucceeded : load.succeeded = true → load'.succeeded = true)
    (hcache : (s'.cache = s.cache ∧ load'.succeeded = load.succeeded) ∨
      ∃ tokenizer, s'.cache = dictSet s.cache load.hint tokenizer ∧ load'.succeeded = true) :
    Replaces s s' id load load' where
  old := hold
  loads := hloads
  hint := hhint
  call := hcall
  failed := by simp [Load.failed, hdone]
  succeeded := hsucceeded
  done := by simp [hdone]
  futures := by
    intro hint other h
    rw [← hfutures]
    exact h
  kept := by
    intro hint other h _
    rw [hfutures]
    exact h
  cacheKept := by
    intro hint h
    rcases hcache with ⟨hcache, -⟩ | ⟨tokenizer, hcache, -⟩
    · rw [hcache]
      exact h
    · rw [hcache, dictGet_dictSet]
      split
      · rfl
      · exact h
  cacheFrom := by
    intro hint h
    rcases hcache with ⟨hcache, -⟩ | ⟨tokenizer, hcache, hnew⟩
    · rw [hcache] at h
      exact .inl h
    · rw [hcache, dictGet_dictSet] at h
      by_cases hkey : load.hint = hint
      · exact .inr ⟨hkey.symm, hnew⟩
      · rw [if_neg hkey] at h
        exact .inl h
  cacheNew := by
    intro hnew hnot
    rcases hcache with ⟨-, hsame⟩ | ⟨tokenizer, hcache, -⟩
    · rw [hsame, hnot] at hnew
      cases hnew
    · rw [hcache, dictGet_dictSet, if_pos rfl]
      rfl

/-- The callback of a load leaves the load as it is, and the future that it takes out is that of
its own load. -/
theorem replaces_futureDone {s : State τ} {id : ℕ} {load : Load τ}
    (hold : s.loads[id]? = some load) (hdone : load.isDone = true) (tokenizer : Option τ)
    (htokenizer : tokenizer.isSome = true → load.succeeded = true) :
    Replaces s ((s.setLoad id { load with callback := .finished }).futureDone id load.hint
      tokenizer) id load { load with callback := .finished } := by
  unfold State.futureDone State.setLoad
  dsimp only
  by_cases hcurrent : dictGet s.futures load.hint = some id
  · rw [if_pos hcurrent]
    refine ⟨hold, rfl, rfl, rfl, fun h => h, fun h => h, fun h => h, ?_, ?_, ?_, ?_, ?_⟩
    · intro hint other h
      rw [dictGet_dictPop] at h
      by_cases hkey : hint = load.hint
      · rw [if_pos hkey] at h
        cases h
      · rw [if_neg hkey] at h
        exact h
    · intro hint other h hother
      rw [dictGet_dictPop, if_neg]
      · exact h
      · intro hkey
        rw [hkey, hcurrent, Option.some.injEq] at h
        rcases hother with hne | hpending
        · exact hne h.symm
        · exact absurd hdone (by rw [Bool.not_eq_true]; exact hpending)
    · intro hint h
      cases tokenizer with
      | none => exact h
      | some tokenizer =>
          dsimp only
          rw [dictGet_dictSet]
          split
          · rfl
          · exact h
    · intro hint h
      cases tokenizer with
      | none => exact .inl h
      | some tokenizer =>
          dsimp only at h
          rw [dictGet_dictSet] at h
          by_cases hkey : load.hint = hint
          · exact .inr ⟨hkey.symm, htokenizer rfl⟩
          · rw [if_neg hkey] at h
            exact .inl h
    · intro hnew hnot
      have hsame : load.succeeded = true := hnew
      rw [hnot] at hsame
      cases hsame
  · rw [if_neg hcurrent]
    refine ⟨hold, rfl, rfl, rfl, fun h => h, fun h => h, fun h => h, fun _ _ h => h,
      fun _ _ h _ => h, fun _ h => h, fun _ h => .inl h, ?_⟩
    intro hnew hnot
    have hsame : load.succeeded = true := hnew
    rw [hnot] at hsame
    cases hsame

/-- A callback that is added or ended changes nothing but the load. -/
theorem replaces_callback {s s' : State τ} {id : ℕ} {load : Load τ}
    (hold : s.loads[id]? = some load) (callback : Callback)
    (hloads : s'.loads = s.loads.set id { load with callback := callback })
    (hcache : s'.cache = s.cache) (hfutures : s'.futures = s.futures) :
    Replaces s s' id load { load with callback := callback } := by
  refine ⟨hold, hloads, rfl, rfl, fun h => h, fun h => h, fun h => h, ?_, ?_, ?_, ?_, ?_⟩
  · intro hint other h
    rw [← hfutures]
    exact h
  · intro hint other h _
    rw [hfutures]
    exact h
  · intro hint h
    rw [hcache]
    exact h
  · intro hint h
    rw [hcache] at h
    exact .inl h
  · intro hnew hnot
    have hsame : load.succeeded = true := hnew
    rw [hnot] at hsame
    cases hsame

/-! ## Every step is one of these -/

theorem lock_moved {s s' : State τ} {call : ℕ} (h : step s (.lock call) = some s') :
    Moved s s' := by
  rw [step] at h
  split at h
  · rename_i hint hcall
    rw [Option.some.injEq] at h
    subst h
    unfold State.schedule
    dsimp only
    split
    · exact .kept rfl rfl rfl (map_set_of_eq hcall rfl)
    · rename_i hfree
      rw [Bool.or_eq_true, not_or, Bool.not_eq_true, Bool.not_eq_true] at hfree
      refine .submitted call hint hcall hfree.1 ?_ rfl
      intro id load hcurrent hload
      have hpending := hfree.2
      rw [hcurrent, Option.any_some, hload, Option.any_some] at hpending
      simpa using hpending
  · cases h

theorem addCallback_moved {s s' : State τ} {call : ℕ}
    (h : step s (.addCallback call) = some s') : Moved s s' := by
  rw [step] at h
  split at h
  · rename_i id hcall
    obtain ⟨load, hload, rfl⟩ := Option.map_eq_some_iff.mp h
    exact .replaced id load _ (replaces_callback hload _ rfl rfl rfl) (map_set_of_eq hcall rfl)
  · cases h

theorem leave_moved {s s' : State τ} {call : ℕ} (h : step s (.leave call) = some s') :
    Moved s s' := by
  rw [step] at h
  split at h
  · rename_i id within hcall
    obtain ⟨load, hload, h⟩ := Option.bind_eq_some_iff.mp h
    split at h
    · cases h
    · rw [Option.some.injEq] at h
      subst h
      refine .kept rfl rfl rfl (map_set_of_eq hcall ?_)
      cases within && load.isAborted <;> rfl
  · cases h

theorem start_moved {s s' : State τ} {env : Environment} {id : ℕ}
    (h : step s (.start env id) = some s') : Moved s s' := by
  obtain ⟨load, hload, h⟩ := Option.bind_eq_some_iff.mp h
  split at h
  · rename_i hphase
    rw [Option.some.injEq] at h
    subst h
    have hnot : load.isDone = false := by rw [Load.isDone, hphase]
    have hsucceeded : load.succeeded = false := by rw [Load.succeeded, hphase]
    refine .replaced id load _ (replaces_of_not_done hload rfl ?_ ?_ hnot rfl ?_ ?_) rfl
    · split <;> rfl
    · split <;> rfl
    · simp [hsucceeded]
    · refine .inl ⟨rfl, ?_⟩
      rw [hsucceeded]
      split <;> rfl
  · cases h

theorem attempt_moved {s s' : State τ} {id : ℕ} {result : Attempt τ}
    (h : step s (.attempt id result) = some s') : Moved s s' := by
  obtain ⟨load, hload, h⟩ := Option.bind_eq_some_iff.mp h
  split at h
  · rename_i repoId rest hphase
    rw [Option.some.injEq] at h
    subst h
    have hnot : load.isDone = false := by rw [Load.isDone, hphase]
    have hsucceeded : load.succeeded = false := by rw [Load.succeeded, hphase]
    cases result with
    | tokenizer tokenizer =>
        refine .replaced id load _ (replaces_of_not_done hload rfl rfl rfl hnot rfl ?_ ?_) rfl
        · simp [hsucceeded]
        · exact .inr ⟨tokenizer, rfl, rfl⟩
    | _ =>
        refine .replaced id load _ (replaces_of_not_done hload rfl rfl rfl hnot rfl ?_ ?_) rfl
        · simp [hsucceeded]
        · exact .inl ⟨rfl, by rw [hsucceeded]; rfl⟩
  · cases h

theorem finish_moved {s s' : State τ} {id : ℕ} (h : step s (.finish id) = some s') :
    Moved s s' := by
  obtain ⟨load, hload, h⟩ := Option.bind_eq_some_iff.mp h
  split at h
  · rename_i hphase
    rw [Option.some.injEq] at h
    subst h
    have hnot : load.isDone = false := by rw [Load.isDone, hphase]
    have hsucceeded : load.succeeded = false := by rw [Load.succeeded, hphase]
    refine .replaced id load _ (replaces_of_not_done hload rfl rfl rfl hnot rfl ?_ ?_) rfl
    · simp [hsucceeded]
    · exact .inl ⟨rfl, by rw [hsucceeded]; rfl⟩
  · rename_i tokenizer hphase
    rw [Option.some.injEq] at h
    subst h
    have hnot : load.isDone = false := by rw [Load.isDone, hphase]
    have hsucceeded : load.succeeded = true := by rw [Load.succeeded, hphase]
    refine .replaced id load _ (replaces_of_not_done hload rfl rfl rfl hnot rfl ?_ ?_) rfl
    · exact fun _ => rfl
    · exact .inl ⟨rfl, by rw [hsucceeded]; rfl⟩
  · cases h

theorem callback_moved {s s' : State τ} {id : ℕ} (h : step s (.callback id) = some s') :
    Moved s s' := by
  obtain ⟨load, hload, h⟩ := Option.bind_eq_some_iff.mp h
  split at h
  · rename_i outcome hphase
    split at h
    · rw [Option.some.injEq] at h
      subst h
      have hdone : load.isDone = true := by rw [Load.isDone, hphase]
      have hcalls : ∀ tokenizer, ((s.setLoad id { load with callback := .finished }).futureDone id
          load.hint tokenizer).calls = s.calls := by
        intro tokenizer
        unfold State.futureDone
        split <;> rfl
      cases outcome with
      | tokenizer tokenizer =>
          refine .replaced id load _ (replaces_futureDone hload hdone (some tokenizer) ?_) ?_
          · intro _
            rw [Load.succeeded, hphase]
          · exact congrArg _ (hcalls _)
      | missing =>
          refine .replaced id load _ (replaces_futureDone hload hdone none ?_) ?_
          · exact fun h => (nomatch h)
          · exact congrArg _ (hcalls _)
      | raised =>
          refine .replaced id load _ (replaces_futureDone hload hdone none ?_) ?_
          · exact fun h => (nomatch h)
          · exact congrArg _ (hcalls _)
      | aborted => exact .replaced id load _ (replaces_callback hload _ rfl rfl rfl) rfl
    · cases h
  · cases h

/-- Every step is an entry, a change of a call, a submission or a change of a load. -/
theorem step_moved {s s' : State τ} {event : Event τ} (h : step s event = some s') :
    Moved s s' := by
  cases event with
  | enter env modelHint =>
      cases h
      refine .entered _ ?_ rfl
      split <;> rfl
  | lock call => exact lock_moved h
  | addCallback call => exact addCallback_moved h
  | leave call => exact leave_moved h
  | start env id => exact start_moved h
  | attempt id result => exact attempt_moved h
  | finish id => exact finish_moved h
  | callback id => exact callback_moved h

/-! ## The invariant -/

/-- What holds in every state that is reached. -/
structure Invariant (s : State τ) : Prop where
  /-- The future of a load in flight is the current one of its hint. -/
  current : ∀ (id : ℕ) (load : Load τ), s.loads[id]? = some load → load.isDone = false →
    dictGet s.futures load.hint = some id
  known : ∀ hint id, dictGet s.futures hint = some id →
    ∃ load, s.loads[id]? = some load ∧ load.hint = hint
  /-- The cache has the hints with a load that succeeded. -/
  cached : ∀ hint, (dictGet s.cache hint).isSome = true ↔
    ∃ (id : ℕ) (load : Load τ), s.loads[id]? = some load ∧ load.hint = hint ∧
      load.succeeded = true
  /-- Only the last load of a hint may be in flight or successful. -/
  order : ∀ (i j : ℕ) (earlier later : Load τ), i < j → s.loads[i]? = some earlier →
    s.loads[j]? = some later → earlier.hint = later.hint → earlier.failed = true
  calls : ∀ call submitted, (s.calls.map Call.hasSubmitted)[call]? = some submitted →
    (submitted = true ↔ call ∈ s.loads.map Load.call)
  callOf : ∀ call ∈ s.loads.map Load.call, call < s.calls.length

theorem invariant_initial : Invariant (State.initial : State τ) := by
  constructor <;> simp [State.initial, dictGet]

theorem Replaces.get {s s' : State τ} {id : ℕ} {load load' : Load τ}
    (h : Replaces s s' id load load') (i : ℕ) :
    s'.loads[i]? = if i = id then some load' else s.loads[i]? := by
  rw [h.loads]
  by_cases hi : i = id
  · rw [if_pos hi, hi, List.getElem?_set_self (List.getElem?_eq_some_iff.mp h.old).1]
  · rw [if_neg hi, List.getElem?_set_ne (Ne.symm hi)]

/-- Each load comes from the load at its place. -/
theorem Replaces.from {s s' : State τ} {id i : ℕ} {load load' new : Load τ}
    (h : Replaces s s' id load load') (hnew : s'.loads[i]? = some new) :
    ∃ old, s.loads[i]? = some old ∧ new.hint = old.hint ∧
      (old.failed = true → new.failed = true) ∧ (old.isDone = true → new.isDone = true) := by
  rw [h.get] at hnew
  by_cases hi : i = id
  · rw [if_pos hi] at hnew
    cases hnew
    exact ⟨load, hi ▸ h.old, h.hint, h.failed, h.done⟩
  · rw [if_neg hi] at hnew
    exact ⟨new, hnew, rfl, fun h => h, fun h => h⟩

theorem Replaces.calls {s s' : State τ} {id : ℕ} {load load' : Load τ}
    (h : Replaces s s' id load load') : s'.loads.map Load.call = s.loads.map Load.call := by
  rw [h.loads]
  exact map_set_of_eq h.old h.call

theorem invariant_replaced {s s' : State τ} {id : ℕ} {load load' : Load τ}
    (h : Replaces s s' id load load')
    (hcalls : s'.calls.map Call.hasSubmitted = s.calls.map Call.hasSubmitted)
    (hinv : Invariant s) : Invariant s' := by
  constructor
  case current =>
    intro i new hnew hnot
    obtain ⟨old, hold, hhint, -, hdone⟩ := h.from hnew
    have holdNot : old.isDone = false := by
      by_contra hcontra
      rw [hdone (by simpa using hcontra)] at hnot
      cases hnot
    rw [hhint]
    refine h.kept _ _ (hinv.current i old hold holdNot) ?_
    by_cases hi : i = id
    · rw [h.get, if_pos hi, Option.some.injEq] at hnew
      exact .inr (hnew ▸ hnot)
    · exact .inl hi
  case known =>
    intro hint i hi
    obtain ⟨old, hold, hhint⟩ := hinv.known hint i (h.futures hint i hi)
    by_cases hid : i = id
    · refine ⟨load', by rw [h.get, if_pos hid], ?_⟩
      rw [hid, h.old, Option.some.injEq] at hold
      rw [h.hint, hold, hhint]
    · exact ⟨old, by rw [h.get, if_neg hid, hold], hhint⟩
  case cached =>
    intro hint
    constructor
    · intro hcached
      rcases h.cacheFrom hint hcached with hold | ⟨rfl, hnew⟩
      · obtain ⟨i, old, hi, hhint, hsucceeded⟩ := (hinv.cached hint).mp hold
        by_cases hid : i = id
        · rw [hid, h.old, Option.some.injEq] at hi
          refine ⟨id, load', by rw [h.get, if_pos rfl], ?_, h.succeeded (hi ▸ hsucceeded)⟩
          rw [h.hint, hi, hhint]
        · exact ⟨i, old, by rw [h.get, if_neg hid, hi], hhint, hsucceeded⟩
      · exact ⟨id, load', by rw [h.get, if_pos rfl], h.hint, hnew⟩
    · rintro ⟨i, new, hi, rfl, hsucceeded⟩
      by_cases hid : i = id
      · rw [h.get, if_pos hid, Option.some.injEq] at hi
        rw [← hi] at hsucceeded ⊢
        rw [h.hint]
        cases hbefore : load.succeeded with
        | true => exact h.cacheKept _ ((hinv.cached _).mpr ⟨id, load, h.old, rfl, hbefore⟩)
        | false => exact h.cacheNew hsucceeded hbefore
      · rw [h.get, if_neg hid] at hi
        exact h.cacheKept _ ((hinv.cached _).mpr ⟨i, new, hi, rfl, hsucceeded⟩)
  case order =>
    intro i j earlier later hij hearlier hlater hhint
    obtain ⟨old, hold, holdHint, hfailed, -⟩ := h.from hearlier
    obtain ⟨last, hlast, hlastHint, -, -⟩ := h.from hlater
    exact hfailed (hinv.order i j old last hij hold hlast (by rw [← holdHint, hhint, hlastHint]))
  case calls =>
    intro call submitted hcall
    rw [hcalls] at hcall
    rw [h.calls]
    exact hinv.calls call submitted hcall
  case callOf =>
    intro call hcall
    rw [h.calls] at hcall
    have hlength := congrArg List.length hcalls
    rw [List.length_map, List.length_map] at hlength
    rw [hlength]
    exact hinv.callOf call hcall

/-- A call that takes the lock and finds neither a tokenizer nor a pending future finds only
failed loads. -/
theorem failed_of_free {s : State τ} (hinv : Invariant s) {hint : String}
    (hcache : (dictGet s.cache hint).isSome = false)
    (hpending : ∀ id load, dictGet s.futures hint = some id → s.loads[id]? = some load →
      load.isDone = true) {id : ℕ} {load : Load τ} (hload : s.loads[id]? = some load)
    (hhint : load.hint = hint) : load.failed = true := by
  have hdone : load.isDone = true := by
    by_contra hnot
    have hcurrent := hinv.current id load hload (by simpa using hnot)
    rw [hhint] at hcurrent
    exact hnot (hpending id load hcurrent hload)
  have hnone : load.succeeded = false := by
    by_contra hsucceeded
    have hsome := (hinv.cached hint).mpr ⟨id, load, hload, hhint, by simpa using hsucceeded⟩
    rw [hcache] at hsome
    cases hsome
  rw [Load.failed, hdone, hnone]
  rfl

theorem getElem?_append_one {α : Type} {l : List α} {a b : α} {i : ℕ}
    (h : (l ++ [a])[i]? = some b) : l[i]? = some b ∨ i = l.length ∧ b = a := by
  rw [List.getElem?_append] at h
  split at h
  · exact .inl h
  · rename_i hlength
    cases hi : i - l.length with
    | zero =>
        rw [hi] at h
        cases h
        exact .inr ⟨by omega, rfl⟩
    | succ n =>
        rw [hi] at h
        cases h

theorem invariant_submitted {s : State τ} {call : ℕ} {hint : String}
    (hcall : s.calls[call]? = some (.waiting hint))
    (hcache : (dictGet s.cache hint).isSome = false)
    (hpending : ∀ id load, dictGet s.futures hint = some id → s.loads[id]? = some load →
      load.isDone = true) (hinv : Invariant s) :
    Invariant { s with
      futures := dictSet s.futures hint s.loads.length
      loads := s.loads ++ [⟨hint, call, .queued, .unset⟩]
      calls := s.calls.set call (.submitted s.loads.length) } := by
  have hlast : (s.loads ++ [(⟨hint, call, .queued, .unset⟩ : Load τ)])[s.loads.length]? =
      some ⟨hint, call, .queued, .unset⟩ := by
    rw [List.getElem?_append_right (Nat.le_refl _), Nat.sub_self]
    rfl
  have hkeep : ∀ {i : ℕ} {load : Load τ}, s.loads[i]? = some load →
      (s.loads ++ [(⟨hint, call, .queued, .unset⟩ : Load τ)])[i]? = some load := by
    intro i load hi
    rw [List.getElem?_append_left (List.getElem?_eq_some_iff.mp hi).1, hi]
  have hbound : call < s.calls.length := (List.getElem?_eq_some_iff.mp hcall).1
  constructor
  case current =>
    intro i load hload hnot
    dsimp only at hload ⊢
    rw [dictGet_dictSet]
    rcases getElem?_append_one hload with hload | ⟨rfl, rfl⟩
    · rw [if_neg]
      · exact hinv.current i load hload hnot
      · intro hhint
        have hfailed := failed_of_free hinv hcache hpending hload hhint.symm
        rw [Load.failed, hnot] at hfailed
        cases hfailed
    · rw [if_pos rfl]
  case known =>
    intro other i hi
    dsimp only at hi ⊢
    rw [dictGet_dictSet] at hi
    by_cases hother : hint = other
    · rw [if_pos hother, Option.some.injEq] at hi
      rw [← hi, ← hother]
      exact ⟨_, hlast, rfl⟩
    · rw [if_neg hother] at hi
      obtain ⟨load, hload, hhint⟩ := hinv.known other i hi
      exact ⟨load, hkeep hload, hhint⟩
  case cached =>
    intro other
    rw [hinv.cached other]
    constructor
    · rintro ⟨i, load, hload, hhint, hsucceeded⟩
      exact ⟨i, load, hkeep hload, hhint, hsucceeded⟩
    · rintro ⟨i, load, hload, hhint, hsucceeded⟩
      rcases getElem?_append_one hload with hload | ⟨rfl, rfl⟩
      · exact ⟨i, load, hload, hhint, hsucceeded⟩
      · cases hsucceeded
  case order =>
    intro i j earlier later hij hearlier hlater hhint
    rcases getElem?_append_one hlater with hlater | ⟨rfl, rfl⟩
    · have hlength := (List.getElem?_eq_some_iff.mp hlater).1
      rcases getElem?_append_one hearlier with hearlier | ⟨rfl, rfl⟩
      · exact hinv.order i j earlier later hij hearlier hlater hhint
      · omega
    · rcases getElem?_append_one hearlier with hearlier | ⟨rfl, rfl⟩
      · exact failed_of_free hinv hcache hpending hearlier hhint
      · omega
  case calls =>
    intro other submitted hother
    rw [List.map_set] at hother
    rw [List.map_append, List.mem_append, List.map_singleton, List.mem_singleton]
    by_cases hsame : other = call
    · rw [hsame, List.getElem?_set_self (by rw [List.length_map]; exact hbound)] at hother
      cases hother
      exact iff_of_true rfl (.inr hsame)
    · rw [List.getElem?_set_ne (Ne.symm hsame)] at hother
      rw [hinv.calls other submitted hother]
      exact ⟨.inl, fun h => h.resolve_right hsame⟩
  case callOf =>
    intro other hother
    rw [List.map_append, List.mem_append, List.map_singleton, List.mem_singleton] at hother
    dsimp only
    rw [List.length_set]
    rcases hother with hother | rfl
    · exact hinv.callOf other hother
    · exact hbound

/-- Every step keeps the invariant. -/
theorem invariant_step {s s' : State τ} {event : Event τ} (h : step s event = some s')
    (hinv : Invariant s) : Invariant s' := by
  cases step_moved h with
  | entered call hcall h =>
      subst h
      refine ⟨hinv.current, hinv.known, hinv.cached, hinv.order, ?_, ?_⟩
      · intro other submitted hother
        rw [List.map_append, List.map_singleton] at hother
        rcases getElem?_append_one hother with hother | ⟨rfl, rfl⟩
        · exact hinv.calls other submitted hother
        · rw [hcall]
          refine iff_of_false (by simp) fun hmem => ?_
          have hlt := hinv.callOf _ hmem
          rw [List.length_map] at hlt
          exact Nat.lt_irrefl _ hlt
      · intro other hother
        have hlt := hinv.callOf other hother
        rw [List.length_append]
        exact Nat.lt_add_right _ hlt
  | kept hcache hfutures hloads hcalls =>
      have hlength := congrArg List.length hcalls
      rw [List.length_map, List.length_map] at hlength
      constructor
      case current =>
        rw [hloads, hfutures]
        exact hinv.current
      case known =>
        rw [hloads, hfutures]
        exact hinv.known
      case cached =>
        rw [hloads, hcache]
        exact hinv.cached
      case order =>
        rw [hloads]
        exact hinv.order
      case calls =>
        rw [hcalls, hloads]
        exact hinv.calls
      case callOf =>
        rw [hloads, hlength]
        exact hinv.callOf
  | submitted call hint hcall hcache hpending h =>
      subst h
      exact invariant_submitted hcall hcache hpending hinv
  | replaced id load load' h hcalls => exact invariant_replaced h hcalls hinv

/-- The invariant holds after every run. -/
theorem invariant_of_run {s : State τ} {events : List (Event τ)}
    (hrun : run step State.initial events = some s) : Invariant s :=
  run_invariant Invariant (fun _ _ _ h hinv => invariant_step h hinv) hrun invariant_initial

/-! ## Single flight -/

/-- At most one load of a hint is in flight. -/
theorem eq_of_in_flight {s : State τ} (hinv : Invariant s) {i j : ℕ} {first second : Load τ}
    (hfirst : s.loads[i]? = some first) (hsecond : s.loads[j]? = some second)
    (hhint : first.hint = second.hint) (hpending : first.isDone = false)
    (hpending' : second.isDone = false) : i = j := by
  have hcurrent := hinv.current i first hfirst hpending
  rw [hhint, hinv.current j second hsecond hpending'] at hcurrent
  exact (Option.some.inj hcurrent).symm

/-- A call that takes the lock submits a load exactly when all loads of its hint have failed, and
turns back otherwise. -/
theorem schedule_submits_iff {s : State τ} (hinv : Invariant s) {call : ℕ} {hint : String}
    (hcall : s.calls[call]? = some (.waiting hint)) :
    ∃ s', step s (.lock call) = some s' ∧
      if ∀ load ∈ s.loads, load.hint = hint → load.failed = true then
        s'.loads = s.loads ++ [⟨hint, call, .queued, .unset⟩]
      else s'.loads = s.loads ∧ s'.calls[call]? = some (.returned false) := by
  refine ⟨s.schedule call hint, by rw [step, hcall], ?_⟩
  have hbound : call < s.calls.length := (List.getElem?_eq_some_iff.mp hcall).1
  unfold State.schedule
  dsimp only
  split
  · rename_i hall
    rw [if_neg]
    rw [Bool.or_eq_true, not_or]
    constructor
    · intro hcached
      obtain ⟨id, load, hload, hhint, hsucceeded⟩ := (hinv.cached hint).mp hcached
      have hfailed := hall load (List.mem_of_getElem? hload) hhint
      rw [Load.failed, hsucceeded, Bool.not_true, Bool.and_false] at hfailed
      cases hfailed
    · intro hpending
      obtain ⟨id, hcurrent, hany⟩ := (Option.any_eq_true _ _).mp hpending
      obtain ⟨load, hload, hhint⟩ := hinv.known hint id hcurrent
      have hfailed := hall load (List.mem_of_getElem? hload) hhint
      rw [hload, Option.any_some] at hany
      rw [Load.failed, Bool.and_eq_true] at hfailed
      rw [hfailed.1] at hany
      cases hany
  · rename_i hnot
    rw [if_pos]
    · exact ⟨rfl, List.getElem?_set_self hbound⟩
    · by_contra hfree
      rw [Bool.or_eq_true, not_or, Bool.not_eq_true, Bool.not_eq_true] at hfree
      refine hnot fun load hload hhint => ?_
      obtain ⟨id, hid⟩ := List.mem_iff_getElem?.mp hload
      refine failed_of_free hinv hfree.1 ?_ hid hhint
      intro other current hcurrent hother
      have hpending := hfree.2
      rw [hcurrent, Option.any_some, hother, Option.any_some] at hpending
      simpa using hpending

/-- In every state that is reached, at most one load of a hint is in flight, only the last load
of a hint may have succeeded, a call that returned returned true exactly when it submitted a load,
and a call that takes the lock after a failed load of its hint, with none after it, submits a new
one. -/
theorem preload_single_flight {s : State τ} {events : List (Event τ)}
    (hrun : run step State.initial events = some s) :
    (∀ (i j : ℕ) (first second : Load τ), s.loads[i]? = some first → s.loads[j]? = some second →
        first.hint = second.hint → first.isDone = false → second.isDone = false → i = j) ∧
      (∀ (i j : ℕ) (earlier later : Load τ), i < j → s.loads[i]? = some earlier →
        s.loads[j]? = some later → earlier.hint = later.hint → earlier.succeeded = false) ∧
      (∀ (call : ℕ) (result : Bool), s.calls[call]? = some (.returned result) →
        (result = true ↔ ∃ load ∈ s.loads, load.call = call)) ∧
      ∀ (id call : ℕ) (load : Load τ), s.loads[id]? = some load → load.failed = true →
        (∀ (j : ℕ) (later : Load τ), id < j → s.loads[j]? = some later →
          later.hint ≠ load.hint) →
        s.calls[call]? = some (.waiting load.hint) →
          ∃ s', step s (.lock call) = some s' ∧
            s'.loads = s.loads ++ [⟨load.hint, call, .queued, .unset⟩] := by
  have hinv := invariant_of_run hrun
  refine ⟨?_, ?_, ?_, ?_⟩
  · intro i j first second hfirst hsecond hhint hpending hpending'
    exact eq_of_in_flight hinv hfirst hsecond hhint hpending hpending'
  · intro i j earlier later hij hearlier hlater hhint
    have hfailed := hinv.order i j earlier later hij hearlier hlater hhint
    rw [Load.failed, Bool.and_eq_true, Bool.not_eq_true'] at hfailed
    exact hfailed.2
  · intro call result hcall
    have hsubmitted := hinv.calls call result (by rw [List.getElem?_map, hcall]; rfl)
    rw [List.mem_map] at hsubmitted
    exact hsubmitted
  · intro id call load hload hfailed hlast hcall
    obtain ⟨s', hstep, hloads⟩ := schedule_submits_iff hinv hcall
    rw [if_pos] at hloads
    · exact ⟨s', hstep, hloads⟩
    · intro other hother hhint
      obtain ⟨i, hi⟩ := List.mem_iff_getElem?.mp hother
      rcases Nat.lt_trichotomy i id with hlt | heq | hgt
      · exact hinv.order i id other load hlt hi hload hhint
      · rw [heq, hload, Option.some.injEq] at hi
        rw [← hi]
        exact hfailed
      · exact absurd hhint (hlast i other hgt hi)

end Steps

/-! ## Samples -/

/-- An interpreter with the tokenizer library, the default endpoint and no tiktoken encodings. -/
def plainEnvironment : Environment where
  hasAutoTokenizer := true
  hfEndpoint := none
  encodingForModel := fun _ => false
  getTiktokenEncoding := fun _ => false

/-- A load fails for both of its repositories, and a second call for its hint comes in. -/
def failedLoad : List (Event Bool) :=
  [.enter plainEnvironment (some " org/repo"), .lock 0, .start plainEnvironment 0,
    .attempt 0 .failed, .attempt 0 .failed, .finish 0, .addCallback 0, .callback 0, .leave 0,
    .enter plainEnvironment (some "org/repo")]

/-- The state after it. -/
def afterFailedLoad : State Bool :=
  ⟨[], [], [⟨"org/repo", 0, .done .missing, .finished⟩],
    [.returned true, .waiting "org/repo"]⟩

/-- The second call submits a new load. -/
theorem second_call_submits : ∃ s', step afterFailedLoad (.lock 1) = some s' ∧
    s'.loads = afterFailedLoad.loads ++ [⟨"org/repo", 1, .queued, .unset⟩] := by
  have hrun : run step State.initial failedLoad = some afterFailedLoad := by decide +kernel
  refine (preload_single_flight hrun).2.2.2 0 1 ⟨"org/repo", 0, .done .missing, .finished⟩ rfl rfl
    ?_ rfl
  intro j later hj hlater
  have hbound := (List.getElem?_eq_some_iff.mp hlater).1
  simp only [afterFailedLoad, List.length_cons, List.length_nil] at hbound
  omega

end Preload
end Tokens
end FreeLunch
