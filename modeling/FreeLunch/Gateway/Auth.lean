import FreeLunch.Gateway.Throttle
import FreeLunch.Python.Base64
import FreeLunch.Runtime.Reload

/-!
# Gateway authentication

`_check_gateway_auth` of `src/proxy.py` with `verify_gateway_auth_token` of
`src/secret_store.py`: the bearer token of a request against the configured key or the
stored digest, and the failures that are counted against the client.

Main results:

- Theorem `run_checkGatewayAuth_of_token`: what the gate does with a bearer token, by the
  verdict on it.
- Theorem `matchesConfig_create_iff`: the stored digest accepts the token it was made from.
- Theorem `countedOnce_refused`: a refusal counts one failure of its client in the throttle.
- Theorem `gateContract_iff`: the gate accepts, refuses and counts as it should exactly
  unless it meets a token, a key or a stored digest that it cannot compare.

Current gaps:

- PBKDF2 is a parameter.
-/

namespace FreeLunch
namespace Gateway

open FreeLunch.Runtime Python Transactions

/-! ## Verdicts -/

/-- What the gate can raise. -/
inductive AuthError where
  /-- `HTTPException` with its `Retry-After` header, if any. -/
  | httpException (statusCode : Nat) (detail : String) (retryAfter : Option Int)
  | raised (exc : Exc)
deriving DecidableEq, Repr

/-- `hmac.compare_digest` of two strings. -/
def compareDigest (a b : String) : Except Exc Bool :=
  if a.toList.all isAscii && b.toList.all isAscii then .ok (a == b)
  else .error (.typeError "comparing strings with non-ASCII characters is not supported")

/-- `hashlib.pbkdf2_hmac("sha256", password, salt, 600_000)`. -/
abbrev Pbkdf2 := List UInt8 → List UInt8 → List UInt8

/-- `text.encode("utf-8")`. -/
def encodeUtf8 (text : String) : List UInt8 :=
  text.toUTF8.data.toList

/-- `base64.urlsafe_b64decode(text.encode("ascii"))`. -/
def decodeStored (text : String) : Except Exc (List UInt8) :=
  encodeAscii text >>= urlsafeB64decode

/-- `verify_gateway_auth_token`. -/
def verifyGatewayAuthToken (pbkdf2 : Pbkdf2) (token : String) (config : GatewayAuthConfig) :
    Except Exc Bool := do
  let cleaned := stripped token
  if cleaned = "" then return false
  let salt ← decodeStored config.tokenSaltB64
  let expected ← decodeStored config.tokenHashB64
  let candidate := pbkdf2 (encodeUtf8 cleaned) salt
  return candidate == expected

/-- `create_gateway_auth_config` with the salt it draws. -/
def createGatewayAuthConfig (pbkdf2 : Pbkdf2) (salt : List UInt8) (token : String) :
    Except Exc GatewayAuthConfig :=
  let cleaned := stripped token
  if cleaned = "" then .error (.valueError "gateway auth key cannot be empty")
  else
    .ok {
      tokenSaltB64 := decodeAscii (urlsafeB64encode salt)
      tokenHashB64 := decodeAscii (urlsafeB64encode (pbkdf2 (encodeUtf8 cleaned) salt)) }

/-- `str.startswith("Bearer ")` and what `split(" ", 1)` leaves behind it. -/
def bearerToken (authorization : Option String) : Option String :=
  match authorization with
  | none => none
  | some text =>
      if startsWith text.toList "Bearer ".toList then
        (splitAtFirst (· == ' ') text.toList).2.map String.ofList
      else none

/-! ## The gate -/

/-- The throttle of the gateway and, as a record, the clients a failure was counted
against, in order. -/
structure AuthState (F : Type) where
  throttle : FailureThrottle F
  failures : List String

/-- A request: the host of the peer, its `Authorization` header, and the clock at the
check, at the count of a failure and at the check behind it. -/
structure AuthRequest (F : Type) where
  clientHost : Option String
  authorization : Option String
  checkedAt : F
  failedAt : F
  recheckedAt : F

/-- `client_key`. -/
def AuthRequest.clientKey {F : Type} (request : AuthRequest F) : String :=
  request.clientHost.getD "unknown"

section Gate

variable {F : Type} [ClockArith F]

/-- `retry_after`, and 429 for a client that has to wait. -/
def refuseBlocked (now : F) (clientKey : String) : EStateM AuthError (AuthState F) Unit := do
  let state ← get
  let (retryAfter, throttle) := state.throttle.retryAfter now clientKey
  set { state with throttle := throttle }
  if retryAfter ≠ 0 then
    throw (.httpException 429 "too many failed authentication attempts" (some retryAfter))

/-- `_check_auth_throttle`. -/
def checkAuthThrottle (request : AuthRequest F) : EStateM AuthError (AuthState F) Unit :=
  refuseBlocked request.checkedAt request.clientKey

/-- `throttle.fail(client_key)`. -/
def AuthState.failed (request : AuthRequest F) (state : AuthState F) : AuthState F where
  throttle := state.throttle.fail request.failedAt request.clientKey
  failures := state.failures ++ [request.clientKey]

/-- `_record_auth_failure`. -/
def recordAuthFailure (request : AuthRequest F) : EStateM AuthError (AuthState F) Unit := do
  modify (AuthState.failed request)
  refuseBlocked request.recheckedAt request.clientKey

/-- `throttle.reset(client_key)`. -/
def AuthState.cleared (request : AuthRequest F) (state : AuthState F) : AuthState F :=
  { state with throttle := state.throttle.reset request.clientKey }

/-- The end of a request that is accepted. -/
def resetThrottle (request : AuthRequest F) : EStateM AuthError (AuthState F) Unit :=
  modify (AuthState.cleared request)

/-- A call that may raise a built-in exception. -/
def mayRaise {α : Type} (result : Except Exc α) : EStateM AuthError (AuthState F) α :=
  call (result.mapError AuthError.raised)

/-- `_check_gateway_auth`. -/
def checkGatewayAuth (pbkdf2 : Pbkdf2) (auth : GatewayAuth) (request : AuthRequest F) :
    EStateM AuthError (AuthState F) Unit := do
  if !auth.enabled then return
  checkAuthThrottle request
  match bearerToken request.authorization with
  | none =>
      recordAuthFailure request
      throw (.httpException 401 "missing bearer token" none)
  | some token =>
      if auth.source = "env" then
        let accepted ← match auth.envKey with
          | none => pure false
          | some envKey => mayRaise (compareDigest token envKey)
        if !accepted then
          recordAuthFailure request
          throw (.httpException 401 "invalid bearer token" none)
        resetThrottle request
      else
        let accepted ← match auth.config with
          | none => pure false
          | some config =>
              if auth.source = "managed" then
                mayRaise (verifyGatewayAuthToken pbkdf2 token config)
              else pure false
        if accepted then resetThrottle request
        else
          recordAuthFailure request
          throw (.httpException 401 "invalid bearer token" none)

/-! ## What is asked of the gate -/

/-- An enabled state as the application sets it: the environment's key, or a stored
digest. -/
structure Credentialed (auth : GatewayAuth) : Prop where
  enabled : auth.enabled = true
  credential : (auth.source = "env" ∧ ∃ key, auth.envKey = some key) ∨
    (auth.source = "managed" ∧ ∃ config, auth.config = some config)

/-- The stored digest is that of the token, without its outer whitespace. -/
def MatchesConfig (pbkdf2 : Pbkdf2) (token : String) (config : GatewayAuthConfig) : Prop :=
  stripped token ≠ "" ∧ ∃ salt, decodeStored config.tokenSaltB64 = .ok salt ∧
    decodeStored config.tokenHashB64 = .ok (pbkdf2 (encodeUtf8 (stripped token)) salt)

/-- The token matches the credential. -/
def Matches (pbkdf2 : Pbkdf2) (auth : GatewayAuth) (token : String) : Prop :=
  (auth.source = "env" ∧ auth.envKey = some token) ∨
    (auth.source = "managed" ∧
      ∃ config, auth.config = some config ∧ MatchesConfig pbkdf2 token config)

/-- The header carries a matching token. -/
def Accepted (pbkdf2 : Pbkdf2) (auth : GatewayAuth) (authorization : Option String) : Prop :=
  ∃ token, authorization = some ("Bearer " ++ token) ∧ Matches pbkdf2 auth token

/-- The client has to wait when the request arrives. -/
def BlockedAt (request : AuthRequest F) (state : AuthState F) : Prop :=
  state.throttle.Blocked request.checkedAt request.clientKey

/-- One failure more is counted for the client of the request: its window when the request
arrived, or a new one, has one failure more, as long as it is open at the check behind the
count.  The entries of other clients are as they were or evicted. -/
structure CountedOnce (request : AuthRequest F) (state state' : AuthState F) : Prop where
  recorded : state'.failures = state.failures ++ [request.clientKey]
  entry : state'.throttle.entry request.clientKey =
    (some (state.throttle.oneMore request.failedAt
      (state.throttle.openEntry request.checkedAt request.clientKey))).filter fun entry =>
        !floatLe (state.throttle.remaining request.recheckedAt entry.2) 0.0
  others : ∀ other, state.throttle.digest other ≠ state.throttle.digest request.clientKey →
    state'.throttle.entry other = state.throttle.entry other ∨
      state'.throttle.entry other = none

/-- The gate lets matching tokens of clients that are not blocked through and forgets the
failures of their clients, refuses everything else with 401 or 429, and counts one failure
for a client that was not blocked and had no matching token. -/
structure GateContract (pbkdf2 : Pbkdf2) (auth : GatewayAuth) (request : AuthRequest F)
    (state : AuthState F) : Prop where
  accepts : Returns (checkGatewayAuth pbkdf2 auth request) state ↔
    ¬ BlockedAt request state ∧ Accepted pbkdf2 auth request.authorization
  refuses : ∀ e state', (checkGatewayAuth pbkdf2 auth request).run state = .error e state' →
    ∃ statusCode detail retryAfter, e = .httpException statusCode detail retryAfter ∧
      (statusCode = 401 ∨ statusCode = 429)
  counts : ¬ BlockedAt request state → ¬ Accepted pbkdf2 auth request.authorization →
    CountedOnce request state (finalState (checkGatewayAuth pbkdf2 auth request) state)
  spares : BlockedAt request state ∨ Accepted pbkdf2 auth request.authorization →
    (finalState (checkGatewayAuth pbkdf2 auth request) state).failures = state.failures
  keeps : BlockedAt request state → ∀ other,
    (finalState (checkGatewayAuth pbkdf2 auth request) state).throttle.entry other =
      state.throttle.entry other
  forgets : ¬ BlockedAt request state → Accepted pbkdf2 auth request.authorization →
    ∀ other, (finalState (checkGatewayAuth pbkdf2 auth request) state).throttle.entry other =
      if state.throttle.digest other = state.throttle.digest request.clientKey then none
      else state.throttle.entry other

/-- ASCII text. -/
def Ascii (text : String) : Prop :=
  text.toList.all isAscii = true

/-- The gate can compare the token with the credential. -/
structure Comparable (auth : GatewayAuth) (token : String) : Prop where
  env : auth.source = "env" → ∀ key, auth.envKey = some key → Ascii token ∧ Ascii key
  managed : auth.source = "managed" → ∀ config, auth.config = some config →
    stripped token = "" ∨ ((∃ salt, decodeStored config.tokenSaltB64 = .ok salt) ∧
      ∃ digest, decodeStored config.tokenHashB64 = .ok digest)

/-! ## Reading the header -/

omit [ClockArith F] in
/-- The token is what follows the scheme. -/
theorem bearerToken_eq_some_iff {authorization : Option String} {token : String} :
    bearerToken authorization = some token ↔ authorization = some ("Bearer " ++ token) := by
  have hsplit : ∀ rest : List Char,
      (splitAtFirst (· == ' ') ("Bearer ".toList ++ rest)).2 = some rest := fun _ => rfl
  unfold bearerToken
  cases authorization with
  | none => simp
  | some text =>
      simp only [Option.some.injEq]
      by_cases hstart : startsWith text.toList "Bearer ".toList = true
      · rw [if_pos hstart]
        obtain ⟨rest, hrest⟩ := List.isPrefixOf_iff_prefix.mp hstart
        rw [← hrest, hsplit, Option.map_some, Option.some.injEq]
        constructor
        · intro htoken
          have hlist : (String.ofList rest).toList = rest := String.toList_ofList
          rw [← htoken, ← String.toList_inj, String.toList_append, hlist, hrest]
        · intro htext
          rw [htext, String.toList_append] at hrest
          rw [List.append_cancel_left hrest, String.ofList_toList]
      · rw [if_neg hstart]
        refine iff_of_false (by simp) ?_
        rintro rfl
        apply hstart
        rw [String.toList_append]
        exact List.isPrefixOf_iff_prefix.mpr (List.prefix_append _ _)

/-! ## What the gate does -/

/-- The state behind a check of the client. -/
def AuthState.checked (now : F) (clientKey : String) (state : AuthState F) : AuthState F :=
  { state with throttle := (state.throttle.retryAfter now clientKey).2 }

/-- The request ends with 401 or 429, and one failure is counted. -/
def Refused (request : AuthRequest F) (state : AuthState F)
    (x : EStateM AuthError (AuthState F) Unit) : Prop :=
  ∃ statusCode detail retryAfter,
    x.run state = .error (.httpException statusCode detail retryAfter)
      ((state.failed request).checked request.recheckedAt request.clientKey) ∧
      (statusCode = 401 ∨ statusCode = 429)

/-- A client that has to wait gets 429; the others pass. -/
theorem run_refuseBlocked (now : F) (clientKey : String) (state : AuthState F) :
    (state.throttle.Blocked now clientKey ∧ ∃ retryAfter,
      (refuseBlocked now clientKey).run state =
        .error (.httpException 429 "too many failed authentication attempts"
          (some retryAfter)) (state.checked now clientKey)) ∨
    (¬ state.throttle.Blocked now clientKey ∧
      (refuseBlocked now clientKey).run state = .ok () (state.checked now clientKey)) := by
  rw [← retryAfter_ne_zero_iff]
  have hrun : (refuseBlocked now clientKey).run state =
      (if (state.throttle.retryAfter now clientKey).1 ≠ 0 then
        throw (.httpException 429 "too many failed authentication attempts"
          (some (state.throttle.retryAfter now clientKey).1))
      else pure () : EStateM AuthError (AuthState F) Unit).run
        (state.checked now clientKey) := rfl
  rw [hrun]
  by_cases hwait : (state.throttle.retryAfter now clientKey).1 ≠ 0
  · rw [if_pos hwait]
    exact .inl ⟨hwait, _, rfl⟩
  · rw [if_neg hwait]
    exact .inr ⟨hwait, rfl⟩

/-- A failure is counted, and the request ends. -/
theorem refused_recordAuthFailure (request : AuthRequest F) (state : AuthState F)
    (detail : String) :
    Refused request state (do
      recordAuthFailure request
      throw (.httpException 401 detail none)) := by
  have hcount : (modify (AuthState.failed request) : EStateM AuthError (AuthState F) Unit).run
      state = .ok () (state.failed request) := rfl
  rcases run_refuseBlocked request.recheckedAt request.clientKey (state.failed request) with
    ⟨-, retryAfter, hrun⟩ | ⟨-, hrun⟩
  · have hrecord : (recordAuthFailure request).run state = .error (.httpException 429
        "too many failed authentication attempts" (some retryAfter))
        ((state.failed request).checked request.recheckedAt request.clientKey) :=
      (run_bind_of_ok hcount _).trans hrun
    exact ⟨429, _, _, run_bind_of_error hrecord _, .inr rfl⟩
  · have hrecord : (recordAuthFailure request).run state =
        .ok () ((state.failed request).checked request.recheckedAt request.clientKey) :=
      (run_bind_of_ok hcount _).trans hrun
    exact ⟨401, detail, none, run_bind_of_ok hrecord _, .inl rfl⟩

/-- A blocked client's window is open. -/
theorem openEntry_of_blocked {throttle : FailureThrottle F} {now : F} {key : String}
    (h : throttle.Blocked now key) : throttle.openEntry now key = throttle.entry key := by
  obtain ⟨count, started, hentry, hopen, -⟩ := h
  rw [FailureThrottle.openEntry, hentry]
  simp [Option.filter, hopen]

theorem entry_checked (state : AuthState F) (now : F) (clientKey other : String) :
    (state.checked now clientKey).throttle.entry other =
      if state.throttle.digest other = state.throttle.digest clientKey then
        state.throttle.openEntry now clientKey
      else state.throttle.entry other :=
  entry_retryAfter state.throttle now clientKey other

/-- A refusal counts one failure of its client. -/
theorem countedOnce_refused (request : AuthRequest F) (state : AuthState F) :
    CountedOnce request state
      (((state.checked request.checkedAt request.clientKey).failed request).checked
        request.recheckedAt request.clientKey) := by
  have hchecked := entry_checked state request.checkedAt request.clientKey
  obtain ⟨hdigest, hwindow⟩ : (state.checked request.checkedAt request.clientKey).throttle.digest =
        state.throttle.digest ∧
      (state.checked request.checkedAt request.clientKey).throttle.windowSeconds =
        state.throttle.windowSeconds := retryAfter_keeps _ _ _
  have hfailures : (state.checked request.checkedAt request.clientKey).failures =
      state.failures := rfl
  generalize state.checked request.checkedAt request.clientKey = checked at *
  have hkeeps : (checked.failed request).throttle.digest = state.throttle.digest := hdigest
  refine ⟨?_, ?_, fun other hother => ?_⟩
  · rw [← hfailures]
    rfl
  · have hcounted : (checked.failed request).throttle.entry request.clientKey =
        some (checked.throttle.oneMore request.failedAt
          (state.throttle.openEntry request.checkedAt request.clientKey)) := by
      refine (entry_fail _ _ _).trans ?_
      rw [counted_eq, hchecked, if_pos rfl]
    rw [entry_checked, if_pos rfl, FailureThrottle.openEntry, hcounted]
    have hlength : (checked.failed request).throttle.windowSeconds =
        state.throttle.windowSeconds := hwindow
    unfold FailureThrottle.oneMore FailureThrottle.remaining
    rw [hwindow, hlength]
  · have hother' : checked.throttle.digest other ≠ checked.throttle.digest request.clientKey := by
      rw [hdigest]
      exact hother
    have hfailed := entry_fail_of_ne checked.throttle request.failedAt hother'
    rw [hchecked, if_neg hother] at hfailed
    rw [entry_checked, hkeeps, if_neg hother]
    exact hfailed

/-- The verdict on a bearer token. -/
def verdict (pbkdf2 : Pbkdf2) (auth : GatewayAuth) (token : String) : Except Exc Bool :=
  if auth.source = "env" then
    match auth.envKey with
    | none => .ok false
    | some envKey => compareDigest token envKey
  else
    match auth.config with
    | none => .ok false
    | some config =>
        if auth.source = "managed" then verifyGatewayAuthToken pbkdf2 token config
        else .ok false

/-- The gate for a client that is not blocked and sends no bearer token. -/
theorem run_checkGatewayAuth_of_none {pbkdf2 : Pbkdf2} {auth : GatewayAuth}
    {request : AuthRequest F} {state state' : AuthState F} (henabled : auth.enabled = true)
    (hcheck : (checkAuthThrottle request).run state = .ok () state')
    (hnone : bearerToken request.authorization = none) :
    (checkGatewayAuth pbkdf2 auth request).run state =
      (do recordAuthFailure request
          throw (.httpException 401 "missing bearer token" none) :
        EStateM AuthError (AuthState F) Unit).run state' := by
  unfold checkGatewayAuth
  simp only [henabled, Bool.not_true, Bool.false_eq_true, if_false, hnone]
  exact run_bind_of_ok hcheck _

/-- The gate for a client that is not blocked, by the verdict on its token. -/
theorem run_checkGatewayAuth_of_token {pbkdf2 : Pbkdf2} {auth : GatewayAuth}
    {request : AuthRequest F} {state state' : AuthState F} {token : String}
    (henabled : auth.enabled = true)
    (hcheck : (checkAuthThrottle request).run state = .ok () state')
    (htoken : bearerToken request.authorization = some token) :
    (checkGatewayAuth pbkdf2 auth request).run state =
      (do let accepted ← mayRaise (verdict pbkdf2 auth token)
          if accepted then resetThrottle request
          else
            recordAuthFailure request
            throw (.httpException 401 "invalid bearer token" none) :
        EStateM AuthError (AuthState F) Unit).run state' := by
  unfold checkGatewayAuth
  simp only [henabled, Bool.not_true, Bool.false_eq_true, if_false, htoken]
  refine (run_bind_of_ok hcheck _).trans ?_
  unfold verdict
  by_cases henv : auth.source = "env"
  · simp only [henv, if_true]
    cases hkey : auth.envKey with
    | none => rfl
    | some key =>
        cases hcompare : compareDigest token key with
        | error exc =>
            simp only [hcompare]
            rfl
        | ok accepted =>
            simp only [hcompare]
            cases accepted <;> rfl
  · simp only [henv, if_false]
    cases hconfig : auth.config with
    | none => rfl
    | some config =>
        by_cases hmanaged : auth.source = "managed"
        · simp only [hmanaged, if_true]
        · simp only [hmanaged, if_false]
          rfl

/-! ## The verdict -/

omit [ClockArith F] in
theorem compareDigest_ok_iff {token key : String} {accepted : Bool} :
    compareDigest token key = .ok accepted ↔
      (Ascii token ∧ Ascii key) ∧ (token == key) = accepted := by
  unfold compareDigest Ascii
  by_cases hascii : token.toList.all isAscii && key.toList.all isAscii
  · rw [if_pos hascii, Except.ok.injEq]
    rw [Bool.and_eq_true] at hascii
    rw [and_iff_right hascii]
  · rw [if_neg hascii]
    rw [Bool.and_eq_true] at hascii
    refine iff_of_false (fun h => ?_) fun h => hascii h.1
    cases h

/-- A stored digest that decodes is compared with the digest of the token. -/
theorem verifyGatewayAuthToken_ok_iff {pbkdf2 : Pbkdf2} {token : String}
    {config : GatewayAuthConfig} :
    (∃ accepted, verifyGatewayAuthToken pbkdf2 token config = .ok accepted) ↔
      stripped token = "" ∨ ((∃ salt, decodeStored config.tokenSaltB64 = .ok salt) ∧
        ∃ digest, decodeStored config.tokenHashB64 = .ok digest) := by
  unfold verifyGatewayAuthToken
  by_cases hblank : stripped token = ""
  · simp only [hblank, if_true, true_or, iff_true]
    exact ⟨false, rfl⟩
  · simp only [hblank, if_false, false_or]
    cases hsalt : decodeStored config.tokenSaltB64 with
    | error exc =>
        refine iff_of_false ?_ ?_
        · rintro ⟨accepted, h⟩
          cases h
        · rintro ⟨⟨salt, h⟩, -⟩
          cases h
    | ok salt =>
        cases hdigest : decodeStored config.tokenHashB64 with
        | error exc =>
            refine iff_of_false ?_ ?_
            · rintro ⟨accepted, h⟩
              cases h
            · rintro ⟨-, digest, h⟩
              cases h
        | ok digest => exact iff_of_true ⟨_, rfl⟩ ⟨⟨salt, rfl⟩, digest, rfl⟩

theorem verifyGatewayAuthToken_eq_true_iff {pbkdf2 : Pbkdf2} {token : String}
    {config : GatewayAuthConfig} :
    verifyGatewayAuthToken pbkdf2 token config = .ok true ↔
      MatchesConfig pbkdf2 token config := by
  unfold verifyGatewayAuthToken MatchesConfig
  by_cases hblank : stripped token = ""
  · simp only [hblank, if_true, ne_eq, not_true_eq_false, false_and, iff_false]
    intro h
    cases h
  · simp only [hblank, if_false, ne_eq, not_false_eq_true, true_and]
    cases hsalt : decodeStored config.tokenSaltB64 with
    | error exc =>
        refine iff_of_false (fun h => by cases h) ?_
        rintro ⟨salt, h, -⟩
        cases h
    | ok salt =>
        cases hdigest : decodeStored config.tokenHashB64 with
        | error exc =>
            refine iff_of_false (fun h => by cases h) ?_
            rintro ⟨other, -, h⟩
            cases h
        | ok digest =>
            have hrun : (pure (pbkdf2 (encodeUtf8 (stripped token)) salt == digest) :
                Except Exc Bool) = .ok true ↔
                digest = pbkdf2 (encodeUtf8 (stripped token)) salt := by
              change Except.ok _ = Except.ok true ↔ _
              rw [Except.ok.injEq, beq_iff_eq, eq_comm]
            refine hrun.trans ?_
            constructor
            · intro h
              exact ⟨salt, rfl, congrArg Except.ok h⟩
            · rintro ⟨other, hother, h⟩
              cases hother
              exact Except.ok.inj h

theorem verdict_of_env {pbkdf2 : Pbkdf2} {auth : GatewayAuth} {token key : String}
    (hsource : auth.source = "env") (hkey : auth.envKey = some key) :
    verdict pbkdf2 auth token = compareDigest token key := by
  unfold verdict
  rw [if_pos hsource, hkey]

theorem verdict_of_managed {pbkdf2 : Pbkdf2} {auth : GatewayAuth} {token : String}
    {config : GatewayAuthConfig} (hsource : auth.source = "managed")
    (hconfig : auth.config = some config) :
    verdict pbkdf2 auth token = verifyGatewayAuthToken pbkdf2 token config := by
  have henv : auth.source ≠ "env" := by
    rw [hsource]
    decide
  unfold verdict
  simp only [if_neg henv, hconfig, if_pos hsource]

/-- The verdict is an answer exactly when the token can be compared. -/
theorem verdict_ok_iff {pbkdf2 : Pbkdf2} {auth : GatewayAuth} (h : Credentialed auth)
    (token : String) :
    (∃ accepted, verdict pbkdf2 auth token = .ok accepted) ↔ Comparable auth token := by
  rcases h.credential with ⟨hsource, key, hkey⟩ | ⟨hsource, config, hconfig⟩
  · rw [verdict_of_env hsource hkey]
    simp only [compareDigest_ok_iff, exists_and_left, exists_eq', and_true]
    constructor
    · intro hascii
      refine ⟨fun _ other hother => ?_, fun hmanaged => ?_⟩
      · rw [hkey, Option.some.injEq] at hother
        rw [← hother]
        exact hascii
      · rw [hsource] at hmanaged
        exact absurd hmanaged (by decide)
    · intro hcomparable
      exact hcomparable.env hsource key hkey
  · rw [verdict_of_managed hsource hconfig, verifyGatewayAuthToken_ok_iff]
    constructor
    · intro hdecodes
      refine ⟨fun henv => ?_, fun _ other hother => ?_⟩
      · rw [hsource] at henv
        exact absurd henv (by decide)
      · rw [hconfig, Option.some.injEq] at hother
        rw [← hother]
        exact hdecodes
    · intro hcomparable
      exact hcomparable.managed hsource config hconfig

/-- The verdict accepts exactly the matching tokens, where it is an answer. -/
theorem verdict_eq_true_iff {pbkdf2 : Pbkdf2} {auth : GatewayAuth} {token : String}
    (h : Credentialed auth) (hcomparable : Comparable auth token) :
    verdict pbkdf2 auth token = .ok true ↔ Matches pbkdf2 auth token := by
  unfold Matches
  rcases h.credential with ⟨hsource, key, hkey⟩ | ⟨hsource, config, hconfig⟩
  · have hmanaged : auth.source ≠ "managed" := by
      rw [hsource]
      decide
    rw [verdict_of_env hsource hkey, compareDigest_ok_iff,
      and_iff_right (hcomparable.env hsource key hkey), beq_iff_eq, hkey, Option.some.injEq]
    simp [hsource, eq_comm]
  · have henv : auth.source ≠ "env" := by
      rw [hsource]
      decide
    rw [verdict_of_managed hsource hconfig, verifyGatewayAuthToken_eq_true_iff]
    simp [hsource, hconfig]

/-! ## The contract -/

/-- A refused request meets the contract when its client was not blocked and had no
matching token. -/
theorem gateContract_of_refused {pbkdf2 : Pbkdf2} {auth : GatewayAuth}
    {request : AuthRequest F} {state : AuthState F}
    (hrefused : ∃ statusCode detail retryAfter,
      (checkGatewayAuth pbkdf2 auth request).run state =
        .error (.httpException statusCode detail retryAfter)
          (((state.checked request.checkedAt request.clientKey).failed request).checked
            request.recheckedAt request.clientKey) ∧ (statusCode = 401 ∨ statusCode = 429))
    (hblocked : ¬ BlockedAt request state)
    (haccepted : ¬ Accepted pbkdf2 auth request.authorization) :
    GateContract pbkdf2 auth request state := by
  obtain ⟨statusCode, detail, retryAfter, hrun, hstatus⟩ := hrefused
  constructor
  · exact iff_of_false (not_returns_of_error hrun) fun h => haccepted h.2
  · intro e other hother
    rw [hrun] at hother
    cases hother
    exact ⟨statusCode, detail, retryAfter, rfl, hstatus⟩
  · intro _ _
    rw [finalState_of_error hrun]
    exact countedOnce_refused request state
  · rintro (h | h)
    · exact absurd h hblocked
    · exact absurd h haccepted
  · intro h
    exact absurd h hblocked
  · intro _ h
    exact absurd h haccepted

/-- An exception of the comparison leaves the gate as it is. -/
theorem not_gateContract_of_verdict_error {pbkdf2 : Pbkdf2} {auth : GatewayAuth}
    {request : AuthRequest F} {state : AuthState F} {token : String} {exc : Exc}
    (henabled : auth.enabled = true) (hfree : ¬ BlockedAt request state)
    (hheader : request.authorization = some ("Bearer " ++ token))
    (hverdict : verdict pbkdf2 auth token = .error exc) :
    ¬ GateContract pbkdf2 auth request state := by
  rcases run_refuseBlocked request.checkedAt request.clientKey state with
    ⟨hblocked, -⟩ | ⟨-, hrun⟩
  · exact absurd hblocked hfree
  · have hraised : (checkGatewayAuth pbkdf2 auth request).run state =
        .error (.raised exc) (state.checked request.checkedAt request.clientKey) := by
      rw [run_checkGatewayAuth_of_token henabled hrun (bearerToken_eq_some_iff.mpr hheader),
        hverdict]
      rfl
    intro hcontract
    obtain ⟨statusCode, detail, retryAfter, heq, -⟩ := hcontract.refuses _ _ hraised
    cases heq

/-- A client that has to wait is refused and not counted. -/
theorem gateContract_of_blocked {pbkdf2 : Pbkdf2} {auth : GatewayAuth}
    {request : AuthRequest F} {state : AuthState F} (henabled : auth.enabled = true)
    (hblocked : BlockedAt request state) : GateContract pbkdf2 auth request state := by
  rcases run_refuseBlocked request.checkedAt request.clientKey state with
    ⟨-, retryAfter, hrun⟩ | ⟨hfree, -⟩
  · have hgate : (checkGatewayAuth pbkdf2 auth request).run state =
        .error (.httpException 429 "too many failed authentication attempts"
          (some retryAfter)) (state.checked request.checkedAt request.clientKey) := by
      unfold checkGatewayAuth
      simp only [henabled, Bool.not_true, Bool.false_eq_true, if_false]
      exact run_bind_of_error hrun _
    constructor
    · exact iff_of_false (not_returns_of_error hgate) fun hfree => hfree.1 hblocked
    · intro e other hother
      rw [hgate] at hother
      cases hother
      exact ⟨429, _, _, rfl, .inr rfl⟩
    · intro hfree
      exact absurd hblocked hfree
    · intro _
      rw [finalState_of_error hgate]
      rfl
    · intro _ other
      rw [finalState_of_error hgate, entry_checked]
      split
      · next hdigest => rw [openEntry_of_blocked hblocked, entry_congr hdigest]
      · rfl
    · intro hfree
      exact absurd hblocked hfree
  · exact absurd hblocked hfree

/-- A request that passes meets the contract when its client was not blocked and had a matching
token. -/
theorem gateContract_of_accepted {pbkdf2 : Pbkdf2} {auth : GatewayAuth}
    {request : AuthRequest F} {state : AuthState F}
    (hrun : (checkGatewayAuth pbkdf2 auth request).run state =
      .ok () ((state.checked request.checkedAt request.clientKey).cleared request))
    (hfree : ¬ BlockedAt request state) (haccepted : Accepted pbkdf2 auth request.authorization) :
    GateContract pbkdf2 auth request state := by
  constructor
  · exact iff_of_true ⟨_, _, hrun⟩ ⟨hfree, haccepted⟩
  · intro e other hother
    rw [hrun] at hother
    cases hother
  · intro _ hother
    exact absurd haccepted hother
  · intro _
    rw [finalState_of_ok hrun]
    rfl
  · intro h
    exact absurd h hfree
  · intro _ _ other
    rw [finalState_of_ok hrun]
    obtain ⟨hdigest, -⟩ := retryAfter_keeps state.throttle request.checkedAt request.clientKey
    refine (entry_reset _ _ other).trans ?_
    rw [entry_checked, show (state.checked request.checkedAt request.clientKey).throttle.digest =
      state.throttle.digest from hdigest]
    split <;> rfl

theorem forall_token_iff {authorization : Option String} {token : String}
    (htoken : bearerToken authorization = some token) {P : String → Prop} :
    (∀ other, authorization = some ("Bearer " ++ other) → P other) ↔ P token := by
  constructor
  · intro hall
    exact hall token (bearerToken_eq_some_iff.mp htoken)
  · intro hholds other heq
    rw [bearerToken_eq_some_iff.mpr heq, Option.some.injEq] at htoken
    rw [htoken]
    exact hholds

theorem accepted_iff {pbkdf2 : Pbkdf2} {auth : GatewayAuth} {authorization : Option String}
    {token : String} (htoken : bearerToken authorization = some token) :
    Accepted pbkdf2 auth authorization ↔ Matches pbkdf2 auth token := by
  constructor
  · rintro ⟨other, heq, hmatches⟩
    rw [bearerToken_eq_some_iff.mpr heq, Option.some.injEq] at htoken
    rw [← htoken]
    exact hmatches
  · intro hmatches
    exact ⟨token, bearerToken_eq_some_iff.mp htoken, hmatches⟩

/-- The gate meets its contract exactly when the client is blocked, or its token, if it
sends one, can be compared with the credential. -/
theorem gateContract_iff (pbkdf2 : Pbkdf2) {auth : GatewayAuth} (h : Credentialed auth)
    (request : AuthRequest F) (state : AuthState F) :
    GateContract pbkdf2 auth request state ↔
      BlockedAt request state ∨
        ∀ token, request.authorization = some ("Bearer " ++ token) → Comparable auth token := by
  rcases run_refuseBlocked request.checkedAt request.clientKey state with
    ⟨hblocked, -⟩ | ⟨hfree, hrun⟩
  · exact iff_of_true (gateContract_of_blocked h.enabled hblocked) (.inl hblocked)
  · have hfree' : ¬ BlockedAt request state := hfree
    rw [or_iff_right hfree']
    cases htoken : bearerToken request.authorization with
    | none =>
        have hheader : ∀ token, request.authorization ≠ some ("Bearer " ++ token) := by
          intro token heq
          rw [bearerToken_eq_some_iff.mpr heq] at htoken
          cases htoken
        refine iff_of_true (gateContract_of_refused ?_ hfree' ?_) fun token heq =>
          absurd heq (hheader token)
        · rw [run_checkGatewayAuth_of_none h.enabled hrun htoken]
          exact refused_recordAuthFailure request _ _
        · rintro ⟨token, heq, -⟩
          exact hheader token heq
    | some token =>
        have hheader := bearerToken_eq_some_iff.mp htoken
        have hgate : (checkGatewayAuth pbkdf2 auth request).run state = _ :=
          run_checkGatewayAuth_of_token h.enabled hrun htoken
        rw [forall_token_iff htoken]
        cases hverdict : verdict pbkdf2 auth token with
        | error exc =>
            refine iff_of_false ?_ ?_
            · exact not_gateContract_of_verdict_error h.enabled hfree' hheader hverdict
            · intro hcomparable
              obtain ⟨accepted, heq⟩ := (verdict_ok_iff h token).mpr hcomparable
              rw [hverdict] at heq
              cases heq
        | ok accepted =>
            have hanswer := (verdict_ok_iff h token).mp ⟨accepted, hverdict⟩
            have hmatches : verdict pbkdf2 auth token = .ok true ↔ Matches pbkdf2 auth token :=
              verdict_eq_true_iff h hanswer
            rw [hverdict, Except.ok.injEq, ← accepted_iff htoken] at hmatches
            refine iff_of_true ?_ hanswer
            cases accepted with
            | false =>
                refine gateContract_of_refused ?_ hfree' fun hmatch =>
                  absurd (hmatches.mpr hmatch) Bool.false_ne_true
                rw [hgate, hverdict]
                exact refused_recordAuthFailure request _ _
            | true =>
                have hpasses : (checkGatewayAuth pbkdf2 auth request).run state =
                    .ok () ((state.checked request.checkedAt request.clientKey).cleared
                      request) := by
                  rw [hgate, hverdict]
                  rfl
                exact gateContract_of_accepted hpasses hfree' (hmatches.mp rfl)

/-- A gate with a key from the environment. -/
def envAuth (key : String) : GatewayAuth where
  mode := "inherit"
  enabled := true
  source := "env"
  envConfigured := true
  updatedAt := none
  config := none
  envKey := some key

theorem credentialed_envAuth (key : String) : Credentialed (envAuth key) :=
  ⟨rfl, .inl ⟨rfl, key, rfl⟩⟩

/-- A throttle before its first failure. -/
def freshState : AuthState Rat where
  throttle := .new Rat id 5 300 1024
  failures := []

/-- A request that arrives on a clock that starts with it. -/
def requestWith (authorization : Option String) : AuthRequest Rat where
  clientHost := some "10.0.0.7"
  authorization := authorization
  checkedAt := 0
  failedAt := 0
  recheckedAt := 0

/-- A wrong ASCII token against an ASCII key is refused and counted. -/
theorem gateContract_iff_sample :
    GateContract (fun password _ => password) (envAuth "sesame") (requestWith "Bearer open")
      freshState := by
  refine (gateContract_iff _ (credentialed_envAuth "sesame") _ _).mpr (.inr ?_)
  intro token hheader
  have htoken : token = "open" := by
    have hread := bearerToken_eq_some_iff.mpr hheader
    have hopen : bearerToken (requestWith "Bearer open").authorization = some "open" := by
      decide
    rw [hopen, Option.some.injEq] at hread
    exact hread.symm
  rw [htoken]
  constructor
  · intro _ key hkey
    cases hkey
    unfold Ascii
    exact ⟨by decide, by decide⟩
  · intro hmanaged
    exact absurd hmanaged (by decide)

/-- A token outside ASCII ends in a `TypeError` and is not counted. -/
theorem nonascii_token_raises :
    Credentialed (envAuth "sesame") ∧ ¬ BlockedAt (requestWith "Bearer sésame") freshState ∧
      ¬ GateContract (fun password _ => password) (envAuth "sesame")
        (requestWith "Bearer sésame") freshState := by
  have hfree : ¬ BlockedAt (requestWith "Bearer sésame") freshState := by
    unfold BlockedAt
    rw [← retryAfter_ne_zero_iff]
    decide
  have hverdict : verdict (fun password _ => password) (envAuth "sesame") "sésame" =
      .error (.typeError "comparing strings with non-ASCII characters is not supported") := by
    decide
  refine ⟨credentialed_envAuth "sesame", hfree, ?_⟩
  exact not_gateContract_of_verdict_error rfl hfree (by decide) hverdict

end Gate

/-! ## Stored digests -/

theorem encodeUtf8_inj {a b : String} : encodeUtf8 a = encodeUtf8 b ↔ a = b := by
  unfold encodeUtf8
  rw [Array.toList_inj]
  constructor
  · intro h
    exact String.toByteArray_inj.mp (ByteArray.ext h)
  · rintro rfl
    rfl

/-- A stored digest accepts the token it was made from, up to outer whitespace, and no
other. -/
theorem matchesConfig_create_iff {pbkdf2 : Pbkdf2}
    (hinjective : ∀ salt, Function.Injective (pbkdf2 · salt)) {salt : List UInt8}
    {token : String} {config : GatewayAuthConfig}
    (hcreate : createGatewayAuthConfig pbkdf2 salt token = .ok config) (other : String) :
    MatchesConfig pbkdf2 other config ↔ stripped other = stripped token := by
  unfold createGatewayAuthConfig at hcreate
  by_cases hblank : stripped token = ""
  · simp [hblank] at hcreate
  · simp only [hblank, if_false, Except.ok.injEq] at hcreate
    have hsalt : decodeStored config.tokenSaltB64 = .ok salt := by
      rw [← hcreate]
      exact decode_encodeAscii_decodeAscii salt
    have hhash : decodeStored config.tokenHashB64 =
        .ok (pbkdf2 (encodeUtf8 (stripped token)) salt) := by
      rw [← hcreate]
      exact decode_encodeAscii_decodeAscii _
    unfold MatchesConfig
    rw [hsalt, hhash]
    constructor
    · rintro ⟨-, otherSalt, hotherSalt, hdigest⟩
      rw [← Except.ok.inj hotherSalt] at hdigest
      exact (encodeUtf8_inj.mp (hinjective salt (Except.ok.inj hdigest))).symm
    · intro hstripped
      rw [hstripped]
      exact ⟨hblank, salt, rfl, rfl⟩

/-- With a digest that the application made, every token can be compared. -/
theorem comparable_create {pbkdf2 : Pbkdf2} {auth : GatewayAuth} {salt : List UInt8}
    {token : String} {config : GatewayAuthConfig} (hsource : auth.source = "managed")
    (hconfig : auth.config = some config)
    (hcreate : createGatewayAuthConfig pbkdf2 salt token = .ok config) (other : String) :
    Comparable auth other := by
  constructor
  · intro henv
    rw [hsource] at henv
    exact absurd henv (by decide)
  · intro _ config' hconfig'
    rw [hconfig, Option.some.injEq] at hconfig'
    subst hconfig'
    unfold createGatewayAuthConfig at hcreate
    by_cases hblank : stripped token = ""
    · simp [hblank] at hcreate
    · simp only [hblank, if_false, Except.ok.injEq] at hcreate
      rw [← hcreate]
      exact .inr ⟨⟨_, decode_encodeAscii_decodeAscii salt⟩, _,
        decode_encodeAscii_decodeAscii _⟩

/-- The application enables the gate only with a credential. -/
theorem credentialed_resolveGatewayAuthState {F : Type} (settings : Settings F)
    (row : Option GatewayAuthRow)
    (henabled : (resolveGatewayAuthState settings row).enabled = true) :
    Credentialed (resolveGatewayAuthState settings row) := by
  refine ⟨henabled, ?_⟩
  revert henabled
  unfold resolveGatewayAuthState
  by_cases hmanaged : (getGatewayAuthConfig row).mode = "enabled" ∧
      (getGatewayAuthConfig row).config.isSome
  · simp only [if_pos hmanaged]
    intro _
    exact .inr ⟨trivial, Option.isSome_iff_exists.mp hmanaged.2⟩
  · simp only [if_neg hmanaged]
    by_cases hdisabled : (getGatewayAuthConfig row).mode = "disabled"
    · simp [if_pos hdisabled]
    · simp only [if_neg hdisabled]
      intro hkey
      simp [hkey]

end Gateway
end FreeLunch
