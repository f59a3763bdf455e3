import FreeLunch.Gateway.RelayStream

/-!
# The error a relayed stream ends with

Which error settles a relayed stream, read off what upstream gives, the clock and the
client, without the variables of the loop.

Main results:

- Theorem `relayStream_effects`: the relay emits events and then settles once.
- Theorem `endState_streamError_iff`: the relay settles with a context error exactly
  when upstream raises it, or stops quietly after an event that carries it last.
-/

namespace FreeLunch
namespace Gateway

open Python

section StreamErrors

variable {F : Type} [Runtime F]

/-! ## How a stream ends -/

/-- The error an event carries. -/
def eventError (F : Type) [Runtime F] (ctx : RelayContext) (rawEvent : List UInt8) :
    Option ProviderError :=
  match parseStreamEvent (F := F) rawEvent with
  | .ok (payload, _) =>
      match providerErrorFromErrorPayload payload ctx.categorizeError with
      | .ok error => error
      | .error _ => none
  | .error _ => none

/-- The event of a turn is passed on: it comes in time and within the size limit, the
client is there, and it is analysed without an exception. -/
def PassedOn (F : Type) [Runtime F] (ctx : RelayContext) (clock : RelayClock)
    (client : DisconnectPattern) (turn : Nat) (rawEvent : List UInt8) : Prop :=
  0 < remainingAt ctx clock turn ∧
    (rawEvent.length : Int) ≤ ctx.settings.gatewayMaxSseEventBytes ∧
    client.isDisconnected (turn + 1) = false ∧ FirstEventReadable F ctx rawEvent

/-- Upstream is followed no further, without an exception: it has ended, or the client
is gone. -/
def EndsQuietly (ctx : RelayContext) (client : DisconnectPattern) (turn : Nat) :
    List UpstreamItem → Prop
  | [] => True
  | .error .stopAsyncIteration :: _ => True
  | .error _ :: _ => False
  | .ok rawEvent :: _ =>
      (rawEvent.length : Int) ≤ ctx.settings.gatewayMaxSseEventBytes ∧
        client.isDisconnected (turn + 1) = true

/-- The stream ends in a provider error: after some events that are passed on, upstream
raises it, or stops quietly while it is the last error an event carried. -/
def EndsIn (F : Type) [Runtime F] (ctx : RelayContext) (clock : RelayClock)
    (client : DisconnectPattern) (turn : Nat) (upstream : List UpstreamItem)
    (before : Option ProviderError) (error : ProviderError) : Prop :=
  ∃ (events : List (List UInt8)) (rest : List UpstreamItem),
    upstream = events.map .ok ++ rest ∧
    (∀ x ∈ events.zipIdx turn, PassedOn F ctx clock client x.2 x.1) ∧
    0 < remainingAt ctx clock (turn + events.length) ∧
    (rest.head? = some (.error (.provider error)) ∨
      (EndsQuietly ctx client (turn + events.length) rest ∧
        (events.filterMap (eventError F ctx)).getLast?.or before = some error))

/-! ## The variables of the loop -/

theorem recordUsage_streamError {payload : PyValue F} {st st' : RelayState F}
    (h : recordUsage payload st = .ok st') : st'.streamError = st.streamError := by
  unfold recordUsage at h
  split at h
  · split at h
    · split at h <;> cases h <;> rfl
    · cases h
  · cases h
    rfl

/-- A value that counts as false carries no error. -/
theorem providerErrorFromErrorPayload_falsy {payload : PyValue F}
    (categorizeError : CategorizeError) (h : payload.truthy = false) :
    providerErrorFromErrorPayload payload categorizeError = .ok none := by
  cases payload with
  | dict members =>
      cases members with
      | nil => rfl
      | cons first rest => simp [PyValue.truthy] at h
  | _ => rfl

/-- An analysis that returns takes over the error of the event. -/
theorem observe_streamError {ctx : RelayContext} {rawEvent : List UInt8}
    {st st' : RelayState F} (h : observe ctx rawEvent st = .ok st') :
    st'.streamError = (eventError F ctx rawEvent).or st.streamError := by
  unfold observe at h
  unfold eventError
  cases hparse : parseStreamEvent (F := F) rawEvent with
  | error exc =>
      rw [hparse] at h
      cases h
  | ok pair =>
      obtain ⟨payload, eventIsDone⟩ := pair
      simp only [hparse, bind, Except.bind] at h
      cases husage : recordUsage payload
          { st with doneSeen := st.doneSeen || eventIsDone } with
      | error exc =>
          rw [husage] at h
          cases h
      | ok st₁ =>
          rw [husage] at h
          have hkept := recordUsage_streamError husage
          dsimp only at hkept
          unfold recordError at h
          cases htruthy : payload.truthy with
          | false =>
              rw [htruthy] at h
              cases h
              simp [providerErrorFromErrorPayload_falsy ctx.categorizeError htruthy, hkept]
          | true =>
              rw [htruthy] at h
              cases herror : providerErrorFromErrorPayload payload ctx.categorizeError with
              | error exc =>
                  rw [herror] at h
                  cases h
              | ok error =>
                  rw [herror] at h
                  cases error <;> cases h <;> simp [hkept, herror]

omit [Runtime F] in
/-- Only a provider error of upstream can be a context error of the `except` clauses. -/
theorem streamErrorOf_contextExceeded {raised : Raised} {error : ProviderError}
    (h : streamErrorOf raised = error) (hcategory : error.category = .contextExceeded) :
    raised = .provider error := by
  cases raised with
  | provider other =>
      subst h
      rfl
  | stopAsyncIteration =>
      subst h
      cases hcategory
  | timeout text =>
      subst h
      cases hcategory
  | other text =>
      subst h
      cases hcategory

/-- A built-in exception is no provider error. -/
theorem raisedOf_ne_provider (exc : Exc) (error : ProviderError) :
    raisedOf exc ≠ .provider error := by
  cases exc <;> simp [raisedOf]

/-! ## The loop -/

/-- The last error among the events, or the one before them. -/
theorem getLast?_filterMap_cons {α β : Type} (f : α → Option β) (x : α) (xs : List α)
    (before : Option β) :
    ((x :: xs).filterMap f).getLast?.or before =
      (xs.filterMap f).getLast?.or ((f x).or before) := by
  cases hx : f x with
  | none => simp [hx]
  | some y =>
      rw [List.filterMap_cons_some hx, List.getLast?_cons]
      cases (xs.filterMap f).getLast? <;> rfl

/-- A stream that ends in an error at its first item or after its first event. -/
theorem endsIn_cons_iff {ctx : RelayContext} {clock : RelayClock}
    {client : DisconnectPattern} {turn : Nat} {item : UpstreamItem}
    {rest : List UpstreamItem} {before : Option ProviderError} {error : ProviderError} :
    EndsIn F ctx clock client turn (item :: rest) before error ↔
      0 < remainingAt ctx clock turn ∧
        (item = .error (.provider error) ∨
          (EndsQuietly ctx client turn (item :: rest) ∧ before = some error) ∨
          ∃ rawEvent, item = .ok rawEvent ∧ PassedOn F ctx clock client turn rawEvent ∧
            EndsIn F ctx clock client (turn + 1) rest
              ((eventError F ctx rawEvent).or before) error) := by
  constructor
  · rintro ⟨events, after, hsplit, hpassed, htime, hend⟩
    cases events with
    | nil =>
        subst hsplit
        refine ⟨by simpa using htime, ?_⟩
        rcases hend with hraised | ⟨hquiet, hlast⟩
        · exact .inl (by simpa using hraised)
        · exact .inr (.inl ⟨by simpa using hquiet, by simpa using hlast⟩)
    | cons rawEvent events =>
        rw [List.map_cons, List.cons_append, List.cons.injEq] at hsplit
        obtain ⟨rfl, hsplit⟩ := hsplit
        rw [List.zipIdx_cons, List.forall_mem_cons] at hpassed
        rw [getLast?_filterMap_cons, List.length_cons, Nat.add_comm events.length,
          ← Nat.add_assoc] at hend
        rw [List.length_cons, Nat.add_comm events.length, ← Nat.add_assoc] at htime
        exact ⟨hpassed.1.1, .inr (.inr ⟨rawEvent, rfl, hpassed.1, events, after, hsplit,
          hpassed.2, htime, hend⟩)⟩
  · rintro ⟨htime, rfl | ⟨hquiet, hlast⟩ | ⟨rawEvent, rfl, hpassed, hrest⟩⟩
    · exact ⟨[], _, rfl, by simp, htime, .inl rfl⟩
    · exact ⟨[], _, rfl, by simp, htime, .inr ⟨hquiet, hlast⟩⟩
    · obtain ⟨events, after, rfl, hevents, htime', hend⟩ := hrest
      refine ⟨rawEvent :: events, after, rfl, ?_, ?_, ?_⟩
      · rw [List.zipIdx_cons, List.forall_mem_cons]
        exact ⟨hpassed, hevents⟩
      · rw [List.length_cons, Nat.add_comm events.length, ← Nat.add_assoc]
        exact htime'
      · rw [getLast?_filterMap_cons, List.length_cons, Nat.add_comm events.length,
          ← Nat.add_assoc]
        exact hend

/-- An exhausted stream ends in the last error an event carried. -/
theorem endsIn_nil_iff {ctx : RelayContext} {clock : RelayClock}
    {client : DisconnectPattern} {turn : Nat} {before : Option ProviderError}
    {error : ProviderError} :
    EndsIn F ctx clock client turn [] before error ↔
      0 < remainingAt ctx clock turn ∧ before = some error := by
  constructor
  · rintro ⟨events, after, hsplit, -, htime, hend⟩
    obtain ⟨hevents, rfl⟩ := List.append_eq_nil_iff.mp hsplit.symm
    obtain rfl := List.map_eq_nil_iff.mp hevents
    rcases hend with hraised | ⟨-, hlast⟩
    · cases hraised
    · exact ⟨htime, hlast⟩
  · rintro ⟨htime, hlast⟩
    exact ⟨[], [], rfl, by simp, htime, .inr ⟨trivial, hlast⟩⟩

omit [Runtime F] in
/-- An exception of the loop is a context error only if upstream raised it as one. -/
theorem caught_raised_iff {raised : Raised} {st : RelayState F} {error : ProviderError}
    (hcategory : error.category = .contextExceeded) :
    (caught (some raised, st)).streamError = some error ↔ raised = .provider error := by
  constructor
  · intro h
    exact streamErrorOf_contextExceeded (Option.some.inj h) hcategory
  · rintro rfl
    rfl

/-- The loop ends in a context error exactly when the stream does. -/
theorem relayLoop_streamError_iff {ctx : RelayContext} {clock : RelayClock}
    {client : DisconnectPattern} {error : ProviderError}
    (hcategory : error.category = .contextExceeded) (upstream : List UpstreamItem)
    (turn : Nat) (st : RelayState F) (hchecks : st.checks = turn + 1) :
    (caught (relayLoop ctx clock client turn upstream st)).streamError = some error ↔
      EndsIn F ctx clock client turn upstream st.streamError error := by
  have hlate : ∀ text, Raised.timeout text ≠ .provider error := by
    intro text h
    cases h
  induction upstream generalizing turn st with
  | nil =>
      rw [endsIn_nil_iff]
      unfold relayLoop
      by_cases htime : remainingAt ctx clock turn ≤ 0
      · rw [if_pos htime, caught_raised_iff hcategory]
        exact iff_of_false (hlate _) fun h => absurd h.1 (Rat.not_lt.mpr htime)
      · rw [if_neg htime]
        exact (and_iff_right (Rat.not_le.mp htime)).symm
  | cons item rest ih =>
      rw [endsIn_cons_iff]
      unfold relayLoop
      by_cases htime : remainingAt ctx clock turn ≤ 0
      · rw [if_pos htime, caught_raised_iff hcategory]
        exact iff_of_false (hlate _) fun h => absurd h.1 (Rat.not_lt.mpr htime)
      · rw [if_neg htime, and_iff_right (Rat.not_le.mp htime)]
        rcases item with raised | rawEvent
        · cases raised with
          | stopAsyncIteration =>
              simp [caught, EndsQuietly]
          | provider other =>
              dsimp only
              rw [caught_raised_iff hcategory]
              simp [EndsQuietly]
          | timeout text =>
              dsimp only
              rw [caught_raised_iff hcategory]
              simp [EndsQuietly]
          | other text =>
              dsimp only
              rw [caught_raised_iff hcategory]
              simp [EndsQuietly]
        · dsimp only
          by_cases hsize : ctx.settings.gatewayMaxSseEventBytes < (rawEvent.length : Int)
          · rw [if_pos hsize, caught_raised_iff hcategory]
            refine iff_of_false ?_ ?_
            · intro h
              injection h with herror
              subst herror
              cases hcategory
            · rintro (h | ⟨⟨hsmall, -⟩, -⟩ | ⟨_, h, hpassed, -⟩)
              · cases h
              · omega
              · cases h
                have hsmall := hpassed.2.1
                omega
          · rw [if_neg hsize, hchecks]
            by_cases hgone : client.isDisconnected (turn + 1) = true
            · rw [if_pos hgone]
              constructor
              · intro h
                exact .inr (.inl ⟨⟨by omega, hgone⟩, h⟩)
              · rintro (h | ⟨-, hlast⟩ | ⟨_, h, hpassed, -⟩)
                · cases h
                · exact hlast
                · cases h
                  rw [hpassed.2.2.1] at hgone
                  cases hgone
            · rw [if_neg hgone]
              have hthere : client.isDisconnected (turn + 1) = false :=
                Bool.eq_false_iff.mpr hgone
              cases hobserve : observe ctx rawEvent { st with checks := turn + 1 + 1 } with
              | error exc =>
                  dsimp only
                  rw [caught_raised_iff hcategory]
                  refine iff_of_false (raisedOf_ne_provider exc error) ?_
                  rintro (h | ⟨⟨-, h⟩, -⟩ | ⟨_, h, hpassed, -⟩)
                  · cases h
                  · exact hgone h
                  · cases h
                    obtain ⟨st', hst'⟩ := observe_of_readable hpassed.2.2.2
                      { st with checks := turn + 1 + 1 }
                    rw [hobserve] at hst'
                    cases hst'
              | ok st' =>
                  obtain ⟨-, -, hchecked, hreadable⟩ := observe_ok hobserve
                  have hcarried := observe_streamError hobserve
                  dsimp only at hchecked hcarried ⊢
                  have hpassed : PassedOn F ctx clock client turn rawEvent :=
                    ⟨Rat.not_le.mp htime, by omega, hthere, hreadable⟩
                  have hbefore : (st'.emit rawEvent).streamError =
                      (eventError F ctx rawEvent).or st.streamError := hcarried
                  refine (ih (turn + 1) (st'.emit rawEvent) hchecked).trans ?_
                  rw [hbefore]
                  constructor
                  · intro h
                    exact .inr (.inr ⟨rawEvent, rfl, hpassed, h⟩)
                  · rintro (h | ⟨⟨-, h⟩, -⟩ | ⟨_, h, -, hrest⟩)
                    · cases h
                    · exact absurd h hgone
                    · cases h
                      exact hrest

/-! ## The relay -/

/-- What the `finally` block adds to the events. -/
def settlementEffects (ctx : RelayContext) (clock : RelayClock) (client : DisconnectPattern)
    (st : RelayState F) : List (Effect F) :=
  match st.streamError with
  | some error => failureSettlement ctx clock error
  | none =>
      if client.isDisconnected st.checks then [] else successSettlement ctx clock st

/-- The variables with which the `finally` block of the relay starts. -/
def endState (ctx : RelayContext) (clock : RelayClock) (client : DisconnectPattern)
    (firstEvent : List UInt8) (upstream : List UpstreamItem) (st : RelayState F) :
    RelayState F :=
  caught (relayLoop ctx clock client 0 upstream (yieldFirst client firstEvent st))

/-- The relay emits events and then settles once. -/
theorem relayStream_effects {ctx : RelayContext} (clock : RelayClock)
    (client : DisconnectPattern) {firstEvent : List UInt8} (upstream : List UpstreamItem)
    {st : RelayState F} (hobserve : observe ctx firstEvent .initial = .ok st) :
    ∃ events : List (List UInt8), (relayStream ctx clock client firstEvent upstream).effects =
      events.map .emit ++
        settlementEffects ctx clock client
          (endState ctx clock client firstEvent upstream st) := by
  obtain ⟨relayed, hrelayed⟩ := relayed_caught clock client upstream hobserve
  unfold relayStream
  rw [hobserve]
  dsimp only
  rw [settle_eq, finish, settlementEffects, endState, hrelayed.effects_eq]
  generalize caught (relayLoop ctx clock client 0 upstream
    (yieldFirst client firstEvent st)) = after
  cases after.streamError with
  | some error => exact ⟨relayed, rfl⟩
  | none =>
      dsimp only
      by_cases hgone : client.isDisconnected after.checks = true
      · rw [if_pos hgone, if_pos hgone]
        exact ⟨relayed, (List.append_nil _).symm⟩
      · rw [if_neg hgone, if_neg hgone]
        cases after.doneSeen with
        | true => exact ⟨relayed, by simp⟩
        | false => exact ⟨relayed ++ [doneEvent], by simp⟩

/-- The relay settles with a context error exactly when the stream ends in one. -/
theorem endState_streamError_iff {ctx : RelayContext} {clock : RelayClock}
    {client : DisconnectPattern} {firstEvent : List UInt8} {upstream : List UpstreamItem}
    {st : RelayState F} {error : ProviderError}
    (hcategory : error.category = .contextExceeded)
    (hobserve : observe ctx firstEvent .initial = .ok st) :
    (endState ctx clock client firstEvent upstream st).streamError = some error ↔
      EndsIn F ctx clock client 0 upstream (eventError F ctx firstEvent) error := by
  obtain ⟨-, -, hchecks, -⟩ := observe_ok hobserve
  have hcarried := observe_streamError hobserve
  have hyield : (yieldFirst client firstEvent st).checks = 0 + 1 ∧
      (yieldFirst client firstEvent st).streamError = eventError F ctx firstEvent := by
    unfold yieldFirst
    split
    · exact ⟨by rw [hchecks]; rfl, by rw [hcarried]; exact Option.or_none⟩
    · exact ⟨by simp [RelayState.emit, hchecks, RelayState.initial],
        by simp [RelayState.emit, hcarried, RelayState.initial]⟩
  unfold endState
  rw [relayLoop_streamError_iff hcategory upstream 0 _ hyield.1, hyield.2]

end StreamErrors

end Gateway
end FreeLunch
