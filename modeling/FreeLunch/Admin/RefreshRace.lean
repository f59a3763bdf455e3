import FreeLunch.Admin.VaultRuns

/-!
# The refresh job beside the calls

`config_refresh_job` runs `reload_settings` on a thread of its own, beside the calls, which run
on the event loop one after another.  A reload reads the configuration of the vault and the
store, and later assigns both back, so another thread may have changed them in between.  Here
the two threads take turns statement by statement.

Main results:

- Theorem `race_refines`: once a vault is configured, every interleaving keeps its
  configuration and its rows readable, and holds what the executed statements say.
- Theorem `configured_wholeSetup`: a setup that no reload of the job overlaps configures the
  vault; one that a reload overlaps can be forgotten, and the next setup takes another key.
- Theorem `locked_iff`: a vault that was locked stays locked, whatever else is called, exactly
  when no reload of the job that has read the open store is still under way.

Current gaps:

- The statements that do not touch the vault are left out; a reload can raise among them.
-/

namespace FreeLunch
namespace Admin

open FreeLunch.Runtime FreeLunch.Gateway Python Runs Simulations Tables

/-! ## The threads -/

/-- Where a reload is: what it has read, or what it still has to assign. -/
inductive ReloadPhase where
  | idle
  | started
  | readConfig (config : Option SecretVaultConfig)
  | readStore (config : Option SecretVaultConfig) (key : Option (List UInt8))
  | assigning (key : Option (List UInt8))

/-- A change of a secret. -/
inductive SecretChange (Draw : Type) where
  | set (name text : String) (draw : Draw)
  | delete (name : String)

/-- Where a call is.  A call on a secret has checked the configuration, then has the store; a
setup has a row to write; each then has a store to assign or goes on to its reload. -/
inductive HandlerPhase (Draw : Type) where
  | idle
  | checked (change : SecretChange Draw)
  | writingRow (change : SecretChange Draw) (key : List UInt8)
  | writingConfig (config : SecretVaultConfig) (key : List UInt8)
  | taking (key : Option (List UInt8))
  | reloading (phase : ReloadPhase)

/-- What the threads share, and where they are. -/
structure Race (Draw : Type) where
  view : VaultView
  refresh : ReloadPhase
  handler : HandlerPhase Draw

/-- A call begins, or a thread goes on. -/
inductive RaceEvent (Draw : Type) where
  | setup (salt : List UInt8) (draw : Draw) (password : String)
  | unlock (password : String)
  | lock
  | change (change : SecretChange Draw)
  | handlerStep
  /-- The writer drops the statement of the call. -/
  | statementLost
  | handlerRaises
  | refreshStep
  | refreshRaises
  /-- The process ends, and the next one starts. -/
  | restart

section Threads

variable {Draw : Type} (fernet : Fernet Draw) (pbkdf2 : Pbkdf2)

/-- The rows after a change. -/
def SecretChange.onRows (key : List UInt8) (rows : List (String × String)) :
    SecretChange Draw → List (String × String)
  | .set name text draw => dictSet rows name (fernet.encrypt key draw text)
  | .delete name => deleteKey Prod.fst name rows

/-- The next statement of `reload_settings` on the vault. -/
def reloadStep (view : VaultView) : ReloadPhase → VaultView × ReloadPhase
  | .idle => (view, .started)
  | .started => (view, .readConfig view.stored)
  | .readConfig config => (view, .readStore config view.fernetKey)
  | .readStore config key => ({ view with config := config }, .assigning key)
  | .assigning key => (view.withStore fernet key, .idle)

/-- The statements of a reload that can raise: those before its first assignment. -/
def ReloadPhase.canRaise : ReloadPhase → Bool
  | .started => true
  | .readConfig _ => true
  | .readStore _ _ => true
  | _ => false

/-- A call in its reload. -/
def HandlerPhase.ofReload : ReloadPhase → HandlerPhase Draw
  | .idle => .idle
  | phase => .reloading phase

/-- The next statement of the call under way. -/
def handlerStep (race : Race Draw) : Option (Race Draw) :=
  match race.handler with
  | .idle => none
  | .checked change =>
      match race.view.fernetKey with
      | none => some { race with handler := .idle }
      | some key => some { race with handler := .writingRow change key }
  | .writingRow change key =>
      some { race with
        view := { race.view with rows := change.onRows fernet key race.view.rows }
        handler := .reloading .started }
  | .writingConfig config key =>
      some { race with
        view := { race.view with stored := some config }, handler := .taking (some key) }
  | .taking key =>
      some { race with view := race.view.withStore fernet key, handler := .reloading .started }
  | .reloading phase =>
      let (view, phase) := reloadStep fernet race.view phase
      some { race with view := view, handler := .ofReload phase }

/-- One event. -/
def raceStep (race : Race Draw) : RaceEvent Draw → Option (Race Draw)
  | .setup salt draw password =>
      match race.handler with
      | .idle =>
          if race.view.config.isSome then some race
          else
            match createVaultConfig fernet pbkdf2 salt draw password with
            | .error _ => some race
            | .ok (config, key) => some { race with handler := .writingConfig config key }
      | _ => none
  | .unlock password =>
      match race.handler, race.view.config with
      | .idle, none => some race
      | .idle, some config =>
          match Admin.unlockVault fernet pbkdf2 password config with
          | .error _ => some race
          | .ok key => some { race with handler := .taking (some key) }
      | _, _ => none
  | .lock =>
      match race.handler, race.view.config with
      | .idle, none => some race
      | .idle, some _ => some { race with handler := .taking none }
      | _, _ => none
  | .change change =>
      match race.handler, race.view.config with
      | .idle, none => some race
      | .idle, some _ => some { race with handler := .checked change }
      | _, _ => none
  | .handlerStep => handlerStep fernet race
  | .statementLost =>
      match race.handler with
      | .writingRow _ _ => some { race with handler := .reloading .started }
      | .writingConfig _ key => some { race with handler := .taking (some key) }
      | _ => none
  | .handlerRaises =>
      match race.handler with
      | .reloading phase => if phase.canRaise then some { race with handler := .idle } else none
      | _ => none
  | .refreshStep =>
      let (view, phase) := reloadStep fernet race.view race.refresh
      some { race with view := view, refresh := phase }
  | .refreshRaises => if race.refresh.canRaise then some { race with refresh := .idle } else none
  | .restart =>
      some { view := { race.view with config := race.view.stored }.withStore fernet none
             refresh := .idle, handler := .idle }

end Threads

/-! ## Alone -/

section Alone

variable {F T Draw : Type} [Runtime F] [FloatArith F] {fernet : Fernet Draw} {pbkdf2 : Pbkdf2}

/-- The five statements of a reload of the job, one after another. -/
def wholeRefresh (Draw : Type) : List (RaceEvent Draw) := List.replicate 5 .refreshStep

omit [Runtime F] [FloatArith F] in
/-- On its own the job does what a reload does that gets to assign. -/
theorem run_wholeRefresh {race : Race Draw} (hidle : race.refresh = .idle)
    (hstore : race.view.store = race.view.fernetKey.map fernet.store) :
    run (raceStep fernet pbkdf2) race (wholeRefresh Draw) =
      some { race with view := race.view.reloaded true } := by
  obtain ⟨⟨stored, rows, config, store, key⟩, refresh, handler⟩ := race
  dsimp only at hidle hstore
  subst hidle hstore
  rfl

omit [Runtime F] [FloatArith F] in
/-- On its own a call that locks takes no store and reloads. -/
theorem run_wholeLock {race : Race Draw} {config : SecretVaultConfig}
    (hidle : race.handler = .idle) (hconfig : race.view.config = some config) :
    run (raceStep fernet pbkdf2) race (.lock :: List.replicate 5 .handlerStep) =
      some { race with view := (race.view.withStore fernet none).reloaded true } := by
  obtain ⟨⟨stored, rows, known, store, key⟩, refresh, handler⟩ := race
  dsimp only at hidle hconfig
  subst hidle hconfig
  rfl

end Alone

/-! ## A configured vault -/

section Configured

variable {Draw : Type} {fernet : Fernet Draw} {pbkdf2 : Pbkdf2}

/-- A store, if there is one, has the key of the lock. -/
def OwnKey (lock : Lock) (key : Option (List UInt8)) : Prop :=
  ∀ k, key = some k → k = lock.key

/-- A reload has read the configuration that is stored, and a store of its own. -/
def ReloadPhase.Own (lock : Lock) (stored : Option SecretVaultConfig) : ReloadPhase → Prop
  | .idle => True
  | .started => True
  | .readConfig config => config = stored
  | .readStore config key => config = stored ∧ OwnKey lock key
  | .assigning key => OwnKey lock key

/-- A call has no setup to write, and a store of its own. -/
def HandlerPhase.Own (lock : Lock) (stored : Option SecretVaultConfig) :
    HandlerPhase Draw → Prop
  | .idle => True
  | .checked _ => True
  | .writingRow _ key => key = lock.key
  | .writingConfig _ _ => False
  | .taking key => OwnKey lock key
  | .reloading phase => phase.Own lock stored

/-- The vault is configured and known, its rows hold the secrets, the store in force is that of
its key or none, and both threads are within it. -/
structure Configured (fernet : Fernet Draw) (lock : Lock) (config : SecretVaultConfig)
    (race : Race Draw) (secrets : List (String × String)) : Prop where
  locks : Locks fernet config lock
  stored : race.view.stored = some config
  known : race.view.config = some config
  rows : fernet.Holds lock.key race.view.rows secrets
  key : OwnKey lock race.view.fernetKey
  store : race.view.store = race.view.fernetKey.map fernet.store
  refresh : race.refresh.Own lock (some config)
  handler : race.handler.Own lock (some config)

/-- The change that an event executes. -/
def executedChange (race : Race Draw) (event : RaceEvent Draw) : Option (SecretChange Draw) :=
  match event, race.handler with
  | .handlerStep, .writingRow change _ => some change
  | _, _ => none

/-- The secrets after an executed change. -/
def SecretsStep (secrets : List (String × String)) (change : Option (SecretChange Draw))
    (secrets' : List (String × String)) : Prop :=
  secrets' =
    match change with
    | none => secrets
    | some (.set name text _) => dictSet secrets name text
    | some (.delete name) => deleteKey Prod.fst name secrets

variable {lock : Lock} {config : SecretVaultConfig} {race race' : Race Draw}
  {secrets : List (String × String)}

/-- A statement of a reload keeps the vault, and the reload goes on within it. -/
theorem reloadStep_own {view view' : VaultView} {phase phase' : ReloadPhase}
    (hstored : view.stored = some config) (hknown : view.config = some config)
    (hkey : OwnKey lock view.fernetKey)
    (hstore : view.store = view.fernetKey.map fernet.store)
    (hphase : phase.Own lock (some config))
    (hstep : reloadStep fernet view phase = (view', phase')) :
    view'.stored = some config ∧ view'.config = some config ∧ view'.rows = view.rows ∧
      OwnKey lock view'.fernetKey ∧ view'.store = view'.fernetKey.map fernet.store ∧
      phase'.Own lock (some config) := by
  cases phase with
  | idle =>
      cases hstep
      exact ⟨hstored, hknown, rfl, hkey, hstore, trivial⟩
  | started =>
      cases hstep
      exact ⟨hstored, hknown, rfl, hkey, hstore, hstored⟩
  | readConfig read =>
      cases hstep
      exact ⟨hstored, hknown, rfl, hkey, hstore, hphase, hkey⟩
  | readStore read key =>
      cases hstep
      exact ⟨hstored, hphase.1, rfl, hkey, hstore, hphase.2⟩
  | assigning key =>
      cases hstep
      exact ⟨hstored, hknown, rfl, hphase, rfl, trivial⟩

/-- A call that is not in its reload is within the vault when its reload is. -/
theorem own_ofReload {phase : ReloadPhase} (h : phase.Own lock (some config)) :
    (HandlerPhase.ofReload phase : HandlerPhase Draw).Own lock (some config) := by
  cases phase <;> exact h

/-- The rows after an executed change hold the changed secrets. -/
theorem holds_onRows {rows : List (String × String)} (h : fernet.Holds lock.key rows secrets)
    (change : SecretChange Draw) :
    ∃ secrets', SecretsStep secrets (some change) secrets' ∧
      fernet.Holds lock.key (change.onRows fernet lock.key rows) secrets' := by
  cases change with
  | set name text draw => exact ⟨_, rfl, h.set name text draw⟩
  | delete name => exact ⟨_, rfl, h.delete name⟩

/-- A statement of a call. -/
theorem configured_handlerStep (h : Configured fernet lock config race secrets)
    (hstep : handlerStep fernet race = some race') :
    ∃ secrets', SecretsStep secrets (executedChange race .handlerStep) secrets' ∧
      Configured fernet lock config race' secrets' := by
  obtain ⟨view, refresh, handler⟩ := race
  unfold executedChange
  unfold handlerStep at hstep
  cases handler with
  | idle => cases hstep
  | checked change =>
      refine ⟨secrets, rfl, ?_⟩
      dsimp only at hstep
      cases hkey : view.fernetKey with
      | none =>
          rw [hkey] at hstep
          cases hstep
          exact ⟨h.locks, h.stored, h.known, h.rows, h.key, h.store, h.refresh, trivial⟩
      | some key =>
          rw [hkey] at hstep
          cases hstep
          exact ⟨h.locks, h.stored, h.known, h.rows, h.key, h.store, h.refresh, h.key key hkey⟩
  | writingRow change key =>
      cases hstep
      have hown : key = lock.key := h.handler
      subst hown
      obtain ⟨secrets', hsecrets, hrows⟩ := holds_onRows h.rows change
      exact ⟨secrets', hsecrets, h.locks, h.stored, h.known, hrows, h.key, h.store, h.refresh,
        trivial⟩
  | writingConfig other key => exact absurd h.handler id
  | taking key =>
      cases hstep
      exact ⟨secrets, rfl, h.locks, h.stored, h.known, h.rows, h.handler, rfl, h.refresh, trivial⟩
  | reloading phase =>
      cases hstep
      obtain ⟨hstored, hknown, hrows, hkey, hstore, hphase⟩ :=
        reloadStep_own h.stored h.known h.key h.store h.handler rfl
      refine ⟨secrets, rfl, h.locks, hstored, hknown, ?_, hkey, hstore, h.refresh,
        own_ofReload hphase⟩
      rw [hrows]
      exact h.rows

/-- Once a vault is configured, every interleaving of the job with the calls keeps its
configuration, and its rows hold under its key what the executed statements say. -/
theorem race_refines (fernet : Fernet Draw) (pbkdf2 : Pbkdf2) (lock : Lock)
    (config : SecretVaultConfig) :
    Matched (raceStep fernet pbkdf2) executedChange SecretsStep (fun _ => True)
      (Configured fernet lock config) := by
  intro race event race' secrets _ hstep h
  obtain ⟨view, refresh, handler⟩ := race
  have hknown : view.config = some config := h.known
  unfold raceStep at hstep
  cases event with
  | setup salt draw password =>
      -- the application knows of the vault, so no setup goes on
      refine ⟨secrets, rfl, ?_⟩
      cases handler with
      | idle =>
          dsimp only at hstep
          rw [hknown, Option.isSome_some, if_pos rfl] at hstep
          cases hstep
          exact h
      | _ => cases hstep
  | unlock password =>
      refine ⟨secrets, rfl, ?_⟩
      cases handler with
      | idle =>
          dsimp only at hstep
          rw [hknown] at hstep
          dsimp only at hstep
          by_cases hopens : lock.Opens pbkdf2 password
          · rw [unlockVault_of_opens h.locks hopens] at hstep
            cases hstep
            exact ⟨h.locks, h.stored, h.known, h.rows, h.key, h.store, h.refresh,
              fun key hkey => (Option.some.inj hkey).symm⟩
          · obtain ⟨detail, hrefused⟩ := unlockVault_of_not_opens h.locks hopens
            rw [hrefused] at hstep
            cases hstep
            exact h
      | _ => cases hstep
  | lock =>
      refine ⟨secrets, rfl, ?_⟩
      cases handler with
      | idle =>
          dsimp only at hstep
          rw [hknown] at hstep
          cases hstep
          exact ⟨h.locks, h.stored, h.known, h.rows, h.key, h.store, h.refresh,
            fun key hkey => by cases hkey⟩
      | _ => cases hstep
  | change change =>
      refine ⟨secrets, rfl, ?_⟩
      cases handler with
      | idle =>
          dsimp only at hstep
          rw [hknown] at hstep
          cases hstep
          exact ⟨h.locks, h.stored, h.known, h.rows, h.key, h.store, h.refresh, trivial⟩
      | _ => cases hstep
  | handlerStep => exact configured_handlerStep h hstep
  | statementLost =>
      refine ⟨secrets, rfl, ?_⟩
      cases handler with
      | writingRow change key =>
          cases hstep
          exact ⟨h.locks, h.stored, h.known, h.rows, h.key, h.store, h.refresh, trivial⟩
      | writingConfig other key => exact absurd h.handler id
      | _ => cases hstep
  | handlerRaises =>
      refine ⟨secrets, rfl, ?_⟩
      cases handler with
      | reloading phase =>
          dsimp only at hstep
          by_cases hraise : phase.canRaise = true
          · rw [if_pos hraise] at hstep
            cases hstep
            exact ⟨h.locks, h.stored, h.known, h.rows, h.key, h.store, h.refresh, trivial⟩
          · rw [if_neg hraise] at hstep
            cases hstep
      | _ => cases hstep
  | refreshStep =>
      cases hstep
      obtain ⟨hstored, hknown, hrows, hkey, hstore, hphase⟩ :=
        reloadStep_own h.stored h.known h.key h.store h.refresh rfl
      refine ⟨secrets, rfl, h.locks, hstored, hknown, ?_, hkey, hstore, hphase, h.handler⟩
      rw [hrows]
      exact h.rows
  | refreshRaises =>
      refine ⟨secrets, rfl, ?_⟩
      dsimp only at hstep
      by_cases hraise : refresh.canRaise = true
      · rw [if_pos hraise] at hstep
        cases hstep
        exact ⟨h.locks, h.stored, h.known, h.rows, h.key, h.store, trivial, h.handler⟩
      · rw [if_neg hraise] at hstep
        cases hstep
  | restart =>
      cases hstep
      exact ⟨secrets, rfl, h.locks, h.stored, h.stored, h.rows, nofun, rfl, trivial, trivial⟩

/-- The runs of the two threads. -/
theorem race_run (h : Configured fernet lock config race secrets)
    {events : List (RaceEvent Draw)}
    (hrun : run (raceStep fernet pbkdf2) race events = some race') :
    ∃ secrets', SpecRun SecretsStep secrets
        (labelsAlong (raceStep fernet pbkdf2) executedChange race events) secrets' ∧
      Configured fernet lock config race' secrets' :=
  exists_specRun_of_run (race_refines fernet pbkdf2 lock config) (fun _ _ => trivial) hrun h

/-- A setup that no reload of the job overlaps configures the vault. -/
theorem configured_wholeSetup {password : String} (hpassword : stripped password ≠ "")
    (hhandler : race.handler = .idle) (hrefresh : race.refresh = .idle)
    (hconfig : race.view.config = none) (hrows : race.view.rows = []) (salt : List UInt8)
    (draw : Draw) :
    ∃ config race', run (raceStep fernet pbkdf2) race
        (.setup salt draw password :: List.replicate 6 .handlerStep) = some race' ∧
      Configured fernet (lockFor pbkdf2 salt password) config race' [] := by
  obtain ⟨config, hcreate, hlocks⟩ :=
    locks_createVaultConfig fernet pbkdf2 hpassword salt draw
  obtain ⟨⟨stored, rows, known, store, key⟩, refresh, handler⟩ := race
  dsimp only at hhandler hrefresh hconfig hrows
  subst hhandler hrefresh hconfig hrows
  have hsetup : raceStep fernet pbkdf2 ⟨⟨stored, [], none, store, key⟩, .idle, .idle⟩
      (.setup salt draw password) = some ⟨⟨stored, [], none, store, key⟩, .idle,
        .writingConfig config (lockFor pbkdf2 salt password).key⟩ := by
    unfold raceStep
    simp only [Option.isSome_none, Bool.false_eq_true, if_false, hcreate]
  refine ⟨config, _, (run_cons_of_step hsetup _).trans rfl, ?_⟩
  exact ⟨hlocks, rfl, rfl, .nil, fun key hkey => (Option.some.inj hkey).symm, rfl, trivial, trivial⟩

/-! ## A locked vault -/

/-- A reload has read an open store that it has not assigned yet. -/
def ReloadPhase.HoldsStore : ReloadPhase → Prop
  | .readStore _ key => key ≠ none
  | .assigning key => key ≠ none
  | _ => False

/-- The event takes no store of its own. -/
def RaceEvent.TakesNoStore : RaceEvent Draw → Prop
  | .setup _ _ _ => False
  | .unlock _ => False
  | _ => True

/-- No thread has a store. -/
structure NoStore (race : Race Draw) : Prop where
  key : race.view.fernetKey = none
  refresh : ¬ race.refresh.HoldsStore
  handler : ∀ phase, race.handler = .reloading phase → ¬ phase.HoldsStore
  taking : ∀ key, race.handler = .taking key → key = none
  writing : ∀ other key, race.handler ≠ .writingConfig other key

/-- A statement of a reload that holds no store takes none. -/
theorem reloadStep_noStore {view view' : VaultView} {phase phase' : ReloadPhase}
    (hkey : view.fernetKey = none) (hphase : ¬ phase.HoldsStore)
    (hstep : reloadStep fernet view phase = (view', phase')) :
    view'.fernetKey = none ∧ ¬ phase'.HoldsStore := by
  cases phase with
  | idle =>
      cases hstep
      exact ⟨hkey, id⟩
  | started =>
      cases hstep
      exact ⟨hkey, id⟩
  | readConfig read =>
      cases hstep
      exact ⟨hkey, fun hholds => hholds hkey⟩
  | readStore read key =>
      cases hstep
      exact ⟨hkey, hphase⟩
  | assigning key =>
      cases hstep
      refine ⟨?_, id⟩
      by_contra hopen
      exact hphase hopen

/-- A reload of a call that holds no store. -/
theorem noStore_ofReload {view : VaultView} {refresh phase : ReloadPhase}
    (hkey : view.fernetKey = none) (hrefresh : ¬ refresh.HoldsStore)
    (hphase : ¬ phase.HoldsStore) :
    NoStore ({ view := view, refresh := refresh, handler := .ofReload phase } : Race Draw) := by
  refine ⟨hkey, hrefresh, fun other hother => ?_, fun key htaking => ?_, fun _ _ hwriting => ?_⟩
  · cases phase <;> cases hother <;> exact hphase
  · cases phase <;> cases htaking
  · cases phase <;> cases hwriting

/-- A statement of a call that has no store takes none. -/
theorem noStore_handlerStep (hstep : handlerStep fernet race = some race') (h : NoStore race) :
    NoStore race' := by
  obtain ⟨view, refresh, handler⟩ := race
  unfold handlerStep at hstep
  cases handler with
  | idle => cases hstep
  | checked change =>
      have hkey : view.fernetKey = none := h.key
      dsimp only at hstep
      rw [hkey] at hstep
      cases hstep
      exact ⟨h.key, h.refresh, nofun, nofun, nofun⟩
  | writingRow change key =>
      cases hstep
      refine ⟨h.key, h.refresh, fun phase hphase => ?_, nofun, nofun⟩
      cases hphase
      exact id
  | writingConfig config key => exact absurd rfl (h.writing config key)
  | taking key =>
      cases hstep
      refine ⟨h.taking key rfl, h.refresh, fun phase hphase => ?_, nofun, nofun⟩
      cases hphase
      exact id
  | reloading phase =>
      cases hstep
      obtain ⟨hkey, hphase⟩ := reloadStep_noStore h.key (h.handler phase rfl) rfl
      exact noStore_ofReload hkey h.refresh hphase

/-- Without a store in any thread none appears but by a setup or an unlocking. -/
theorem noStore_step {event : RaceEvent Draw} (htakes : event.TakesNoStore)
    (hstep : raceStep fernet pbkdf2 race event = some race') (h : NoStore race) :
    NoStore race' := by
  obtain ⟨view, refresh, handler⟩ := race
  have hunchanged : NoStore ({ view := view, refresh := refresh, handler := .idle } : Race Draw) :=
    ⟨h.key, h.refresh, nofun, nofun, nofun⟩
  have hreloading :
      NoStore ({ view := view, refresh := refresh, handler := .reloading .started } : Race Draw) :=
    have hstarted : ¬ ReloadPhase.started.HoldsStore := id
    noStore_ofReload h.key h.refresh hstarted
  unfold raceStep at hstep
  cases event with
  | setup salt draw password => exact absurd htakes id
  | unlock password => exact absurd htakes id
  | lock =>
      cases handler with
      | idle =>
          dsimp only at hstep
          cases hconfig : view.config with
          | none =>
              rw [hconfig] at hstep
              cases hstep
              exact hunchanged
          | some config =>
              rw [hconfig] at hstep
              cases hstep
              refine ⟨h.key, h.refresh, nofun, fun key hkey => ?_, nofun⟩
              cases hkey
              rfl
      | _ => cases hstep
  | change change =>
      cases handler with
      | idle =>
          dsimp only at hstep
          cases hconfig : view.config with
          | none =>
              rw [hconfig] at hstep
              cases hstep
              exact hunchanged
          | some config =>
              rw [hconfig] at hstep
              cases hstep
              exact ⟨h.key, h.refresh, nofun, nofun, nofun⟩
      | _ => cases hstep
  | handlerStep => exact noStore_handlerStep hstep h
  | statementLost =>
      cases handler with
      | writingRow change key =>
          cases hstep
          exact hreloading
      | writingConfig config key => exact absurd rfl (h.writing config key)
      | _ => cases hstep
  | handlerRaises =>
      cases handler with
      | reloading phase =>
          dsimp only at hstep
          by_cases hraise : phase.canRaise = true
          · rw [if_pos hraise] at hstep
            cases hstep
            exact hunchanged
          · rw [if_neg hraise] at hstep
            cases hstep
      | _ => cases hstep
  | refreshStep =>
      cases hstep
      obtain ⟨hkey, hphase⟩ := reloadStep_noStore h.key h.refresh rfl
      exact ⟨hkey, hphase, h.handler, h.taking, h.writing⟩
  | refreshRaises =>
      dsimp only at hstep
      by_cases hraise : refresh.canRaise = true
      · rw [if_pos hraise] at hstep
        cases hstep
        exact ⟨h.key, id, h.handler, h.taking, h.writing⟩
      · rw [if_neg hraise] at hstep
        cases hstep
  | restart =>
      cases hstep
      exact ⟨rfl, id, nofun, nofun, nofun⟩

/-- From where no store is in memory none appears, whatever follows but a setup or an
unlocking, exactly when no reload of the job holds one. -/
theorem unlocked_never_iff (hkey : race.view.fernetKey = none)
    (hhandler : race.handler = .reloading .started) :
    (∀ events race', run (raceStep fernet pbkdf2) race events = some race' →
        (∀ event ∈ events, event.TakesNoStore) → race'.view.fernetKey = none) ↔
      ¬ race.refresh.HoldsStore := by
  constructor
  · intro hlocked hholds
    obtain ⟨view, refresh, handler⟩ := race
    have htakes : ∀ n, ∀ event ∈ List.replicate n (.refreshStep : RaceEvent Draw),
        event.TakesNoStore := by
      intro n event hevent
      rw [List.eq_of_mem_replicate hevent]
      trivial
    cases refresh with
    | readStore config key =>
        exact hholds (hlocked (List.replicate 2 .refreshStep) _ rfl (htakes 2))
    | assigning key => exact hholds (hlocked (List.replicate 1 .refreshStep) _ rfl (htakes 1))
    | _ => exact hholds
  · intro hfree events race' hrun hevents
    have hstart : NoStore race := by
      refine ⟨hkey, hfree, fun phase hphase => ?_, fun key htaking => ?_, fun _ _ hwriting => ?_⟩
      · rw [hhandler] at hphase
        cases hphase
        exact id
      · rw [hhandler] at htaking
        cases htaking
      · rw [hhandler] at hwriting
        cases hwriting
    exact (run_guarded_invariant NoStore (fun _ _ _ hstep htakes h => noStore_step htakes hstep h)
      hrun (guarded_of_forall_mem hevents race) hstart).key

/-- A call that locks the vault leaves it locked, whatever follows but a setup or an unlocking,
exactly when no reload of the job still holds the open store. -/
theorem locked_iff (hhandler : race.handler = .taking none) :
    (∀ events race', run (raceStep fernet pbkdf2) race (.handlerStep :: events) = some race' →
        (∀ event ∈ events, event.TakesNoStore) → race'.view.fernetKey = none) ↔
      ¬ race.refresh.HoldsStore := by
  obtain ⟨view, refresh, handler⟩ := race
  dsimp only at hhandler
  subst hhandler
  have hstep : raceStep fernet pbkdf2 ⟨view, refresh, .taking none⟩ .handlerStep =
      some ⟨view.withStore fernet none, refresh, .reloading .started⟩ := rfl
  simp only [run_cons_of_step hstep]
  exact unlocked_never_iff rfl rfl

end Configured

/-! ## Three interleavings -/

/-- The vault of `sesame`, open and empty. -/
def openView : VaultView where
  stored := some ⟨decodeAscii (urlsafeB64encode [7, 11]),
    taggedFernet.encrypt (lockFor appendSalt [7, 11] "sesame").key () verifierPlaintext⟩
  rows := []
  config := some ⟨decodeAscii (urlsafeB64encode [7, 11]),
    taggedFernet.encrypt (lockFor appendSalt [7, 11] "sesame").key () verifierPlaintext⟩
  store := some (taggedFernet.store (lockFor appendSalt [7, 11] "sesame").key)
  fernetKey := some (lockFor appendSalt [7, 11] "sesame").key

/-- A secret is stored while the job reloads. -/
theorem race_run_storing :
    ∃ race' secrets', run (raceStep taggedFernet appendSalt)
        ⟨openView, .started, .writingRow (.set "providers.groq.api_key" "gsk" ())
          (lockFor appendSalt [7, 11] "sesame").key⟩ [.refreshStep, .handlerStep] = some race' ∧
      Configured taggedFernet (lockFor appendSalt [7, 11] "sesame")
        ⟨decodeAscii (urlsafeB64encode [7, 11]),
          taggedFernet.encrypt (lockFor appendSalt [7, 11] "sesame").key () verifierPlaintext⟩
        race' secrets' := by
  have hlocks : Locks taggedFernet ⟨decodeAscii (urlsafeB64encode [7, 11]),
      taggedFernet.encrypt (lockFor appendSalt [7, 11] "sesame").key () verifierPlaintext⟩
      (lockFor appendSalt [7, 11] "sesame") :=
    ⟨decode_encodeAscii_decodeAscii _, (), rfl⟩
  have hstart : Configured taggedFernet (lockFor appendSalt [7, 11] "sesame")
      ⟨decodeAscii (urlsafeB64encode [7, 11]),
        taggedFernet.encrypt (lockFor appendSalt [7, 11] "sesame").key () verifierPlaintext⟩
      (⟨openView, .started, .writingRow (.set "providers.groq.api_key" "gsk" ())
        (lockFor appendSalt [7, 11] "sesame").key⟩ : Race Unit) [] :=
    ⟨hlocks, rfl, rfl, .nil, fun key hkey => (Option.some.inj hkey).symm, rfl, trivial, rfl⟩
  obtain ⟨race', hrun⟩ : ∃ race', run (raceStep taggedFernet appendSalt)
      ⟨openView, .started, .writingRow (.set "providers.groq.api_key" "gsk" ())
        (lockFor appendSalt [7, 11] "sesame").key⟩ [.refreshStep, .handlerStep] = some race' :=
    ⟨_, rfl⟩
  obtain ⟨secrets', -, hend⟩ := race_run hstart hrun
  exact ⟨race', secrets', hrun, hend⟩

/-- An application that knows of no vault, in which the job has read that there is none. -/
def staleRace : Race Unit where
  view := { stored := none, rows := [], config := none, store := none, fernetKey := none }
  refresh := .readStore none none
  handler := .idle

/-- A vault is set up and a secret is stored; then the job assigns what it has read, and the
vault is set up again. -/
def secondSetup : List (RaceEvent Unit) :=
  .setup [7, 11] () "sesame" :: List.replicate 6 .handlerStep ++
    .change (.set "providers.groq.api_key" "gsk" ()) :: List.replicate 6 .handlerStep ++
    [.refreshStep, .refreshStep, .setup [13] () "other", .handlerStep]

-- The row stays under the first key, and the configuration is that of the second.
example : (run (raceStep taggedFernet appendSalt) staleRace secondSetup).map
      (fun race => (race.view.rows, race.view.stored.map (·.verifierEncrypted))) =
    some ([("providers.groq.api_key",
        taggedFernet.encrypt (lockFor appendSalt [7, 11] "sesame").key () "gsk")],
      some (taggedFernet.encrypt (lockFor appendSalt [13] "other").key () verifierPlaintext)) :=
  rfl

/-- The job has read the open store when the vault is locked: the vault does not stay locked. -/
theorem locked_iff_holding :
    ¬ ∀ events race', run (raceStep taggedFernet appendSalt)
        (⟨openView, .readStore openView.config openView.fernetKey, .taking none⟩ : Race Unit)
        (.handlerStep :: events) = some race' →
      (∀ event ∈ events, event.TakesNoStore) → race'.view.fernetKey = none := by
  rw [locked_iff rfl, not_not]
  exact Option.some_ne_none _

end Admin
end FreeLunch
