import FreeLunch.Admin.Requests
import FreeLunch.Foundations.Simulations

/-!
# The vault over whole runs

What the vault is for: a map from secret keys to texts, behind a lock that a password opens.
The application and its database implement it with encrypted rows, a row for the vault, the
copy of that row in the state of the application, and the store in it.  A reload can raise at
any point, a statement on a secret can be lost, and the process can end and start again.

Main results:

- Theorem `vault_refines`: every event does to the rows, the configuration and the store what
  it does to the map and the lock.
- Theorem `vault_run`: so does every run, from an empty database on, in which the writer
  executes the statements that set a vault up.
- Theorem `unlock_after_run`: after any such run the vault opens exactly for the passwords of
  its lock, and then the secrets that were stored last are loaded.

Current gaps:

- A request runs as a whole.
-/

namespace FreeLunch
namespace Admin

open FreeLunch.Runtime FreeLunch.Gateway Python Runs Simulations Tables Transactions Writes

/-! ## What the vault is for -/

/-- A vault that is set up.  The application may not know of it yet, since the reload behind
the setup can raise; then nothing is stored. -/
structure Vault where
  lock : Lock
  known : Bool
  unlocked : Bool
  secrets : List (String × String)
  known_of_secrets : secrets ≠ [] → known = true

/-- What is asked of the vault. -/
inductive VaultAction where
  | nothing
  | setup (salt : List UInt8) (password : String)
  | unlock (password : String)
  | lock
  | set (key text : String) (stored : Bool)
  | delete (key : String) (stored : Bool)
  | reload
  | restart
deriving DecidableEq, Repr

/-- A new vault. -/
def Vault.new (pbkdf2 : Pbkdf2) (salt : List UInt8) (password : String) (known : Bool) :
    Vault where
  lock := lockFor pbkdf2 salt password
  known := known
  unlocked := true
  secrets := []
  known_of_secrets h := absurd rfl h

/-- The vault with other secrets, where it is known. -/
def Vault.storing (vault : Vault) (h : vault.known = true) (secrets : List (String × String)) :
    Vault where
  lock := vault.lock
  known := vault.known
  unlocked := vault.unlocked
  secrets := secrets
  known_of_secrets _ := h

/-- The effect of an action; `reloaded` says whether the reload behind it got to assign. -/
def nextVault (pbkdf2 : Pbkdf2) (reloaded : Bool) : Option Vault → VaultAction → Option Vault
  | none, .setup salt password =>
      if password = "" then none else some (.new pbkdf2 salt password reloaded)
  | none, _ => none
  | some vault, .nothing => some vault
  | some vault, .setup salt password =>
      if vault.known = true ∨ password = "" then some vault
      else some (.new pbkdf2 salt password reloaded)
  | some vault, .unlock password =>
      if vault.known = true ∧ vault.lock.Opens pbkdf2 password then
        some { vault with unlocked := true }
      else some vault
  | some vault, .lock => if vault.known then some { vault with unlocked := false } else some vault
  | some vault, .set key text stored =>
      if h : vault.known = true ∧ vault.unlocked = true ∧ stored = true then
        some (vault.storing h.1 (dictSet vault.secrets key text))
      else some vault
  | some vault, .delete key stored =>
      if h : vault.known = true ∧ vault.unlocked = true ∧ stored = true then
        some (vault.storing h.1 (deleteKey Prod.fst key vault.secrets))
      else some vault
  | some vault, .reload =>
      some { vault with
        known := vault.known || reloaded
        known_of_secrets := fun h => by rw [vault.known_of_secrets h, Bool.true_or] }
  | some vault, .restart =>
      some { vault with known := true, unlocked := false, known_of_secrets := fun _ => rfl }

/-- One action on the vault. -/
def VaultStep (pbkdf2 : Pbkdf2) (vault : Option Vault) (action : VaultAction)
    (vault' : Option Vault) : Prop :=
  ∃ reloaded, vault' = nextVault pbkdf2 reloaded vault action

/-! ## What implements it -/

/-- The parts of the state that implement the vault. -/
structure VaultView where
  /-- The row of `secret_vault_config`. -/
  stored : Option SecretVaultConfig
  /-- The rows of `managed_secrets`. -/
  rows : List (String × String)
  /-- `app.state.secret_vault_config`. -/
  config : Option SecretVaultConfig
  /-- `app.state.secret_store`. -/
  store : Option ManagedSecretStore
  fernetKey : Option (List UInt8)

/-- The parts of a state that implement the vault. -/
def AdminState.vaultView {F T : Type} (state : AdminState F T) : VaultView where
  stored := state.app.db.secretVaultConfig
  rows := state.app.db.managedSecrets
  config := state.app.secretVaultConfig
  store := state.app.secretStore
  fernetKey := state.fernetKey

/-- What a reload does to them, when it gets to assign. -/
def VaultView.reloaded (view : VaultView) (reloaded : Bool) : VaultView :=
  if reloaded then { view with config := view.stored } else view

/-- The store with a key. -/
def VaultView.withStore {Draw : Type} (view : VaultView) (fernet : Fernet Draw)
    (key : Option (List UInt8)) : VaultView :=
  { view with store := key.map fernet.store, fernetKey := key }

/-- The rows after a statement that the writer may drop. -/
def VaultView.afterStatement (view : VaultView) (executes : Bool)
    (rows : List (String × String)) : VaultView :=
  { view with rows := if executes then rows else view.rows }

/-- The state implements a vault: the configuration belongs to its lock, the rows hold its
secrets under its key, and an unlocked application has the store with that key. -/
structure Implements {Draw : Type} (fernet : Fernet Draw) (view : VaultView) (vault : Vault) :
    Prop where
  stored : ∃ config, view.stored = some config ∧ Locks fernet config vault.lock
  rows : fernet.Holds vault.lock.key view.rows vault.secrets
  config : view.config = if vault.known then view.stored else none
  fernetKey : view.fernetKey = if vault.unlocked then some vault.lock.key else none
  store : view.store = view.fernetKey.map fernet.store

/-- The state represents a vault that may not be set up yet. -/
def Represents {Draw : Type} (fernet : Fernet Draw) (view : VaultView) : Option Vault → Prop
  | none =>
      view.stored = none ∧ view.rows = [] ∧ view.config = none ∧ view.store = none ∧
        view.fernetKey = none
  | some vault => Implements fernet view vault

section Views

variable {Draw : Type} {fernet : Fernet Draw} {pbkdf2 : Pbkdf2} {view : VaultView}

/-- The application knows of a vault exactly when the specification says so. -/
theorem Implements.config_isSome {vault : Vault} (h : Implements fernet view vault) :
    view.config.isSome = vault.known := by
  obtain ⟨config, hstored, -⟩ := h.stored
  rw [h.config, hstored]
  cases vault.known <;> rfl

theorem represents_nothing {vault : Option Vault} (h : Represents fernet view vault)
    (reloaded : Bool) :
    Represents fernet view (nextVault pbkdf2 reloaded vault .nothing) := by
  cases vault with
  | none => exact h
  | some vault => exact h

/-- A reload may assign the stored configuration. -/
theorem represents_reload {vault : Option Vault} (h : Represents fernet view vault)
    (reloaded : Bool) :
    Represents fernet (view.reloaded reloaded) (nextVault pbkdf2 reloaded vault .reload) := by
  cases vault with
  | none =>
      obtain ⟨hstored, hrows, hconfig, hstore, hkey⟩ := h
      cases reloaded with
      | false => exact ⟨hstored, hrows, hconfig, hstore, hkey⟩
      | true => exact ⟨hstored, hrows, hstored, hstore, hkey⟩
  | some vault =>
      cases reloaded with
      | false =>
          refine ⟨h.stored, h.rows, ?_, h.fernetKey, h.store⟩
          simp only [Bool.or_false]
          exact Implements.config h
      | true =>
          refine ⟨h.stored, h.rows, ?_, h.fernetKey, h.store⟩
          simp only [Bool.or_true, if_true]
          rfl

/-- The start of a process reads the configuration and leaves the vault locked. -/
theorem represents_restart {vault : Option Vault} (h : Represents fernet view vault)
    (reloaded : Bool) :
    Represents fernet ({ view with config := view.stored }.withStore fernet none)
      (nextVault pbkdf2 reloaded vault .restart) := by
  cases vault with
  | none =>
      obtain ⟨hstored, hrows, -⟩ := h
      exact ⟨hstored, hrows, hstored, rfl, rfl⟩
  | some vault => exact ⟨h.stored, h.rows, rfl, rfl, rfl⟩

/-- A setup is refused where the application knows of a vault, and for an empty password. -/
theorem represents_setup_of_refused {vault : Option Vault} (h : Represents fernet view vault)
    {salt : List UInt8} {password : String}
    (hrefused : view.config.isSome = true ∨ password = "") (reloaded : Bool) :
    Represents fernet view (nextVault pbkdf2 reloaded vault (.setup salt password)) := by
  cases vault with
  | none =>
      have hblank : password = "" := by
        rcases hrefused with hconfig | hblank
        · rw [h.2.2.1] at hconfig
          cases hconfig
        · exact hblank
      have hnext : nextVault pbkdf2 reloaded none (.setup salt password) = none := if_pos hblank
      rw [hnext]
      exact h
  | some vault =>
      rw [Implements.config_isSome h] at hrefused
      have hnext : nextVault pbkdf2 reloaded (some vault) (.setup salt password) = some vault :=
        if_pos hrefused
      rw [hnext]
      exact h

/-- A setup writes the configuration and takes the store with its key. -/
theorem represents_setup {vault : Option Vault} (h : Represents fernet view vault)
    {config : SecretVaultConfig} {salt : List UInt8} {password : String}
    (hconfig : view.config.isSome = false) (hpassword : password ≠ "")
    (hlocks : Locks fernet config (lockFor pbkdf2 salt password)) (reloaded : Bool) :
    Represents fernet
      (({ view with stored := some config }.withStore fernet
        (some (lockFor pbkdf2 salt password).key)).reloaded reloaded)
      (nextVault pbkdf2 reloaded vault (.setup salt password)) := by
  have hrows : view.rows = [] ∧ view.config = none ∧
      nextVault pbkdf2 reloaded vault (.setup salt password) =
        some (.new pbkdf2 salt password reloaded) := by
    cases vault with
    | none => exact ⟨h.2.1, h.2.2.1, if_neg hpassword⟩
    | some vault =>
        -- a vault that the application does not know of has nothing stored
        rw [Implements.config_isSome h] at hconfig
        have hempty : vault.secrets = [] := by
          by_contra hne
          rw [vault.known_of_secrets hne] at hconfig
          cases hconfig
        have hheld := Implements.rows h
        have hnone := Implements.config h
        rw [hempty] at hheld
        rw [hconfig] at hnone
        refine ⟨List.forall₂_nil_right_iff.mp hheld, hnone, if_neg ?_⟩
        rw [hconfig]
        exact not_or.mpr ⟨Bool.false_ne_true, hpassword⟩
  obtain ⟨hrows, hnone, hnext⟩ := hrows
  rw [hnext]
  cases reloaded with
  | false => exact ⟨⟨config, rfl, hlocks⟩, hrows ▸ .nil, hnone, rfl, rfl⟩
  | true => exact ⟨⟨config, rfl, hlocks⟩, hrows ▸ .nil, rfl, rfl, rfl⟩

/-- Without a configuration nothing but a setup has an effect. -/
theorem nextVault_of_unknown {vault : Option Vault} (h : Represents fernet view vault)
    (hconfig : view.config = none) {action : VaultAction}
    (haction : ∀ salt password, action ≠ .setup salt password) (hrestart : action ≠ .restart) :
    nextVault pbkdf2 false vault action = vault := by
  cases vault with
  | none =>
      cases action with
      | setup salt password => exact absurd rfl (haction salt password)
      | _ => rfl
  | some vault =>
      have hunknown : vault.known = false := by
        rw [← Implements.config_isSome h, hconfig]
        rfl
      cases action with
      | setup salt password => exact absurd rfl (haction salt password)
      | restart => exact absurd rfl hrestart
      | nothing => rfl
      | unlock password => exact if_neg fun hknown => by rw [hunknown] at hknown; cases hknown.1
      | lock => exact if_neg fun hknown => by rw [hunknown] at hknown; cases hknown
      | set key text stored =>
          exact dif_neg fun hknown => by rw [hunknown] at hknown; cases hknown.1
      | delete key stored =>
          exact dif_neg fun hknown => by rw [hunknown] at hknown; cases hknown.1
      | reload =>
          unfold nextVault
          simp only [Bool.or_false]

/-- A known configuration belongs to a vault. -/
theorem Represents.exists_vault {vault : Option Vault} (h : Represents fernet view vault)
    {config : SecretVaultConfig} (hconfig : view.config = some config) :
    ∃ known : Vault, vault = some known ∧ known.known = true ∧ view.stored = some config ∧
      Locks fernet config known.lock := by
  cases vault with
  | none =>
      rw [h.2.2.1] at hconfig
      cases hconfig
  | some vault =>
      obtain ⟨stored, hstored, hlocks⟩ := Implements.stored h
      have hknown : vault.known = true := by
        rw [← Implements.config_isSome h, hconfig]
        rfl
      have hsame := Implements.config h
      rw [hknown, if_pos rfl, hconfig, hstored, Option.some.injEq] at hsame
      subst hsame
      exact ⟨vault, rfl, hknown, hstored, hlocks⟩

/-- With a known configuration a reload changes nothing. -/
theorem reloaded_of_config (view : VaultView) {config : SecretVaultConfig}
    (hconfig : view.config = some config) (hstored : view.stored = some config)
    (reloaded : Bool) : view.reloaded reloaded = view := by
  cases reloaded with
  | false => rfl
  | true =>
      obtain ⟨stored, rows, known, store, key⟩ := view
      rw [show known = stored from hconfig.trans hstored.symm]
      rfl

end Views

/-! ## What the calls do to it -/

section Calls

variable {F T Draw : Type} [Runtime F] [FloatArith F] [ClockArith T]
variable {fernet : Fernet Draw} {pbkdf2 : Pbkdf2}

/-- The computation does to the vault what a reload does. -/
def OnlyReloads {α : Type} (x : EStateM AuthError (AdminState F T) α) : Prop :=
  ∀ state, ∃ reloaded, (finalState x state).vaultView = state.vaultView.reloaded reloaded

omit [Runtime F] [FloatArith F] [ClockArith T] in
theorem onlyReloads_keeps_bind {α β : Type} {x : EStateM AuthError (AdminState F T) α}
    {f : α → EStateM AuthError (AdminState F T) β} (hx : Keeps AdminState.vaultView x)
    (hf : ∀ a, OnlyReloads (f a)) : OnlyReloads (x >>= f) := by
  intro state
  have hfirst := hx state
  cases h : x.run state with
  | ok a between =>
      rw [finalState_of_ok h] at hfirst
      rw [finalState_bind_of_ok h, ← hfirst]
      exact hf a between
  | error exc between =>
      rw [finalState_of_error h] at hfirst
      rw [finalState_of_error (run_bind_of_error h f)]
      exact ⟨false, hfirst⟩

omit [Runtime F] [FloatArith F] [ClockArith T] in
theorem onlyReloads_bind_keeps {α β : Type} {x : EStateM AuthError (AdminState F T) α}
    {f : α → EStateM AuthError (AdminState F T) β} (hx : OnlyReloads x)
    (hf : ∀ a, Keeps AdminState.vaultView (f a)) : OnlyReloads (x >>= f) := by
  intro state
  obtain ⟨reloaded, hfirst⟩ := hx state
  cases h : x.run state with
  | ok a between =>
      rw [finalState_of_ok h] at hfirst
      rw [finalState_bind_of_ok h, hf a between]
      exact ⟨reloaded, hfirst⟩
  | error exc between =>
      rw [finalState_of_error h] at hfirst
      rw [finalState_of_error (run_bind_of_error h f)]
      exact ⟨reloaded, hfirst⟩

omit [ClockArith T] in
/-- A reload may assign the stored configuration, and does nothing else to the vault. -/
theorem onlyReloads_reload (env : Surroundings F) :
    OnlyReloads (reload env : EStateM AuthError (AdminState F T) (Settings F)) := by
  intro state
  unfold reload
  rw [finalState_onApp]
  cases hprepare : prepareReload env state.app with
  | error exc =>
      rw [finalState_of_error (run_reloadSettings_of_error hprepare)]
      exact ⟨false, rfl⟩
  | ok new =>
      by_cases hbuild : Buildable env.host new.settings
      · have hview := view_reloadSettings_of_buildable
          (fun app => ({ state with app := app } : AdminState F T).vaultView) hprepare hbuild
          (keeps_followUp (fun _ _ => rfl) (fun _ _ => rfl) (fun _ _ => rfl) fun _ _ => rfl)
        obtain ⟨hconfig, hstore, -⟩ := vault_prepareReload hprepare
        rw [hview]
        refine ⟨true, ?_⟩
        unfold AdminState.vaultView assigned App.assign
        dsimp only
        rw [hconfig, hstore]
        rfl
      · obtain ⟨exc, hrun⟩ := run_reloadSettings_of_unbuildable hprepare hbuild
        rw [finalState_of_error hrun]
        exact ⟨false, rfl⟩

omit [FloatArith F] [ClockArith T] in
theorem keeps_answerVault (env : Outside F Draw) (status : String) :
    Keeps AdminState.vaultView
      (answerVault env status : EStateM AuthError (AdminState F T) VaultResponse) :=
  keeps_bind (keeps_call _ _) fun _ _ => rfl

omit [FloatArith F] [ClockArith T] in
theorem keeps_answerSecret (env : Outside F Draw) (status key : String) :
    Keeps AdminState.vaultView
      (answerSecret env status key : EStateM AuthError (AdminState F T) SecretResponse) :=
  keeps_bind (keeps_call _ _) fun _ _ => rfl

omit [Runtime F] [FloatArith F] [ClockArith T] in
theorem keeps_onVaultThrottle {α : Type} (x : EStateM AuthError (AuthState T) α) :
    Keeps AdminState.vaultView (onVaultThrottle x : EStateM AuthError (AdminState F T) α) := by
  intro state
  rw [finalState_onVaultThrottle]
  rfl

omit [ClockArith T] in
/-- The end of a call on the vault: the store is taken, and a reload follows. -/
theorem exists_reloaded_taking (fernet : Fernet Draw) (env : Outside F Draw)
    (key : Option (List UInt8)) (status : String) (state : AdminState F T) :
    ∃ reloaded, (finalState (do
        modify fun state => state.withStore fernet key
        let _ ← reload env.toSurroundings
        answerVault env status : EStateM AuthError (AdminState F T) VaultResponse)
      state).vaultView = (state.vaultView.withStore fernet key).reloaded reloaded :=
  (onlyReloads_bind_keeps (onlyReloads_reload env.toSurroundings) fun _ =>
    keeps_answerVault env status) (state.withStore fernet key)

omit [FloatArith F] [ClockArith T] in
/-- A password is parsed when it is not empty. -/
theorem run_parseSecretPassword (payload : List (String × PyValue F)) (state : AdminState F T) :
    (call (parseSecretPassword payload) : EStateM AuthError (AdminState F T) String).run state =
      if passwordOf payload = "" then
        .error (.httpException 400 "vault password cannot be empty" none) state
      else .ok (passwordOf payload) state := by
  unfold parseSecretPassword
  by_cases hblank : passwordOf payload = ""
  · rw [if_pos hblank, if_pos hblank]
    rfl
  · rw [if_neg hblank, if_neg hblank]
    rfl

omit [ClockArith T] in
/-- A setup that goes through writes a configuration with a new lock. -/
theorem represents_adminSetupSecretVault {env : Outside F Draw} (hexecutes : env.executes = true)
    (payload : List (String × PyValue F)) {state : AdminState F T} {vault : Option Vault}
    (h : Represents fernet state.vaultView vault) :
    ∃ vault', VaultStep pbkdf2 vault (.setup env.salt (passwordOf payload)) vault' ∧
      Represents fernet
        (finalState (adminSetupSecretVault pbkdf2 fernet env payload) state).vaultView vault' := by
  have hget : (get : EStateM AuthError (AdminState F T) (AdminState F T)).run state =
      .ok state state := rfl
  have hparse := run_parseSecretPassword payload state
  unfold adminSetupSecretVault
  rw [finalState_bind_of_ok hget]
  by_cases hconfig : state.app.secretVaultConfig.isSome = true
  · rw [if_pos hconfig]
    exact ⟨_, ⟨false, rfl⟩, represents_setup_of_refused h (.inl hconfig) false⟩
  rw [if_neg hconfig]
  by_cases hblank : passwordOf payload = ""
  · rw [if_pos hblank] at hparse
    rw [finalState_of_error (run_bind_of_error hparse _)]
    exact ⟨_, ⟨false, rfl⟩, represents_setup_of_refused h (.inr hblank) false⟩
  rw [if_neg hblank] at hparse
  have hstripped : stripped (passwordOf payload) ≠ "" := by
    unfold passwordOf
    rw [stripped_stripped]
    exact hblank
  obtain ⟨config, hcreate, hlocks⟩ :=
    locks_createVaultConfig fernet pbkdf2 hstripped env.salt env.draw
  rw [finalState_bind_of_ok hparse, hcreate]
  obtain ⟨reloaded, hview⟩ := exists_reloaded_taking fernet env
    (some (lockFor pbkdf2 env.salt (passwordOf payload)).key) "configured"
    (state.afterStatement env.executes fun db => { db with secretVaultConfig := some config })
  have hstored : (state.afterStatement env.executes fun db =>
      { db with secretVaultConfig := some config }).vaultView =
        { state.vaultView with stored := some config } := by
    unfold AdminState.vaultView AdminState.afterStatement
    dsimp only
    rw [hexecutes]
    rfl
  rw [hstored] at hview
  have hrest := represents_setup h (Bool.not_eq_true _ ▸ hconfig) hblank hlocks reloaded
  rw [← hview] at hrest
  exact ⟨_, ⟨reloaded, rfl⟩, hrest⟩

/-- What an unlocking asks of the vault: a client that has to wait is not asked for its
password. -/
def unlockAction (attempt : AuthRequest T) (payload : List (String × PyValue F))
    (state : AdminState F T) : VaultAction :=
  match (onVaultThrottle (checkAuthThrottle attempt)).run state with
  | .error _ _ => .nothing
  | .ok _ _ => .unlock (passwordOf payload)

omit [FloatArith F] in
theorem unlockAction_eq (attempt : AuthRequest T) (payload : List (String × PyValue F))
    (state : AdminState F T) :
    unlockAction attempt payload state = .nothing ∨
      unlockAction attempt payload state = .unlock (passwordOf payload) := by
  unfold unlockAction
  cases (onVaultThrottle (checkAuthThrottle attempt)).run state with
  | error exc after => exact .inl rfl
  | ok a after => exact .inr rfl

omit [Runtime F] [FloatArith F] [ClockArith T] in
/-- An unlocked vault takes the store with its key. -/
theorem represents_withStore {view : VaultView} {vault : Vault}
    (h : Implements fernet view vault) (unlocked : Bool) :
    Implements fernet
      (view.withStore fernet (if unlocked then some vault.lock.key else none))
      { vault with unlocked := unlocked } :=
  ⟨h.stored, h.rows, h.config, rfl, rfl⟩

/-- An unlocking takes the store with the key of the lock when the password opens it. -/
theorem represents_adminUnlockSecretVault (env : Outside F Draw) (attempt : AuthRequest T)
    (payload : List (String × PyValue F)) {state : AdminState F T} {vault : Option Vault}
    (h : Represents fernet state.vaultView vault) :
    ∃ vault', VaultStep pbkdf2 vault (unlockAction attempt payload state) vault' ∧
      Represents fernet
        (finalState (adminUnlockSecretVault pbkdf2 fernet env attempt payload)
          state).vaultView vault' := by
  have hget : (get : EStateM AuthError (AdminState F T) (AdminState F T)).run state =
      .ok state state := rfl
  unfold adminUnlockSecretVault
  rw [finalState_bind_of_ok hget]
  cases hconfig : state.app.secretVaultConfig with
  | none =>
      refine ⟨vault, ⟨false, (nextVault_of_unknown h hconfig ?_ ?_).symm⟩, h⟩
      · intro salt password
        rcases unlockAction_eq attempt payload state with haction | haction <;> simp [haction]
      · rcases unlockAction_eq attempt payload state with haction | haction <;> simp [haction]
  | some config =>
      obtain ⟨known, rfl, hknown, hstored, hlocks⟩ := h.exists_vault hconfig
      dsimp only
      unfold unlockAction
      rcases run_cases_of_keeps (keeps_onVaultThrottle (checkAuthThrottle attempt)) state with
        ⟨_, passed, hrun, hpassed⟩ | ⟨exc, refused, hrun, hrefused⟩
      swap
      · rw [hrun, finalState_of_error (run_bind_of_error hrun _), hrefused]
        exact ⟨_, ⟨false, rfl⟩, h⟩
      rw [hrun, finalState_bind_of_ok hrun]
      dsimp only
      rw [← hpassed] at h
      have hparse := run_parseSecretPassword payload passed
      -- a password that is refused leaves the vault as it is
      have hrefusing : ¬ known.lock.Opens pbkdf2 (passwordOf payload) →
          ∀ view, view = passed.vaultView → ∃ vault',
            VaultStep pbkdf2 (some known) (.unlock (passwordOf payload)) vault' ∧
              Represents fernet view vault' := by
        rintro hnot view rfl
        exact ⟨some known, ⟨false, (if_neg fun hboth => hnot hboth.2).symm⟩, h⟩
      by_cases hblank : passwordOf payload = ""
      · rw [if_pos hblank] at hparse
        rw [finalState_of_error (run_bind_of_error hparse _)]
        refine hrefusing (fun hopens => hopens.1 ?_) _ rfl
        rw [hblank]
        decide
      rw [if_neg hblank] at hparse
      rw [finalState_bind_of_ok hparse]
      by_cases hopens : known.lock.Opens pbkdf2 (passwordOf payload)
      · have hreset : (onVaultThrottle (resetThrottle attempt)).run passed = .ok ()
            { passed with
              vaultThrottle := finalState (resetThrottle attempt) passed.vaultThrottle } := rfl
        rw [unlockVault_of_opens hlocks hopens]
        dsimp only
        rw [finalState_bind_of_ok hreset]
        obtain ⟨reloaded, hview⟩ := exists_reloaded_taking fernet env (some known.lock.key)
          "unlocked" ({ passed with
            vaultThrottle := finalState (resetThrottle attempt) passed.vaultThrottle } :
              AdminState F T)
        have hsame : (passed.vaultView.withStore fernet (some known.lock.key)).reloaded reloaded =
            passed.vaultView.withStore fernet (some known.lock.key) :=
          reloaded_of_config (passed.vaultView.withStore fernet (some known.lock.key))
            (by rw [hpassed]; exact hconfig)
            (by rw [hpassed]; exact hstored) reloaded
        refine ⟨some { known with unlocked := true },
          ⟨false, (if_pos ⟨hknown, hopens⟩).symm⟩, ?_⟩
        have himplements := represents_withStore h true
        rw [if_pos rfl, ← hsame] at himplements
        exact hview ▸ himplements
      · obtain ⟨detail, hrefused⟩ :=
          unlockVault_of_not_opens hlocks hopens
        rw [hrefused]
        exact hrefusing hopens _ (keeps_bind (keeps_onVaultThrottle _) (fun _ _ => rfl) passed)

omit [ClockArith T] in
/-- A locking takes no store. -/
theorem represents_adminLockSecretVault (env : Outside F Draw) {state : AdminState F T}
    {vault : Option Vault} (h : Represents fernet state.vaultView vault) :
    ∃ vault', VaultStep pbkdf2 vault .lock vault' ∧
      Represents fernet (finalState (adminLockSecretVault fernet env) state).vaultView vault' := by
  have hget : (get : EStateM AuthError (AdminState F T) (AdminState F T)).run state =
      .ok state state := rfl
  unfold adminLockSecretVault
  rw [finalState_bind_of_ok hget]
  cases hconfig : state.app.secretVaultConfig with
  | none => exact ⟨vault, ⟨false, (nextVault_of_unknown h hconfig (fun _ _ h => by cases h)
      fun h => by cases h).symm⟩, h⟩
  | some config =>
      obtain ⟨known, rfl, hknown, hstored, -⟩ := h.exists_vault hconfig
      obtain ⟨reloaded, hview⟩ := exists_reloaded_taking fernet env none "locked" state
      have hsame : (state.vaultView.withStore fernet none).reloaded reloaded =
          state.vaultView.withStore fernet none :=
        reloaded_of_config (state.vaultView.withStore fernet none) hconfig hstored reloaded
      have himplements := represents_withStore h false
      rw [if_neg Bool.false_ne_true, ← hsame] at himplements
      exact ⟨_, ⟨false, (if_pos hknown).symm⟩, hview ▸ himplements⟩

omit [Runtime F] [FloatArith F] [ClockArith T] in
/-- A statement on the secrets is executed or lost, and a reload follows. -/
theorem represents_statement {state state' : AdminState F T} {known : Vault}
    {config : SecretVaultConfig} (h : Implements fernet state.vaultView known)
    (hconfig : state.vaultView.config = some config)
    (hstored : state.vaultView.stored = some config) (hknown : known.known = true)
    {rows secrets : List (String × String)} (hrows : fernet.Holds known.lock.key rows secrets)
    {executes reloaded : Bool}
    (hview : state'.vaultView = (state.vaultView.afterStatement executes rows).reloaded reloaded) :
    Represents fernet state'.vaultView
      (some (if executes then known.storing hknown secrets else known)) := by
  rw [hview, reloaded_of_config (state.vaultView.afterStatement executes rows) hconfig hstored]
  cases executes with
  | false => exact h
  | true => exact ⟨h.stored, hrows, h.config, h.fernetKey, h.store⟩

/-- Storing a secret in an unlocked vault. -/
theorem nextVault_set {known : Vault} (hknown : known.known = true)
    (hopen : known.unlocked = true) (reloaded : Bool) (key text : String) (stored : Bool) :
    nextVault pbkdf2 reloaded (some known) (.set key text stored) =
      some (if stored then known.storing hknown (dictSet known.secrets key text) else known) := by
  cases stored with
  | false => exact dif_neg fun hall => Bool.false_ne_true hall.2.2
  | true => exact dif_pos ⟨hknown, hopen, rfl⟩

/-- Deleting a secret of an unlocked vault. -/
theorem nextVault_delete {known : Vault} (hknown : known.known = true)
    (hopen : known.unlocked = true) (reloaded : Bool) (key : String) (stored : Bool) :
    nextVault pbkdf2 reloaded (some known) (.delete key stored) =
      some (if stored then known.storing hknown (deleteKey Prod.fst key known.secrets)
        else known) := by
  cases stored with
  | false => exact dif_neg fun hall => Bool.false_ne_true hall.2.2
  | true => exact dif_pos ⟨hknown, hopen, rfl⟩

/-- What the setting of a secret asks of the vault. -/
def setSecretAction (executes : Bool) (secretKey : String)
    (payload : List (String × PyValue F)) : VaultAction :=
  if isManagedSecretKey (stripped secretKey) = false then .nothing
  else
    match dictGet payload "value" with
    | none => .nothing
    | some raw =>
        if stripped raw.toStr = "" then .nothing
        else .set (stripped secretKey) (stripped raw.toStr) executes

/-- A locked or unknown vault refuses to store and to delete. -/
theorem nextVault_of_locked {view : VaultView} {known : Vault}
    (h : Implements fernet view known) (hlocked : view.store = none) :
    known.unlocked = false := by
  cases hunlocked : known.unlocked with
  | false => rfl
  | true =>
      have hstore := h.store
      rw [h.fernetKey, hunlocked, hlocked] at hstore
      cases hstore

omit [ClockArith T] in
/-- A call that sets a secret either does nothing, or stores and reloads. -/
theorem finalState_adminSetSecret (env : SecretSurroundings F) (secretKey : String)
    (payload : List (String × PyValue F)) (app : App F) :
    (finalState (adminSetSecret env secretKey payload) app = app ∧
        (setSecretAction env.executes secretKey payload = .nothing ∨
          ∃ exc, requireSecretManagementUnlocked app = .error exc)) ∨
      ∃ text store, setSecretAction env.executes secretKey payload =
          .set (stripped secretKey) text env.executes ∧
        requireSecretManagementUnlocked app = .ok store ∧
        finalState (adminSetSecret env secretKey payload) app =
          finalState (reloadSettings env.toSurroundings)
            (app.withSecret env (stripped secretKey) text) := by
  have hget : (get : EStateM AdminError (App F) (App F)).run app = .ok app app := rfl
  unfold setSecretAction adminSetSecret
  dsimp only
  by_cases hkey : isManagedSecretKey (stripped secretKey) = false
  · rw [if_pos hkey, if_pos hkey]
    exact .inl ⟨rfl, .inl rfl⟩
  rw [if_neg hkey, if_neg hkey]
  cases dictGet payload "value" with
  | none => exact .inl ⟨rfl, .inl rfl⟩
  | some raw =>
      dsimp only
      by_cases hblank : stripped raw.toStr = ""
      · rw [if_pos hblank, if_pos hblank]
        exact .inl ⟨rfl, .inl rfl⟩
      rw [if_neg hblank, if_neg hblank, finalState_bind_of_ok hget]
      cases hunlocked : requireSecretManagementUnlocked app with
      | error exc => exact .inl ⟨rfl, .inr ⟨exc, rfl⟩⟩
      | ok store =>
          refine .inr ⟨_, store, rfl, rfl, ?_⟩
          have hset : (modify fun app : App F =>
              app.withSecret env (stripped secretKey) (stripped raw.toStr) :
              EStateM AdminError (App F) PUnit).run app =
                .ok () (app.withSecret env (stripped secretKey) (stripped raw.toStr)) := rfl
          rw [finalState_bind_of_ok (run_call_ok store app), finalState_bind_of_ok hset]
          refine (finalState_bind_reading _ (fun _ => ?_) _).trans (finalState_adaptExcept _ _ _)
          exact keeps_bind (keeps_call _ _) fun _ _ => rfl

omit [Runtime F] [FloatArith F] [ClockArith T] in
/-- Where the vault is unlocked the application knows of it and has its key. -/
theorem exists_unlocked {state : AdminState F T} {vault : Option Vault}
    (h : Represents fernet state.vaultView vault) {store : ManagedSecretStore}
    (hunlocked : requireSecretManagementUnlocked state.app = .ok store) :
    ∃ known config, vault = some known ∧ known.known = true ∧ known.unlocked = true ∧
      state.vaultView.config = some config ∧ state.vaultView.stored = some config ∧
      state.fernetKey = some known.lock.key := by
  unfold requireSecretManagementUnlocked at hunlocked
  cases hconfig : state.app.secretVaultConfig with
  | none =>
      rw [hconfig] at hunlocked
      cases hunlocked
  | some config =>
      rw [hconfig] at hunlocked
      obtain ⟨known, rfl, hknown, hstored, -⟩ := h.exists_vault hconfig
      cases hstore : state.app.secretStore with
      | none =>
          rw [hstore] at hunlocked
          cases hunlocked
      | some other =>
          have hkey := Implements.fernetKey h
          cases hlocked : known.unlocked with
          | true =>
              rw [hlocked, if_pos rfl] at hkey
              exact ⟨known, config, rfl, hknown, hlocked, hconfig, hstored, hkey⟩
          | false =>
              have hnone := Implements.store h
              rw [hkey, hlocked] at hnone
              change state.app.secretStore = none at hnone
              rw [hstore] at hnone
              cases hnone

omit [Runtime F] [FloatArith F] [ClockArith T] in
/-- Where it is not, storing and deleting have no effect. -/
theorem nextVault_of_refused {state : AdminState F T} {vault : Option Vault}
    (h : Represents fernet state.vaultView vault) {exc : AdminError}
    (hrefused : requireSecretManagementUnlocked state.app = .error exc) {action : VaultAction}
    (haction : (∃ key text stored, action = .set key text stored) ∨
      ∃ key stored, action = .delete key stored) :
    nextVault pbkdf2 false vault action = vault := by
  cases hconfig : state.app.secretVaultConfig with
  | none =>
      refine nextVault_of_unknown h hconfig (fun _ _ hsetup => ?_) fun hrestart => ?_
      · rcases haction with ⟨key, text, stored, rfl⟩ | ⟨key, stored, rfl⟩ <;> cases hsetup
      · rcases haction with ⟨key, text, stored, rfl⟩ | ⟨key, stored, rfl⟩ <;> cases hrestart
  | some config =>
      obtain ⟨known, rfl, -⟩ := h.exists_vault hconfig
      have hlocked : known.unlocked = false := by
        refine nextVault_of_locked h ?_
        unfold requireSecretManagementUnlocked at hrefused
        rw [hconfig] at hrefused
        change state.app.secretStore = none
        cases hstore : state.app.secretStore with
        | none => rfl
        | some store =>
            rw [hstore] at hrefused
            cases hrefused
      rcases haction with ⟨key, text, stored, rfl⟩ | ⟨key, stored, rfl⟩
      · exact dif_neg fun hboth => by rw [hlocked] at hboth; cases hboth.2.1
      · exact dif_neg fun hboth => by rw [hlocked] at hboth; cases hboth.2.1

omit [ClockArith T] in
/-- A call that sets a secret stores it under the key of the vault. -/
theorem represents_adminSetSecret (env : Outside F Draw) (secretKey : String)
    (payload : List (String × PyValue F)) {state : AdminState F T} {vault : Option Vault}
    (h : Represents fernet state.vaultView vault) :
    ∃ vault', VaultStep pbkdf2 vault (setSecretAction env.executes secretKey payload) vault' ∧
      Represents fernet ({ state with
        app := finalState (adminSetSecret (env.secrets fernet (state.fernetKey.getD []))
          secretKey payload) state.app } : AdminState F T).vaultView vault' := by
  have haction : setSecretAction (env.secrets fernet (state.fernetKey.getD [])).executes secretKey
      payload = setSecretAction env.executes secretKey payload := rfl
  rcases finalState_adminSetSecret (env.secrets fernet (state.fernetKey.getD [])) secretKey payload
    state.app with ⟨hfinal, hnothing | ⟨exc, hrefused⟩⟩ | ⟨text, store, hset, hunlocked, hfinal⟩
  · rw [hfinal, ← haction, hnothing]
    exact ⟨_, ⟨false, rfl⟩, represents_nothing h false⟩
  · rw [hfinal]
    refine ⟨vault, ⟨false, ?_⟩, h⟩
    unfold setSecretAction
    by_cases hkey : isManagedSecretKey (stripped secretKey) = false
    · rw [if_pos hkey]
      cases vault <;> rfl
    rw [if_neg hkey]
    cases dictGet payload "value" with
    | none => cases vault <;> rfl
    | some raw =>
        dsimp only
        by_cases hblank : stripped raw.toStr = ""
        · rw [if_pos hblank]
          cases vault <;> rfl
        · rw [if_neg hblank]
          exact (nextVault_of_refused h hrefused (.inl ⟨_, _, _, rfl⟩)).symm
  · obtain ⟨known, config, rfl, hknown, hopen, hconfig, hstored, hkey⟩ :=
      exists_unlocked h hunlocked
    let withSecret : AdminState F T := { state with
      app := state.app.withSecret (env.secrets fernet (state.fernetKey.getD []))
        (stripped secretKey) text }
    obtain ⟨reloaded, hview⟩ := onlyReloads_reload env.toSurroundings withSecret
    unfold reload at hview
    rw [finalState_onApp] at hview
    have hrows : withSecret.vaultView = state.vaultView.afterStatement env.executes
        (dictSet state.vaultView.rows (stripped secretKey)
          (fernet.encrypt known.lock.key env.draw text)) := by
      unfold withSecret AdminState.vaultView App.withSecret
      rw [hkey]
      rfl
    rw [hrows] at hview
    rw [hfinal, ← haction, hset]
    refine ⟨_, ⟨reloaded, rfl⟩, ?_⟩
    rw [nextVault_set hknown hopen]
    exact represents_statement h hconfig hstored hknown
      ((Implements.rows h).set (stripped secretKey) text env.draw) hview

/-- What the deletion of a secret asks of the vault. -/
def deleteSecretAction (executes : Bool) (secretKey : String) : VaultAction :=
  if isManagedSecretKey (stripped secretKey) = false then .nothing
  else .delete (stripped secretKey) executes

omit [ClockArith T] in
/-- A call that deletes a secret. -/
theorem represents_adminDeleteSecret (env : Outside F Draw) (secretKey : String)
    {state : AdminState F T} {vault : Option Vault}
    (h : Represents fernet state.vaultView vault) :
    ∃ vault', VaultStep pbkdf2 vault (deleteSecretAction env.executes secretKey) vault' ∧
      Represents fernet (finalState (adminDeleteSecret env secretKey) state).vaultView vault' := by
  have hget : (get : EStateM AuthError (AdminState F T) (AdminState F T)).run state =
      .ok state state := rfl
  unfold deleteSecretAction adminDeleteSecret
  dsimp only
  by_cases hkey : isManagedSecretKey (stripped secretKey) = false
  · rw [if_pos hkey, if_pos hkey]
    exact ⟨_, ⟨false, rfl⟩, represents_nothing h false⟩
  rw [if_neg hkey, if_neg hkey, finalState_bind_of_ok hget]
  cases hunlocked : requireSecretManagementUnlocked state.app with
  | error exc =>
      exact ⟨vault, ⟨false, (nextVault_of_refused h hunlocked (.inr ⟨_, _, rfl⟩)).symm⟩, h⟩
  | ok store =>
      obtain ⟨known, config, rfl, hknown, hopen, hconfig, hstored, -⟩ :=
        exists_unlocked h hunlocked
      let deleted : AdminState F T := state.afterStatement env.executes fun db =>
        { db with managedSecrets := deleteKey Prod.fst (stripped secretKey) db.managedSecrets }
      obtain ⟨reloaded, hview⟩ := onlyReloads_bind_keeps (onlyReloads_reload env.toSurroundings)
        (fun _ => keeps_answerSecret env "deleted" (stripped secretKey)) deleted
      have hrows : deleted.vaultView = state.vaultView.afterStatement env.executes
          (deleteKey Prod.fst (stripped secretKey) state.vaultView.rows) := by
        unfold deleted AdminState.vaultView AdminState.afterStatement
        dsimp only
        cases env.executes <;> rfl
      rw [hrows] at hview
      refine ⟨_, ⟨reloaded, rfl⟩, ?_⟩
      rw [nextVault_delete hknown hopen]
      exact represents_statement h hconfig hstored hknown
        ((Implements.rows h).delete (stripped secretKey)) hview

omit [ClockArith T] in
/-- The calls on the configuration write overrides and reload, or do nothing. -/
theorem onlyReloads_adminCall (request : AdminCall F) :
    OnlyReloads
      (onApp adminErrorToAuth request.handle : EStateM AuthError (AdminState F T) Unit) := by
  have hreload : ∀ (env : AdminSurroundings F) statement (state : AdminState F T),
      let after := finalState (reloadSettings env.toSurroundings)
        (state.app.withOverrides env statement)
      ∃ reloaded, ({ state with app := after } : AdminState F T).vaultView =
        state.vaultView.reloaded reloaded := by
    intro env statement state
    obtain ⟨reloaded, hview⟩ := onlyReloads_reload env.toSurroundings
      { state with app := state.app.withOverrides env statement }
    unfold reload at hview
    rw [finalState_onApp] at hview
    exact ⟨reloaded, hview⟩
  intro state
  rw [finalState_onApp]
  cases request with
  | delete env key =>
      unfold AdminCall.handle AdminCall.env adminDeleteConfig
      dsimp only
      rw [(storeAndReload_spec env _ _ _).1]
      exact hreload env _ state
  | put env key payload =>
      unfold AdminCall.handle AdminCall.env adminSetConfig
      dsimp only
      cases dictGet payload "value" with
      | none => exact ⟨false, rfl⟩
      | some value =>
          dsimp only
          by_cases hkey : isOverridable key = false
          · rw [if_pos hkey]
            exact ⟨false, rfl⟩
          · rw [if_neg hkey, (storeAndReload_spec env _ _ _).1]
            exact hreload env _ state

omit [ClockArith T] in
/-- So do the calls on the gateway key. -/
theorem onlyReloads_storeGatewayAuth (env : Outside F Draw) (mode : String)
    (config : Option GatewayAuthConfig) :
    OnlyReloads (storeGatewayAuth env mode config :
      EStateM AuthError (AdminState F T) GatewayAuth) := by
  refine onlyReloads_keeps_bind (keeps_modify fun state => ?_) fun _ =>
    onlyReloads_bind_keeps (onlyReloads_reload _) fun _ _ => rfl
  unfold AdminState.vaultView AdminState.afterStatement
  dsimp only
  cases env.executes <;> rfl

omit [ClockArith T] in
theorem onlyReloads_adminSetGatewayAuth (env : Outside F Draw)
    (payload : List (String × PyValue F)) :
    OnlyReloads (adminSetGatewayAuth pbkdf2 env payload :
      EStateM AuthError (AdminState F T) GatewayAuth) := by
  unfold adminSetGatewayAuth
  dsimp only
  by_cases hblank : stripped ((dictGet payload "key").getD (.str "")).toStr = ""
  · rw [if_pos hblank]
    exact fun _ => ⟨false, rfl⟩
  · rw [if_neg hblank]
    exact onlyReloads_keeps_bind (keeps_call _ _) fun _ => onlyReloads_storeGatewayAuth _ _ _

/-! ## One event -/

/-- What a call asks of the vault, once the gate has let it through. -/
def AdminAction.vaultAction (state : AdminState F T) : AdminAction F T Draw → VaultAction
  | .read => .nothing
  | .setConfig _ _ _ => .reload
  | .deleteConfig _ _ => .reload
  | .setGatewayAuth _ _ => .reload
  | .disableGatewayAuth _ => .reload
  | .inheritGatewayAuth _ => .reload
  | .setupVault env payload => .setup env.salt (passwordOf payload)
  | .unlockVault _ attempt payload => unlockAction attempt payload state
  | .lockVault _ => .lock
  | .setSecret env secretKey payload => setSecretAction env.executes secretKey payload
  | .deleteSecret env secretKey => deleteSecretAction env.executes secretKey

/-- What an event asks of the vault. -/
def vaultAction (pbkdf2 : Pbkdf2) (state : AdminState F T) : AdminEvent F T Draw → VaultAction
  | .request auth action =>
      match (checkGate pbkdf2 auth).run state with
      | .error _ _ => .nothing
      | .ok _ passed => action.vaultAction passed
  | .refresh _ => .reload
  | .restart _ => .restart

/-- The writer executes the statement when the event sets a vault up. -/
def AdminEvent.SetupExecutes : AdminEvent F T Draw → Prop
  | .request _ (.setupVault env _) => env.executes = true
  | _ => True

omit [Runtime F] [FloatArith F] [ClockArith T] in
/-- A computation that only reloads. -/
theorem represents_of_onlyReloads {α : Type} {x : EStateM AuthError (AdminState F T) α}
    (hx : OnlyReloads x) {state : AdminState F T} {vault : Option Vault}
    (h : Represents fernet state.vaultView vault) :
    ∃ vault', VaultStep pbkdf2 vault .reload vault' ∧
      Represents fernet (finalState x state).vaultView vault' := by
  obtain ⟨reloaded, hview⟩ := hx state
  rw [hview]
  exact ⟨_, ⟨reloaded, rfl⟩, represents_reload h reloaded⟩

/-- A call behind the gate does to the state what it asks of the vault. -/
theorem represents_body (action : AdminAction F T Draw) {state : AdminState F T}
    {vault : Option Vault} (h : Represents fernet state.vaultView vault)
    (hexecutes : ∀ env payload, action = .setupVault env payload → env.executes = true) :
    ∃ vault', VaultStep pbkdf2 vault (action.vaultAction state) vault' ∧
      Represents fernet (finalState (action.body pbkdf2 fernet) state).vaultView vault' := by
  cases action with
  | read => exact ⟨_, ⟨false, rfl⟩, represents_nothing h false⟩
  | setConfig env key payload => exact represents_of_onlyReloads (onlyReloads_adminCall _) h
  | deleteConfig env key => exact represents_of_onlyReloads (onlyReloads_adminCall _) h
  | setGatewayAuth env payload =>
      exact represents_of_onlyReloads
        (onlyReloads_bind_keeps (onlyReloads_adminSetGatewayAuth env payload) fun _ _ => rfl) h
  | disableGatewayAuth env =>
      exact represents_of_onlyReloads
        (onlyReloads_bind_keeps (onlyReloads_storeGatewayAuth env _ _) fun _ _ => rfl) h
  | inheritGatewayAuth env =>
      exact represents_of_onlyReloads
        (onlyReloads_bind_keeps (onlyReloads_storeGatewayAuth env _ _) fun _ _ => rfl) h
  | setupVault env payload =>
      unfold AdminAction.body
      rw [finalState_bind_pure]
      exact represents_adminSetupSecretVault (hexecutes env payload rfl) payload h
  | unlockVault env attempt payload =>
      unfold AdminAction.body
      rw [finalState_bind_pure]
      exact represents_adminUnlockSecretVault env attempt payload h
  | lockVault env =>
      unfold AdminAction.body
      rw [finalState_bind_pure]
      exact represents_adminLockSecretVault env h
  | setSecret env secretKey payload =>
      have hget : (get : EStateM AuthError (AdminState F T) (AdminState F T)).run state =
          .ok state state := rfl
      unfold AdminAction.body
      dsimp only
      rw [finalState_bind_of_ok hget, finalState_bind_pure, finalState_onApp]
      exact represents_adminSetSecret env secretKey payload h
  | deleteSecret env secretKey =>
      unfold AdminAction.body
      rw [finalState_bind_pure]
      exact represents_adminDeleteSecret env secretKey h

/-- Every event does to the rows, the configuration and the store what it asks of the vault. -/
theorem vault_refines (pbkdf2 : Pbkdf2) (fernet : Fernet Draw) :
    Matched (step pbkdf2 fernet) (vaultAction pbkdf2) (VaultStep pbkdf2)
      (AdminEvent.SetupExecutes (F := F) (T := T))
      fun state vault => Represents fernet state.vaultView vault := by
  intro state event state' vault hexecutes hstep h
  cases event with
  | request auth action =>
      cases hstep
      unfold vaultAction handle
      dsimp only
      rcases run_checkGate pbkdf2 auth state with
        ⟨-, throttle, hrun⟩ | ⟨-, exc, throttle, hrun⟩
      · rw [hrun, finalState_bind_of_ok hrun]
        refine represents_body action h fun env payload haction => ?_
        rw [haction] at hexecutes
        exact hexecutes
      · rw [hrun, finalState_of_error (run_bind_of_error hrun _)]
        exact ⟨_, ⟨false, rfl⟩, represents_nothing h false⟩
  | refresh env =>
      cases hstep
      exact represents_of_onlyReloads (onlyReloads_reload env) h
  | restart env =>
      unfold step at hstep
      dsimp only at hstep
      cases hstart : lifespan env state.app.db with
      | error exc =>
          rw [hstart] at hstep
          cases hstep
      | ok app =>
          rw [hstart] at hstep
          cases hstep
          obtain ⟨settings, hdb, hconfig, hstore, -⟩ := lifespan_spec hstart
          simp only [storedConfiguration, Prod.mk.injEq] at hdb
          obtain ⟨-, hstored, -, hrows⟩ := hdb
          refine ⟨_, ⟨false, rfl⟩, ?_⟩
          unfold AdminState.vaultView
          dsimp only
          rw [hstored, hrows, hconfig, hstore]
          exact represents_restart h false

/-! ## Whole runs -/

/-- Every run from an empty database on does to the rows, the configuration and the store what
its events ask of the vault. -/
theorem vault_run {start state : AdminState F T} {events : List (AdminEvent F T Draw)}
    (hstart : Represents fernet start.vaultView none)
    (hsetup : ∀ event ∈ events, event.SetupExecutes)
    (hrun : run (step pbkdf2 fernet) start events = some state) :
    ∃ vault, SpecRun (VaultStep pbkdf2) none
        (labelsAlong (step pbkdf2 fernet) (vaultAction pbkdf2) start events) vault ∧
      Represents fernet state.vaultView vault :=
  exists_specRun_of_run (vault_refines pbkdf2 fernet) hsetup hrun hstart

/-- Under the key of the vault all its secrets are loaded. -/
theorem loadManagedSecrets_of_implements {view : VaultView} {vault : Vault}
    (h : Implements fernet view vault) :
    loadManagedSecrets view.rows (some (fernet.store vault.lock.key)) view.stored =
      .ok (vault.secrets, { configured := true, unlocked := true
                            storedSecretCount := vault.secrets.length
                            loadedSecretCount := vault.secrets.length, decryptFailures := [] }) := by
  obtain ⟨config, hstored, -⟩ := h.stored
  unfold loadManagedSecrets
  dsimp only
  rw [decryptMapping_of_holds h.rows, hstored, h.rows.length_eq]
  rfl

/-- A reload that returns with the key of the vault in the store loads all its secrets. -/
theorem secrets_of_run_reload {env : Surroundings F} {app after : App F} {vault : Vault}
    {settings : Settings F} (hrun : (reloadSettings env).run app = .ok settings after)
    (hstore : app.secretStore = some (fernet.store vault.lock.key))
    (hload : loadManagedSecrets app.db.managedSecrets (some (fernet.store vault.lock.key))
      app.db.secretVaultConfig = .ok (vault.secrets,
        { configured := true, unlocked := true, storedSecretCount := vault.secrets.length
          loadedSecretCount := vault.secrets.length, decryptFailures := [] })) :
    after.secretManagementStatus =
        { configured := true, unlocked := true, storedSecretCount := vault.secrets.length
          loadedSecretCount := vault.secrets.length, decryptFailures := [] } ∧
      ∃ base, effectiveSettings env app = .ok base ∧
        after.settings = base.applyManagedSecrets vault.secrets := by
  obtain ⟨new, hprepare, hbuild, -⟩ :=
    (reloadSettings_returns_iff env app).mp ⟨settings, after, hrun⟩
  obtain ⟨-, -, base, secrets, hbase, hloaded, hsettings⟩ := vault_prepareReload hprepare
  rw [hstore, hload, Except.ok.injEq, Prod.mk.injEq] at hloaded
  have hview := view_reloadSettings_of_buildable
    (fun app => (app.secretManagementStatus, app.settings)) hprepare hbuild
    (keeps_followUp (fun _ _ => rfl) (fun _ _ => rfl) (fun _ _ => rfl) fun _ _ => rfl)
  rw [finalState_of_ok hrun] at hview
  simp only [Prod.mk.injEq] at hview
  refine ⟨hview.1.trans hloaded.2.symm, base, hbase, hview.2.trans ?_⟩
  exact hsettings.trans (by rw [hloaded.1])

omit [ClockArith T] in
/-- A reload and the answer behind it return when the reload does and the secrets can be
listed. -/
theorem run_reload_answer_iff {env : Outside F Draw} {status : String}
    {state after : AdminState F T} {response : VaultResponse} :
    (do let _ ← reload env.toSurroundings
        answerVault env status : EStateM AuthError (AdminState F T) VaultResponse).run state =
        .ok response after ↔
      (∃ settings, (reloadSettings env.toSurroundings).run state.app =
          .ok settings after.app ∧ after = { state with app := after.app }) ∧
        env.listing = .ok () ∧
        response = { status := status, secretManagement := after.app.secretManagementStatus
                     secrets := listSecretSlots env.host after.app.settings
                       after.app.db.managedSecrets } := by
  have hanswer : ∀ between : AdminState F T,
      (answerVault env status).run between = .ok response after ↔
        env.listing = .ok () ∧ between = after ∧
          response = { status := status, secretManagement := after.app.secretManagementStatus
                       secrets := listSecretSlots env.host after.app.settings
                         after.app.db.managedSecrets } := by
    intro between
    unfold answerVault
    cases env.listing with
    | error exc =>
        refine iff_of_false (fun h => ?_) fun h => ?_
        · cases h
        · cases h.1
    | ok answer =>
        constructor
        · intro h
          cases h
          exact ⟨rfl, rfl, rfl⟩
        · rintro ⟨-, rfl, rfl⟩
          rfl
  unfold reload
  simp only [run_bind_ok_iff, hanswer, run_onApp_ok_iff]
  constructor
  · rintro ⟨settings, between, hreload, hlisting, rfl, hresponse⟩
    exact ⟨⟨settings, hreload⟩, hlisting, hresponse⟩
  · rintro ⟨⟨settings, hreload⟩, hlisting, hresponse⟩
    exact ⟨settings, after, hreload, hlisting, rfl, hresponse⟩

/-- An unlocking of a known vault takes the store with its key and reloads, when the password
opens it. -/
theorem run_adminUnlock_of_opens {state : AdminState F T} {config : SecretVaultConfig}
    {lock : Lock} (hconfig : state.app.secretVaultConfig = some config)
    (hlocks : Locks fernet config lock) (env : Outside F Draw) {attempt : AuthRequest T}
    {payload : List (String × PyValue F)} (hfree : ¬ BlockedAt attempt state.vaultThrottle)
    (hopens : lock.Opens pbkdf2 (passwordOf payload)) :
    ∃ throttle, (adminUnlockSecretVault pbkdf2 fernet env attempt payload).run state =
      (do let _ ← reload env.toSurroundings
          answerVault env "unlocked" : EStateM AuthError (AdminState F T) VaultResponse).run
        ({ state with vaultThrottle := throttle }.withStore fernet (some lock.key)) := by
  have hget : (get : EStateM AuthError (AdminState F T) (AdminState F T)).run state =
      .ok state state := rfl
  obtain ⟨hblocked, -⟩ | ⟨-, hrun⟩ :=
    run_refuseBlocked attempt.checkedAt attempt.clientKey state.vaultThrottle
  · exact absurd hblocked hfree
  have hcheck : (onVaultThrottle (checkAuthThrottle attempt)).run state =
      .ok () { state with
        vaultThrottle := state.vaultThrottle.checked attempt.checkedAt attempt.clientKey } :=
    run_within_of_ok _ hrun
  have hblank : passwordOf payload ≠ "" := by
    intro hblank
    apply hopens.1
    rw [hblank]
    decide
  have hparse := run_parseSecretPassword payload
    ({ state with
        vaultThrottle := state.vaultThrottle.checked attempt.checkedAt attempt.clientKey } :
      AdminState F T)
  rw [if_neg hblank] at hparse
  unfold adminUnlockSecretVault
  rw [run_bind_of_ok hget, hconfig]
  dsimp only
  rw [run_bind_of_ok hcheck, run_bind_of_ok hparse, unlockVault_of_opens hlocks hopens]
  exact ⟨_, rfl⟩

/-- A wrong password unlocks nothing. -/
theorem not_returns_adminUnlock {state : AdminState F T} {config : SecretVaultConfig}
    {lock : Lock} (hconfig : state.app.secretVaultConfig = some config)
    (hlocks : Locks fernet config lock) (env : Outside F Draw) (attempt : AuthRequest T)
    {payload : List (String × PyValue F)} (hopens : ¬ lock.Opens pbkdf2 (passwordOf payload)) :
    ¬ Returns (adminUnlockSecretVault pbkdf2 fernet env attempt payload) state := by
  obtain ⟨detail, hrefused⟩ := unlockVault_of_not_opens hlocks hopens
  rintro ⟨response, after, hrun⟩
  unfold adminUnlockSecretVault at hrun
  obtain ⟨_, _, hget, hrun⟩ := run_bind_ok_iff.mp hrun
  cases hget
  rw [hconfig] at hrun
  obtain ⟨_, _, -, hrun⟩ := run_bind_ok_iff.mp hrun
  obtain ⟨password, _, hparse, hrun⟩ := run_bind_ok_iff.mp hrun
  have hpassword : password = passwordOf payload := by
    rw [run_parseSecretPassword] at hparse
    by_cases hblank : passwordOf payload = ""
    · rw [if_pos hblank] at hparse
      cases hparse
    · rw [if_neg hblank] at hparse
      cases hparse
      rfl
  rw [hpassword, hrefused] at hrun
  obtain ⟨_, _, -, hthrown⟩ := run_bind_ok_iff.mp hrun
  cases hthrown

/-- The vault opens for the right passwords alone, whatever happened before, and then all
secrets that were stored last are loaded. -/
theorem unlock_after_run {start state : AdminState F T} {events : List (AdminEvent F T Draw)}
    (hstart : Represents fernet start.vaultView none)
    (hsetup : ∀ event ∈ events, event.SetupExecutes)
    (hrun : run (step pbkdf2 fernet) start events = some state)
    (hknown : state.app.secretVaultConfig.isSome = true) (env : Outside F Draw)
    {attempt : AuthRequest T} (payload : List (String × PyValue F))
    (hfree : ¬ BlockedAt attempt state.vaultThrottle) :
    ∃ vault, SpecRun (VaultStep pbkdf2) none
        (labelsAlong (step pbkdf2 fernet) (vaultAction pbkdf2) start events) (some vault) ∧
      (Returns (adminUnlockSecretVault pbkdf2 fernet env attempt payload) state ↔
        vault.lock.Opens pbkdf2 (passwordOf payload) ∧
          Returns (reloadSettings env.toSurroundings)
            { state.app with secretStore := some (fernet.store vault.lock.key) } ∧
          env.listing = .ok ()) ∧
      ∀ response after,
        (adminUnlockSecretVault pbkdf2 fernet env attempt payload).run state =
            .ok response after →
          response.secretManagement =
              { configured := true, unlocked := true, storedSecretCount := vault.secrets.length
                loadedSecretCount := vault.secrets.length, decryptFailures := [] } ∧
            ∃ base, effectiveSettings env.toSurroundings state.app = .ok base ∧
              after.app.settings = base.applyManagedSecrets vault.secrets := by
  obtain ⟨vault, hspec, hview⟩ :=
    exists_specRun_of_run (vault_refines pbkdf2 fernet) hsetup hrun hstart
  obtain ⟨config, hconfig⟩ := Option.isSome_iff_exists.mp hknown
  obtain ⟨known, rfl, -, hstored, hlocks⟩ := hview.exists_vault hconfig
  have hload := loadManagedSecrets_of_implements hview
  refine ⟨known, hspec, ?_⟩
  by_cases hopens : known.lock.Opens pbkdf2 (passwordOf payload)
  · obtain ⟨throttle, hunlock⟩ := run_adminUnlock_of_opens hconfig hlocks env hfree hopens
    unfold Returns
    simp only [hunlock, run_reload_answer_iff]
    refine ⟨?_, ?_⟩
    · constructor
      · rintro ⟨response, after, ⟨settings, hreload, -⟩, hlisting, -⟩
        exact ⟨hopens, ⟨settings, after.app, hreload⟩, hlisting⟩
      · rintro ⟨-, ⟨settings, app, hreload⟩, hlisting⟩
        exact ⟨_, { state.withStore fernet (some known.lock.key) with
          vaultThrottle := throttle, app := app }, ⟨settings, hreload, rfl⟩, hlisting, rfl⟩
    · rintro response after ⟨⟨settings, hreload, -⟩, -, rfl⟩
      have hsecrets := secrets_of_run_reload hreload rfl hload
      exact hsecrets
  · have hnot := not_returns_adminUnlock hconfig hlocks env attempt hopens
    refine ⟨iff_of_false hnot fun h => hopens h.1, fun response after h => ?_⟩
    exact absurd ⟨response, after, h⟩ hnot

end Calls

/-! ## A run -/

theorem represents_freshAdmin : Represents taggedFernet freshAdmin.vaultView none :=
  ⟨rfl, rfl, rfl, rfl, rfl⟩

/-- The vault is set up, a secret is stored, and the vault is locked. -/
def lockingEvents : List (AdminEvent Exact Rat Unit) :=
  [.request (requestWith none) (.setupVault answeringAdmin [("password", .str "sesame")]),
    .request (requestWith none)
      (.setSecret answeringAdmin "providers.groq.api_key" [("value", .str "gsk")]),
    .request (requestWith none) (.lockVault answeringAdmin)]

theorem lockingEvents_setupExecutes : ∀ event ∈ lockingEvents, event.SetupExecutes := by
  unfold lockingEvents
  simp only [List.mem_cons, List.not_mem_nil, or_false, forall_eq_or_imp, forall_eq]
  exact ⟨rfl, trivial, trivial⟩

/-- The run leaves a vault that its events describe. -/
theorem vault_run_locking :
    ∃ state vault, run (step appendSalt taggedFernet) freshAdmin lockingEvents = some state ∧
      SpecRun (VaultStep appendSalt) none (labelsAlong (step appendSalt taggedFernet)
        (vaultAction appendSalt) freshAdmin lockingEvents) vault ∧
      Represents taggedFernet state.vaultView vault := by
  have hrun : ∃ state, run (step appendSalt taggedFernet) freshAdmin lockingEvents = some state :=
    ⟨_, rfl⟩
  obtain ⟨state, hrun⟩ := hrun
  obtain ⟨vault, h⟩ := vault_run represents_freshAdmin lockingEvents_setupExecutes hrun
  exact ⟨state, vault, hrun, h⟩

/-- A vault that was locked with a secret in it opens for its password, and loads the secret. -/
theorem unlock_after_run_locking :
    ∃ state, ∃ vault : Vault,
      run (step appendSalt taggedFernet) freshAdmin lockingEvents = some state ∧
      state.vaultView.fernetKey = none ∧ state.vaultView.rows.length = 1 ∧
      (Returns (adminUnlockSecretVault appendSalt taggedFernet answeringAdmin (requestWith none)
          [("password", .str "sesame")]) state ↔
        vault.lock.Opens appendSalt (passwordOf [("password", PyValue.str (F := Exact) "sesame")]) ∧
          Returns (reloadSettings answeringAdmin.toSurroundings)
            { state.app with secretStore := some (taggedFernet.store vault.lock.key) } ∧
          answeringAdmin.listing = .ok ()) ∧
      ∀ response after,
        (adminUnlockSecretVault appendSalt taggedFernet answeringAdmin (requestWith none)
            [("password", .str "sesame")]).run state = .ok response after →
          response.secretManagement.loadedSecretCount = vault.secrets.length := by
  have htest : (run (step appendSalt taggedFernet) freshAdmin lockingEvents).any (fun state =>
      state.app.secretVaultConfig.isSome && state.vaultView.fernetKey.isNone &&
        state.vaultView.rows.length == 1 &&
        (state.vaultThrottle.throttle.retryAfter 0 "10.0.0.7").1 == 0) = true := by
    decide +kernel
  obtain ⟨state, hrun⟩ : ∃ state,
      run (step appendSalt taggedFernet) freshAdmin lockingEvents = some state := ⟨_, rfl⟩
  rw [hrun, Option.any_some] at htest
  simp only [Bool.and_eq_true, beq_iff_eq, Option.isNone_iff_eq_none] at htest
  obtain ⟨⟨⟨hknown, hlocked⟩, hrows⟩, hwait⟩ := htest
  have hfree : ¬ BlockedAt (requestWith none) state.vaultThrottle := by
    unfold BlockedAt
    rw [← retryAfter_ne_zero_iff]
    exact fun h => h hwait
  obtain ⟨vault, -, hreturns, hloaded⟩ := unlock_after_run represents_freshAdmin
    lockingEvents_setupExecutes hrun hknown answeringAdmin [("password", .str "sesame")] hfree
  refine ⟨state, vault, hrun, hlocked, hrows, hreturns, fun response after hresponse => ?_⟩
  rw [(hloaded response after hresponse).1]

end Admin
end FreeLunch
