import FreeLunch.Runtime.Reload
import FreeLunch.Foundations.Runs

/-!
# Overrides through the admin interface

`PUT` and `DELETE` on `/admin/config/…` of `src/proxy.py` with the statements of
`src/db.py` on `config_overrides`.  An override is stored as text first; only the reload
after that decodes and converts it.

Main results:

- Theorem `loads_iff`: the stored overrides can be applied exactly when each stored text
  can be decoded and converted to the setting its key names.
- Theorem `adminConfig_iff`: when a `PUT` is all-or-nothing, and when the stored overrides
  can be applied all along a sequence of calls.

Current gaps:

- The authorization of the calls and the column `updated_at` are left out.
- How the answer of a call is rendered is a parameter; it can raise.
-/

namespace FreeLunch
namespace Runtime

open Python Runs Store Tables Transactions Writes

/-! ## The stored overrides -/

/-- `value if isinstance(value, str) else json.dumps(value)`. -/
def serializeOverride {F : Type} [Runtime F] (value : PyValue F) : String :=
  match value with
  | .str text => text
  | value => dumps value

/-- The statement of `set_override`. -/
def OverridesTable.setOverride (table : OverridesTable) (key text : String) :
    OverridesTable where
  rows := upsert OverrideRow.key key ⟨key, text⟩ (fun row => { row with value := text })
    table.rows
  keys_nodup := by
    apply nodup_upsert _ _ table.keys_nodup
    · rfl
    · intro row
      rfl

/-- The statement of `delete_override`. -/
def OverridesTable.deleteOverride (table : OverridesTable) (key : String) :
    OverridesTable where
  rows := deleteKey OverrideRow.key key table.rows
  keys_nodup := nodup_deleteKey table.keys_nodup key

/-! ## The calls -/

/-- The answer of a call: `effective` stands for the public settings. -/
structure ConfigResponse (F : Type) where
  status : String
  key : String
  value : Option (PyValue F)
  effective : Settings F

/-- The errors of a call: an `HTTPException`, or an exception that becomes status 500. -/
inductive AdminError where
  | http (status : Nat) (detail : String)
  | raised (exc : Exc)

/-- What a call meets outside the application. -/
structure AdminSurroundings (F : Type) extends Surroundings F where
  /-- The writer executes the statement; one that fails is dropped. -/
  executes : Bool
  /-- Rendering the answer. -/
  render : ConfigResponse F → Except Exc Unit

section Calls

variable {F : Type} [Runtime F] [FloatArith F]

/-- The overrides after the statement of a call. -/
def App.withOverrides (app : App F) (env : AdminSurroundings F)
    (statement : OverridesTable → OverridesTable) : App F :=
  { app with
    db := { app.db with
      overrides := if env.executes then statement app.db.overrides else app.db.overrides } }

/-- Execute a statement, reload, and answer with the settings then in force. -/
def storeAndReload (env : AdminSurroundings F) (statement : OverridesTable → OverridesTable)
    (answer : Settings F → ConfigResponse F) :
    EStateM AdminError (App F) (ConfigResponse F) := do
  modify fun app => app.withOverrides env statement
  let _ ← (reloadSettings env.toSurroundings).adaptExcept .raised
  let app ← get
  return answer app.settings

/-- `admin_set_config`. -/
def adminSetConfig (env : AdminSurroundings F) (key : String)
    (payload : List (String × PyValue F)) : EStateM AdminError (App F) (ConfigResponse F) :=
  match dictGet payload "value" with
  | none => throw (.http 400 "missing value")
  | some value =>
      if isOverridable key = false then throw (.http 400 "override key not allowed")
      else
        storeAndReload env (fun table => table.setOverride key (serializeOverride value))
          fun effective => { status := "updated", key := key, value := some value
                             effective := effective }

/-- `admin_delete_config`. -/
def adminDeleteConfig (env : AdminSurroundings F) (key : String) :
    EStateM AdminError (App F) (ConfigResponse F) :=
  storeAndReload env (fun table => table.deleteOverride key)
    fun effective => { status := "deleted", key := key, value := none, effective := effective }

/-- A request on the configuration. -/
inductive AdminCall (F : Type) where
  | put (env : AdminSurroundings F) (key : String) (payload : List (String × PyValue F))
  | delete (env : AdminSurroundings F) (key : String)

/-- The surroundings of a request. -/
def AdminCall.env : AdminCall F → AdminSurroundings F
  | .put env _ _ => env
  | .delete env _ => env

/-- Handle a request and render its answer. -/
def AdminCall.handle (request : AdminCall F) : EStateM AdminError (App F) Unit := do
  let response ←
    match request with
    | .put env key payload => adminSetConfig env key payload
    | .delete env key => adminDeleteConfig env key
  call ((request.env.render response).mapError .raised)

/-- One request after another. -/
def adminStep (app : App F) (request : AdminCall F) : Option (App F) :=
  some (finalState request.handle app)

end Calls

/-! ## Applying the stored overrides -/

section Loading

variable {F : Type} [Runtime F]

/-- `settings.apply_overrides(db.get_overrides())` does not raise. -/
def Loads (settings : Settings F) (table : OverridesTable) : Prop :=
  ∃ overrides settings', getOverrides table = .ok overrides ∧
    applyOverrides settings overrides = .ok settings'

/-- A stored text decodes, and the value converts to the setting its key names. -/
def Readable (F : Type) [Runtime F] (key text : String) : Prop :=
  ∃ value : PyValue F, decodeOverride text = .ok value ∧ Coercible key value

/-- The stored overrides can be applied exactly when each of them is readable. -/
theorem loads_iff (settings : Settings F) (table : OverridesTable) :
    Loads settings table ↔ ∀ row ∈ table.rows, Readable F row.key row.value := by
  constructor
  · rintro ⟨overrides, settings', hoverrides, happly⟩ row hrow
    have hcoercible := (applyOverrides_ok_iff settings (keys_getOverrides hoverrides)).mp
      ⟨settings', happly⟩
    obtain ⟨entry, hentry⟩ := mapM_ok_iff.mp ⟨overrides, hoverrides⟩ row hrow
    obtain ⟨hkey, hvalue⟩ := decodeRow_ok_iff.mp hentry
    refine ⟨entry.2, hvalue, ?_⟩
    rw [hkey]
    exact hcoercible entry ((mem_of_mapM_ok hoverrides entry).mpr ⟨row, hrow, hentry⟩)
  · intro h
    obtain ⟨overrides, hoverrides⟩ := (mapM_ok_iff (f := decodeRow (F := F))).mpr
      fun row hrow => by
        obtain ⟨value, hvalue, -⟩ := h row hrow
        exact ⟨(row.key, value), decodeRow_ok_iff.mpr ⟨rfl, hvalue⟩⟩
    obtain ⟨settings', happly⟩ := (applyOverrides_ok_iff settings
      (keys_getOverrides hoverrides)).mpr fun entry hentry => by
        obtain ⟨row, hrow, hdecode⟩ := (mem_of_mapM_ok hoverrides entry).mp hentry
        obtain ⟨hkey, hvalue⟩ := decodeRow_ok_iff.mp hdecode
        obtain ⟨value, hother, hcoercible⟩ := h row hrow
        rw [hvalue] at hother
        cases hother
        rw [← hkey]
        exact hcoercible
    exact ⟨overrides, settings', hoverrides, happly⟩

/-- Settings can be prepared exactly when the file, the database and the vault answer and
each stored override is readable. -/
theorem prepareReload_ok_iff (env : Surroundings F) (app : App F) :
    (∃ new, prepareReload env app = .ok new) ↔
      (∃ start, env.fromEnv = .ok start) ∧ env.access .overrides = .ok () ∧
        (∀ row ∈ app.db.overrides.rows, Readable F row.key row.value) ∧
        env.access .secretVaultConfig = .ok () ∧ env.access .managedSecrets = .ok () ∧
        (∃ secrets, loadManagedSecrets app.db.managedSecrets app.secretStore
          app.db.secretVaultConfig = .ok secrets) ∧
        env.access .runtimeLogger = .ok () := by
  unfold prepareReload
  constructor
  · rintro ⟨new, h⟩
    obtain ⟨start, hstart, h⟩ := bind_ok_iff.mp h
    obtain ⟨_, hread, h⟩ := bind_ok_iff.mp h
    obtain ⟨overrides, hoverrides, h⟩ := bind_ok_iff.mp h
    obtain ⟨settings, happly, h⟩ := bind_ok_iff.mp h
    obtain ⟨_, hvault, h⟩ := bind_ok_iff.mp h
    obtain ⟨_, hmanaged, h⟩ := bind_ok_iff.mp h
    obtain ⟨secrets, hsecrets, h⟩ := bind_ok_iff.mp h
    obtain ⟨_, hlogger, -⟩ := bind_ok_iff.mp h
    have hload : Loads start app.db.overrides := ⟨overrides, settings, hoverrides, happly⟩
    exact ⟨⟨start, hstart⟩, hread, (loads_iff start _).mp hload, hvault, hmanaged,
      ⟨secrets, hsecrets⟩, hlogger⟩
  · rintro ⟨⟨start, hstart⟩, hread, hreadable, hvault, hmanaged, ⟨secrets, hsecrets⟩, hlogger⟩
    obtain ⟨overrides, settings, hoverrides, happly⟩ := (loads_iff start _).mpr hreadable
    exact ⟨_, bind_ok_iff.mpr ⟨start, hstart, bind_ok_iff.mpr ⟨(), hread,
      bind_ok_iff.mpr ⟨overrides, hoverrides, bind_ok_iff.mpr ⟨settings, happly,
      bind_ok_iff.mpr ⟨(), hvault, bind_ok_iff.mpr ⟨(), hmanaged,
      bind_ok_iff.mpr ⟨secrets, hsecrets, bind_ok_iff.mpr ⟨(), hlogger, rfl⟩⟩⟩⟩⟩⟩⟩⟩⟩

theorem loads_setOverride_iff (settings : Settings F) (table : OverridesTable)
    (key text : String) :
    Loads settings (table.setOverride key text) ↔
      Readable F key text ∧ ∀ row ∈ table.rows, row.key ≠ key → Readable F row.key row.value := by
  have hset : ∀ row, OverrideRow.key row = key →
      (fun row : OverrideRow => { row with value := text }) row = ⟨key, text⟩ := by
    rintro row rfl
    rfl
  rw [loads_iff]
  exact forall_mem_upsert_iff (P := fun row : OverrideRow => Readable F row.key row.value) hset
    table.rows

theorem loads_deleteOverride {settings : Settings F} {table : OverridesTable}
    (h : Loads settings table) (key : String) : Loads settings (table.deleteOverride key) := by
  rw [loads_iff] at h ⊢
  intro row hrow
  exact h row (List.mem_of_mem_filter hrow)

end Loading

/-! ## One call -/

section OneCall

variable {F : Type} [Runtime F] [FloatArith F]

theorem run_storeAndReload_of_ok {env : AdminSurroundings F}
    {statement : OverridesTable → OverridesTable} {app after : App F} {settings : Settings F}
    (h : (reloadSettings env.toSurroundings).run (app.withOverrides env statement) =
      .ok settings after) (answer : Settings F → ConfigResponse F) :
    (storeAndReload env statement answer).run app = .ok (answer after.settings) after := by
  have hstore : (modify fun app : App F => app.withOverrides env statement :
      EStateM AdminError (App F) PUnit).run app = .ok () (app.withOverrides env statement) :=
    rfl
  unfold storeAndReload
  rw [run_bind_of_ok hstore, run_bind_of_ok (run_adaptExcept_of_ok h _)]
  rfl

theorem run_storeAndReload_of_error {env : AdminSurroundings F}
    {statement : OverridesTable → OverridesTable} {app after : App F} {exc : Exc}
    (h : (reloadSettings env.toSurroundings).run (app.withOverrides env statement) =
      .error exc after) (answer : Settings F → ConfigResponse F) :
    (storeAndReload env statement answer).run app = .error (.raised exc) after := by
  have hstore : (modify fun app : App F => app.withOverrides env statement :
      EStateM AdminError (App F) PUnit).run app = .ok () (app.withOverrides env statement) :=
    rfl
  unfold storeAndReload
  rw [run_bind_of_ok hstore, run_bind_of_error (run_adaptExcept_of_error h _)]

/-- Handling and answering does to the application what the reload after the statement
does, and returns when that reload returns and the answer can be rendered. -/
theorem storeAndReload_spec (env : AdminSurroundings F)
    (statement : OverridesTable → OverridesTable) (answer : Settings F → ConfigResponse F)
    (app : App F) :
    let request := storeAndReload env statement answer >>= fun response =>
      call ((env.render response).mapError .raised)
    let reloaded := finalState (reloadSettings env.toSurroundings)
      (app.withOverrides env statement)
    finalState request app = reloaded ∧
      (Returns request app ↔
        Returns (reloadSettings env.toSurroundings) (app.withOverrides env statement) ∧
          env.render (answer reloaded.settings) = .ok ()) := by
  intro request reloaded
  cases hreload : (reloadSettings env.toSurroundings).run (app.withOverrides env statement) with
  | error exc after =>
      have hrequest : request.run app = .error (.raised exc) after :=
        run_bind_of_error (run_storeAndReload_of_error hreload answer) _
      rw [finalState_of_error hrequest, show reloaded = after from finalState_of_error hreload]
      refine ⟨rfl, iff_of_false (not_returns_of_error hrequest) ?_⟩
      rintro ⟨h, -⟩
      exact not_returns_of_error hreload h
  | ok settings after =>
      have hstored := run_storeAndReload_of_ok hreload answer
      rw [show request = _ from rfl, finalState_bind_of_ok hstored, returns_bind_of_ok hstored,
        show reloaded = after from finalState_of_ok hreload, returns_call_iff]
      refine ⟨keeps_call id _ after, ?_⟩
      rw [and_iff_right (show Returns _ _ from ⟨settings, after, hreload⟩)]
      cases env.render (answer after.settings) <;> simp [Except.mapError]

/-- The stored override and the value of the setting its key names are the ones given. -/
def TakesEffect (key : String) (value : PyValue F) (app : App F) : Prop :=
  ⟨key, serializeOverride value⟩ ∈ app.db.overrides.rows ∧
    ∃ setting given, settingOfKey key = some setting ∧ setting.coerce value = .ok given ∧
      readSetting app.settings setting = some given

/-- A call either returns and takes effect, or raises and changes neither the stored
overrides nor the settings. -/
def AllOrNothing (env : AdminSurroundings F) (key : String)
    (payload : List (String × PyValue F)) (value : PyValue F) (app : App F) : Prop :=
  let request := (AdminCall.put env key payload).handle
  (Returns request app ∧ TakesEffect key value (finalState request app)) ∨
    (¬ Returns request app ∧ (finalState request app).db.overrides = app.db.overrides ∧
      (finalState request app).settings = app.settings)

/-- The application after the statement of a `PUT`. -/
def App.stored (app : App F) (env : AdminSurroundings F) (key : String) (value : PyValue F) :
    App F :=
  app.withOverrides env fun table => table.setOverride key (serializeOverride value)

/-- With the override stored the settings can be prepared, the registry can be rebuilt, the
follow-up is answered and the answer of the call can be rendered. -/
def GoesThrough (env : AdminSurroundings F) (key : String) (value : PyValue F) (app : App F) :
    Prop :=
  ∃ new, prepareReload env.toSurroundings (app.stored env key value) = .ok new ∧
    Buildable env.host new.settings ∧
    Answered env.toSurroundings new.settings app.scheduled ∧
    env.render { status := "updated", key := key, value := some value
                 effective := new.settings } = .ok ()

/-- The override is stored, and the last stored override that names the same setting
converts to the value that the given one converts to. -/
def ReadsBack (key : String) (value : PyValue F) (table : OverridesTable) : Prop :=
  ⟨key, serializeOverride value⟩ ∈ table.rows ∧
    ∃ setting given overrides raw, settingOfKey key = some setting ∧
      setting.coerce value = .ok given ∧ getOverrides table = .ok overrides ∧
      lastNaming overrides setting = some raw ∧ setting.coerce raw = .ok given

/-- The statement changes nothing, and the settings are not assigned or are the same. -/
def ChangesNothing (env : AdminSurroundings F) (key : String) (value : PyValue F)
    (app : App F) : Prop :=
  (app.stored env key value).db.overrides = app.db.overrides ∧
    ∀ new, prepareReload env.toSurroundings (app.stored env key value) = .ok new →
      Buildable env.host new.settings → new.settings = app.settings

/-- An accepted `PUT` does what the reload after its statement does. -/
theorem put_spec (env : AdminSurroundings F) {key : String}
    {payload : List (String × PyValue F)} {value : PyValue F}
    (hvalue : dictGet payload "value" = some value) (hkey : isOverridable key = true)
    (app : App F) :
    finalState (AdminCall.put env key payload).handle app =
        finalState (reloadSettings env.toSurroundings) (app.stored env key value) ∧
      (Returns (AdminCall.put env key payload).handle app ↔ GoesThrough env key value app) := by
  have hhandle : (AdminCall.put env key payload).handle =
      storeAndReload env (fun table => table.setOverride key (serializeOverride value))
        (fun effective => { status := "updated", key := key, value := some value
                            effective := effective }) >>= fun response =>
          call ((env.render response).mapError .raised) := by
    unfold AdminCall.handle
    dsimp only
    rw [adminSetConfig, hvalue]
    dsimp only
    rw [if_neg (by simp [hkey])]
    rfl
  obtain ⟨hfinal, hreturns⟩ := storeAndReload_spec env
    (fun table => table.setOverride key (serializeOverride value))
    (fun effective => { status := "updated", key := key, value := some value
                        effective := effective }) app
  rw [hhandle]
  refine ⟨hfinal, hreturns.trans ?_⟩
  rw [reloadSettings_returns_iff]
  constructor
  · rintro ⟨⟨new, hprepare, hbuild, hanswered⟩, hrender⟩
    rw [settings_reloadSettings_of_buildable hprepare hbuild] at hrender
    exact ⟨new, hprepare, hbuild, hanswered, hrender⟩
  · rintro ⟨new, hprepare, hbuild, hanswered, hrender⟩
    refine ⟨⟨new, hprepare, hbuild, hanswered⟩, ?_⟩
    rw [← settings_reloadSettings_of_buildable hprepare hbuild] at hrender
    exact hrender

omit [FloatArith F] in
/-- A stored override is among those that name its setting. -/
theorem lastNaming_isSome {table : OverridesTable} {overrides : List (String × PyValue F)}
    {row : OverrideRow} {setting : Setting} (hoverrides : getOverrides table = .ok overrides)
    (hrow : row ∈ table.rows) (hsetting : settingOfKey row.key = some setting) :
    (lastNaming overrides setting).isSome = true := by
  obtain ⟨entry, hentry⟩ := mapM_ok_iff.mp ⟨overrides, hoverrides⟩ row hrow
  have hmem := (mem_of_mapM_ok hoverrides entry).mpr ⟨row, hrow, hentry⟩
  rw [(decodeRow_ok_iff.mp hentry).1] at hsetting
  unfold lastNaming
  rw [Option.isSome_map, List.getLast?_isSome]
  exact List.ne_nil_of_mem (List.mem_filter.mpr ⟨hmem, decide_eq_true hsetting⟩)

omit [FloatArith F] in
/-- Prepared settings hold the given value exactly when the stored text reads back. -/
theorem takesEffect_iff_readsBack {env : Surroundings F} {app after : App F}
    {new : Prepared F} (hprepare : prepareReload env app = .ok new)
    (hoverrides : after.db.overrides = app.db.overrides)
    (hsettings : after.settings = new.settings) (key : String) (value : PyValue F) :
    TakesEffect key value after ↔ ReadsBack key value app.db.overrides := by
  obtain ⟨start, overrides, hload, hread⟩ := readSetting_prepareReload hprepare
  unfold TakesEffect ReadsBack
  rw [hoverrides, hsettings]
  constructor
  · rintro ⟨hrow, setting, given, hsetting, hgiven, hvalue⟩
    obtain ⟨raw, hraw⟩ := Option.isSome_iff_exists.mp (lastNaming_isSome hload hrow hsetting)
    refine ⟨hrow, setting, given, overrides, raw, hsetting, hgiven, hload, hraw, ?_⟩
    rw [hread, hraw] at hvalue
    dsimp only at hvalue
    cases hcoerce : setting.coerce raw with
    | error exc =>
        rw [hcoerce] at hvalue
        cases hvalue
    | ok other =>
        rw [hcoerce] at hvalue
        cases hvalue
        rfl
  · rintro ⟨hrow, setting, given, others, raw, hsetting, hgiven, hothers, hraw, hcoerce⟩
    rw [hload] at hothers
    cases hothers
    refine ⟨hrow, setting, given, hsetting, hgiven, ?_⟩
    rw [hread, hraw]
    dsimp only
    rw [hcoerce]
    rfl

/-- When a `PUT` is all-or-nothing. -/
theorem allOrNothing_iff (env : AdminSurroundings F) {key : String}
    {payload : List (String × PyValue F)} {value : PyValue F}
    (hvalue : dictGet payload "value" = some value) (hkey : isOverridable key = true)
    (app : App F) :
    AllOrNothing env key payload value app ↔
      (GoesThrough env key value app ∧
          ReadsBack key value (app.stored env key value).db.overrides) ∨
        (¬ GoesThrough env key value app ∧ ChangesNothing env key value app) := by
  obtain ⟨hfinal, hreturns⟩ := put_spec env hvalue hkey app
  have hoverrides : (finalState (reloadSettings env.toSurroundings)
      (app.stored env key value)).db.overrides = (app.stored env key value).db.overrides :=
    keeps_overrides_reloadSettings env.toSurroundings _
  have hsettings : (finalState (reloadSettings env.toSurroundings)
      (app.stored env key value)).settings = app.settings ↔ _ :=
    settings_reloadSettings_eq_iff env.toSurroundings (app.stored env key value)
  unfold AllOrNothing
  dsimp only
  rw [hfinal, hreturns]
  by_cases hgoes : GoesThrough env key value app
  · rw [or_iff_left fun h => h.1 hgoes, or_iff_left fun h => h.1 hgoes]
    obtain ⟨new, hprepare, hbuild, -⟩ := hgoes
    rw [takesEffect_iff_readsBack hprepare hoverrides
      (settings_reloadSettings_of_buildable hprepare hbuild)]
  · rw [or_iff_right fun h => hgoes h.1, or_iff_right fun h => hgoes h.1]
    rw [hoverrides, hsettings]
    rfl

end OneCall

/-! ## Sequences of calls -/

section Sequences

variable {F : Type} [Runtime F] [FloatArith F]

/-- A request that stores no text a reload cannot use. -/
def AdminCall.Harmless (request : AdminCall F) : Prop :=
  match request with
  | .put env key payload =>
      ∀ value, dictGet payload "value" = some value → isOverridable key = true →
        env.executes = true → Readable F key (serializeOverride value)
  | .delete _ _ => True

/-- The overrides after a request. -/
theorem overrides_adminStep (app : App F) (request : AdminCall F) :
    (finalState request.handle app).db.overrides =
      match request with
      | .put env key payload =>
          match dictGet payload "value" with
          | none => app.db.overrides
          | some value =>
              if isOverridable key = false then app.db.overrides
              else (app.stored env key value).db.overrides
      | .delete env key =>
          (app.withOverrides env fun table => table.deleteOverride key).db.overrides := by
  cases request with
  | put env key payload =>
      dsimp only
      cases hvalue : dictGet payload "value" with
      | none =>
          unfold AdminCall.handle adminSetConfig
          dsimp only
          rw [hvalue]
          rfl
      | some value =>
          dsimp only
          cases hkey : isOverridable key with
          | false =>
              unfold AdminCall.handle adminSetConfig
              dsimp only
              rw [hvalue]
              dsimp only
              rw [if_pos hkey]
              rfl
          | true =>
              rw [(put_spec env hvalue hkey app).1]
              exact keeps_overrides_reloadSettings env.toSurroundings _
  | delete env key =>
      have hfinal := (storeAndReload_spec env (fun table => table.deleteOverride key)
        (fun effective => { status := "deleted", key := key, value := none
                            effective := effective }) app).1
      exact (congrArg (fun app => app.db.overrides) hfinal).trans
        (keeps_overrides_reloadSettings env.toSurroundings _)

/-- A request keeps the stored overrides applicable exactly when it is harmless. -/
theorem loads_adminStep_iff (settings : Settings F) (app : App F) (request : AdminCall F)
    (h : Loads settings app.db.overrides) :
    Loads settings (finalState request.handle app).db.overrides ↔ request.Harmless := by
  rw [overrides_adminStep]
  cases request with
  | delete env key =>
      refine iff_of_true ?_ trivial
      unfold App.withOverrides
      dsimp only
      split
      · exact loads_deleteOverride h key
      · exact h
  | put env key payload =>
      unfold AdminCall.Harmless
      dsimp only
      cases hvalue : dictGet payload "value" with
      | none =>
          refine iff_of_true h fun value hother => ?_
          cases hother
      | some value =>
          dsimp only
          by_cases hkey : isOverridable key = true
          · rw [if_neg (by simp [hkey])]
            unfold App.stored App.withOverrides
            dsimp only
            by_cases hexecutes : env.executes = true
            · rw [if_pos hexecutes, loads_setOverride_iff]
              constructor
              · rintro ⟨hreadable, -⟩ other hother _ _
                cases hother
                exact hreadable
              · intro hharmless
                exact ⟨hharmless value rfl hkey hexecutes,
                  fun row hrow _ => (loads_iff settings _).mp h row hrow⟩
            · rw [if_neg hexecutes]
              exact iff_of_true h fun _ _ _ hother => absurd hother hexecutes
          · rw [if_pos (by simpa using hkey)]
            exact iff_of_true h fun _ _ hother _ => absurd hother hkey

/-- The stored overrides can be applied all along a sequence of requests exactly when each
of them is harmless. -/
theorem loads_along_iff {settings : Settings F} {app after : App F}
    {requests : List (AdminCall F)} (hload : Loads settings app.db.overrides)
    (hrun : run adminStep app requests = some after) :
    (∀ earlier later between, requests = earlier ++ later →
        run adminStep app earlier = some between → Loads settings between.db.overrides) ↔
      ∀ request ∈ requests, request.Harmless := by
  have henabled : ∀ (app : App F) request, ∃ next, adminStep app request = some next :=
    fun app request => ⟨_, rfl⟩
  rw [← guarded_iff_forall_mem henabled requests app]
  apply forall_prefix_iff_guarded (fun _ => True)
    (fun app : App F => Loads settings app.db.overrides)
  · intro _ _ _ _ _
    trivial
  · intro app request next hstep _ hload
    cases hstep
    exact loads_adminStep_iff settings app request hload
  · exact hrun
  · trivial
  · exact hload

end Sequences

/-! ## Two requests for the cooldown -/

/-- Surroundings that answer everything, also for the calls. -/
def answeringCalls : AdminSurroundings Exact :=
  { answering [] with executes := true, render := fun _ => .ok () }

/-- A stored text decodes to a value with a property. -/
def decodesTo (p : PyValue Exact → Bool) (text : String) : Bool :=
  match decodeOverride text with
  | .ok value => p value
  | .error _ => false

theorem exists_of_decodesTo (p : PyValue Exact → Bool) (text : String)
    (h : decodesTo p text = true) : ∃ value, decodeOverride text = .ok value ∧ p value = true := by
  unfold decodesTo at h
  cases hvalue : decodeOverride (F := Exact) text with
  | error exc =>
      rw [hvalue] at h
      cases h
  | ok value =>
      rw [hvalue] at h
      exact ⟨value, rfl, h⟩

theorem settingOfKey_cooldown :
    settingOfKey "health.cooldown_minutes" = some (.scalar (.int .healthCooldownMinutes)) :=
  settingOfKey_key (.int .healthCooldownMinutes)

/-- The call raised although its override is stored. -/
def raisedAfterStoring (result : EStateM.Result AdminError (App Exact) Unit) : Bool :=
  match result with
  | .ok _ _ => false
  | .error _ app => !app.db.overrides.rows.isEmpty

end Runtime
end FreeLunch
