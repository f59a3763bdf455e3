import FreeLunch.Runtime.Settings
import FreeLunch.Foundations.Writes

/-!
# Overrides

`Settings.apply_overrides`: three loops over the scalar settings, the overrides that name a
provider and the ranking weights.  Each loop is a fold of writes, so what the overrides do
to a setting can be read off the last override that names it.

Main results:

- Theorem `applyOverrides_ok_iff`: overrides apply exactly when every override that
  names a setting can be coerced to it.
- Theorem `readSetting_applyOverrides`: a setting takes the coerced value of the last
  override that names it.
- Theorem `isProviderActiveProbeEnabled_of_read`: the accessor of the active-probe flags
  answers with the setting.
-/

namespace FreeLunch
namespace Runtime

open Python Writes

section Overrides

variable {F : Type} [Runtime F]

/-! ## Applying overrides -/

/-- Assign an integer setting. -/
def Settings.setInt (settings : Settings F) (setting : IntSetting) (n : Int) : Settings F :=
  { settings with int := Function.update settings.int setting n }

/-- Assign a boolean setting. -/
def Settings.setBool (settings : Settings F) (setting : BoolSetting) (b : Bool) : Settings F :=
  { settings with bool := Function.update settings.bool setting b }

/-- Assign a text setting. -/
def Settings.setStr (settings : Settings F) (setting : StrSetting) (text : String) :
    Settings F :=
  { settings with str := Function.update settings.str setting text }

/-- `provider_active_probe_enabled[provider_id] = …`, and the copy for `openrouter`. -/
def Settings.setActiveProbe (settings : Settings F) (providerId : String) (enabled : Bool) :
    Settings F :=
  { settings with
    providerActiveProbeEnabled :=
      dictSet settings.providerActiveProbeEnabled providerId enabled
    openrouterActiveProbeEnabled :=
      if providerId = "openrouter" then enabled else settings.openrouterActiveProbeEnabled }

/-- `health_daily_request_budget_by_provider[provider_id] = …`. -/
def Settings.setProbeBudget (settings : Settings F) (providerId : String) (budget : Int) :
    Settings F :=
  { settings with
    healthDailyRequestBudgetByProvider :=
      dictSet settings.healthDailyRequestBudgetByProvider providerId budget }

/-- `ranking_weights[name] = …`. -/
def Settings.setWeight (settings : Settings F) (name : String) (weight : F) : Settings F :=
  { settings with rankingWeights := dictSet settings.rankingWeights name weight }

/-- `if key in overrides: self.… = …` for a scalar setting. -/
def applyScalar (overrides : List (String × PyValue F)) (settings : Settings F)
    (scalar : Scalar) : Except Exc (Settings F) :=
  match dictGet overrides scalar.key with
  | none => .ok settings
  | some raw =>
      match scalar with
      | .int setting => raw.toInt.map fun n => settings.setInt setting (setting.clamp n)
      | .bool setting => .ok (settings.setBool setting raw.truthy)
      | .str setting => .ok (settings.setStr setting raw.toStr)

/-- The body of the loop over the overrides, for the keys that name a provider. -/
def applyProviderOverride (settings : Settings F) (entry : String × PyValue F) :
    Except Exc (Settings F) :=
  match providerFromActiveProbeKey entry.1 with
  | some providerId => .ok (settings.setActiveProbe providerId entry.2.truthy)
  | none =>
      match providerFromProbeBudgetKey entry.1 with
      | some providerId => entry.2.toInt.map fun n => settings.setProbeBudget providerId (max n 0)
      | none => .ok settings

/-- The body of the loop over `DEFAULT_RANKING_WEIGHTS`. -/
def applyWeight (overrides : List (String × PyValue F)) (settings : Settings F)
    (name : String) : Except Exc (Settings F) :=
  match dictGet overrides ("ranking.weights." ++ name) with
  | none => .ok settings
  | some raw => raw.toFloat.map fun x => settings.setWeight name x

/-- `apply_overrides`. -/
def applyOverrides (settings : Settings F) (overrides : List (String × PyValue F)) :
    Except Exc (Settings F) := do
  let settings ← Scalar.all.foldlM (applyScalar overrides) settings
  let settings ← overrides.foldlM applyProviderOverride settings
  rankingWeightNames.foldlM (applyWeight overrides) settings

/-! ## What a key names -/

/-- A setting an override can name. -/
inductive Setting where
  | scalar (scalar : Scalar)
  | weight (name : String)
  | activeProbe (providerId : String)
  | probeBudget (providerId : String)
deriving DecidableEq, Repr

/-- The value of a setting. -/
inductive SettingValue (F : Type) where
  | int (n : Int)
  | bool (b : Bool)
  | str (s : String)
  | float (x : F)

/-- The setting an override key names; a weight that the ranking does not know is no
setting. -/
def settingOfKey (key : String) : Option Setting :=
  match Scalar.all.find? fun scalar => decide (scalar.key = key) with
  | some scalar => some (.scalar scalar)
  | none =>
      match rankingWeightNames.find? fun name => decide ("ranking.weights." ++ name = key) with
      | some name => some (.weight name)
      | none =>
          match providerFromActiveProbeKey key with
          | some providerId => some (.activeProbe providerId)
          | none => (providerFromProbeBudgetKey key).map .probeBudget

/-- The conversion of a setting, with its clamp. -/
def Setting.coerce (setting : Setting) (raw : PyValue F) : Except Exc (SettingValue F) :=
  match setting with
  | .scalar (.int field) => raw.toInt.map fun n => .int (field.clamp n)
  | .scalar (.bool _) => .ok (.bool raw.truthy)
  | .scalar (.str _) => .ok (.str raw.toStr)
  | .weight _ => raw.toFloat.map .float
  | .activeProbe _ => .ok (.bool raw.truthy)
  | .probeBudget _ => raw.toInt.map fun n => .int (max n 0)

/-- The effective value of a setting. -/
def readSetting (settings : Settings F) (setting : Setting) : Option (SettingValue F) :=
  match setting with
  | .scalar (.int field) => some (.int (settings.int field))
  | .scalar (.bool field) => some (.bool (settings.bool field))
  | .scalar (.str field) => some (.str (settings.str field))
  | .weight name => (dictGet settings.rankingWeights name).map .float
  | .activeProbe providerId =>
      (dictGet settings.providerActiveProbeEnabled providerId).map .bool
  | .probeBudget providerId =>
      (dictGet settings.healthDailyRequestBudgetByProvider providerId).map .int

/-- An override that names a setting can be coerced to it. -/
def Coercible (key : String) (raw : PyValue F) : Prop :=
  ∀ setting, settingOfKey key = some setting → ∃ value, setting.coerce raw = .ok value

/-! ## The keys of the settings -/

theorem key_mem_all (scalar : Scalar) : scalar ∈ Scalar.all := by
  rcases scalar with setting | setting | setting <;> cases setting <;> decide

/-- A scalar setting is found under its key. -/
theorem settingOfKey_key (scalar : Scalar) :
    settingOfKey scalar.key = some (.scalar scalar) := by
  have hall : ∀ scalar ∈ Scalar.all,
      Scalar.all.find? (fun other => decide (other.key = scalar.key)) = some scalar := by
    decide +kernel
  unfold settingOfKey
  rw [hall scalar (key_mem_all scalar)]

/-- A ranking weight is found under its key. -/
theorem settingOfKey_weight {name : String} (hname : name ∈ rankingWeightNames) :
    settingOfKey ("ranking.weights." ++ name) = some (.weight name) := by
  have hall : ∀ name ∈ rankingWeightNames,
      settingOfKey ("ranking.weights." ++ name) = some (.weight name) := by
    decide +kernel
  exact hall name hname

/-- The keys of scalar settings and weights name no provider. -/
theorem providerFrom_eq_none {key : String}
    (h : (∃ scalar : Scalar, scalar.key = key) ∨
      ∃ name ∈ rankingWeightNames, "ranking.weights." ++ name = key) :
    providerFromActiveProbeKey key = none ∧ providerFromProbeBudgetKey key = none := by
  have hscalars : ∀ scalar ∈ Scalar.all,
      providerFromActiveProbeKey scalar.key = none ∧
        providerFromProbeBudgetKey scalar.key = none := by
    decide +kernel
  have hweights : ∀ name ∈ rankingWeightNames,
      providerFromActiveProbeKey ("ranking.weights." ++ name) = none ∧
        providerFromProbeBudgetKey ("ranking.weights." ++ name) = none := by
    decide +kernel
  rcases h with ⟨scalar, rfl⟩ | ⟨name, hname, rfl⟩
  · exact hscalars scalar (key_mem_all scalar)
  · exact hweights name hname

/-- What the lookups of `settingOfKey` found. -/
theorem settingOfKey_cases (key : String) :
    (∃ scalar : Scalar, scalar.key = key ∧ settingOfKey key = some (.scalar scalar)) ∨
      (∃ name ∈ rankingWeightNames, "ranking.weights." ++ name = key ∧
        settingOfKey key = some (.weight name)) ∨
      settingOfKey key =
        match providerFromActiveProbeKey key with
        | some providerId => some (.activeProbe providerId)
        | none => (providerFromProbeBudgetKey key).map .probeBudget := by
  unfold settingOfKey
  cases hscalar : Scalar.all.find? fun scalar => decide (scalar.key = key) with
  | some scalar =>
      have hkey : scalar.key = key := by simpa using List.find?_some hscalar
      exact .inl ⟨scalar, hkey, rfl⟩
  | none =>
      cases hweight : rankingWeightNames.find?
          fun name => decide ("ranking.weights." ++ name = key) with
      | some name =>
          have hkey : "ranking.weights." ++ name = key := by simpa using List.find?_some hweight
          exact .inr (.inl ⟨name, List.mem_of_find?_eq_some hweight, hkey, rfl⟩)
      | none => exact .inr (.inr rfl)

theorem settingOfKey_eq_scalar_iff {key : String} {scalar : Scalar} :
    settingOfKey key = some (.scalar scalar) ↔ scalar.key = key := by
  constructor
  · intro h
    rcases settingOfKey_cases key with ⟨other, hkey, hother⟩ | ⟨name, -, -, hother⟩ | hother
    · rw [hother] at h
      cases h
      exact hkey
    · rw [hother] at h
      cases h
    · rw [hother] at h
      cases hprobe : providerFromActiveProbeKey key <;> rw [hprobe] at h <;> simp at h
  · rintro rfl
    exact settingOfKey_key scalar

theorem settingOfKey_eq_weight_iff {key name : String} :
    settingOfKey key = some (.weight name) ↔
      name ∈ rankingWeightNames ∧ "ranking.weights." ++ name = key := by
  constructor
  · intro h
    rcases settingOfKey_cases key with ⟨other, -, hother⟩ | ⟨other, hmem, hkey, hother⟩ | hother
    · rw [hother] at h
      cases h
    · rw [hother] at h
      cases h
      exact ⟨hmem, hkey⟩
    · rw [hother] at h
      cases hprobe : providerFromActiveProbeKey key <;> rw [hprobe] at h <;> simp at h
  · rintro ⟨hmem, rfl⟩
    exact settingOfKey_weight hmem

/-- A key that names a provider names its setting. -/
theorem settingOfKey_of_provider {key : String}
    (h : (providerFromActiveProbeKey key).isSome ∨ (providerFromProbeBudgetKey key).isSome) :
    settingOfKey key =
      match providerFromActiveProbeKey key with
      | some providerId => some (.activeProbe providerId)
      | none => (providerFromProbeBudgetKey key).map .probeBudget := by
  rcases settingOfKey_cases key with ⟨scalar, hkey, -⟩ | ⟨name, hmem, hkey, -⟩ | hkey
  · obtain ⟨hprobe, hbudget⟩ := providerFrom_eq_none (.inl ⟨scalar, hkey⟩)
    simp [hprobe, hbudget] at h
  · obtain ⟨hprobe, hbudget⟩ := providerFrom_eq_none (.inr ⟨name, hmem, hkey⟩)
    simp [hprobe, hbudget] at h
  · exact hkey

/-- A setting of one provider. -/
def Setting.OfProvider (setting : Setting) : Prop :=
  (∃ providerId, setting = .activeProbe providerId) ∨
    ∃ providerId, setting = .probeBudget providerId

theorem settingOfKey_eq_provider_iff {key : String} {setting : Setting}
    (h : setting.OfProvider) :
    settingOfKey key = some setting ↔
      (match providerFromActiveProbeKey key with
      | some providerId => some (.activeProbe providerId)
      | none => (providerFromProbeBudgetKey key).map .probeBudget) = some setting := by
  rcases settingOfKey_cases key with ⟨scalar, hkey, hother⟩ | ⟨name, hmem, hkey, hother⟩ | hother
  · obtain ⟨hprobe, hbudget⟩ := providerFrom_eq_none (.inl ⟨scalar, hkey⟩)
    rw [hother, hprobe, hbudget]
    rcases h with ⟨_, rfl⟩ | ⟨_, rfl⟩ <;> simp
  · obtain ⟨hprobe, hbudget⟩ := providerFrom_eq_none (.inr ⟨name, hmem, hkey⟩)
    rw [hother, hprobe, hbudget]
    rcases h with ⟨_, rfl⟩ | ⟨_, rfl⟩ <;> simp
  · rw [hother]

/-! ## Each phase as a fold of writes -/

/-- The write of a scalar setting. -/
def scalarTarget (overrides : List (String × PyValue F)) (scalar : Scalar) :
    Option (Setting × Except Exc (SettingValue F)) :=
  (dictGet overrides scalar.key).map fun raw =>
    (.scalar scalar, (Setting.scalar scalar).coerce raw)

/-- The write of an override that names a provider. -/
def providerTarget (entry : String × PyValue F) :
    Option (Setting × Except Exc (SettingValue F)) :=
  match providerFromActiveProbeKey entry.1 with
  | some providerId =>
      some (.activeProbe providerId, (Setting.activeProbe providerId).coerce entry.2)
  | none =>
      (providerFromProbeBudgetKey entry.1).map fun providerId =>
        (.probeBudget providerId, (Setting.probeBudget providerId).coerce entry.2)

/-- The write of a ranking weight. -/
def weightTarget (overrides : List (String × PyValue F)) (name : String) :
    Option (Setting × Except Exc (SettingValue F)) :=
  (dictGet overrides ("ranking.weights." ++ name)).map fun raw =>
    (.weight name, (Setting.weight name).coerce raw)

/-! ## Reading an assignment back -/

omit [Runtime F] in
@[simp]
theorem readSetting_setInt (settings : Settings F) (setting : IntSetting) (n : Int)
    (other : Setting) :
    readSetting (settings.setInt setting n) other =
      if .scalar (.int setting) = other then some (.int n) else readSetting settings other := by
  rcases other with (field | field | field) | name | providerId | providerId
  · by_cases h : setting = field
    · simp [readSetting, Settings.setInt, h]
    · simp [readSetting, Settings.setInt, h, Function.update_of_ne (Ne.symm h)]
  all_goals simp [readSetting, Settings.setInt]

omit [Runtime F] in
@[simp]
theorem readSetting_setBool (settings : Settings F) (setting : BoolSetting) (b : Bool)
    (other : Setting) :
    readSetting (settings.setBool setting b) other =
      if .scalar (.bool setting) = other then some (.bool b)
      else readSetting settings other := by
  rcases other with (field | field | field) | name | providerId | providerId
  · simp [readSetting, Settings.setBool]
  · by_cases h : setting = field
    · simp [readSetting, Settings.setBool, h]
    · simp [readSetting, Settings.setBool, h, Function.update_of_ne (Ne.symm h)]
  all_goals simp [readSetting, Settings.setBool]

omit [Runtime F] in
@[simp]
theorem readSetting_setStr (settings : Settings F) (setting : StrSetting) (text : String)
    (other : Setting) :
    readSetting (settings.setStr setting text) other =
      if .scalar (.str setting) = other then some (.str text)
      else readSetting settings other := by
  rcases other with (field | field | field) | name | providerId | providerId
  · simp [readSetting, Settings.setStr]
  · simp [readSetting, Settings.setStr]
  · by_cases h : setting = field
    · simp [readSetting, Settings.setStr, h]
    · simp [readSetting, Settings.setStr, h, Function.update_of_ne (Ne.symm h)]
  all_goals simp [readSetting, Settings.setStr]

omit [Runtime F] in
@[simp]
theorem readSetting_setActiveProbe (settings : Settings F) (providerId : String)
    (enabled : Bool) (other : Setting) :
    readSetting (settings.setActiveProbe providerId enabled) other =
      if .activeProbe providerId = other then some (.bool enabled)
      else readSetting settings other := by
  cases other with
  | activeProbe providerId' =>
      by_cases h : providerId = providerId' <;>
        simp [readSetting, Settings.setActiveProbe, dictGet_dictSet, h]
  | scalar scalar =>
      rcases scalar with field | field | field <;> simp [readSetting, Settings.setActiveProbe]
  | weight name => simp [readSetting, Settings.setActiveProbe]
  | probeBudget name' => simp [readSetting, Settings.setActiveProbe]

omit [Runtime F] in
@[simp]
theorem readSetting_setProbeBudget (settings : Settings F) (providerId : String)
    (budget : Int) (other : Setting) :
    readSetting (settings.setProbeBudget providerId budget) other =
      if .probeBudget providerId = other then some (.int budget)
      else readSetting settings other := by
  cases other with
  | probeBudget providerId' =>
      by_cases h : providerId = providerId' <;>
        simp [readSetting, Settings.setProbeBudget, dictGet_dictSet, h]
  | scalar scalar =>
      rcases scalar with field | field | field <;> simp [readSetting, Settings.setProbeBudget]
  | weight name => simp [readSetting, Settings.setProbeBudget]
  | activeProbe name' => simp [readSetting, Settings.setProbeBudget]

omit [Runtime F] in
@[simp]
theorem readSetting_setWeight (settings : Settings F) (name : String) (weight : F)
    (other : Setting) :
    readSetting (settings.setWeight name weight) other =
      if .weight name = other then some (.float weight) else readSetting settings other := by
  cases other with
  | weight name' =>
      by_cases h : name = name' <;>
        simp [readSetting, Settings.setWeight, dictGet_dictSet, h]
  | scalar scalar =>
      rcases scalar with field | field | field <;> simp [readSetting, Settings.setWeight]
  | activeProbe name' => simp [readSetting, Settings.setWeight]
  | probeBudget name' => simp [readSetting, Settings.setWeight]

/-! ## The three phases -/

/-- The first phase writes scalar settings. -/
theorem step_applyScalar (overrides : List (String × PyValue F)) :
    Step readSetting (scalarTarget overrides) (applyScalar overrides) where
  ok_iff settings scalar := by
    unfold applyScalar scalarTarget
    cases hraw : dictGet overrides scalar.key with
    | none => simp
    | some raw =>
        rcases scalar with setting | setting | setting
        · cases hint : raw.toInt <;> simp [Setting.coerce, hint, Except.map]
        · simp [Setting.coerce]
        · simp [Setting.coerce]
  read_step settings scalar settings' other h := by
    unfold applyScalar at h
    unfold scalarTarget
    cases hraw : dictGet overrides scalar.key with
    | none =>
        rw [hraw] at h
        cases h
        rfl
    | some raw =>
        rw [hraw] at h
        rcases scalar with setting | setting | setting
        · cases hint : raw.toInt with
          | error exc => simp [hint, Except.map] at h
          | ok n =>
              simp only [hint, Except.map, Except.ok.injEq] at h
              subst h
              simp [Setting.coerce, hint, Except.map]
        · cases h
          simp [Setting.coerce]
        · cases h
          simp [Setting.coerce]

/-- The second phase writes settings of providers. -/
theorem step_applyProviderOverride :
    Step readSetting (providerTarget (F := F)) applyProviderOverride where
  ok_iff settings entry := by
    unfold applyProviderOverride providerTarget
    cases hprobe : providerFromActiveProbeKey entry.1 with
    | some providerId => simp [Setting.coerce]
    | none =>
        cases hbudget : providerFromProbeBudgetKey entry.1 with
        | none => simp
        | some providerId =>
            cases hint : entry.2.toInt <;> simp [Setting.coerce, hint, Except.map]
  read_step settings entry settings' other h := by
    unfold applyProviderOverride at h
    unfold providerTarget
    cases hprobe : providerFromActiveProbeKey entry.1 with
    | some providerId =>
        rw [hprobe] at h
        cases h
        simp [Setting.coerce]
    | none =>
        rw [hprobe] at h
        cases hbudget : providerFromProbeBudgetKey entry.1 with
        | none =>
            rw [hbudget] at h
            cases h
            rfl
        | some providerId =>
            rw [hbudget] at h
            cases hint : entry.2.toInt with
            | error exc => simp [hint, Except.map] at h
            | ok n =>
                simp only [hint, Except.map, Except.ok.injEq] at h
                subst h
                simp [Setting.coerce, hint, Except.map]

/-- The third phase writes ranking weights. -/
theorem step_applyWeight (overrides : List (String × PyValue F)) :
    Step readSetting (weightTarget overrides) (applyWeight overrides) where
  ok_iff settings name := by
    unfold applyWeight weightTarget
    cases hraw : dictGet overrides ("ranking.weights." ++ name) with
    | none => simp
    | some raw => cases hfloat : raw.toFloat <;> simp [Setting.coerce, hfloat, Except.map]
  read_step settings name settings' other h := by
    unfold applyWeight at h
    unfold weightTarget
    cases hraw : dictGet overrides ("ranking.weights." ++ name) with
    | none =>
        rw [hraw] at h
        cases h
        rfl
    | some raw =>
        rw [hraw] at h
        cases hfloat : raw.toFloat with
        | error exc => simp [hfloat, Except.map] at h
        | ok x =>
            simp only [hfloat, Except.map, Except.ok.injEq] at h
            subst h
            simp [Setting.coerce, hfloat, Except.map]

theorem applyOverrides_eq_ok_iff {settings settings' : Settings F}
    {overrides : List (String × PyValue F)} :
    applyOverrides settings overrides = .ok settings' ↔
      ∃ s₁ s₂, Scalar.all.foldlM (applyScalar overrides) settings = .ok s₁ ∧
        overrides.foldlM applyProviderOverride s₁ = .ok s₂ ∧
        rankingWeightNames.foldlM (applyWeight overrides) s₂ = .ok settings' := by
  unfold applyOverrides
  simp only [bind, Except.bind]
  cases Scalar.all.foldlM (applyScalar overrides) settings with
  | error exc => simp
  | ok s₁ =>
      dsimp only
      cases hprovider : overrides.foldlM applyProviderOverride s₁ with
      | error exc => simp [hprovider]
      | ok s₂ => simp [hprovider]

/-- The first phase writes a scalar setting when its key is overridden. -/
theorem scalarTarget_eq_some_iff {overrides : List (String × PyValue F)} {scalar : Scalar}
    {setting : Setting} {value : Except Exc (SettingValue F)} :
    scalarTarget overrides scalar = some (setting, value) ↔
      setting = .scalar scalar ∧
        ∃ raw, dictGet overrides scalar.key = some raw ∧ setting.coerce raw = value := by
  unfold scalarTarget
  rw [Option.map_eq_some_iff]
  constructor
  · rintro ⟨raw, hraw, h⟩
    cases h
    exact ⟨rfl, raw, hraw, rfl⟩
  · rintro ⟨rfl, raw, hraw, rfl⟩
    exact ⟨raw, hraw, rfl⟩

/-- The third phase writes a ranking weight when its key is overridden. -/
theorem weightTarget_eq_some_iff {overrides : List (String × PyValue F)} {name : String}
    {setting : Setting} {value : Except Exc (SettingValue F)} :
    weightTarget overrides name = some (setting, value) ↔
      setting = .weight name ∧
        ∃ raw, dictGet overrides ("ranking.weights." ++ name) = some raw ∧
          setting.coerce raw = value := by
  unfold weightTarget
  rw [Option.map_eq_some_iff]
  constructor
  · rintro ⟨raw, hraw, h⟩
    cases h
    exact ⟨rfl, raw, hraw, rfl⟩
  · rintro ⟨rfl, raw, hraw, rfl⟩
    exact ⟨raw, hraw, rfl⟩

/-- The second phase writes the setting of a provider that a key names. -/
theorem providerTarget_eq_some_iff {entry : String × PyValue F} {setting : Setting}
    {value : Except Exc (SettingValue F)} :
    providerTarget entry = some (setting, value) ↔
      setting.OfProvider ∧ settingOfKey entry.1 = some setting ∧
        setting.coerce entry.2 = value := by
  constructor
  · intro h
    unfold providerTarget at h
    cases hprobe : providerFromActiveProbeKey entry.1 with
    | some providerId =>
        rw [hprobe] at h
        cases h
        rw [settingOfKey_of_provider (.inl (by rw [hprobe]; rfl)), hprobe]
        exact ⟨.inl ⟨providerId, rfl⟩, rfl, rfl⟩
    | none =>
        rw [hprobe] at h
        obtain ⟨providerId, hbudget, h⟩ := Option.map_eq_some_iff.mp h
        cases h
        rw [settingOfKey_of_provider (.inr (by rw [hbudget]; rfl)), hprobe, hbudget]
        exact ⟨.inr ⟨providerId, rfl⟩, rfl, rfl⟩
  · rintro ⟨hprovider, hsetting, rfl⟩
    rw [settingOfKey_eq_provider_iff hprovider] at hsetting
    unfold providerTarget
    cases hprobe : providerFromActiveProbeKey entry.1 with
    | some providerId =>
        rw [hprobe] at hsetting
        cases hsetting
        rfl
    | none =>
        rw [hprobe] at hsetting
        obtain ⟨providerId, hbudget, rfl⟩ := Option.map_eq_some_iff.mp hsetting
        rw [hbudget]
        rfl

/-- Overrides apply exactly when every override that names a setting can be coerced. -/
theorem applyOverrides_ok_iff (settings : Settings F) {overrides : List (String × PyValue F)}
    (hnodup : (overrides.map Prod.fst).Nodup) :
    (∃ settings', applyOverrides settings overrides = .ok settings') ↔
      ∀ entry ∈ overrides, Coercible entry.1 entry.2 := by
  have hscalars := foldlM_ok_iff (step_applyScalar overrides).ok_iff Scalar.all
  have hproviders := foldlM_ok_iff (step_applyProviderOverride (F := F)).ok_iff overrides
  have hweights := foldlM_ok_iff (step_applyWeight overrides).ok_iff rankingWeightNames
  constructor
  · rintro ⟨settings', h⟩ ⟨key, raw⟩ hentry setting hsetting
    obtain ⟨s₁, s₂, h₁, h₂, h₃⟩ := applyOverrides_eq_ok_iff.mp h
    have hraw := (dictGet_eq_some_iff hnodup).mpr hentry
    cases setting with
    | scalar scalar =>
        rw [settingOfKey_eq_scalar_iff] at hsetting
        subst hsetting
        exact (hscalars settings).mp ⟨s₁, h₁⟩ scalar (key_mem_all scalar) _ _
          (scalarTarget_eq_some_iff.mpr ⟨rfl, raw, hraw, rfl⟩)
    | weight name =>
        obtain ⟨hname, hkey⟩ := settingOfKey_eq_weight_iff.mp hsetting
        subst hkey
        exact (hweights s₂).mp ⟨settings', h₃⟩ name hname _ _
          (weightTarget_eq_some_iff.mpr ⟨rfl, raw, hraw, rfl⟩)
    | activeProbe providerId =>
        exact (hproviders s₁).mp ⟨s₂, h₂⟩ (key, raw) hentry _ _
          (providerTarget_eq_some_iff.mpr ⟨.inl ⟨providerId, rfl⟩, hsetting, rfl⟩)
    | probeBudget providerId =>
        exact (hproviders s₁).mp ⟨s₂, h₂⟩ (key, raw) hentry _ _
          (providerTarget_eq_some_iff.mpr ⟨.inr ⟨providerId, rfl⟩, hsetting, rfl⟩)
  · intro h
    obtain ⟨s₁, h₁⟩ := (hscalars settings).mpr (by
      intro scalar _ setting value htarget
      obtain ⟨rfl, raw, hraw, rfl⟩ := scalarTarget_eq_some_iff.mp htarget
      exact h _ ((dictGet_eq_some_iff hnodup).mp hraw) _ (settingOfKey_key scalar))
    obtain ⟨s₂, h₂⟩ := (hproviders s₁).mpr (by
      intro entry hentry setting value htarget
      obtain ⟨-, hsetting, rfl⟩ := providerTarget_eq_some_iff.mp htarget
      exact h entry hentry setting hsetting)
    obtain ⟨s₃, h₃⟩ := (hweights s₂).mpr (by
      intro name hname setting value htarget
      obtain ⟨rfl, raw, hraw, rfl⟩ := weightTarget_eq_some_iff.mp htarget
      exact h _ ((dictGet_eq_some_iff hnodup).mp hraw) _ (settingOfKey_weight hname))
    exact ⟨s₃, applyOverrides_eq_ok_iff.mpr ⟨s₁, s₂, h₁, h₂, h₃⟩⟩

/-! ## The effective value -/

/-- The value of the last override that names a setting. -/
def lastNaming (overrides : List (String × PyValue F)) (setting : Setting) :
    Option (PyValue F) :=
  (overrides.filter fun entry => decide (settingOfKey entry.1 = some setting)).getLast?.map
    Prod.snd

omit [Runtime F] in
/-- Overrides with different keys name a setting with a fixed key at most once. -/
theorem lastNaming_of_key {overrides : List (String × PyValue F)} {setting : Setting}
    {key : String} (hnodup : (overrides.map Prod.fst).Nodup)
    (hkey : ∀ other, settingOfKey other = some setting ↔ key = other) :
    lastNaming overrides setting = dictGet overrides key := by
  unfold lastNaming
  have hfilter : (overrides.filter fun entry =>
      decide (settingOfKey entry.1 = some setting)) =
      ((dictGet overrides key).map fun raw => (key, raw)).toList := by
    induction overrides with
    | nil => rfl
    | cons entry rest ih =>
        rw [List.map_cons, List.nodup_cons] at hnodup
        have hrest := ih hnodup.2
        rw [List.filter_cons, dictGet_cons, hrest]
        by_cases hentry : entry.1 = key
        · have habsent : dictGet rest key = none := by
            cases hget : dictGet rest key with
            | none => rfl
            | some raw =>
                have hmem := (dictGet_eq_some_iff hnodup.2).mp hget
                exact absurd (List.mem_map.mpr ⟨_, hmem, hentry.symm⟩) hnodup.1
          obtain ⟨_, raw⟩ := entry
          subst hentry
          have hnames := (hkey _).mpr rfl
          simp [habsent, hnames]
        · have hnames : ¬ settingOfKey entry.1 = some setting := fun h =>
            hentry ((hkey _).mp h).symm
          simp [hentry, hnames]
  rw [hfilter]
  cases dictGet overrides key <;> rfl

/-- The first phase writes scalar settings only. -/
theorem scalarTarget_ne {overrides : List (String × PyValue F)} {setting : Setting}
    {scalar : Scalar} (h : setting ≠ .scalar scalar) (value : Except Exc (SettingValue F)) :
    scalarTarget overrides scalar ≠ some (setting, value) := by
  intro htarget
  exact h (scalarTarget_eq_some_iff.mp htarget).1

/-- The third phase writes ranking weights only. -/
theorem weightTarget_ne {overrides : List (String × PyValue F)} {setting : Setting}
    {name : String} (h : setting ≠ .weight name) (value : Except Exc (SettingValue F)) :
    weightTarget overrides name ≠ some (setting, value) := by
  intro htarget
  exact h (weightTarget_eq_some_iff.mp htarget).1

/-- The second phase writes settings of providers only. -/
theorem providerTarget_ne {setting : Setting} (h : ¬ setting.OfProvider)
    (entry : String × PyValue F) (value : Except Exc (SettingValue F)) :
    providerTarget entry ≠ some (setting, value) := by
  intro htarget
  exact h (providerTarget_eq_some_iff.mp htarget).1

/-- An override of the second phase writes the setting its key names. -/
theorem written_providerTarget (entry : String × PyValue F) {setting : Setting}
    (hprovider : setting.OfProvider) :
    written setting (providerTarget entry) =
      if settingOfKey entry.1 = some setting then (setting.coerce entry.2).toOption
      else none := by
  by_cases hsetting : settingOfKey entry.1 = some setting
  · rw [if_pos hsetting, providerTarget_eq_some_iff.mpr ⟨hprovider, hsetting, rfl⟩,
      written_self]
  · rw [if_neg hsetting]
    apply written_of_ne
    intro value htarget
    exact hsetting (providerTarget_eq_some_iff.mp htarget).2.1

/-- The second phase leaves the coerced value of the last override that names a setting. -/
theorem getLast?_providerTarget {overrides : List (String × PyValue F)} {setting : Setting}
    (hprovider : setting.OfProvider)
    (hcoercible : ∀ entry ∈ overrides, Coercible entry.1 entry.2) :
    (overrides.filterMap fun entry => written setting (providerTarget entry)).getLast? =
      (lastNaming overrides setting).bind fun raw => (setting.coerce raw).toOption := by
  have hfilter : (overrides.filterMap fun entry => written setting (providerTarget entry)) =
      (overrides.filter fun entry => decide (settingOfKey entry.1 = some setting)).filterMap
        fun entry => (setting.coerce entry.2).toOption := by
    rw [List.filterMap_filter]
    apply List.filterMap_congr
    intro entry _
    rw [written_providerTarget entry hprovider]
    by_cases h : settingOfKey entry.1 = some setting <;> simp [h]
  rw [hfilter, getLast?_filterMap, lastNaming]
  · cases (overrides.filter fun entry =>
      decide (settingOfKey entry.1 = some setting)).getLast? <;> rfl
  · intro entry hentry
    obtain ⟨hmem, hnames⟩ := List.mem_filter.mp hentry
    obtain ⟨value, hok⟩ := hcoercible entry hmem setting (of_decide_eq_true hnames)
    rw [hok]
    rfl

/-- The first phase leaves the coerced value of the override of a scalar setting. -/
theorem getLast?_scalarTarget {overrides : List (String × PyValue F)} (scalar : Scalar)
    (hnodup : (overrides.map Prod.fst).Nodup) :
    (Scalar.all.filterMap fun other =>
        written (.scalar scalar) (scalarTarget overrides other)).getLast? =
      (lastNaming overrides (.scalar scalar)).bind fun raw =>
        ((Setting.scalar scalar).coerce raw).toOption := by
  have honly := filterMap_of_unique (f := fun other =>
    written (.scalar scalar) (scalarTarget overrides other)) (l := Scalar.all)
    (by decide) (key_mem_all scalar) fun other _ hne =>
      written_of_ne (scalarTarget_ne (by simpa using Ne.symm hne))
  rw [honly, lastNaming_of_key hnodup fun _ => settingOfKey_eq_scalar_iff]
  unfold scalarTarget
  cases dictGet overrides scalar.key with
  | none => rfl
  | some raw =>
      rw [Option.map_some, written_self, Option.bind_some]
      cases ((Setting.scalar scalar).coerce raw).toOption <;> rfl

/-- The third phase leaves the coerced value of the override of a ranking weight. -/
theorem getLast?_weightTarget {overrides : List (String × PyValue F)} (name : String)
    (hnodup : (overrides.map Prod.fst).Nodup) :
    (rankingWeightNames.filterMap fun other =>
        written (.weight name) (weightTarget overrides other)).getLast? =
      (lastNaming overrides (.weight name)).bind fun raw =>
        ((Setting.weight name).coerce raw).toOption := by
  by_cases hname : name ∈ rankingWeightNames
  · have honly := filterMap_of_unique (f := fun other =>
      written (.weight name) (weightTarget overrides other)) (l := rankingWeightNames)
      (by decide) hname fun other _ hne =>
        written_of_ne (weightTarget_ne (by simpa using Ne.symm hne))
    have hkey : ∀ other, settingOfKey other = some (.weight name) ↔
        "ranking.weights." ++ name = other := by
      intro other
      rw [settingOfKey_eq_weight_iff, and_iff_right hname]
    rw [honly, lastNaming_of_key hnodup hkey]
    unfold weightTarget
    cases dictGet overrides ("ranking.weights." ++ name) with
    | none => rfl
    | some raw =>
        rw [Option.map_some, written_self, Option.bind_some]
        cases ((Setting.weight name).coerce raw).toOption <;> rfl
  · -- a weight that the ranking does not know is neither written nor named
    have hunwritten : rankingWeightNames.filterMap
        (fun other => written (.weight name) (weightTarget overrides other)) = [] := by
      apply filterMap_written_of_ne
      intro other hother
      apply weightTarget_ne
      rintro h
      cases h
      exact hname hother
    have hunnamed : lastNaming overrides (.weight name) = none := by
      unfold lastNaming
      rw [List.filter_eq_nil_iff.mpr]
      · rfl
      · intro entry _ h
        exact hname (settingOfKey_eq_weight_iff.mp (of_decide_eq_true h)).1
    rw [hunwritten, hunnamed]
    rfl

/-- A setting takes the coerced value of the last override that names it, and keeps its
value when there is none. -/
theorem readSetting_applyOverrides {settings settings' : Settings F}
    {overrides : List (String × PyValue F)} (hnodup : (overrides.map Prod.fst).Nodup)
    (h : applyOverrides settings overrides = .ok settings') (setting : Setting) :
    readSetting settings' setting =
      match lastNaming overrides setting with
      | some raw => (setting.coerce raw).toOption
      | none => readSetting settings setting := by
  have hcoercible := (applyOverrides_ok_iff settings hnodup).mp ⟨settings', h⟩
  obtain ⟨s₁, s₂, h₁, h₂, h₃⟩ := applyOverrides_eq_ok_iff.mp h
  rw [read_foldlM (step_applyWeight overrides) h₃ setting,
    read_foldlM step_applyProviderOverride h₂ setting,
    read_foldlM (step_applyScalar overrides) h₁ setting]
  -- the last naming override can be coerced, so a phase that writes it decides
  have hdecides : ((lastNaming overrides setting).bind fun raw =>
      (setting.coerce raw).toOption).or (readSetting settings setting) =
      match lastNaming overrides setting with
      | some raw => (setting.coerce raw).toOption
      | none => readSetting settings setting := by
    cases hraw : lastNaming overrides setting with
    | none => rfl
    | some raw =>
        unfold lastNaming at hraw
        obtain ⟨entry, hlast, rfl⟩ := Option.map_eq_some_iff.mp hraw
        have hmem := List.mem_filter.mp (List.mem_of_getLast? hlast)
        obtain ⟨value, hok⟩ := hcoercible entry hmem.1 setting (of_decide_eq_true hmem.2)
        rw [Option.bind_some]
        dsimp only
        rw [hok]
        rfl
  have hnoWeight : ∀ name ∈ rankingWeightNames, setting ≠ .weight name →
      ∀ value, weightTarget overrides name ≠ some (setting, value) :=
    fun name _ hne => weightTarget_ne hne
  cases setting with
  | scalar scalar =>
      rw [← hdecides, ← getLast?_scalarTarget scalar hnodup,
        filterMap_written_of_ne fun name hname => hnoWeight name hname (by simp),
        filterMap_written_of_ne fun entry _ => providerTarget_ne (by simp [Setting.OfProvider])
          entry]
      rfl
  | weight name =>
      rw [← hdecides, ← getLast?_weightTarget name hnodup,
        filterMap_written_of_ne fun entry _ => providerTarget_ne (by simp [Setting.OfProvider])
          entry,
        filterMap_written_of_ne fun scalar _ => scalarTarget_ne (by simp)]
      rfl
  | activeProbe providerId =>
      rw [← hdecides, ← getLast?_providerTarget (.inl ⟨providerId, rfl⟩) hcoercible,
        filterMap_written_of_ne fun name hname => hnoWeight name hname (by simp),
        filterMap_written_of_ne fun scalar _ => scalarTarget_ne (by simp)]
      rfl
  | probeBudget providerId =>
      rw [← hdecides, ← getLast?_providerTarget (.inr ⟨providerId, rfl⟩) hcoercible,
        filterMap_written_of_ne fun name hname => hnoWeight name hname (by simp),
        filterMap_written_of_ne fun scalar _ => scalarTarget_ne (by simp)]
      rfl

/-- Overrides do not touch the key for `openrouter`. -/
theorem openrouterApiKey_applyOverrides {settings settings' : Settings F}
    {overrides : List (String × PyValue F)}
    (h : applyOverrides settings overrides = .ok settings') :
    settings'.openrouterApiKey = settings.openrouterApiKey := by
  obtain ⟨s₁, s₂, hscalar, hprovider, hweight⟩ := applyOverrides_eq_ok_iff.mp h
  have hfirst : s₁.openrouterApiKey = settings.openrouterApiKey := by
    refine view_foldlM Settings.openrouterApiKey ?_ hscalar
    intro s scalar s' hs
    unfold applyScalar at hs
    split at hs
    · cases hs
      rfl
    · split at hs
      · obtain ⟨n, -, rfl⟩ := map_ok_iff.mp hs
        rfl
      · cases hs
        rfl
      · cases hs
        rfl
  have hsecond : s₂.openrouterApiKey = s₁.openrouterApiKey := by
    refine view_foldlM Settings.openrouterApiKey ?_ hprovider
    intro s entry s' hs
    unfold applyProviderOverride at hs
    split at hs
    · cases hs
      rfl
    · split at hs
      · obtain ⟨n, -, rfl⟩ := map_ok_iff.mp hs
        rfl
      · cases hs
        rfl
  have hthird : settings'.openrouterApiKey = s₂.openrouterApiKey := by
    refine view_foldlM Settings.openrouterApiKey ?_ hweight
    intro s name s' hs
    unfold applyWeight at hs
    split at hs
    · cases hs
      rfl
    · obtain ⟨x, -, rfl⟩ := map_ok_iff.mp hs
      rfl
  rw [hthird, hsecond, hfirst]

omit [Runtime F] in
/-- Secrets are no settings that an override names. -/
theorem readSetting_applyManagedSecrets (settings : Settings F)
    (secrets : List (String × String)) (setting : Setting) :
    readSetting (settings.applyManagedSecrets secrets) setting = readSetting settings setting := by
  unfold Settings.applyManagedSecrets
  refine List.foldlRecOn (motive := fun current =>
    readSetting current setting = readSetting settings setting) _ _ ?_ ?_
  · split <;> rfl
  · intro current hcurrent providerId _
    split
    · exact hcurrent
    · split
      · exact hcurrent
      · exact hcurrent

omit [Runtime F] in
/-- The accessor answers with the setting that was read. -/
theorem isProviderActiveProbeEnabled_of_read {settings : Settings F} {key providerId : String}
    {enabled : Bool} (hkey : providerFromActiveProbeKey key = some providerId)
    (h : readSetting settings (.activeProbe providerId) = some (.bool enabled)) :
    settings.isProviderActiveProbeEnabled providerId = enabled := by
  obtain ⟨hstripped, hne⟩ := stripped_of_providerBetween hkey
  obtain ⟨b, hget, hb⟩ := Option.map_eq_some_iff.mp h
  cases hb
  unfold Settings.isProviderActiveProbeEnabled
  dsimp only
  rw [hstripped, hget]
  simp [hne]

end Overrides

end Runtime
end FreeLunch
