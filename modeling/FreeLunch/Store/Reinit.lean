import FreeLunch.Store.Schema
import FreeLunch.Python.Exact

/-!
# Initialising a database again

`Database.init` of `src/db.py`, run again on what an interrupted run has left.  The scripts of the
first two migrations can be run again from each of their statements, and the other migrations are
committed together with their versions.

Main results:

- Theorem `sameSchema_upgrade`: the migrations on databases with the same schema end with the same
  schema, whatever the rows.
- Theorems `rerunnable_createTables`, `rerunnable_indexes`, `resumable_plan`: the scripts can be run
  again, and the migrations can be resumed.
- Theorem `init_resumes`: `init` on an interrupted database ends like one uninterrupted run, and
  `init` on the result changes nothing.
-/

namespace FreeLunch
namespace Store
namespace Schema

open Python Reruns Writes

/-! ## Databases that are alike -/

section Alike

variable {F F' : Type}

/-- The versions in `schema_migrations`, where it exists. -/
def Database.versions? (db : Database F) : Option (List Int) :=
  db.schemaMigrations.map fun rows => rows.map AppliedVersion.version

/-- The same versions, and related tables. -/
structure Alike (R : Tables F → Tables F' → Prop) (a : Database F) (b : Database F') : Prop where
  versions : a.versions? = b.versions?
  store : R a.store b.store

theorem appliedVersions_eq (db : Database F) :
    db.appliedVersions = db.versions?.getD [] := by
  unfold Database.appliedVersions Database.versions?
  cases db.schemaMigrations <;> rfl

theorem Alike.recorded {R : Tables F → Tables F' → Prop} {a : Database F} {b : Database F'}
    (h : Alike R a b) : recorded a = recorded b := by
  unfold Schema.recorded
  rw [appliedVersions_eq, appliedVersions_eq, h.versions]

theorem Alike.withSchemaMigrations {R : Tables F → Tables F' → Prop} {a : Database F}
    {b : Database F'} (h : Alike R a b) :
    Alike R (withSchemaMigrations a) (withSchemaMigrations b) where
  versions := by
    change some a.appliedVersions = some b.appliedVersions
    rw [appliedVersions_eq, appliedVersions_eq, h.versions]
  store := h.store

/-- Changes of related tables are changes of databases that are alike. -/
theorem simulates_onTables {R : Tables F → Tables F' → Prop}
    {f : Tables F → Except SqlError (Tables F)} {g : Tables F' → Except SqlError (Tables F')}
    (h : Simulates R f g) : Simulates (Alike R) (onTables f) (onTables g) := by
  intro a b c hab hc
  obtain ⟨store, hstore, hsame⟩ := map_ok_iff.mp hc
  obtain ⟨store', hstore', hrelated⟩ := h a.store b.store store hab.store hstore
  subst hsame
  refine ⟨{ b with store := store' }, map_ok_iff.mpr ⟨store', hstore', rfl⟩, ?_⟩
  exact { versions := hab.versions, store := hrelated }

/-- Whether a version can be recorded depends on the versions only. -/
theorem insertVersion_ok {now : Int → String} {version : Int} {db d : Database F} :
    insertVersion now version db = .ok d ↔
      db.versions?.any (fun versions => !versions.contains version) = true ∧
        d = { db with
          schemaMigrations := some (db.schemaMigrations.getD [] ++ [⟨version, now version⟩]) } := by
  unfold insertVersion Database.versions?
  cases db.schemaMigrations with
  | none => simp
  | some rows =>
      have hcontains : (rows.map AppliedVersion.version).contains version =
          rows.any fun row => row.version == version := by
        rw [List.contains_eq_any_beq, List.any_map]
        congr 1
        funext row
        exact Bool.beq_comm
      rw [Option.map_some, Option.any_some, hcontains]
      dsimp only
      cases rows.any fun row => row.version == version with
      | true => simp
      | false => simp [eq_comm]

/-- The clock is not read. -/
theorem simulates_insertVersion {R : Tables F → Tables F' → Prop} (now now' : Int → String)
    (version : Int) :
    Simulates (Alike R) (insertVersion now version) (insertVersion now' version) := by
  intro a b c hab hc
  obtain ⟨hnew, hc⟩ := insertVersion_ok.mp hc
  rw [hab.versions] at hnew
  refine ⟨_, insertVersion_ok.mpr ⟨hnew, rfl⟩, ?_⟩
  subst hc
  refine { versions := ?_, store := hab.store }
  change some (List.map _ (_ ++ _)) = some (List.map _ (_ ++ _))
  rw [List.map_append, List.map_append]
  congr 2
  exact (appliedVersions_eq a).trans ((congrArg (·.getD []) hab.versions).trans
    (appliedVersions_eq b).symm)

/-- Recording a version adds it. -/
theorem records_insertVersion (now : Int → String) :
    Records (recorded (F := F)) (insertVersion now) := by
  intro version db d h other
  obtain ⟨-, hd⟩ := insertVersion_ok.mp h
  subst hd
  unfold recorded Database.appliedVersions
  dsimp only
  rw [Option.getD_some, List.map_append, List.contains_append, Bool.or_comm]
  congr 1
  rw [List.map_singleton, List.contains_cons, List.contains_nil, Bool.or_false]
  exact beq_eq_decide ..

end Alike

/-! ## The versions are kept -/

section Kept

variable {F : Type}

/-- A change that leaves `schema_migrations` as it is. -/
def KeepsVersions (change : Database F → Except SqlError (Database F)) : Prop :=
  ∀ db d, change db = .ok d → d.schemaMigrations = db.schemaMigrations

theorem keepsVersions_onTables (change : Tables F → Except SqlError (Tables F)) :
    KeepsVersions (onTables change) := by
  intro db d h
  obtain ⟨store, -, hd⟩ := map_ok_iff.mp h
  subst hd
  rfl

theorem keepsVersions_runScript {statements : List (Database F → Except SqlError (Database F))}
    (h : ∀ statement ∈ statements, KeepsVersions statement) :
    KeepsVersions (runScript statements) := by
  intro db d hrun
  refine runScript_invariant (P := fun other => other.schemaMigrations = db.schemaMigrations)
    ?_ hrun rfl
  intro statement hmem before after hafter hbefore
  exact (h statement hmem before after hafter).trans hbefore

variable [Runtime F]

/-- Every migration leaves `schema_migrations` as it is. -/
theorem keeps_plan {m : Int × Migration (Database F) SqlError} (hmem : m ∈ plan F)
    (P : Option (List AppliedVersion) → Prop) : m.2.Keeps fun db => P db.schemaMigrations := by
  have hscript : ∀ statements : List Statement, ∀ statement ∈ statements.map Statement.exec,
      ∀ db d : Database F, statement db = .ok d → P db.schemaMigrations →
        P d.schemaMigrations := by
    intro statements statement hstatement db d h hdb
    obtain ⟨source, -, rfl⟩ := List.mem_map.mp hstatement
    rw [keepsVersions_onTables _ db d h]
    exact hdb
  have hinside : ∀ {change : Database F → Except SqlError (Database F)}, KeepsVersions change →
      (Migration.inside change).Keeps fun db => P db.schemaMigrations := by
    intro change hchange db d h hdb
    rw [hchange db d h]
    exact hdb
  revert m
  unfold plan
  simp only [List.forall_mem_cons, List.not_mem_nil, false_implies, implies_true, and_true]
  refine ⟨hscript baseScript, hscript indexScript, hinside ?_, hinside ?_,
    hinside (keepsVersions_onTables _), hinside ?_, hinside (keepsVersions_onTables _),
    hinside (keepsVersions_onTables _), hinside (keepsVersions_onTables _)⟩
  all_goals
    refine keepsVersions_runScript ?_
    simp only [List.map_cons, List.map_nil, List.forall_mem_cons, List.not_mem_nil,
      false_implies, implies_true, and_true]
    repeat' first | exact keepsVersions_onTables _ | constructor

end Kept

/-! ## Simulation of the migrations -/

/-- An update that sets no column to null. -/
def Update.NeverNull (update : Update) : Prop :=
  ∀ (F : Type) [Runtime F] (read : String → SqlValue F), update.condition.holds read = true →
    (update.value.eval read).isNull = false

/-- A statement that sets no column to null. -/
def Statement.NeverNull : Statement → Prop
  | .update change => change.NeverNull
  | _ => True

theorem neverNull_canonicalTimestamps (table column : String) :
    (canonicalTimestamps table column).NeverNull := by
  intro F _ read h
  change ((read column).toTextColumn).any _ = true at h
  change ((SqlExpr.concat (.replace (.column column) " " "T") (.text "Z")).eval read).isNull = false
  cases htext : (read column).toTextColumn with
  | none =>
      rw [htext] at h
      exact nomatch h
  | some s =>
      simp only [SqlExpr.eval, htext]
      rfl

theorem neverNull_fillProviderRank : fillProviderRank.NeverNull := by
  intro F _ read h
  obtain ⟨-, hrank⟩ := (Bool.and_eq_true _ _).mp h
  exact (Bool.not_eq_true' _).mp hrank

section Simulation

variable {F F' : Type} [Runtime F] [Runtime F']

/-- Runs of the migrations go alike where each of their statements does. -/
theorem simulates_plan {R : Tables F → Tables F' → Prop}
    (hstatement : ∀ statement : Statement, statement.NeverNull →
      Simulates R (fun store => statement.apply store) (fun store => statement.apply store))
    (hadd : ∀ table column, Simulates R (addMissing table column) (addMissing table column)) :
    List.Forall₂ (fun m m' => m.1 = m'.1 ∧ Simulates (Alike R) m.2.effect m'.2.effect)
      (plan F) (plan F') := by
  have hexec : ∀ statement : Statement, statement.NeverNull →
      Simulates (Alike R) statement.exec statement.exec :=
    fun statement hnever => simulates_onTables (hstatement statement hnever)
  have hscript : ∀ statements : List Statement, (∀ statement ∈ statements, statement.NeverNull) →
      Simulates (Alike R) (runScript (statements.map Statement.exec))
        (runScript (statements.map Statement.exec)) := by
    intro statements hnever
    refine simulates_runScript ?_
    rw [List.forall₂_map_left_iff, List.forall₂_map_right_iff, List.forall₂_same]
    exact fun statement hmem => hexec statement (hnever statement hmem)
  have haddExec : ∀ table column, Simulates (Alike R) (onTables (addMissing table column))
      (onTables (addMissing table column)) :=
    fun table column => simulates_onTables (hadd table column)
  unfold plan
  refine .cons ⟨rfl, hscript _ ?_⟩ <| .cons ⟨rfl, hscript _ ?_⟩ <|
    .cons ⟨rfl, hscript _ ?_⟩ <| .cons ⟨rfl, simulates_runScript ?_⟩ <|
    .cons ⟨rfl, haddExec _ _⟩ <| .cons ⟨rfl, simulates_runScript ?_⟩ <|
    .cons ⟨rfl, hexec _ trivial⟩ <| .cons ⟨rfl, hexec _ trivial⟩ <|
    .cons ⟨rfl, hexec _ trivial⟩ .nil
  · exact List.forall_mem_map.mpr fun _ _ => trivial
  · unfold indexScript
    rw [List.forall_mem_append]
    exact ⟨List.forall_mem_map.mpr fun _ _ => trivial, List.forall_mem_map.mpr fun _ _ => trivial⟩
  · rw [List.forall_mem_cons, List.forall_mem_singleton]
    exact ⟨neverNull_canonicalTimestamps _ _, neverNull_canonicalTimestamps _ _⟩
  · exact .cons (haddExec _ _) (.cons (haddExec _ _) (.cons (haddExec _ _) .nil))
  · exact .cons (haddExec _ _) (.cons (hexec _ neverNull_fillProviderRank) .nil)

end Simulation

/-! ## Databases with the same schema -/

section SameSchema

variable {F F' : Type}

def Tables.schemas (store : Tables F) : List TableSchema :=
  store.tables.map Table.schema

/-- The same tables and indexes, whatever the rows. -/
structure SameSchema (store : Tables F) (store' : Tables F') : Prop where
  schemas : store.schemas = store'.schemas
  indexes : store.indexes = store'.indexes

theorem table?_schema (store : Tables F) (name : String) :
    (store.table? name).map Table.schema =
      store.schemas.find? fun schema => schema.name == name := by
  unfold Tables.schemas
  rw [List.find?_map]
  rfl

theorem schemas_replace (store : Tables F) (name : String) (new : Table F) :
    (store.replace name new).schemas =
      store.schemas.map fun schema => if schema.name == name then new.schema else schema := by
  unfold Tables.schemas Tables.replace
  rw [List.map_map, List.map_map]
  refine List.map_congr_left fun table _ => ?_
  exact apply_ite Table.schema ..

variable {store : Tables F} {store' : Tables F'}

theorem SameSchema.table? (h : SameSchema store store') (name : String) :
    (store.table? name).map Table.schema = (store'.table? name).map Table.schema := by
  rw [table?_schema, table?_schema, h.schemas]

theorem SameSchema.isSome_table? (h : SameSchema store store') (name : String) :
    (store.table? name).isSome = (store'.table? name).isSome := by
  have hsame := congrArg Option.isSome (h.table? name)
  rwa [Option.isSome_map, Option.isSome_map] at hsame

theorem SameSchema.exists_table (h : SameSchema store store') {name : String} {table : Table F}
    (htable : store.table? name = some table) :
    ∃ table', store'.table? name = some table' ∧ table'.schema = table.schema := by
  have hsame := h.table? name
  rw [htable, Option.map_some] at hsame
  exact Option.map_eq_some_iff.mp hsame.symm

theorem SameSchema.hasIndex (h : SameSchema store store') (name : String) :
    store.hasIndex name = store'.hasIndex name := by
  unfold Tables.hasIndex
  rw [h.indexes]

theorem SameSchema.tableInfo (h : SameSchema store store') (name : String) :
    store.tableInfo name = store'.tableInfo name := by
  have hinfo : ∀ {F : Type} (store : Tables F), store.tableInfo name =
      (((store.table? name).map Table.schema).map fun schema =>
        schema.columns.map Column.name).getD [] := by
    intro F store
    unfold Tables.tableInfo
    cases store.table? name <;> rfl
  rw [hinfo, hinfo, h.table?]

theorem SameSchema.replace (h : SameSchema store store') (name : String) {new : Table F}
    {new' : Table F'} (hnew : new.schema = new'.schema) :
    SameSchema (store.replace name new) (store'.replace name new') where
  schemas := by rw [schemas_replace, schemas_replace, h.schemas, hnew]
  indexes := h.indexes

variable [Runtime F] [Runtime F']

theorem simulates_createTable (schema : TableSchema) :
    Simulates (SameSchema : Tables F → Tables F' → Prop)
      (fun store => (Statement.createTable schema).apply store)
      (fun store => (Statement.createTable schema).apply store) := by
  intro store store' d hsame h
  dsimp only [Statement.apply] at h ⊢
  rw [← hsame.isSome_table?, ← hsame.hasIndex]
  by_cases htable : (store.table? schema.name).isSome = true
  · rw [if_pos htable] at h ⊢
    cases h
    exact ⟨store', rfl, hsame⟩
  · rw [if_neg htable] at h ⊢
    by_cases hindex : store.hasIndex schema.name = true
    · rw [if_pos hindex] at h
      exact nomatch h
    · rw [if_neg hindex] at h ⊢
      cases h
      refine ⟨_, rfl, { schemas := ?_, indexes := hsame.indexes }⟩
      change List.map _ (_ ++ _) = List.map _ (_ ++ _)
      rw [List.map_append, List.map_append]
      exact congrArg (· ++ [schema]) hsame.schemas

theorem simulates_createIndex (index : Index) :
    Simulates (SameSchema : Tables F → Tables F' → Prop)
      (fun store => (Statement.createIndex index).apply store)
      (fun store => (Statement.createIndex index).apply store) := by
  intro store store' d hsame h
  dsimp only [Statement.apply] at h ⊢
  cases htable : store.table? index.table with
  | none =>
      rw [htable] at h
      exact nomatch h
  | some table =>
      obtain ⟨table', htable', hschema⟩ := hsame.exists_table htable
      rw [htable] at h
      rw [htable']
      dsimp only at h ⊢
      rw [← hsame.isSome_table?, ← hsame.hasIndex, hschema]
      by_cases hname : (store.table? index.name).isSome = true
      · rw [if_pos hname] at h
        exact nomatch h
      · rw [if_neg hname] at h ⊢
        by_cases hindex : store.hasIndex index.name = true
        · rw [if_pos hindex] at h ⊢
          cases h
          exact ⟨store', rfl, hsame⟩
        · rw [if_neg hindex] at h ⊢
          split at h
          · rename_i hcolumns
            rw [if_pos hcolumns]
            cases h
            refine ⟨_, rfl, { schemas := hsame.schemas, indexes := ?_ }⟩
            exact congrArg (· ++ [index]) hsame.indexes
          · exact nomatch h

theorem schema_addColumn (table : Table F) (column : Column) :
    (table.addColumn column).schema =
      { table.schema with columns := table.schema.columns ++ [column] } :=
  rfl

theorem simulates_addColumn (name : String) (column : Column) :
    Simulates (SameSchema : Tables F → Tables F' → Prop)
      (fun store => (Statement.addColumn name column).apply store)
      (fun store => (Statement.addColumn name column).apply store) := by
  intro store store' d hsame h
  dsimp only [Statement.apply] at h ⊢
  cases htable : store.table? name with
  | none =>
      rw [htable] at h
      exact nomatch h
  | some table =>
      obtain ⟨table', htable', hschema⟩ := hsame.exists_table htable
      rw [htable] at h
      rw [htable']
      dsimp only at h ⊢
      rw [hschema]
      by_cases hpresent : (table.schema.columnIndex? column.name).isSome = true
      · rw [if_pos hpresent] at h
        exact nomatch h
      · rw [if_neg hpresent] at h ⊢
        cases h
        refine ⟨_, rfl, hsame.replace name ?_⟩
        rw [schema_addColumn, schema_addColumn, hschema]

/-- An update that sets nothing to null fails for its columns only. -/
theorem Update.NeverNull.execute_ok {update : Update} (hnever : update.NeverNull)
    {table new : Table F} :
    update.execute table = .ok new ↔
      ∃ target, table.schema.columnIndex? update.column = some target ∧
        (update.sources.any fun name => (table.schema.columnIndex? name).isNone) = false ∧
        update.rows table target = new := by
  have hrows : table.rows.any (update.setsNull table.schema) = false := by
    rw [List.any_eq_false]
    intro row _ hnull
    obtain ⟨hholds, hnull⟩ := (Bool.and_eq_true _ _).mp hnull
    rw [hnever F _ hholds] at hnull
    exact nomatch hnull
  unfold Update.execute
  rw [hrows]
  cases table.schema.columnIndex? update.column with
  | none => simp
  | some target =>
      cases update.sources.any fun name => (table.schema.columnIndex? name).isNone with
      | true => simp
      | false => simp

theorem simulates_update {update : Update} (hnever : update.NeverNull) :
    Simulates (SameSchema : Tables F → Tables F' → Prop)
      (fun store => (Statement.update update).apply store)
      (fun store => (Statement.update update).apply store) := by
  intro store store' d hsame h
  dsimp only [Statement.apply] at h ⊢
  cases htable : store.table? update.table with
  | none =>
      rw [htable] at h
      exact nomatch h
  | some table =>
      obtain ⟨table', htable', hschema⟩ := hsame.exists_table htable
      rw [htable] at h
      rw [htable']
      obtain ⟨new, hnew, hd⟩ := map_ok_iff.mp h
      obtain ⟨target, htarget, hsources, hrows⟩ := hnever.execute_ok.mp hnew
      rw [← hschema] at htarget hsources
      subst hrows hd
      have hnew' := hnever.execute_ok.mpr ⟨target, htarget, hsources, rfl⟩
      exact ⟨_, map_ok_iff.mpr ⟨_, hnew', rfl⟩, hsame.replace update.table hschema.symm⟩

/-- A statement that sets nothing to null does the same to the schema, whatever the rows. -/
theorem simulates_statement {statement : Statement} (hnever : statement.NeverNull) :
    Simulates (SameSchema : Tables F → Tables F' → Prop) (fun store => statement.apply store)
      fun store => statement.apply store := by
  cases statement with
  | createTable schema => exact simulates_createTable schema
  | createIndex index => exact simulates_createIndex index
  | dropIndex name =>
      intro store store' d hsame h
      cases h
      exact ⟨_, rfl, { schemas := hsame.schemas, indexes := congrArg _ hsame.indexes }⟩
  | addColumn name column => exact simulates_addColumn name column
  | update change => exact simulates_update hnever

theorem simulates_addMissing (table : String) (column : Column) :
    Simulates (SameSchema : Tables F → Tables F' → Prop) (addMissing table column)
      (addMissing table column) := by
  intro store store' d hsame h
  unfold addMissing at h ⊢
  rw [← hsame.tableInfo]
  by_cases hpresent : (store.tableInfo table).contains column.name = true
  · rw [if_pos hpresent] at h ⊢
    cases h
    exact ⟨store', rfl, hsame⟩
  · rw [if_neg hpresent] at h ⊢
    exact simulates_addColumn table column store store' d hsame h

end SameSchema

/-! ## The scripts are run again -/

section Scripts

variable {F : Type} [Runtime F]

omit [Runtime F] in
theorem isSome_table?_append {store : Tables F} {name : String}
    (h : (store.table? name).isSome = true) (more : List (Table F)) :
    (({ store with tables := store.tables ++ more } : Tables F).table? name).isSome = true := by
  change (List.find? _ (_ ++ _)).isSome = true
  rw [List.find?_append, Option.isSome_or]
  exact Bool.or_eq_true_iff.mpr (.inl h)

/-- `CREATE TABLE IF NOT EXISTS` keeps the tables and creates its own. -/
theorem createTable_ok {schema : TableSchema} {store d : Tables F}
    (h : (Statement.createTable schema).apply store = .ok d) :
    (d.table? schema.name).isSome = true ∧
      ∀ name, (store.table? name).isSome = true → (d.table? name).isSome = true := by
  dsimp only [Statement.apply] at h
  by_cases htable : (store.table? schema.name).isSome = true
  · rw [if_pos htable] at h
    cases h
    exact ⟨htable, fun _ hname => hname⟩
  · rw [if_neg htable] at h
    split at h
    · exact nomatch h
    · cases h
      refine ⟨?_, fun name hname => isSome_table?_append hname _⟩
      change (List.find? _ (_ ++ _)).isSome = true
      rw [List.find?_append, Option.isSome_or, Bool.or_eq_true]
      refine .inr (List.find?_isSome.mpr ⟨_, List.mem_singleton_self _, ?_⟩)
      exact beq_self_eq_true _

theorem createTable_of_isSome {schema : TableSchema} {db : Database F}
    (h : (db.store.table? schema.name).isSome = true) :
    (Statement.createTable schema).exec db = .ok db := by
  unfold Statement.exec onTables
  dsimp only [Statement.apply]
  rw [if_pos h]
  rfl

/-- Tables that exist are left as they are, so the base schema can be created again. -/
theorem rerunnable_createTables (schemas : List TableSchema) :
    Rerunnable ((schemas.map Statement.createTable).map (Statement.exec (F := F))) := by
  rw [List.map_map]
  have hcreated : ∀ schema : TableSchema, ∀ {db d : Database F},
      (Statement.createTable schema).exec db = .ok d →
        (d.store.table? schema.name).isSome = true ∧
          ∀ name, (db.store.table? name).isSome = true → (d.store.table? name).isSome = true := by
    intro schema db d h
    obtain ⟨store, hstore, hd⟩ := map_ok_iff.mp h
    subst hd
    exact createTable_ok hstore
  refine rerunnable_of_settles ?_ ?_
  · intro statement hmem db d h
    obtain ⟨schema, -, rfl⟩ := List.mem_map.mp hmem
    exact createTable_of_isSome (hcreated schema h).1
  · intro statement hmem other hother db d h hrun
    obtain ⟨schema, -, rfl⟩ := List.mem_map.mp hmem
    obtain ⟨schema', -, rfl⟩ := List.mem_map.mp hother
    exact createTable_of_isSome ((hcreated schema' hrun).2 _ (hcreated schema h).1)

/-- `DROP INDEX IF EXISTS` for several indexes. -/
theorem runScript_dropIndexes (names : List String) (db : Database F) :
    runScript (names.map fun name => (Statement.dropIndex name).exec) db =
      .ok {
        schemaMigrations := db.schemaMigrations
        store := {
          tables := db.store.tables
          indexes := db.store.indexes.filter fun index => index.name ∉ names } } := by
  induction names generalizing db with
  | nil =>
      rw [List.filter_eq_self.mpr fun index _ => decide_eq_true List.not_mem_nil]
      rfl
  | cons name rest ih =>
      rw [List.map_cons, runScript_cons]
      refine (ih _).trans ?_
      dsimp only
      rw [List.filter_filter]
      congr 4
      funext index
      simp [Bool.and_comm]

theorem createIndex_ok {index : Index} {store d : Tables F}
    (h : (Statement.createIndex index).apply store = .ok d) :
    d = store ∨ d = { store with indexes := store.indexes ++ [index] } := by
  dsimp only [Statement.apply] at h
  split at h
  · exact nomatch h
  · split at h
    · exact nomatch h
    · split at h
      · cases h
        exact .inl rfl
      · split at h
        · cases h
          exact .inr rfl
        · exact nomatch h

/-- All indexes that the script creates are dropped by it first, so it can be run again. -/
theorem rerunnable_indexes (indexes : List Index) :
    Rerunnable (((indexes.map fun index => Statement.dropIndex index.name) ++
      indexes.map Statement.createIndex).map (Statement.exec (F := F))) := by
  rw [List.map_append]
  refine @rerunnable_of_reset _ _ _ (fun db : Database F =>
    (db.schemaMigrations, db.store.tables,
      db.store.indexes.filter fun index => index.name ∉ indexes.map Index.name)) _ _ ?_ ?_
  · intro statement hmem db d h
    rcases List.mem_append.mp hmem with hdrop | hcreate
    · obtain ⟨source, hsource, rfl⟩ := List.mem_map.mp hdrop
      obtain ⟨index, hindex, rfl⟩ := List.mem_map.mp hsource
      cases h
      have hname := List.mem_map_of_mem (f := Index.name) hindex
      dsimp only
      rw [List.filter_filter]
      congr 3
      funext other
      by_cases hother : other.name = index.name
      · simp [hother, hname]
      · simp [hother]
    · obtain ⟨source, hsource, rfl⟩ := List.mem_map.mp hcreate
      obtain ⟨index, hindex, rfl⟩ := List.mem_map.mp hsource
      have hname := List.mem_map_of_mem (f := Index.name) hindex
      obtain ⟨store, hstore, hd⟩ := map_ok_iff.mp h
      subst hd
      rcases createIndex_ok hstore with hsame | hnew
      · subst hsame
        rfl
      · subst hnew
        dsimp only
        rw [List.filter_append, List.filter_cons_of_neg (by simpa using hname), List.filter_nil,
          List.append_nil]
  · intro db db' hkept
    obtain ⟨hversions, hkept⟩ := Prod.mk.inj hkept
    obtain ⟨htables, hindexes⟩ := Prod.mk.inj hkept
    have hdrops : (indexes.map fun index => Statement.dropIndex index.name).map
        (Statement.exec (F := F)) =
          (indexes.map Index.name).map fun name => (Statement.dropIndex name).exec := by
      rw [List.map_map, List.map_map]
      rfl
    rw [hdrops, runScript_dropIndexes, runScript_dropIndexes, hversions, htables, hindexes]

end Scripts

/-! ## Upgrades -/

section Upgrades

variable {F : Type} [Runtime F]

/-- What `init` does to a database. -/
def upgrade (now : Int → String) (steps : List (Int × Migration (Database F) SqlError))
    (db : Database F) : Except SqlError (Database F) :=
  apply (recorded (withSchemaMigrations db)) (insertVersion now) steps (withSchemaMigrations db)

/-- The migrations can be resumed. -/
theorem resumable_plan : Resumable recorded (Alike Eq) (plan F) where
  refl := fun db => { versions := rfl, store := rfl }
  keeps := fun m hmem P =>
    keeps_plan hmem fun rows =>
      P fun version => ((rows.getD []).map AppliedVersion.version).contains version
  rerunnable := by
    intro version statements hmem
    unfold plan at hmem
    simp only [List.mem_cons, Prod.mk.injEq, Migration.script.injEq, reduceCtorEq, and_false,
      List.not_mem_nil, or_false] at hmem
    rcases hmem with ⟨-, rfl⟩ | ⟨-, rfl⟩
    · exact rerunnable_createTables baseSchemas
    · exact rerunnable_indexes routingIndexes
  similar := fun m hmem =>
    (List.forall₂_same.mp (simulates_plan (fun statement _ => simulates_eq _)
      fun table column => simulates_eq _) m hmem).2

theorem nodup_plan : ((plan F).map Prod.fst).Nodup := by
  change [1, 2, 3, 4, 5, 6, 7, 8, (9 : Int)].Nodup
  decide

omit [Runtime F] in
theorem withSchemaMigrations_of_versions {db : Database F} (h : db.schemaMigrations.isSome = true) :
    withSchemaMigrations db = db := by
  cases db with
  | mk schemaMigrations store =>
      cases schemaMigrations with
      | none => exact nomatch h
      | some rows => rfl

/-- An upgraded database has recorded every migration. -/
theorem recorded_upgrade {now : Int → String} {db d : Database F}
    (h : upgrade now (plan F) db = .ok d) : ∀ m ∈ plan F, recorded d m.1 = true :=
  (recorded_of_apply resumable_plan (records_insertVersion now) (fun _ _ hold => hold) h).2

omit [Runtime F] in
theorem isSome_of_recorded {db : Database F} {version : Int} (h : recorded db version = true) :
    db.schemaMigrations.isSome = true := by
  unfold recorded Database.appliedVersions at h
  cases hrows : db.schemaMigrations with
  | none =>
      rw [hrows] at h
      exact nomatch h
  | some rows => rfl

/-- A database that has recorded every migration is prepared. -/
theorem withSchemaMigrations_of_recorded {db : Database F}
    (h : ∀ m ∈ plan F, recorded db m.1 = true) : withSchemaMigrations db = db :=
  withSchemaMigrations_of_versions (isSome_of_recorded (h _ List.mem_cons_self))

/-- A database that has recorded every migration is not changed. -/
theorem upgrade_of_recorded {db : Database F} (h : ∀ m ∈ plan F, recorded db m.1 = true)
    (now : Int → String) : upgrade now (plan F) db = .ok db := by
  unfold upgrade
  rw [withSchemaMigrations_of_recorded h]
  exact apply_of_recorded h _ db

omit [Runtime F] in
/-- Upgrades of databases that are alike end alike. -/
theorem simulates_upgrade {F' : Type} {R : Tables F → Tables F' → Prop}
    {steps : List (Int × Migration (Database F) SqlError)}
    {steps' : List (Int × Migration (Database F') SqlError)}
    (h : List.Forall₂ (fun m m' => m.1 = m'.1 ∧ Simulates (Alike R) m.2.effect m'.2.effect)
      steps steps') (now now' : Int → String) :
    Simulates (Alike R) (upgrade now steps) (upgrade now' steps') := by
  intro a b c hab hc
  refine simulates_apply h (fun m _ => ?_) (simulates_insertVersion now now') _ _ c
    hab.withSchemaMigrations hc
  rw [hab.withSchemaMigrations.recorded]

/-- Prefixes of the migrations on databases with the same schema end with the same schema. -/
theorem sameSchema_upgrade {F' : Type} [Runtime F'] (now now' : Int → String) (count : ℕ) :
    Simulates (Alike SameSchema) (upgrade now ((plan F).take count))
      (upgrade now' ((plan F').take count)) :=
  simulates_upgrade (List.forall₂_take count
    (simulates_plan (fun _ hnever => simulates_statement hnever) simulates_addMissing)) now now'

/-- The clock is not read. -/
theorem similar_upgrade (now now' : Int → String) :
    Simulates (Alike Eq) (upgrade now (plan F)) (upgrade now' (plan F)) :=
  simulates_upgrade (simulates_plan (fun _ _ => simulates_eq _) fun _ _ => simulates_eq _) now now'

/-- Every prefix of the migrations succeeds on a new file, and all of them on what it makes. -/
theorem isOk_upgrade_first : ∀ count ≤ 9,
    ((upgrade (fun _ => "") ((plan Exact).take count) (emptyDatabase Exact)).bind
      (upgrade (fun _ => "") (plan Exact))).isOk = true := by
  decide +kernel

end Upgrades

/-! ## Interrupted runs -/

section Interruptions

variable {F : Type} [Runtime F]

/-- A database that a prefix of `MIGRATIONS` makes from a new file, with any rows. -/
inductive Produced : Database F → Prop where
  | new : Produced (emptyDatabase F)
  | migrated {count : ℕ} {now : Int → String} {conn : Conn F} {db : Database F}
      (hinit : init ((migrations F).take count) now (emptyDatabase F) = .ok conn)
      (hversions : db.schemaMigrations = conn.committed.schemaMigrations)
      (hschema : SameSchema db.store conn.committed.store) : Produced db

/-- A database that was committed during `init`, by one of its statements or before them. -/
def Interrupted (db left : Database F) : Prop :=
  ∃ now conn, init (migrations F) now db = .ok conn ∧ left ∈ conn.history

/-- A decidable property of what a computation returns. -/
theorem exists_ok_of_any {ε α : Type} {x : Except ε α} {P : α → Prop} [DecidablePred P]
    (h : (x.toOption.any fun a => decide (P a)) = true) : ∃ a, x = .ok a ∧ P a := by
  cases x with
  | error e => exact nomatch h
  | ok a => exact ⟨a, rfl, of_decide_eq_true h⟩

/-- A prefix of the migrations succeeds on a new file, and all of them on what it makes. -/
theorem upgrade_first (now now' : Int → String) (count : ℕ) :
    ∃ d, upgrade now ((plan F).take count) (emptyDatabase F) = .ok d ∧
      ∀ db : Database F, Alike SameSchema d db → ∃ d', upgrade now' (plan F) db = .ok d' := by
  rw [List.take_eq_take_min]
  obtain ⟨e', hboth⟩ := isOk_iff.mp (isOk_upgrade_first (min count 9) (Nat.min_le_right _ _))
  obtain ⟨e, he, he'⟩ := bind_ok_iff.mp hboth
  have hempty : Alike SameSchema (emptyDatabase Exact) (emptyDatabase F) :=
    { versions := rfl, store := { schemas := rfl, indexes := rfl } }
  obtain ⟨d, hd, hed⟩ := sameSchema_upgrade _ now _ _ _ e hempty he
  refine ⟨d, hd, fun db hdb => ?_⟩
  have hrelated : Alike SameSchema e db :=
    { versions := hed.versions.trans hdb.versions
      store := {
        schemas := hed.store.schemas.trans hdb.store.schemas
        indexes := hed.store.indexes.trans hdb.store.indexes } }
  obtain ⟨d', hd', -⟩ := sameSchema_upgrade _ now' 9 _ _ e' hrelated he'
  exact ⟨d', hd'⟩

/-- `init` succeeds on every database that was produced. -/
theorem Produced.exists_upgrade {db : Database F} (h : Produced db) (now : Int → String) :
    ∃ d, upgrade now (plan F) db = .ok d := by
  cases h with
  | new =>
      obtain ⟨d, hd, -⟩ := upgrade_first (F := F) now now 9
      exact ⟨d, hd⟩
  | @migrated count before conn db hinit hversions hschema =>
      obtain ⟨d, hd, hall⟩ := upgrade_first (F := F) before now count
      obtain ⟨conn', hconn', hcommitted, -⟩ :=
        init_spec (List.forall₂_take count implements_migrations) hd
      rw [hinit] at hconn'
      cases hconn'
      subst hcommitted
      refine hall db { versions := ?_, store := ?_ }
      · unfold Database.versions?
        rw [hversions]
      · exact { schemas := hschema.schemas.symm, indexes := hschema.indexes.symm }

/-- What an interrupted run leaves is upgraded like the database that it was run on. -/
theorem Interrupted.upgrade {db left d : Database F} (hleft : Interrupted db left)
    (hdb : ∀ now, ∃ d', upgrade now (plan F) db = .ok d' ∧ Alike Eq d d') (now : Int → String) :
    ∃ d', upgrade now (plan F) left = .ok d' ∧ Alike Eq d d' := by
  obtain ⟨before, conn, hinit, hleft⟩ := hleft
  obtain ⟨d', hd', hsame⟩ := hdb before
  obtain ⟨conn', hconn', -, hhistory⟩ := init_spec implements_migrations hd'
  rw [hinit] at hconn'
  cases hconn'
  rcases hhistory left hleft with rfl | rfl | hcommits
  · exact hdb now
  · exact ⟨left, upgrade_of_recorded (recorded_upgrade hd') now, hsame⟩
  · -- the rows of `schema_migrations` are only added to
    have hprepared : left.schemaMigrations.isSome = true := by
      refine hcommits.invariant (P := fun db => db.schemaMigrations.isSome = true)
        (fun m hmem => keeps_plan hmem (·.isSome = true)) ?_ rfl
      intro version before after hafter _
      obtain ⟨-, hrows⟩ := insertVersion_ok.mp hafter
      rw [hrows]
      rfl
    obtain ⟨d'', hd'', hsame'⟩ := apply_of_commits resumable_plan (records_insertVersion before)
      (simulates_insertVersion before now) nodup_plan hcommits (fun _ _ => rfl) hd'
    refine ⟨d'', ?_, ?_⟩
    · unfold Schema.upgrade
      rw [withSchemaMigrations_of_versions hprepared]
      exact hd''
    · exact { versions := hsame.versions.trans hsame'.versions
              store := hsame.store.trans hsame'.store }

/-- `init` on what interrupted runs have left ends like one uninterrupted run: with the same
tables, indexes and rows and the same versions.  `init` on the result changes nothing. -/
theorem init_resumes {db left : Database F} (hdb : Produced db)
    (hleft : Relation.ReflTransGen Interrupted db left) (now now' : Int → String) :
    ∃ whole resumed, init (migrations F) now db = .ok whole ∧
      init (migrations F) now' left = .ok resumed ∧
      resumed.committed.store = whole.committed.store ∧
      resumed.committed.appliedVersions = whole.committed.appliedVersions ∧
      ∀ later, ∃ again, init (migrations F) later resumed.committed = .ok again ∧
        ∀ d ∈ again.history, d = resumed.committed := by
  obtain ⟨d, hd⟩ := hdb.exists_upgrade now
  have hall : ∀ now', ∃ d', upgrade now' (plan F) left = .ok d' ∧ Alike Eq d d' := by
    induction hleft with
    | refl =>
        intro now'
        exact similar_upgrade now now' db db d (resumable_plan.refl db) hd
    | tail _ hstep ih => exact hstep.upgrade ih
  obtain ⟨d', hd', hsame⟩ := hall now'
  obtain ⟨whole, hwhole, hcommitted, -⟩ := init_spec implements_migrations hd
  obtain ⟨resumed, hresumed, hcommitted', -⟩ := init_spec implements_migrations hd'
  subst hcommitted hcommitted'
  refine ⟨whole, resumed, hwhole, hresumed, hsame.store.symm, ?_, fun later => ?_⟩
  · rw [appliedVersions_eq, appliedVersions_eq, hsame.versions]
  · have hrecorded := recorded_upgrade hd'
    obtain ⟨again, hagain, hcommitted, hhistory⟩ :=
      init_spec implements_migrations (upgrade_of_recorded hrecorded later)
    refine ⟨again, hagain, fun other hother => ?_⟩
    rcases hhistory other hother with hsame | hsame | hcommits
    · exact hsame
    · exact hsame
    · obtain ⟨m, hmem, hskip⟩ := hcommits.exists_not_skip
      rw [withSchemaMigrations_of_recorded hrecorded, hrecorded m hmem] at hskip
      exact nomatch hskip

/-- A database of the first version, with an override from before the canonical timestamps. -/
def firstVersion : Database Exact where
  schemaMigrations := some [⟨1, "2024-01-02T03:04:05Z"⟩]
  store := {
    tables := [
      ⟨modelsSchema, [], by decide⟩,
      ⟨requestLogSchema, [], by decide⟩,
      ⟨leaderboardCacheSchema, [], by decide⟩,
      ⟨configOverridesSchema, [[.text "k", .text "1", .text "2024-01-02 03:04:05"]], by decide⟩,
      ⟨managedSecretsSchema, [], by decide⟩,
      ⟨secretVaultConfigSchema, [], by decide⟩,
      ⟨gatewayAuthConfigSchema, [], by decide⟩]
    indexes := [] }

/-- A run on the first version that is cut off between two indexes is resumed: the override has
its canonical timestamp in the end. -/
theorem init_resumes_firstVersion : ∃ left whole resumed,
    Interrupted firstVersion left ∧ left.store.indexes.length = 2 ∧
      init (migrations Exact) (fun _ => "first") firstVersion = .ok whole ∧
      init (migrations Exact) (fun _ => "second") left = .ok resumed ∧
      resumed.committed.store = whole.committed.store ∧
      (whole.committed.store.table? "config_overrides").map Table.rows =
        some [[.text "k", .text "1", .text "2024-01-02T03:04:05Z"]] := by
  have hproduced : Produced firstVersion := by
    have hinit : ∃ conn, init ((migrations Exact).take 1) (fun _ => "2024-01-02T03:04:05Z")
        (emptyDatabase Exact) = .ok conn ∧
          (firstVersion.schemaMigrations = conn.committed.schemaMigrations ∧
            firstVersion.store.schemas = conn.committed.store.schemas ∧
            firstVersion.store.indexes = conn.committed.store.indexes) :=
      exists_ok_of_any (by decide +kernel)
    obtain ⟨conn, hconn, hversions, hschemas, hindexes⟩ := hinit
    exact .migrated hconn hversions { schemas := hschemas, indexes := hindexes }
  have hwhole : ∃ conn, init (migrations Exact) (fun _ => "first") firstVersion = .ok conn ∧
      ((∃ left ∈ conn.history, left.store.indexes.length = 2) ∧
        (conn.committed.store.table? "config_overrides").map Table.rows =
          some [[.text "k", .text "1", .text "2024-01-02T03:04:05Z"]]) :=
    exists_ok_of_any (by decide +kernel)
  obtain ⟨conn, hconn, ⟨left, hleft, hindexes⟩, hrows⟩ := hwhole
  have hinterrupted : Interrupted firstVersion left := ⟨_, conn, hconn, hleft⟩
  obtain ⟨whole, resumed, hwhole, hresumed, hstore, -⟩ :=
    init_resumes hproduced (.single hinterrupted) (fun _ => "first") fun _ => "second"
  rw [hconn] at hwhole
  cases hwhole
  exact ⟨left, conn, resumed, hinterrupted, hindexes, hconn, hresumed, hstore, hrows⟩

end Interruptions

end Schema
end Store
end FreeLunch
