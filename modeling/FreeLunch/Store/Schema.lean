import FreeLunch.Foundations.Reruns
import FreeLunch.Store.Affinity

/-!
# The schema and its migrations

`Database.init` of `src/db.py`: the tables and indexes, the statements of the migrations, and
the connection over which they are executed.  `executescript` commits what is open and each of
its statements; `INSERT` and `UPDATE` open a transaction where none is open.

Main results:

- Theorem `implements_migrations`: each migration is a script, or stays inside the open
  transaction.
- Theorem `init_spec`: what `init` ends with, and what it commits on the way.

Current gaps:

- No table holds a BLOB, and names are compared as they are written.
- `schema_migrations` stands apart from the other tables.
- The affinity of a column does not change the values that the migrations write.
-/

namespace FreeLunch
namespace Store
namespace Schema

open Python Reruns Writes

/-! ## Tables and indexes -/

inductive ColumnType where
  | text
  | integer
  | real
deriving DecidableEq, Repr

/-- A literal in a `DEFAULT` clause. -/
inductive Literal where
  | null
  | integer (n : Int)
  | decimal (digits : Nat) (exponent : Int)
  | text (s : String)
deriving DecidableEq

inductive ColumnConstraint where
  | primaryKey
  | autoincrement
  | notNull
  | default (value : Literal)
  | check (condition : String)
deriving DecidableEq

structure Column where
  name : String
  type : ColumnType
  constraints : List ColumnConstraint
deriving DecidableEq

/-- What `CREATE TABLE` declares. -/
structure TableSchema where
  name : String
  columns : List Column
deriving DecidableEq

/-- What `CREATE INDEX` declares; a column may stand in descending order. -/
structure Index where
  name : String
  table : String
  columns : List (String × Bool)
deriving DecidableEq

/-- A row has a value for each column. -/
structure Table (F : Type) where
  schema : TableSchema
  rows : List (List (SqlValue F))
  width : ∀ row ∈ rows, row.length = schema.columns.length

/-- The tables and the indexes, in the order of their creation. -/
structure Tables (F : Type) where
  tables : List (Table F)
  indexes : List Index

/-- A row of `schema_migrations`. -/
structure AppliedVersion where
  version : Int
  appliedAt : String
deriving DecidableEq

/-- A database; `schema_migrations` may be missing. -/
structure Database (F : Type) where
  schemaMigrations : Option (List AppliedVersion)
  store : Tables F

/-- A new file. -/
def emptyDatabase (F : Type) : Database F where
  schemaMigrations := none
  store := { tables := [], indexes := [] }

/-! ## The base schema -/

/-- `models`. -/
def modelsSchema : TableSchema where
  name := "models"
  columns := [
    ⟨"id", .text, [.primaryKey]⟩,
    ⟨"name", .text, [.notNull]⟩,
    ⟨"provider_id", .text, [.notNull]⟩,
    ⟨"endpoint_id", .text, [.default .null]⟩,
    ⟨"provider_model_id", .text, [.notNull]⟩,
    ⟨"provider_base_url", .text, [.notNull]⟩,
    ⟨"provider_api_key_env", .text, [.notNull]⟩,
    ⟨"provider_options_json", .text, [.default .null]⟩,
    ⟨"context_window", .integer, [.default (.integer 4096)]⟩,
    ⟨"max_output_tokens", .integer, [.default .null]⟩,
    ⟨"tokenizer_family", .text, [.default .null]⟩,
    ⟨"supports_tools", .integer, [.default (.integer 0)]⟩,
    ⟨"supports_streaming", .integer, [.default (.integer 1)]⟩,
    ⟨"supports_vision", .integer, [.default (.integer 0)]⟩,
    ⟨"supports_structured_output", .integer, [.default (.integer 0)]⟩,
    ⟨"supports_system_messages", .integer, [.default (.integer 1)]⟩,
    ⟨"chatbot_arena_elo", .real, [.default .null]⟩,
    ⟨"open_llm_score", .real, [.default .null]⟩,
    ⟨"provider_rank", .integer, [.default .null]⟩,
    ⟨"openrouter_rank", .integer, [.default .null]⟩,
    ⟨"is_healthy", .integer, [.default (.integer 1)]⟩,
    ⟨"last_health_check", .text, [.default .null]⟩,
    ⟨"avg_latency_ms", .real, [.default .null]⟩,
    ⟨"avg_ttfb_ms", .real, [.default .null]⟩,
    ⟨"consecutive_failures", .integer, [.default (.integer 0)]⟩,
    ⟨"backoff_level", .integer, [.default (.integer 0)]⟩,
    ⟨"cooldown_until", .text, [.default .null]⟩,
    ⟨"last_error", .text, [.default .null]⟩,
    ⟨"last_probe_at", .text, [.default .null]⟩,
    ⟨"last_success_at", .text, [.default .null]⟩,
    ⟨"last_failure_at", .text, [.default .null]⟩,
    ⟨"last_routed_at", .text, [.default .null]⟩,
    ⟨"composite_score", .real, [.default (.decimal 0 0)]⟩,
    ⟨"score_updated_at", .text, [.default .null]⟩,
    ⟨"discovered_at", .text, [.notNull]⟩,
    ⟨"last_seen_at", .text, [.notNull]⟩,
    ⟨"is_active", .integer, [.default (.integer 1)]⟩]

/-- `request_log`. -/
def requestLogSchema : TableSchema where
  name := "request_log"
  columns := [
    ⟨"id", .integer, [.primaryKey, .autoincrement]⟩,
    ⟨"request_id", .text, [.default .null]⟩,
    ⟨"timestamp", .text, [.notNull]⟩,
    ⟨"request_source", .text, [.notNull, .default (.text "client")]⟩,
    ⟨"selected_model_id", .text, [.notNull]⟩,
    ⟨"provider_id", .text, [.notNull]⟩,
    ⟨"selected_provider_model_id", .text, [.default .null]⟩,
    ⟨"selected_tokenizer_family", .text, [.default .null]⟩,
    ⟨"client_requested_model", .text, [.default .null]⟩,
    ⟨"attempt_index", .integer, [.default (.integer 0)]⟩,
    ⟨"was_fallback", .integer, [.default (.integer 0)]⟩,
    ⟨"estimated_prompt_tokens", .integer, [.default .null]⟩,
    ⟨"selected_context_window", .integer, [.default .null]⟩,
    ⟨"prompt_tokens", .integer, [.default .null]⟩,
    ⟨"completion_tokens", .integer, [.default .null]⟩,
    ⟨"total_tokens", .integer, [.default .null]⟩,
    ⟨"latency_ms", .real, [.default .null]⟩,
    ⟨"ttfb_ms", .real, [.default .null]⟩,
    ⟨"success", .integer, [.default (.integer 1)]⟩,
    ⟨"gateway_error_category", .text, [.default .null]⟩,
    ⟨"error_code", .text, [.default .null]⟩,
    ⟨"error_message", .text, [.default .null]⟩,
    ⟨"was_streaming", .integer, [.default (.integer 0)]⟩,
    ⟨"had_tools", .integer, [.default (.integer 0)]⟩,
    ⟨"had_vision", .integer, [.default (.integer 0)]⟩]

/-- `leaderboard_cache`. -/
def leaderboardCacheSchema : TableSchema where
  name := "leaderboard_cache"
  columns := [
    ⟨"model_name_normalized", .text, [.primaryKey]⟩,
    ⟨"chatbot_arena_elo", .real, [.default .null]⟩,
    ⟨"open_llm_avg_score", .real, [.default .null]⟩,
    ⟨"fetched_at", .text, [.notNull]⟩]

/-- `config_overrides`. -/
def configOverridesSchema : TableSchema where
  name := "config_overrides"
  columns := [
    ⟨"key", .text, [.primaryKey]⟩,
    ⟨"value", .text, [.notNull]⟩,
    ⟨"updated_at", .text, [.notNull]⟩]

/-- `managed_secrets`. -/
def managedSecretsSchema : TableSchema where
  name := "managed_secrets"
  columns := [
    ⟨"key", .text, [.primaryKey]⟩,
    ⟨"value_encrypted", .text, [.notNull]⟩,
    ⟨"created_at", .text, [.notNull]⟩,
    ⟨"updated_at", .text, [.notNull]⟩]

/-- `secret_vault_config`. -/
def secretVaultConfigSchema : TableSchema where
  name := "secret_vault_config"
  columns := [
    ⟨"id", .integer, [.primaryKey, .check "id = 1"]⟩,
    ⟨"salt_b64", .text, [.notNull]⟩,
    ⟨"verifier_encrypted", .text, [.notNull]⟩,
    ⟨"created_at", .text, [.notNull]⟩,
    ⟨"updated_at", .text, [.notNull]⟩]

/-- `gateway_auth_config`. -/
def gatewayAuthConfigSchema : TableSchema where
  name := "gateway_auth_config"
  columns := [
    ⟨"id", .integer, [.primaryKey, .check "id = 1"]⟩,
    ⟨"mode", .text, [.notNull]⟩,
    ⟨"token_salt_b64", .text, [.default .null]⟩,
    ⟨"token_hash_b64", .text, [.default .null]⟩,
    ⟨"created_at", .text, [.notNull]⟩,
    ⟨"updated_at", .text, [.notNull]⟩]

/-- The tables of `_create_base_schema`. -/
def baseSchemas : List TableSchema :=
  [modelsSchema, requestLogSchema, leaderboardCacheSchema, configOverridesSchema,
    managedSecretsSchema, secretVaultConfigSchema, gatewayAuthConfigSchema]

/-- The indexes of `migrate_to_v2`. -/
def routingIndexes : List Index :=
  [⟨"idx_models_routing", "models",
      [("is_active", false), ("is_healthy", false), ("cooldown_until", false),
        ("composite_score", true)]⟩,
    ⟨"idx_models_provider_active", "models",
      [("provider_id", false), ("is_active", false), ("last_seen_at", true)]⟩,
    ⟨"idx_request_log_timestamp", "request_log", [("timestamp", true)]⟩,
    ⟨"idx_request_log_model", "request_log", [("selected_model_id", false)]⟩,
    ⟨"idx_request_log_provider_day", "request_log",
      [("provider_id", false), ("request_source", false), ("timestamp", true)]⟩]

/-- An exception of `sqlite3`. -/
inductive SqlError where
  | operational (text : String)
  | integrity (text : String)
deriving DecidableEq, Repr

/-! ## Expressions -/

/-- `REPLACE(text, old, new)`, with the characters of a match that are still to be skipped. -/
def replaceFrom (old new : List Char) : Nat → List Char → List Char
  | _, [] => []
  | skip + 1, _ :: rest => replaceFrom old new skip rest
  | 0, c :: rest =>
      if !old.isEmpty && startsWith (c :: rest) old then
        new ++ replaceFrom old new (old.length - 1) rest
      else c :: replaceFrom old new 0 rest

/-- `GLOB`, for patterns of `?` and plain characters. -/
def globMatches : List Char → List Char → Bool
  | [], [] => true
  | '?' :: pattern, _ :: text => globMatches pattern text
  | p :: pattern, c :: text => p == c && globMatches pattern text
  | _, _ => false

/-- An expression over the columns of a row. -/
inductive SqlExpr where
  | column (name : String)
  | text (s : String)
  | replace (e : SqlExpr) (old new : String)
  | concat (first second : SqlExpr)

/-- A condition of a `WHERE` clause. -/
inductive SqlCondition where
  | glob (e : SqlExpr) (pattern : String)
  | isNull (e : SqlExpr)
  | isNotNull (e : SqlExpr)
  | both (first second : SqlCondition)

section Expressions

variable {F : Type} [Runtime F]

/-- The value of an expression; functions of text give null for null. -/
def SqlExpr.eval (read : String → SqlValue F) : SqlExpr → SqlValue F
  | .column name => read name
  | .text s => .text s
  | .replace e old new =>
      match (e.eval read).toTextColumn with
      | some s => .text (String.ofList (replaceFrom old.toList new.toList 0 s.toList))
      | none => .null
  | .concat first second =>
      match (first.eval read).toTextColumn, (second.eval read).toTextColumn with
      | some s, some t => .text (s ++ t)
      | _, _ => .null

/-- The condition is true; `GLOB` reads text up to its first null character. -/
def SqlCondition.holds (read : String → SqlValue F) : SqlCondition → Bool
  | .glob e pattern =>
      ((e.eval read).toTextColumn).any fun s =>
        globMatches pattern.toList (s.toList.takeWhile (· ≠ '\x00'))
  | .isNull e => (e.eval read).isNull
  | .isNotNull e => !(e.eval read).isNull
  | .both first second => first.holds read && second.holds read

end Expressions

/-- The columns that an expression reads. -/
def SqlExpr.columns : SqlExpr → List String
  | .column name => [name]
  | .text _ => []
  | .replace e _ _ => e.columns
  | .concat first second => first.columns ++ second.columns

def SqlCondition.columns : SqlCondition → List String
  | .glob e _ => e.columns
  | .isNull e => e.columns
  | .isNotNull e => e.columns
  | .both first second => first.columns ++ second.columns

/-- `UPDATE table SET column = value WHERE condition`. -/
structure Update where
  table : String
  column : String
  value : SqlExpr
  condition : SqlCondition

/-! ## Statements -/

inductive Statement where
  | createTable (schema : TableSchema)
  | createIndex (index : Index)
  | dropIndex (name : String)
  | addColumn (table : String) (column : Column)
  | update (update : Update)

section Statements

variable {F : Type}

/-- The value of a literal. -/
def Literal.value [Runtime F] : Literal → SqlValue F
  | .null => .null
  | .integer n =>
      if h : FitsInt64 n then .integer ⟨n, h⟩
      else .real (Runtime.floatOfDecimal (n < 0) n.natAbs 0)
  | .decimal digits exponent => .real (Runtime.floatOfDecimal false digits exponent)
  | .text s => .text s

/-- The literal in the `DEFAULT` clause of a column. -/
def Column.default (column : Column) : Literal :=
  (column.constraints.findSome? fun constraint =>
    match constraint with
    | .default value => some value
    | _ => none).getD .null

/-- The position of a column. -/
def TableSchema.columnIndex? (schema : TableSchema) (name : String) : Option Nat :=
  schema.columns.findIdx? fun column => column.name == name

/-- The table of a name. -/
def Tables.table? (store : Tables F) (name : String) : Option (Table F) :=
  store.tables.find? fun table => table.schema.name == name

def Tables.hasIndex (store : Tables F) (name : String) : Bool :=
  store.indexes.any fun index => index.name == name

/-- `PRAGMA table_info(table)`: the names of the columns. -/
def Tables.tableInfo (store : Tables F) (name : String) : List String :=
  match store.table? name with
  | some table => table.schema.columns.map Column.name
  | none => []

/-- The table of a name, replaced. -/
def Tables.replace (store : Tables F) (name : String) (new : Table F) : Tables F :=
  { store with
    tables := store.tables.map fun table => if table.schema.name == name then new else table }

/-- A table with one more column. -/
def Table.addColumn [Runtime F] (table : Table F) (column : Column) : Table F where
  schema := { table.schema with columns := table.schema.columns ++ [column] }
  rows := table.rows.map fun row => row ++ [column.default.value]
  width := by
    intro row hrow
    obtain ⟨old, hold, rfl⟩ := List.mem_map.mp hrow
    rw [List.length_append, List.length_append, table.width old hold]
    rfl

/-- The value of a column in a row. -/
def TableSchema.read (schema : TableSchema) (row : List (SqlValue F)) (name : String) :
    SqlValue F :=
  match schema.columnIndex? name with
  | some i => row.getD i .null
  | none => .null

/-- One row after an update. -/
def Update.row [Runtime F] (update : Update) (schema : TableSchema) (target : Nat)
    (row : List (SqlValue F)) : List (SqlValue F) :=
  if update.condition.holds (schema.read row) then
    row.set target (update.value.eval (schema.read row))
  else row

/-- A row that an update sets to null. -/
def Update.setsNull [Runtime F] (update : Update) (schema : TableSchema)
    (row : List (SqlValue F)) : Bool :=
  update.condition.holds (schema.read row) && (update.value.eval (schema.read row)).isNull

/-- A table after an update. -/
def Update.rows [Runtime F] (update : Update) (table : Table F) (target : Nat) : Table F where
  schema := table.schema
  rows := table.rows.map (update.row table.schema target)
  width := by
    intro row hrow
    obtain ⟨old, hold, rfl⟩ := List.mem_map.mp hrow
    unfold Update.row
    split
    · rw [List.length_set, table.width old hold]
    · exact table.width old hold

/-- The columns that an update reads. -/
def Update.sources (update : Update) : List String :=
  update.value.columns ++ update.condition.columns

/-- An update of a table. -/
def Update.execute [Runtime F] (update : Update) (table : Table F) : Except SqlError (Table F) :=
  match table.schema.columnIndex? update.column with
  | none => .error (.operational ("no such column: " ++ update.column))
  | some target =>
      if update.sources.any fun name => (table.schema.columnIndex? name).isNone then
        .error (.operational "no such column")
      else if (table.schema.columns[target]?.any fun column =>
            column.constraints.contains .notNull) &&
          table.rows.any (update.setsNull table.schema) then
        .error (.integrity
          ("NOT NULL constraint failed: " ++ update.table ++ "." ++ update.column))
      else .ok (update.rows table target)

/-- What a statement does. -/
def Statement.apply [Runtime F] (store : Tables F) : Statement → Except SqlError (Tables F)
  | .createTable schema =>
      if (store.table? schema.name).isSome then .ok store
      else if store.hasIndex schema.name then
        .error (.operational ("there is already an index named " ++ schema.name))
      else
        .ok { store with tables := store.tables ++ [⟨schema, [], fun _ h => nomatch h⟩] }
  | .createIndex index =>
      match store.table? index.table with
      | none => .error (.operational ("no such table: main." ++ index.table))
      | some table =>
          if (store.table? index.name).isSome then
            .error (.operational ("there is already a table named " ++ index.name))
          else if store.hasIndex index.name then .ok store
          else if index.columns.all fun column =>
              (table.schema.columnIndex? column.1).isSome then
            .ok { store with indexes := store.indexes ++ [index] }
          else .error (.operational ("table " ++ index.table ++ " has no such column"))
  | .dropIndex name =>
      .ok { store with indexes := store.indexes.filter fun index => index.name ≠ name }
  | .addColumn name column =>
      match store.table? name with
      | none => .error (.operational ("no such table: " ++ name))
      | some table =>
          if (table.schema.columnIndex? column.name).isSome then
            .error (.operational ("duplicate column name: " ++ column.name))
          else .ok (store.replace name (table.addColumn column))
  | .update statement =>
      match store.table? statement.table with
      | none => .error (.operational ("no such table: " ++ statement.table))
      | some table => (statement.execute table).map (store.replace statement.table)

/-- A change of the tables, on the database. -/
def onTables (change : Tables F → Except SqlError (Tables F)) (db : Database F) :
    Except SqlError (Database F) :=
  (change db.store).map fun store => { db with store := store }

/-- A statement on the database. -/
def Statement.exec [Runtime F] (statement : Statement) :
    Database F → Except SqlError (Database F) :=
  onTables fun store => statement.apply store

/-- `CREATE_SCHEMA_MIGRATIONS_SQL`. -/
def createSchemaMigrations (db : Database F) : Except SqlError (Database F) :=
  .ok { db with schemaMigrations := some (db.schemaMigrations.getD []) }

/-- `SELECT version FROM schema_migrations`. -/
def Database.appliedVersions (db : Database F) : List Int :=
  (db.schemaMigrations.getD []).map AppliedVersion.version

/-- `INSERT INTO schema_migrations(version, applied_at) VALUES (?, ?)`. -/
def insertVersion (appliedAt : Int → String) (version : Int) (db : Database F) :
    Except SqlError (Database F) :=
  match db.schemaMigrations with
  | none => .error (.operational "no such table: schema_migrations")
  | some rows =>
      if rows.any fun row => row.version == version then
        .error (.integrity "UNIQUE constraint failed: schema_migrations.version")
      else .ok { db with schemaMigrations := some (rows ++ [⟨version, appliedAt version⟩]) }

end Statements

/-! ## The connection -/

/-- `sqlite3.Connection`. -/
abbrev Conn (F : Type) := Connection (Database F)

section Connections

variable {F : Type} [Runtime F]

/-- `conn.execute` of `UPDATE` opens a transaction where none is open. -/
def Statement.isDml : Statement → Bool
  | .update _ => true
  | _ => false

/-- `conn.execute`. -/
def execute (statement : Statement) (conn : Conn F) : Except SqlError (Conn F) :=
  if statement.isDml then conn.begin.run statement.exec else conn.run statement.exec

/-- `conn.executescript`. -/
def executescript (statements : List Statement) (conn : Conn F) : Except SqlError (Conn F) :=
  conn.script (statements.map Statement.exec)

/-! ## Migrations -/

/-- The script of `_create_base_schema`. -/
def baseScript : List Statement :=
  baseSchemas.map .createTable

/-- The script of `migrate_to_v2`. -/
def indexScript : List Statement :=
  (routingIndexes.map fun index => .dropIndex index.name) ++ routingIndexes.map .createIndex

/-- `_create_base_schema` and `migrate_to_v1`. -/
def migrateToV1 : Conn F → Except SqlError (Conn F) :=
  executescript baseScript

/-- `migrate_to_v2`. -/
def migrateToV2 : Conn F → Except SqlError (Conn F) :=
  executescript indexScript

/-- `REPLACE(column, ' ', 'T') || 'Z'` where `column GLOB '????-??-?? ??:??:??'`. -/
def canonicalTimestamps (table column : String) : Statement :=
  .update {
    table := table
    column := column
    value := .concat (.replace (.column column) " " "T") (.text "Z")
    condition := .glob (.column column) "????-??-?? ??:??:??" }

/-- `migrate_to_v3`. -/
def migrateToV3 (conn : Conn F) : Except SqlError (Conn F) := do
  let conn ← execute (canonicalTimestamps "config_overrides" "updated_at") conn
  execute (canonicalTimestamps "leaderboard_cache" "fetched_at") conn

/-- `_add_column_if_missing`. -/
def addColumnIfMissing (table : String) (column : Column) (conn : Conn F) :
    Except SqlError (Conn F) :=
  if (conn.view.store.tableInfo table).contains column.name then .ok conn
  else execute (.addColumn table column) conn

/-- `migrate_to_v4`. -/
def migrateToV4 (conn : Conn F) : Except SqlError (Conn F) := do
  let conn ← addColumnIfMissing "request_log"
    ⟨"selected_provider_model_id", .text, [.default .null]⟩ conn
  let conn ← addColumnIfMissing "request_log"
    ⟨"selected_tokenizer_family", .text, [.default .null]⟩ conn
  addColumnIfMissing "request_log" ⟨"estimated_prompt_tokens", .integer, [.default .null]⟩ conn

/-- `migrate_to_v5`. -/
def migrateToV5 (conn : Conn F) : Except SqlError (Conn F) :=
  addColumnIfMissing "request_log" ⟨"selected_context_window", .integer, [.default .null]⟩ conn

/-- The ranks of `openrouter_rank` where `provider_rank` has none. -/
def fillProviderRank : Statement :=
  .update {
    table := "models"
    column := "provider_rank"
    value := .column "openrouter_rank"
    condition :=
      .both (.isNull (.column "provider_rank")) (.isNotNull (.column "openrouter_rank")) }

/-- `migrate_to_v6`. -/
def migrateToV6 (conn : Conn F) : Except SqlError (Conn F) := do
  let conn ← addColumnIfMissing "models" ⟨"provider_rank", .integer, [.default .null]⟩ conn
  execute fillProviderRank conn

/-- `migrate_to_v7`. -/
def migrateToV7 : Conn F → Except SqlError (Conn F) :=
  execute (.createTable managedSecretsSchema)

/-- `migrate_to_v8`. -/
def migrateToV8 : Conn F → Except SqlError (Conn F) :=
  execute (.createTable secretVaultConfigSchema)

/-- `migrate_to_v9`. -/
def migrateToV9 : Conn F → Except SqlError (Conn F) :=
  execute (.createTable gatewayAuthConfigSchema)

/-- `MIGRATIONS`. -/
def migrations (F : Type) [Runtime F] : List (Int × (Conn F → Except SqlError (Conn F))) :=
  [(1, migrateToV1), (2, migrateToV2), (3, migrateToV3), (4, migrateToV4), (5, migrateToV5),
    (6, migrateToV6), (7, migrateToV7), (8, migrateToV8), (9, migrateToV9)]

/-- `Database.init`, with the migrations and what `utc_now_iso()` returns for each version. -/
def init (migrations : List (Int × (Conn F → Except SqlError (Conn F)))) (now : Int → String)
    (db : Database F) : Except SqlError (Conn F) := do
  let conn := (connect db).begin
  let conn ← conn.run createSchemaMigrations
  let appliedVersions := conn.view.appliedVersions
  let conn ← migrateAll appliedVersions.contains (insertVersion now) migrations conn
  return conn.commit

/-! ## What the migrations do -/

/-- `_add_column_if_missing`, on the tables. -/
def addMissing (table : String) (column : Column) (store : Tables F) :
    Except SqlError (Tables F) :=
  if (store.tableInfo table).contains column.name then .ok store
  else (Statement.addColumn table column).apply store

/-- The migrations, as changes of the database. -/
def plan (F : Type) [Runtime F] : List (Int × Migration (Database F) SqlError) :=
  [(1, .script (baseScript.map Statement.exec)),
    (2, .script (indexScript.map Statement.exec)),
    (3, .inside (runScript ([canonicalTimestamps "config_overrides" "updated_at",
      canonicalTimestamps "leaderboard_cache" "fetched_at"].map Statement.exec))),
    (4, .inside (runScript [
      onTables (addMissing "request_log"
        ⟨"selected_provider_model_id", .text, [.default .null]⟩),
      onTables (addMissing "request_log" ⟨"selected_tokenizer_family", .text, [.default .null]⟩),
      onTables (addMissing "request_log"
        ⟨"estimated_prompt_tokens", .integer, [.default .null]⟩)])),
    (5, .inside (onTables (addMissing "request_log"
      ⟨"selected_context_window", .integer, [.default .null]⟩))),
    (6, .inside (runScript [
      onTables (addMissing "models" ⟨"provider_rank", .integer, [.default .null]⟩),
      fillProviderRank.exec])),
    (7, .inside (Statement.createTable managedSecretsSchema).exec),
    (8, .inside (Statement.createTable secretVaultConfigSchema).exec),
    (9, .inside (Statement.createTable gatewayAuthConfigSchema).exec)]

/-- A statement inside an open transaction stays in it. -/
theorem execute_of_pending {statement : Statement} {conn : Conn F} {db d : Database F}
    (hpending : conn.pending = some db) (h : statement.exec db = .ok d) :
    execute statement conn = .ok { conn with pending := some d } := by
  unfold execute
  rw [begin_of_pending hpending, ite_self]
  exact run_of_pending hpending h

theorem addColumnIfMissing_of_pending {table : String} {column : Column} {conn : Conn F}
    {db d : Database F} (hpending : conn.pending = some db)
    (h : onTables (addMissing table column) db = .ok d) :
    addColumnIfMissing table column conn = .ok { conn with pending := some d } := by
  have hview : conn.view = db := by
    unfold Connection.view
    rw [hpending]
    rfl
  unfold addColumnIfMissing
  unfold onTables addMissing at h
  rw [hview]
  by_cases hpresent : (db.store.tableInfo table).contains column.name = true
  · rw [if_pos hpresent] at h ⊢
    cases h
    cases conn with
    | mk committed earlier pending =>
        cases hpending
        rfl
  · rw [if_neg hpresent] at h ⊢
    exact execute_of_pending hpending h

/-- Each migration does what the plan says. -/
theorem implements_migrations :
    List.Forall₂ (fun c m => c.1 = m.1 ∧ Implements c.2 m.2) (migrations F) (plan F) := by
  unfold migrations plan
  refine .cons ⟨rfl, fun conn => rfl⟩ <| .cons ⟨rfl, fun conn => rfl⟩ <| .cons ⟨rfl, ?_⟩ <|
    .cons ⟨rfl, ?_⟩ <| .cons ⟨rfl, ?_⟩ <| .cons ⟨rfl, ?_⟩ <| .cons ⟨rfl, ?_⟩ <|
      .cons ⟨rfl, ?_⟩ <| .cons ⟨rfl, ?_⟩ .nil
  · intro conn db d hpending h
    obtain ⟨first, hfirst, hrest⟩ := runScript_cons_ok.mp h
    obtain ⟨second, hsecond, hnil⟩ := runScript_cons_ok.mp hrest
    cases hnil
    exact bind_ok_iff.mpr ⟨_, execute_of_pending hpending hfirst,
      execute_of_pending rfl hsecond⟩
  · intro conn db d hpending h
    obtain ⟨first, hfirst, hrest⟩ := runScript_cons_ok.mp h
    obtain ⟨second, hsecond, hrest⟩ := runScript_cons_ok.mp hrest
    obtain ⟨third, hthird, hnil⟩ := runScript_cons_ok.mp hrest
    cases hnil
    exact bind_ok_iff.mpr ⟨_, addColumnIfMissing_of_pending hpending hfirst,
      bind_ok_iff.mpr ⟨_, addColumnIfMissing_of_pending rfl hsecond,
        addColumnIfMissing_of_pending rfl hthird⟩⟩
  · intro conn db d hpending h
    exact addColumnIfMissing_of_pending hpending h
  · intro conn db d hpending h
    obtain ⟨first, hfirst, hrest⟩ := runScript_cons_ok.mp h
    obtain ⟨second, hsecond, hnil⟩ := runScript_cons_ok.mp hrest
    cases hnil
    exact bind_ok_iff.mpr ⟨_, addColumnIfMissing_of_pending hpending hfirst,
      execute_of_pending rfl hsecond⟩
  · intro conn db d hpending h
    exact execute_of_pending hpending h
  · intro conn db d hpending h
    exact execute_of_pending hpending h
  · intro conn db d hpending h
    exact execute_of_pending hpending h

/-- A version is in `schema_migrations`. -/
def recorded (db : Database F) (version : Int) : Bool :=
  db.appliedVersions.contains version

/-- The database with `schema_migrations`. -/
def withSchemaMigrations (db : Database F) : Database F :=
  { db with schemaMigrations := some (db.schemaMigrations.getD []) }

omit [Runtime F] in
/-- What `init` ends with, and what it commits on the way. -/
theorem init_spec {code : List (Int × (Conn F → Except SqlError (Conn F)))}
    {steps : List (Int × Migration (Database F) SqlError)}
    (hcode : List.Forall₂ (fun c m => c.1 = m.1 ∧ Implements c.2 m.2) code steps)
    {now : Int → String} {db d : Database F}
    (h : apply (recorded (withSchemaMigrations db)) (insertVersion now) steps
      (withSchemaMigrations db) = .ok d) :
    ∃ conn, init code now db = .ok conn ∧ conn.committed = d ∧
      ∀ left ∈ conn.history, left = db ∨ left = d ∨
        Commits (recorded (withSchemaMigrations db)) (insertVersion now) steps
          (withSchemaMigrations db) left := by
  obtain ⟨conn, hconn, hpending, hhistory⟩ := @migrateAll_spec _ _ _ _ _ _ _ hcode
    { (connect db).begin with pending := some (withSchemaMigrations db) } _ _ rfl h
  have hview : conn.view = d := by
    unfold Connection.view
    rw [hpending]
    rfl
  refine ⟨conn.commit, bind_ok_iff.mpr ⟨_, rfl, bind_ok_iff.mpr ⟨conn, hconn, rfl⟩⟩, ?_, ?_⟩
  · rw [committed_commit, hview]
  · intro left hleft
    rcases mem_history_commit hleft with hlast | hold
    · exact .inr (.inl (hlast.trans hview))
    · rcases hhistory left hold with hfirst | hcommitted
      · exact .inl (List.mem_singleton.mp hfirst)
      · exact .inr (.inr hcommitted)

end Connections

end Schema
end Store
end FreeLunch
