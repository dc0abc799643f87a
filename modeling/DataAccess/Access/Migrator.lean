import DataAccess.Access.Transaction
import DataAccess.Calendar.Timestamp
import DataAccess.Migration
import DataAccess.Sql.Schema

/-!
# Schema changes

Looking at tables and columns, creating what is missing, and running numbered migrations. Which
migrations have been applied is kept in a table of the database itself; each migration runs in a
transaction of its own together with the change of that table.

A migration is answered by its version and its name. How long it took as a whole, which is measured
once its transaction is over, is left out of the answers: nothing depends on it. The time that its
script took is recorded in the history, and is not left out.
-/

namespace DataAccess.Access.Migrator

open Calendar Number Observation Sql

/-! ### Statements -/

/-- The query that counts the tables with a name. -/
def tableCountSql : Driver → String
  | .mysql => "SELECT COUNT(*) AS n FROM information_schema.tables " ++
      "WHERE table_schema = DATABASE() AND table_name = " ++ placeholder .mysql 1
  | .postgresql => "SELECT COUNT(*) AS n FROM information_schema.tables " ++
      "WHERE table_schema = CURRENT_SCHEMA() AND table_name = " ++ placeholder .postgresql 1
  | _ => "SELECT COUNT(*) AS n FROM sqlite_master WHERE type = 'table' AND name = ?"

/-- The query that counts the columns of a table with a name. -/
def columnCountSql : Driver → String
  | .mysql => "SELECT COUNT(*) AS n FROM information_schema.columns " ++
      "WHERE table_schema = DATABASE() AND table_name = " ++ placeholder .mysql 1 ++
      " AND column_name = " ++ placeholder .mysql 2
  | .postgresql => "SELECT COUNT(*) AS n FROM information_schema.columns " ++
      "WHERE table_schema = CURRENT_SCHEMA() AND table_name = " ++ placeholder .postgresql 1 ++
      " AND column_name = " ++ placeholder .postgresql 2
  | _ => "SELECT COUNT(*) AS n FROM pragma_table_info(?) WHERE name = ?"

/-- The statement that drops a table if it is there. -/
def dropTableSql (d : Driver) (table : String) : String := "DROP TABLE IF EXISTS " ++ quote d table

/-- The statement that adds a column. -/
def addColumnSql (d : Driver) (table : String) (c : Column) : String :=
  "ALTER TABLE " ++ quote d table ++ " ADD COLUMN " ++ c.definition d false

/-- The name of the table of applied migrations. -/
def historyTable : String := "_conduit_migrations"

/-- The table of applied migrations. -/
def historySchema : Schema :=
  { name := historyTable
    columns := [
      (Column.plain "version" .integer).asPrimaryKey,
      (Column.plain "name" .text).notNull,
      (Column.plain "checksum" .text).notNull,
      (Column.plain "applied_at" .text).notNull,
      (Column.plain "execution_time_ms" .integer).notNull] }

/-- The query for the greatest applied version. -/
def latestSql (d : Driver) : String :=
  "SELECT MAX(version) AS version FROM " ++ quote d historyTable

/-- The query for all applied migrations. -/
def historySql (d : Driver) : String :=
  "SELECT version, name, checksum, applied_at, execution_time_ms FROM " ++ quote d historyTable ++
    " ORDER BY version"

/-- The statement that records a migration. -/
def recordSql (d : Driver) : String :=
  "INSERT INTO " ++ quote d historyTable ++
    " (version, name, checksum, applied_at, execution_time_ms) VALUES (" ++
    ", ".intercalate ([1, 2, 3, 4, 5].map (placeholder d)) ++ ")"

/-- The statement that takes a migration off the record. -/
def forgetSql (d : Driver) : String :=
  "DELETE FROM " ++ quote d historyTable ++ " WHERE version = " ++ placeholder d 1

variable {m : Type → Type} [Monad m]

/-! ### Tables and columns -/

/-- The number that a counting query answers. -/
def count (x : Executor m) (sql : String) (args : List Value) : m (Except Error Int64) := do
  match ← x.session.raw sql args with
  | .error e => return .error e
  | .ok [] => return .ok 0
  | .ok (row :: _) => return row.get "n" Value.asInt

/-- Whether there is a table with a name. -/
def hasTable (x : Executor m) (table : String) : m (Except Error Bool) := do
  return (← count x (tableCountSql x.session.driver) [.text table]).map (0 < ·)

/-- Whether a table has a column with a name. -/
def hasColumn (x : Executor m) (table column : String) : m (Except Error Bool) := do
  let n ← count x (columnCountSql x.session.driver) [.text table, .text column]
  return n.map (0 < ·)

/-- Run a statement whose count of rows does not matter. -/
def run (x : Executor m) (sql : String) : m (Except Error Unit) := do
  return (← x.session.exec sql []).map fun _ => ()

/-- Create a table unless it is there. -/
def createTable (x : Executor m) (s : Schema) : m (Except Error Unit) :=
  run x (s.createSql x.session.driver)

/-- Drop a table if it is there. -/
def dropTable (x : Executor m) (table : String) : m (Except Error Unit) :=
  run x (dropTableSql x.session.driver table)

/-- Add a column to a table. -/
def addColumn (x : Executor m) (table : String) (c : Column) : m (Except Error Unit) :=
  run x (addColumnSql x.session.driver table c)

/-- Add those of some columns that a table lacks. Columns of the primary key are never added. -/
def addMissing (x : Executor m) (table : String) : List Column → m (Except Error Unit)
  | [] => return .ok ()
  | c :: rest => do
    if c.primaryKey then addMissing x table rest
    else
      match ← hasColumn x table c.name with
      | .error e => return .error e
      | .ok true => addMissing x table rest
      | .ok false =>
        match ← addColumn x table c with
        | .error e => return .error e
        | .ok () => addMissing x table rest

/-- Bring one table up to a schema. -/
def bringUp (x : Executor m) (s : Schema) : m (Except Error Unit) := do
  match ← hasTable x s.name with
  | .error e => return .error e
  | .ok false => createTable x s
  | .ok true => addMissing x s.name s.columns

/-- Create missing tables and add missing columns; nothing is dropped or changed. Stops at the first
failure. -/
def autoMigrate (x : Executor m) : List Schema → m (Except Error Unit)
  | [] => return .ok ()
  | s :: rest => do
    match ← bringUp x s with
    | .error e => return .error e
    | .ok () => autoMigrate x rest

/-! ### The history -/

/-- A migration as it stands in the history. -/
structure Applied where
  version : Int64
  name : String
  checksum : String
  appliedAt : Timestamp
  executionMillis : Int64
deriving DecidableEq

/-- Read a row of the history. -/
def Applied.ofRecord (row : Record) : Except Error Applied := do
  let written ← row.get "applied_at" Value.asText
  let appliedAt ← match Timestamp.parse written.toList with
    | .ok t => pure t
    | .error f => throw (.decode "applied_at" f.message)
  let version ← row.get "version" Value.asInt
  let name ← row.get "name" Value.asText
  let checksum ← row.get "checksum" Value.asText
  let executionMillis ← row.get "execution_time_ms" Value.asInt
  return { version, name, checksum, appliedAt, executionMillis }

/-- Create the table of applied migrations unless it is there. -/
def init (x : Executor m) : m (Except Error Unit) :=
  run x (historySchema.createSql x.session.driver)

/-- The greatest applied version, if any. -/
def currentVersion (x : Executor m) : m (Except Error (Option Int64)) := do
  match ← init x with
  | .error e => return .error e
  | .ok () =>
    match ← x.session.raw (latestSql x.session.driver) [] with
    | .error e => return .error e
    | .ok [] => return .ok none
    | .ok (row :: _) => return row.get "version" (Value.asOptional Value.asInt)

/-- The applied migrations in the order of their versions. -/
def applied (x : Executor m) : m (Except Error (List Applied)) := do
  match ← init x with
  | .error e => return .error e
  | .ok () =>
    match ← x.session.raw (historySql x.session.driver) [] with
    | .error e => return .error e
    | .ok rows => return rows.mapM Applied.ofRecord

/-! ### Migrations -/

/-- The migration that defines a version: the last one of a list. -/
def definition? (ms : List Migration) (version : Int64) : Option Migration :=
  (ms.filter (·.version == version)).getLast?

/-- Compare applied migrations with their definitions. The first changed one is the error; one
without a definition is only reported. -/
def compare (x : Executor m) (ms : List Migration) : List Applied → m (Except Error Unit)
  | [] => return .ok ()
  | a :: rest => do
    match definition? ms a.version with
    | none =>
      x.warn (.undefinedMigration a.version)
      compare x ms rest
    | some d =>
      if d.checksum = a.checksum then compare x ms rest
      else return .error (.checksumMismatch a.version d.checksum a.checksum)

/-- Check that no applied migration has changed since. -/
def verify (x : Executor m) (ms : List Migration) : m (Except Error Unit) := do
  match ← applied x with
  | .error e => return .error e
  | .ok as => compare x ms as

/-- The migrations beyond a version, in the order of their versions; those of one version stay in
their order. -/
def newer (current : Int64) (ms : List Migration) : List Migration :=
  (ms.filter fun d => current < d.version).mergeSort fun a b => a.version ≤ b.version

/-- The migrations that are still to be applied. An empty history counts as version zero. -/
def pending (x : Executor m) (ms : List Migration) : m (Except Error (List Migration)) := do
  match ← currentVersion x with
  | .error e => return .error e
  | .ok current => return .ok (newer (current.getD 0) ms)

/-- A script that failed. -/
def failed (verb : String) (version : Int64) (e : Error) : Error :=
  .migration
    ("failed to " ++ verb ++ " migration " ++ Notice.versionText version ++ ": " ++ e.message)

/-- Run a migration and record it, both in an open transaction. -/
def applyIn (t : Transaction m) (d : Migration) (started : Time) : m (Except Error Unit) := do
  match ← t.session.exec d.up [] with
  | .error e => return .error (failed "apply" d.version e)
  | .ok _ =>
    let elapsed := ((← t.executor.now) - started) / 1_000_000
    let values := [.int d.version, .text d.name, .text d.checksum,
      .text (Timestamp.ofNanos started).text, .int (Int64.ofNat elapsed)]
    return (← t.session.exec (recordSql t.session.driver) values).map fun _ => ()

/-- Run a body that cannot panic in a transaction. -/
def inTransaction {α : Type} (x : Executor m) (body : Transaction m → m (Except Error α)) :
    m (Except Error α) := do
  let exit ← x.transaction (π := Empty) id fun t => do
    return .ofExcept (← body t)
  return exit.toExcept

/-- Apply one migration. -/
def applyOne (x : Executor m) (d : Migration) : m (Except Error Unit) := do
  let started ← x.now
  inTransaction x fun t => applyIn t d started

/-- Apply migrations in order, up to the first failure; answers those applied, as version and name,
without their times. -/
def applyAll (x : Executor m) : List Migration → m (Except Error (List (Int64 × String)))
  | [] => return .ok []
  | d :: rest => do
    match ← applyOne x d with
    | .error e => return .error e
    | .ok () => return (← applyAll x rest).map ((d.version, d.name) :: ·)

/-- Check the history, then apply what is still to be applied. -/
def apply (x : Executor m) (ms : List Migration) : m (Except Error (List (Int64 × String))) := do
  match ← verify x ms with
  | .error e => return .error e
  | .ok () =>
    match ← pending x ms with
    | .error e => return .error e
    | .ok todo => applyAll x todo

/-- Undo a migration and take it off the record, both in an open transaction. -/
def undoIn (t : Transaction m) (d : Migration) (version : Int64) : m (Except Error Unit) := do
  let forget := do
    return (← t.session.exec (forgetSql t.session.driver) [.int version]).map fun _ => ()
  match d.down with
  | none =>
    t.executor.warn (.noDownScript version)
    forget
  | some script =>
    match ← t.session.exec script [] with
    | .error e => return .error (failed "roll back" version e)
    | .ok _ => forget

/-- Undo the migration with the greatest applied version, if any; answers its version and name,
without its time. Of several definitions the first one counts. -/
def rollbackLast (x : Executor m) (ms : List Migration) :
    m (Except Error (Option (Int64 × String))) := do
  match ← currentVersion x with
  | .error e => return .error e
  | .ok none => return .ok none
  | .ok (some version) =>
    match ms.find? (·.version == version) with
    | none =>
      return .error
        (.migration ("migration " ++ Notice.versionText version ++ " is not defined"))
    | some d =>
      match ← inTransaction x fun t => undoIn t d version with
      | .error e => return .error e
      | .ok () => return .ok (some (version, d.name))

end DataAccess.Access.Migrator
