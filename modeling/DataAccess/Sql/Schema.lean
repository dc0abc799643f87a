import DataAccess.Sql.Dialect

/-!
# Table definitions

Portable columns and tables, and the statements that define them in each dialect. A table with one
primary key column declares it with the column; a table with several lists them at its end.
-/

namespace DataAccess.Sql

/-- Portable column types. -/
inductive ColumnType where
  | integer
  | real
  | text
  | boolean
  | blob
deriving DecidableEq

/-- One column of a table. -/
structure Column where
  name : String
  type : ColumnType
  nullable : Bool
  primaryKey : Bool
  autoIncrement : Bool
  unique : Bool
  /-- The default as an SQL expression, written as it is. -/
  default : Option String
deriving DecidableEq

namespace Column

/-- A column that may be null and has no other property. -/
def plain (name : String) (type : ColumnType) : Column :=
  { name, type, nullable := true, primaryKey := false, autoIncrement := false, unique := false,
    default := none }

/-- Forbid null. -/
def notNull (c : Column) : Column := { c with nullable := false }

/-- Make the column part of the primary key, which forbids null. -/
def asPrimaryKey (c : Column) : Column := { c with primaryKey := true, nullable := false }

/-- Let the database assign the value. -/
def asAutoIncrement (c : Column) : Column := { c with autoIncrement := true }

/-- Forbid equal values. -/
def asUnique (c : Column) : Column := { c with unique := true }

/-- Give the column a default expression. -/
def withDefault (c : Column) (expr : String) : Column := { c with default := some expr }

/-- An integer primary key that the database assigns. -/
def id (name : String) : Column := (plain name .integer).asPrimaryKey.asAutoIncrement

/-- The type of a column in a dialect. MySQL cannot index a text without a length. -/
def typeSql (c : Column) (d : Driver) : String :=
  match d, c.type with
  | .mysql, .integer => "BIGINT"
  | .mysql, .real => "DOUBLE"
  | .mysql, .text => if c.primaryKey || c.unique then "VARCHAR(255)" else "TEXT"
  | .mysql, .blob => "LONGBLOB"
  | .postgresql, .integer => "BIGINT"
  | .postgresql, .real => "DOUBLE PRECISION"
  | .postgresql, .blob => "BYTEA"
  | _, .integer => "INTEGER"
  | _, .real => "REAL"
  | _, .text => "TEXT"
  | _, .boolean => "BOOLEAN"
  | _, .blob => "BLOB"

/-- Whether the column is the whole primary key and numbered by the database. -/
def isSerial (c : Column) (inlineKey : Bool) : Bool :=
  inlineKey && c.primaryKey && c.autoIncrement && c.type == .integer

/-- The type and key of a serial column. -/
def serialSql (d : Driver) : String :=
  match d with
  | .mysql => " BIGINT AUTO_INCREMENT PRIMARY KEY"
  | .postgresql => " BIGSERIAL PRIMARY KEY"
  | _ => " INTEGER PRIMARY KEY AUTOINCREMENT"

/-- What a column says about null: a primary key that is declared here implies it. -/
def nullSql (c : Column) (inlineKey : Bool) : String :=
  if inlineKey && c.primaryKey then " PRIMARY KEY" else if !c.nullable then " NOT NULL" else ""

/-- What a column says about equal values: a primary key implies it. -/
def uniqueSql (c : Column) : String := if c.unique && !c.primaryKey then " UNIQUE" else ""

/-- The default of a column. -/
def defaultSql (c : Column) : String :=
  match c.default with
  | some expr => " DEFAULT " ++ expr
  | none => ""

/-- The definition of a column. `inlineKey` is false where the table lists its key at its end. -/
def definition (c : Column) (d : Driver) (inlineKey : Bool) : String :=
  if c.isSerial inlineKey then quote d c.name ++ serialSql d
  else
    quote d c.name ++ " " ++ c.typeSql d ++ c.nullSql inlineKey ++ c.uniqueSql ++ c.defaultSql

end Column

/-- A table: its name and its columns in order. -/
structure Schema where
  name : String
  columns : List Column
deriving DecidableEq

namespace Schema

/-- Whether a column of this name is in the primary key. -/
def isPrimaryKey (s : Schema) (column : String) : Bool :=
  s.columns.any fun c => c.primaryKey && c.name == column

/-- The columns of the primary key, in order. -/
def keyColumns (s : Schema) : List Column := s.columns.filter (·.primaryKey)

/-- Whether several columns make up the primary key. -/
def isComposite (s : Schema) : Bool := 1 < s.keyColumns.length

/-- The clause that lists the columns of a composite key. -/
def keyClause (s : Schema) (d : Driver) : String :=
  "PRIMARY KEY (" ++ ", ".intercalate (s.keyColumns.map fun c => quote d c.name) ++ ")"

/-- The clauses of a table definition, in order. -/
def clauses (s : Schema) (d : Driver) : List String :=
  s.columns.map (fun c => c.definition d (!s.isComposite)) ++
    (if s.isComposite then [s.keyClause d] else [])

/-- The statement that creates the table unless it exists. -/
def createSql (s : Schema) (d : Driver) : String :=
  "CREATE TABLE IF NOT EXISTS " ++ quote d s.name ++ " (" ++ ", ".intercalate (s.clauses d) ++ ")"

end Schema

end DataAccess.Sql
