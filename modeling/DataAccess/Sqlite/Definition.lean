import DataAccess.Sqlite.Evaluation

/-!
# Defining tables

Creating, changing and dropping tables. A single primary key column of the type INTEGER is the row
number; any other key is a set of columns with unequal values.
-/

namespace DataAccess.Sqlite

open Sql

/-! ### Creating -/

/-- A column whose type is the word INTEGER. -/
def ColumnDef.isInteger (c : ColumnDef) : Bool := c.type.map Char.toUpper == "INTEGER".toList

/-- Names that only the engine gives. -/
def isInternalName (name : String) : Bool :=
  "sqlite_".toList.isPrefixOf (name.toList.map Char.toLower)

namespace Table

/-- A table without columns. -/
def ofName (name : String) : Table :=
  { name, columns := [], rowNumber := none, autoincrement := false, uniqueKeys := [], rows := [] }

/-- Whether the table has a primary key. -/
def hasKey (t : Table) : Bool := t.rowNumber.isSome || t.uniqueKeys.any (·.primary)

/-- Add a key, unless there is one on the same columns. The newest key comes first. -/
def withUnique (t : Table) (primary : Bool) (places : List Nat) : Table :=
  if t.uniqueKeys.any (·.places == places) then t
  else { t with uniqueKeys := ⟨primary, places⟩ :: t.uniqueKeys }

/-- The column of type integer that the places name alone, if it is so. As a primary key it is the
row number. -/
def soleInteger? (t : Table) (places : List Nat) : Option Nat :=
  match places with
  | [p] => if (t.columnAt? p).any ColumnDef.isInteger then some p else none
  | _ => none

/-- Make columns the primary key. -/
def withKey (t : Table) (places : List Nat) (autoincrement : Bool) : Except Refusal Table :=
  let place := t.soleInteger? places
  if t.hasKey then .error (.severalKeys t.name)
  else if autoincrement && place.isNone then .error .misplacedAutoincrement
  else if place.isSome then .ok { t with rowNumber := place, autoincrement }
  else .ok (t.withUnique true places)

/-- Add a column with the keys that it declares. -/
def withColumn (t : Table) (c : ColumnDef) : Except Refusal Table := do
  if (t.place? c.name).isSome then throw (.duplicateColumn c.name)
  let place := t.columns.length
  let t := { t with columns := t.columns ++ [c] }
  let t ← if c.primaryKey then t.withKey [place] c.autoincrement else pure t
  return if c.unique then t.withUnique false [place] else t

/-- The places of columns. -/
def places (t : Table) (columns : List String) : Except Refusal (List Nat) :=
  columns.mapM fun c =>
    match t.place? c with
    | some p => .ok p
    | none => .error (.unknownTarget t.name c)

/-- Add a clause. -/
def withClause (t : Table) : TableClause → Except Refusal Table
  | .primaryKey columns => do t.withKey (← t.places columns) false
  | .unique columns => do return t.withUnique false (← t.places columns)

/-- The table of a definition. -/
def define (name : String) (columns : List ColumnDef) (clauses : List TableClause) :
    Except Refusal Table := do
  let t ← columns.foldlM withColumn (ofName name)
  clauses.foldlM withClause t

end Table

namespace Database

/-- Create a table. -/
def createTable (d : Database) (table : Named) (ifMissing : Bool) (columns : List ColumnDef)
    (clauses : List TableClause) : Except Refusal Database := do
  if isInternalName table.name then throw (.reservedName table.name)
  if (d.table? table.name).isSome then
    if ifMissing then return d else throw (.tableExists table.spelling)
  let t ← Table.define table.name columns clauses
  let d := if t.autoincrement && (d.table? sequenceName).isNone then d.add sequenceTable else d
  return d.add t

/-- Drop a table. -/
def dropTable (d : Database) (name : String) (ifPresent : Bool) : Except Refusal Database :=
  if isInternalName name then .error (.notDroppable name)
  else
    match d.table? name with
    | none => if ifPresent then .ok d else .error (.noSuchTable name)
    | some t => .ok ((d.remove name).forgetNumbers t.name)

/-! ### Changing -/

/-- Refuse what rows that are there already could not have. -/
def refuseForRows (t : Table) (c : ColumnDef) (default : Value) : Except Refusal Unit :=
  if t.rows.isEmpty then .ok ()
  else if c.reference.isSome && !default.isNull then
    .error (.notAddable "REFERENCES column with non-NULL default value")
  else if c.notNull && default.isNull then
    .error (.notAddable "NOT NULL column with default value NULL")
  else if c.default.all Expr.isConstant then .ok ()
  else .error (.notAddable "column with non-constant default")

/-- Add a column to a table. Rows that are there already get its default. -/
def addColumn (d : Database) (table : String) (c : ColumnDef) : Except Refusal Database := do
  let t ← d.table table
  if (t.place? c.name).isSome then throw (.duplicateColumn c.name)
  if c.primaryKey then throw (.notAddable "PRIMARY KEY column")
  if c.unique then throw (.notAddable "UNIQUE column")
  let default := (c.default.map Expr.defaultValue).getD .null
  refuseForRows t c default
  let stored := (Affinity.ofType c.type).apply default
  return d.replace
    { t with columns := t.columns ++ [c], rows := t.rows.map fun r => (r.1, r.2 ++ [stored]) }

/-- A place after the column in another place is gone. -/
def shifted (gone place : Nat) : Nat := if gone < place then place - 1 else place

/-- Drop a column of a table. -/
def dropColumn (d : Database) (table : String) (column : Named) : Except Refusal Database := do
  let t ← d.table table
  let place ← match t.place? column.name with
    | some p => pure p
    | none => throw (.noColumnToDrop column.spelling)
  if t.primaryPlaces.contains place then throw (.columnInUse "PRIMARY KEY" column.name)
  if t.uniqueKeys.any (·.places == [place]) then throw (.columnInUse "UNIQUE" column.name)
  if t.columns.length < 2 then throw (.onlyColumn column.name)
  return d.replace
    { t with
      columns := t.columns.eraseIdx place
      rowNumber := t.rowNumber.map (shifted place)
      uniqueKeys := t.uniqueKeys.map fun k => { k with places := k.places.map (shifted place) }
      rows := t.rows.map fun r => (r.1, r.2.eraseIdx place) }

end Database

end DataAccess.Sqlite
