import DataAccess.Sqlite.Cell
import DataAccess.Sqlite.Syntax

/-!
# Tables

What a database holds: tables with their columns, keys and rows. Rows are kept in the order of their
row numbers. Names of tables and columns are found whatever the case of their ASCII letters.
-/

namespace DataAccess.Sqlite

open Sql

/-- Equality of names, apart from the case of ASCII letters. -/
def sameName (a b : String) : Bool := a.toList.map Char.toLower == b.toList.map Char.toLower

/-- A column that forbids equal values, alone or with others. -/
structure UniqueKey where
  primary : Bool
  /-- The places of its columns. -/
  places : List Nat
deriving DecidableEq

/-- A table. -/
structure Table where
  name : String
  columns : List ColumnDef
  /-- The place of the column that is the row number. -/
  rowNumber : Option Nat
  /-- Whether row numbers are never used again. -/
  autoincrement : Bool
  uniqueKeys : List UniqueKey
  /-- Row numbers with rows, in ascending order. -/
  rows : List (Int × List Value)
deriving Inhabited

namespace Table

/-- The place of a column. -/
def place? (t : Table) (column : String) : Option Nat :=
  t.columns.findIdx? fun c => sameName c.name column

/-- The column in a place. -/
def columnAt? (t : Table) (place : Nat) : Option ColumnDef := t.columns[place]?

/-- The affinity of the column in a place. -/
def affinity (t : Table) (place : Nat) : Affinity :=
  match t.columnAt? place with
  | some c => .ofType c.type
  | none => .blob

/-- Store a row under its number. -/
def put (t : Table) (number : Int) (row : List Value) : Table :=
  let before := t.rows.takeWhile (·.1 < number)
  let after := t.rows.dropWhile (·.1 < number)
  { t with rows := before ++ (number, row) :: after.filter (·.1 != number) }

/-- Take a row away. -/
def erase (t : Table) (number : Int) : Table :=
  { t with rows := t.rows.filter (·.1 != number) }

/-- Whether there is a row with a number. -/
def has (t : Table) (number : Int) : Bool := t.rows.any (·.1 == number)

/-- The greatest row number, zero without rows. -/
def lastNumber (t : Table) : Int := (t.rows.getLast?.map (·.1)).getD 0

/-- The values of a row in some places. -/
def valuesAt (places : List Nat) (row : List Value) : List Value :=
  places.map fun p => row.getD p .null

/-- Whether two keys are equal; a missing value is equal to none. -/
def sameKey (a b : List Value) : Bool :=
  !a.any Value.isNull && (a.zip b).all (fun p => compareValues p.1 p.2 == .eq) &&
    a.length == b.length

/-- Columns with their table, as messages name them. -/
def columnsText (t : Table) (places : List Nat) : String :=
  ", ".intercalate (places.filterMap fun p => (t.columnAt? p).map fun c => t.name ++ "." ++ c.name)

/-- The places of the primary key. -/
def primaryPlaces (t : Table) : List Nat :=
  match t.rowNumber with
  | some p => [p]
  | none => ((t.uniqueKeys.find? (·.primary)).map (·.places)).getD []

end Table

/-! ### Databases -/

/-- A database: its tables in the order of their creation. -/
structure Database where
  tables : List Table
deriving Inhabited

namespace Database

/-- The database without tables. -/
def empty : Database := ⟨[]⟩

/-- The table with a name. -/
def table? (d : Database) (name : String) : Option Table :=
  d.tables.find? fun t => sameName t.name name

/-- The table with a name, which has to be there. -/
def table (d : Database) (name : String) : Except Refusal Table :=
  match d.table? name with
  | some t => .ok t
  | none => .error (.noSuchTable name)

/-- Store a table in place of the one with its name. -/
def replace (d : Database) (t : Table) : Database :=
  ⟨d.tables.map fun u => if sameName u.name t.name then t else u⟩

/-- Add a table. -/
def add (d : Database) (t : Table) : Database := ⟨d.tables ++ [t]⟩

/-- Take a table away. -/
def remove (d : Database) (name : String) : Database :=
  ⟨d.tables.filter fun t => !sameName t.name name⟩

/-! ### Used row numbers -/

/-- The name of the table that keeps the greatest row numbers ever used. -/
def sequenceName : String := "sqlite_sequence"

/-- A column without type and properties. -/
def bareColumn (name : String) : ColumnDef :=
  { name, type := [], notNull := false, primaryKey := false, autoincrement := false,
    unique := false, default := none, reference := none }

/-- The table of used row numbers, without rows. -/
def sequenceTable : Table :=
  { name := sequenceName, columns := [bareColumn "name", bareColumn "seq"], rowNumber := none,
    autoincrement := false, uniqueKeys := [], rows := [] }

/-- The entry of a table among the used row numbers. -/
def sequenceEntry? (d : Database) (table : String) : Option (Int × Int) :=
  match d.table? sequenceName with
  | none => none
  | some s => s.rows.findSome? fun r =>
    match r.2 with
    | [.text n, .int i] => if n = table then some (r.1, i.toInt) else none
    | _ => none

/-- The greatest row number that a table ever used. -/
def usedNumber (d : Database) (table : String) : Int :=
  ((d.sequenceEntry? table).map (·.2)).getD 0

/-- Keep the greatest row number that a table ever used. -/
def useNumber (d : Database) (table : String) (number : Int) : Database :=
  match d.table? sequenceName with
  | none => d
  | some s =>
    let place := ((d.sequenceEntry? table).map (·.1)).getD (s.lastNumber + 1)
    d.replace (s.put place [.text table, .int (Int64.ofInt (max number (d.usedNumber table)))])

/-- Forget the used row numbers of a table. -/
def forgetNumbers (d : Database) (table : String) : Database :=
  match d.table? sequenceName, d.sequenceEntry? table with
  | some s, some (place, _) => d.replace (s.erase place)
  | _, _ => d

/-! ### References between tables -/

/-- A reference of a table: the place of its column, and what it refers to. -/
def references (t : Table) : List (Nat × Reference) :=
  (t.columns.zipIdx).filterMap fun c => c.1.reference.map fun r => (c.2, r)

/-- The places of the columns that a reference leads to, if they are a key. -/
def targetPlaces? (parent : Table) (r : Reference) : Option (List Nat) :=
  let places := match r.column with
    | none => parent.primaryPlaces
    | some c => (parent.place? c).toList
  if places.isEmpty then none
  else if parent.rowNumber.toList = places then some places
  else if parent.uniqueKeys.any (·.places == places) then some places
  else none

/-- Whether a value refers to a row. -/
def isSatisfied (d : Database) (r : Reference) (v : Value) : Bool :=
  v.isNull ||
    match d.table? r.table with
    | none => false
    | some parent =>
      match targetPlaces? parent r with
      | some places => parent.rows.any fun row => Table.sameKey [v] (Table.valuesAt places row.2)
      | none => true

/-- The number of values of one kind of reference that refer to nothing. -/
def dangling (d : Database) (deferred : Bool) : Nat :=
  let ofReference (t : Table) (p : Nat × Reference) : List Value :=
    (t.rows.map fun row => row.2.getD p.1 .null).filter fun v => !d.isSatisfied p.2 v
  let ofTable (t : Table) : List Value :=
    ((references t).filter fun p => p.2.deferred == deferred).flatMap (ofReference t)
  (d.tables.flatMap ofTable).length

/-- Check that the references of a table that is being changed lead to keys. -/
def checkReferences (d : Database) (t : Table) : Except Refusal Unit :=
  (references t).forM fun p =>
    match d.table? p.2.table with
    | none => .error (.noSuchTable ("main." ++ p.2.table))
    | some parent =>
      match targetPlaces? parent p.2 with
      | some _ => .ok ()
      | none => .error (.keyMismatch t.name p.2.table)

/-- Check that the references to a table that is being changed lead to its keys. -/
def checkReferrers (d : Database) (t : Table) : Except Refusal Unit :=
  d.tables.forM fun child => (references child).forM fun p =>
    if sameName p.2.table t.name ∧ (targetPlaces? t p.2).isNone then
      .error (.keyMismatch child.name t.name)
    else .ok ()

end Database

end DataAccess.Sqlite
