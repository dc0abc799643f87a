import DataAccess.Sqlite.Definition

/-!
# Changing rows

Inserting, updating and deleting rows. Every change checks what its table declares, and a change
that is refused leaves the database as it was: the functions answer a new database or a refusal.
-/

namespace DataAccess.Sqlite

open Sql

/-- A database after a change, and the number of rows changed. -/
abbrev Changed := Database × Nat

namespace Table

/-! ### Checks -/

/-- The least and the greatest row number. -/
def isRowNumber (i : Int) : Bool := (int64? i).isSome

/-- A value as a row number. -/
def rowNumberOf (v : Value) : Except Refusal Int :=
  match Affinity.integer.apply v with
  | .int i => .ok i.toInt
  | _ => .error .typeMismatch

/-- Check that no value is missing where none may be. A missing row number is assigned. -/
def checkNotNull (t : Table) (row : List Value) : Except Refusal Unit :=
  ((t.columns.zip row).zipIdx).forM fun c =>
    if c.1.1.notNull && c.1.2.isNull && t.rowNumber != some c.2 then
      .error (.notNull t.name c.1.1.name)
    else .ok ()

/-- Check that a row differs from all other rows where it has to. -/
def checkUnique (t : Table) (row : List Value) : Except Refusal Unit :=
  t.uniqueKeys.forM fun k =>
    if t.rows.any fun r => sameKey (valuesAt k.places row) (valuesAt k.places r.2) then
      .error (.notUnique k.primary (t.columnsText k.places))
    else .ok ()

/-- Check that a row number is free. -/
def checkNumber (t : Table) (number : Int) : Except Refusal Unit :=
  if t.has number then .error (.notUnique true (t.columnsText t.rowNumber.toList)) else .ok ()

/-- A row as it is stored under a number. -/
def stored (t : Table) (number : Int) (row : List Value) : List Value :=
  row.zipIdx.map fun v =>
    if t.rowNumber = some v.2 then .int (Int64.ofInt number) else (t.affinity v.2).apply v.1

/-- Check a row and store it under a number. -/
def store (t : Table) (number : Int) (row : List Value) : Except Refusal Table := do
  let row := t.stored number row
  t.checkNotNull row
  t.checkNumber number
  t.checkUnique row
  return t.put number row

end Table

namespace Database

/-! ### Inserting -/

/-- The next row number that the engine assigns. -/
def nextNumber (d : Database) (t : Table) : Except Refusal Int :=
  let last := if t.autoincrement then max t.lastNumber (d.usedNumber t.name) else t.lastNumber
  if Table.isRowNumber (last + 1) then .ok (last + 1) else .error .full

/-- Insert a row, in which a missing row number is assigned. -/
def insertRow (d : Database) (table : String) (row : List Value) : Except Refusal Database := do
  let t ← d.table table
  let given := (t.rowNumber.map fun p => row.getD p .null).getD .null
  let number ← if given.isNull then d.nextNumber t else Table.rowNumberOf given
  let t' ← t.store number row
  let d := d.replace t'
  return if t.autoincrement then d.useNumber t.name number else d

/-- A whole row: the values given for some places, and defaults elsewhere. -/
def completed (t : Table) (places : List Nat) (values : List Value) : List Value :=
  (List.range t.columns.length).map fun i =>
    match (places.zip values).lookup i with
    | some v => v
    | none => (((t.columnAt? i).bind (·.default)).map Expr.defaultValue).getD .null

/-- Check the widths of rows to insert. -/
def checkWidths (t : Table) (table : String) (columns : Option (List String)) :
    List (List Expr) → Except Refusal Unit
  | [] => .ok ()
  | first :: rest =>
    if rest.any fun r => r.length != first.length then .error .unevenRows
    else
      match columns with
      | some cs =>
        if cs.length = first.length then .ok () else .error (.wrongCount first.length cs.length)
      | none =>
        if t.columns.length = first.length then .ok ()
        else .error (.wrongWidth table t.columns.length first.length)

/-- Insert rows. -/
def insert (d : Database) (s : Scope) (table : String) (columns : Option (List String))
    (rows : Option (List (List Expr))) : Except Refusal Changed := do
  let t ← d.table table
  let places ← match columns with
    | none => pure (List.range t.columns.length)
    | some cs => cs.mapM fun c =>
      match t.place? c with
      | some p => .ok p
      | none => .error (.unknownTarget table c)
  match rows with
  | none =>
    d.checkReferences t
    return (← d.insertRow table (completed t [] []), 1)
  | some rows =>
    rows.forM fun r => r.forM (·.check s)
    checkWidths t table columns rows
    d.checkReferences t
    let values ← rows.mapM fun r => r.mapM (·.eval s [] [])
    let d ← values.foldlM (fun d v => d.insertRow table (completed t places v)) d
    return (d, values.length)

/-! ### Updating -/

/-- A row after assignments, evaluated in the row as it was. -/
def assigned (s : Scope) (changes : List (Nat × Expr)) (row : List Value) :
    Except Refusal (List Value) :=
  changes.foldlM (fun new c => do return new.set c.1 (← c.2.eval s [] row)) row

/-- Update one row. -/
def updateRow (d : Database) (s : Scope) (table : String) (changes : List (Nat × Expr))
    (r : Int × List Value) : Except Refusal Database := do
  let t ← d.table table
  let row ← assigned s changes r.2
  let number ← match t.rowNumber with
    | none => pure r.1
    | some p => Table.rowNumberOf (row.getD p .null)
  return d.replace (← (t.erase r.1).store number row)

/-- Update the rows that meet a condition. -/
def update (d : Database) (s : Scope) (table : String) (changes : List (String × Expr))
    (condition : Option Expr) : Except Refusal Changed := do
  let t ← d.table table
  let s := s.inTable t
  let changes ← changes.mapM fun c => do
    c.2.check s
    match t.place? c.1 with
    | some p => return (p, c.2)
    | none => throw (.noSuchColumn c.1)
  condition.forM (·.check s)
  d.checkReferences t
  d.checkReferrers t
  let rows ← t.rows.filterM fun r => meets s condition r.2
  return (← rows.foldlM (fun d r => d.updateRow s table changes r) d, rows.length)

/-! ### Deleting -/

/-- Delete the rows that meet a condition. -/
def delete (d : Database) (s : Scope) (table : String) (condition : Option Expr) :
    Except Refusal Changed := do
  let t ← d.table table
  let s := s.inTable t
  condition.forM (·.check s)
  d.checkReferrers t
  let rows ← t.rows.filterM fun r => meets s condition r.2
  return (d.replace (rows.foldl (fun t r => t.erase r.1) t), rows.length)

end Database

end DataAccess.Sqlite
