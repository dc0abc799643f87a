import DataAccess.Sql.Dialect
import DataAccess.Sql.Schema
import DataAccess.Sql.Session

/-!
# Table queries

A query is about one table: equality filters, an order, a limit and an offset. It renders to the
five statements on a table. Statements are built from fragments, so that names are always quoted and
values are always bound: `render` numbers the parameters and collects their values in the order in
which they are written.
-/

namespace DataAccess.Sql

/-! ### Fragments -/

/-- A part of a statement. -/
inductive Fragment where
  /-- Words and punctuation. -/
  | word (text : String)
  /-- A name, which is quoted. -/
  | name (text : String)
  /-- A value: a parameter, or the word NULL, since not every database can tell the type of a
  missing parameter. -/
  | value (v : Value)

namespace Fragment

/-- The text of a fragment after `bound` parameters. -/
def text (d : Driver) (bound : Nat) : Fragment → String
  | word s => s
  | name s => quote d s
  | value v => if v.isNull then "NULL" else placeholder d (bound + 1)

/-- The values that a fragment binds. -/
def bound : Fragment → List Value
  | value v => if v.isNull then [] else [v]
  | _ => []

/-- The text of fragments after `n` parameters. -/
def textFrom (d : Driver) (n : Nat) : List Fragment → String
  | [] => ""
  | f :: rest => f.text d n ++ textFrom d (n + f.bound.length) rest

/-- The statement of some fragments. -/
def statement (d : Driver) (kind : Operation) (table : String) (fs : List Fragment) : Statement :=
  { kind, table, sql := textFrom d 0 fs, args := fs.flatMap bound }

/-- Put a fragment between the groups of a list. -/
def separated (sep : Fragment) : List (List Fragment) → List Fragment
  | [] => []
  | [g] => g
  | g :: rest => g ++ sep :: separated sep rest

end Fragment

/-! ### Queries -/

/-- Which way a column is ordered. -/
inductive Direction where
  | ascending
  | descending
deriving DecidableEq

/-- A query on one table. -/
structure Query where
  table : String
  filters : List (String × Value)
  order : List (String × Direction)
  limit : Option Nat
  offset : Option Nat
deriving DecidableEq

namespace Query

open Fragment

/-- All rows of a table. -/
def ofTable (table : String) : Query :=
  { table, filters := [], order := [], limit := none, offset := none }

/-- Keep the rows whose column has a value; a missing value is looked for as such. -/
def filter (q : Query) (column : String) (v : Value) : Query :=
  { q with filters := q.filters ++ [(column, v)] }

/-- Order by a column, after the orders given before. -/
def orderBy (q : Query) (column : String) (direction : Direction) : Query :=
  { q with order := q.order ++ [(column, direction)] }

/-- Keep at most `n` rows. -/
def withLimit (q : Query) (n : Nat) : Query := { q with limit := some n }

/-- Skip `n` rows. -/
def withOffset (q : Query) (n : Nat) : Query := { q with offset := some n }

/-- One condition. -/
def condition (f : String × Value) : List Fragment :=
  if f.2.isNull then [.name f.1, .word " IS NULL"] else [.name f.1, .word " = ", .value f.2]

/-- The conditions, nothing if there are none. -/
def whereClause (q : Query) : List Fragment :=
  if q.filters.isEmpty then []
  else .word " WHERE " :: separated (.word " AND ") (q.filters.map condition)

/-- One column of the order. -/
def orderItem (o : String × Direction) : List Fragment :=
  match o.2 with
  | .ascending => [.name o.1]
  | .descending => [.name o.1, .word " DESC"]

/-- The order, nothing if there is none. -/
def orderClause (q : Query) : List Fragment :=
  if q.order.isEmpty then []
  else .word " ORDER BY " :: separated (.word ", ") (q.order.map orderItem)

/-- The statement that reads the rows. -/
def select (q : Query) (d : Driver) : Statement :=
  Fragment.statement d .query q.table
    ([.word "SELECT * FROM ", .name q.table] ++ q.whereClause ++ q.orderClause ++
      [.word (limitOffset d q.limit q.offset)])

/-- The statement that counts the rows. Order, limit and offset do not count. -/
def countRows (q : Query) (d : Driver) : Statement :=
  Fragment.statement d .query q.table
    ([.word "SELECT COUNT(*) AS count FROM ", .name q.table] ++ q.whereClause)

/-- The statement that inserts a row. A row without columns takes all defaults. -/
def insertRow (q : Query) (d : Driver) (values : List (String × Value)) : Statement :=
  Fragment.statement d .create q.table
    ([.word "INSERT INTO ", .name q.table] ++
      if values.isEmpty then [.word (if d = .mysql then " () VALUES ()" else " DEFAULT VALUES")]
      else
        [.word " ("] ++ separated (.word ", ") (values.map fun v => [.name v.1]) ++
        [.word ") VALUES ("] ++ separated (.word ", ") (values.map fun v => [.value v.2]) ++
        [.word ")"])

/-- One assignment. -/
def assignment (v : String × Value) : List Fragment := [.name v.1, .word " = ", .value v.2]

/-- The statement that changes the rows. It is refused without conditions, and without values. -/
def updateRows (q : Query) (d : Driver) (values : List (String × Value)) : Except Error Statement :=
  if q.filters.isEmpty then .error (.missingConditions "update")
  else if values.isEmpty then .error (.missingValues "update")
  else .ok <| Fragment.statement d .update q.table
    ([.word "UPDATE ", .name q.table, .word " SET "] ++
      separated (.word ", ") (values.map assignment) ++ q.whereClause)

/-- The statement that deletes the rows. It is refused without conditions. -/
def deleteRows (q : Query) (d : Driver) : Except Error Statement :=
  if q.filters.isEmpty then .error (.missingConditions "delete")
  else .ok <| Fragment.statement d .delete q.table
    ([.word "DELETE FROM ", .name q.table] ++ q.whereClause)

/-! ### Running queries -/

variable {m : Type → Type} [Monad m]

/-- Insert a row; answers the rows affected. -/
def insert (q : Query) (s : Session m) (values : List (String × Value)) : m (Except Error Nat) :=
  s.execute (q.insertRow s.driver values)

/-- The values of a row to insert: a primary key without a value is left to the database. -/
def insertable (schema : Schema) (values : List (String × Value)) : List (String × Value) :=
  values.filter fun v => !(v.2.isNull && schema.isPrimaryKey v.1)

/-- Insert a row of a model. -/
def create (q : Query) (s : Session m) (schema : Schema) (values : List (String × Value)) :
    m (Except Error Nat) :=
  q.insert s (insertable schema values)

/-- Change the rows; answers the rows affected. -/
def update (q : Query) (s : Session m) (values : List (String × Value)) : m (Except Error Nat) :=
  match q.updateRows s.driver values with
  | .ok statement => s.execute statement
  | .error e => pure (.error e)

/-- Delete the rows; answers the rows affected. -/
def delete (q : Query) (s : Session m) : m (Except Error Nat) :=
  match q.deleteRows s.driver with
  | .ok statement => s.execute statement
  | .error e => pure (.error e)

/-- Read the rows. -/
def find (q : Query) (s : Session m) : m (Except Error (List Record)) :=
  s.fetch (q.select s.driver)

/-- Read the first row. -/
def first (q : Query) (s : Session m) : m (Except Error (Option Record)) :=
  (·.map List.head?) <$> (q.withLimit 1).find s

/-- Count the rows. -/
def count (q : Query) (s : Session m) : m (Except Error Int64) := do
  match ← s.fetch (q.countRows s.driver) with
  | .error e => return .error e
  | .ok [] => return .ok 0
  | .ok (row :: _) => return row.get "count" Value.asInt

/-- Read the rows as values of a model; the first row that does not read is the error. -/
def findAs {α : Type} (q : Query) (s : Session m) (read : Record → Except Error α) :
    m (Except Error (List α)) := do
  match ← q.find s with
  | .error e => return .error e
  | .ok rows => return rows.mapM read

end Query

end DataAccess.Sql
