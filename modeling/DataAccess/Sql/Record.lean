import DataAccess.Error
import DataAccess.Sql.Value

/-!
# Rows

A row read back from a database: its columns in select order. A name that occurs twice stands for
its first column in typed access, and for its last one in the object view.
-/

namespace DataAccess.Sql

/-- A row: its columns in select order. -/
structure Record where
  columns : List (String × Value)
deriving DecidableEq, Inhabited

namespace Record

/-- The row without columns. -/
def empty : Record := ⟨[]⟩

/-- The value of the first column with a name. -/
def value? (r : Record) (column : String) : Option Value := r.columns.lookup column

/-- The value of a column, read as a type. -/
def get {α : Type} (r : Record) (column : String) (read : Value → Except Value.TypeError α) :
    Except Error α :=
  match r.value? column with
  | none => .error (.decode column "no such column")
  | some v =>
    match read v with
    | .ok a => .ok a
    | .error e => .error (.decode column e.message)

/-- The names of the columns. -/
def names (r : Record) : List String := r.columns.map (·.1)

/-- The row as an object. -/
def toJson (r : Record) : Json := .ofMembers (r.columns.map fun c => (c.1, c.2.toJson))

/-- The row with the order of its columns, as a tree. -/
def serialized (r : Record) : Json :=
  .object [("columns", .list (r.columns.map fun c => .list [.text c.1, c.2.toJson]))]

end Record

end DataAccess.Sql
