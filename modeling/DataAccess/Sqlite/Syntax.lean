import DataAccess.Sql.Value
import DataAccess.Sqlite.Token

/-!
# Statements of SQLite

The statements that the engine knows, as trees: tables and rows, the few expressions that stand in
them, and control of transactions; and the ways in which a statement is refused.
-/

namespace DataAccess.Sqlite

open Sql

/-! ### Refusals -/

/-- Why the engine refuses a statement. -/
inductive Refusal where
  /-- A token that cannot stand where it stands. -/
  | misplaced (token : String)
  /-- A statement that ends too early. -/
  | incomplete
  | unrecognized (token : String)
  | noSuchTable (name : String)
  | noSuchColumn (name : String)
  | noSuchFunction (name : String)
  | noSuchSavepoint (name : String)
  /-- A column of an insertion that its table does not have. -/
  | unknownTarget (table column : String)
  /-- A row with too many or too few values for a table. -/
  | wrongWidth (table : String) (columns values : Nat)
  /-- A row with too many or too few values for a list of columns. -/
  | wrongCount (values columns : Nat)
  | unevenRows
  | tableExists (name : String)
  | reservedName (name : String)
  | duplicateColumn (name : String)
  | severalKeys (table : String)
  | notDroppable (table : String)
  | misplacedAutoincrement
  | noColumnToDrop (name : String)
  | columnInUse (role column : String)
  | onlyColumn (column : String)
  /-- A column that cannot be added: what it is. -/
  | notAddable (what : String)
  | misplacedOrder (place count : Nat)
  | insideTransaction
  | noTransaction (verb : String)
  | keyMismatch (child parent : String)
  | notNull (table column : String)
  /-- Equal values in columns that forbid them; `primary` for the primary key. -/
  | notUnique (primary : Bool) (columns : String)
  | foreignKey
  | typeMismatch
  | full
deriving DecidableEq

/-- The ordinal of a number in messages. -/
def ordinalText (n : Nat) : String :=
  let ending :=
    if n / 10 % 10 = 1 then "th"
    else if n % 10 = 1 then "st" else if n % 10 = 2 then "nd" else if n % 10 = 3 then "rd" else "th"
  toString n ++ ending

namespace Refusal

/-- The wording of a refusal. -/
def message : Refusal → String
  | misplaced t => "near \"" ++ t ++ "\": syntax error"
  | incomplete => "incomplete input"
  | unrecognized t => "unrecognized token: \"" ++ t ++ "\""
  | noSuchTable n => "no such table: " ++ n
  | noSuchColumn n => "no such column: " ++ n
  | noSuchFunction n => "no such function: " ++ n
  | noSuchSavepoint n => "no such savepoint: " ++ n
  | unknownTarget t c => "table " ++ t ++ " has no column named " ++ c
  | wrongWidth t columns values =>
    "table " ++ t ++ " has " ++ toString columns ++ " columns but " ++ toString values ++
      " values were supplied"
  | wrongCount values columns => toString values ++ " values for " ++ toString columns ++ " columns"
  | unevenRows => "all VALUES must have the same number of terms"
  | tableExists n => "table " ++ n ++ " already exists"
  | reservedName n => "object name reserved for internal use: " ++ n
  | duplicateColumn n => "duplicate column name: " ++ n
  | severalKeys t => "table \"" ++ t ++ "\" has more than one primary key"
  | notDroppable t => "table " ++ t ++ " may not be dropped"
  | misplacedAutoincrement => "AUTOINCREMENT is only allowed on an INTEGER PRIMARY KEY"
  | noColumnToDrop n => "no such column: \"" ++ n ++ "\""
  | columnInUse role c => "cannot drop " ++ role ++ " column: \"" ++ c ++ "\""
  | onlyColumn c => "cannot drop column \"" ++ c ++ "\": no other columns exist"
  | notAddable what => "Cannot add a " ++ what
  | misplacedOrder place count => ordinalText place ++
      " ORDER BY term out of range - should be between 1 and " ++ toString count
  | insideTransaction => "cannot start a transaction within a transaction"
  | noTransaction verb => "cannot " ++ verb ++ " - no transaction is active"
  | keyMismatch child parent =>
    "foreign key mismatch - \"" ++ child ++ "\" referencing \"" ++ parent ++ "\""
  | notNull t c => "NOT NULL constraint failed: " ++ t ++ "." ++ c
  | notUnique _ columns => "UNIQUE constraint failed: " ++ columns
  | foreignKey => "FOREIGN KEY constraint failed"
  | typeMismatch => "datatype mismatch"
  | full => "database or disk is full"

/-- The result code of a refusal. -/
def code : Refusal → Nat
  | notNull .. => 1299
  | notUnique primary _ => if primary then 1555 else 2067
  | foreignKey => 787
  | typeMismatch => 20
  | full => 13
  | _ => 1

/-- Whether the refusal comes up only when rows are being changed. -/
def isLate (r : Refusal) : Bool := r.code != 1

end Refusal

/-! ### Expressions -/

/-- Comparisons. -/
inductive Comparison where
  | equal
  | notEqual
  | less
  | lessEqual
  | greater
  | greaterEqual
deriving DecidableEq

/-- Calculations. -/
inductive Calculation where
  | plus
  | minus
  | times
deriving DecidableEq

/-- The functions that collect a value from all rows. -/
inductive Aggregate where
  | count
  | max
  | min
deriving DecidableEq

/-- An expression. -/
inductive Expr where
  | literal (v : Value)
  /-- The parameter in a place, counted from zero within its statement. -/
  | parameter (place : Nat)
  /-- The parameter with a number, counted from one over all statements. -/
  | numbered (number : Nat)
  /-- A name; in double quotes it is a text where it names nothing. -/
  | name (name : String) (maybeText : Bool)
  | negate (e : Expr)
  | not (e : Expr)
  | isNull (e : Expr)
  | compare (c : Comparison) (l r : Expr)
  /-- Equality in which two missing values are equal. -/
  | same (l r : Expr)
  | calculate (c : Calculation) (l r : Expr)
  | and (l r : Expr)
  | or (l r : Expr)
  | countRows
  | aggregate (a : Aggregate) (e : Expr)
deriving Inhabited

/-! ### Statements -/

/-- A name with its spelling. -/
structure Named where
  name : String
  spelling : String
deriving Inhabited

/-- A reference to another table. -/
structure Reference where
  table : String
  /-- The column there; the primary key if it is left out. -/
  column : Option String
  /-- Whether it is checked only when the transaction ends. -/
  deferred : Bool

/-- A column as it is declared. -/
structure ColumnDef where
  name : String
  type : List Char
  notNull : Bool
  primaryKey : Bool
  autoincrement : Bool
  unique : Bool
  default : Option Expr
  reference : Option Reference

/-- A clause on a table as a whole. -/
inductive TableClause where
  | primaryKey (columns : List String)
  | unique (columns : List String)

/-- Where rows come from. -/
inductive Source where
  | nowhere
  | table (name : String)
  /-- A function that answers rows. -/
  | function (name : String) (args : List Expr)

/-- An item of a selection. -/
inductive Item where
  | all
  /-- An expression, with its name and whether the name was given. -/
  | one (e : Expr) (name : String) (given : Bool)

/-- A selection. -/
structure Select where
  items : List Item
  source : Source
  condition : Option Expr
  order : List (Expr × Bool)
  limit : Option Expr
  offset : Option Expr

/-- A statement. -/
inductive Command where
  | begin
  | commit
  | rollback
  | savepoint (name : String)
  | release (name : String)
  | rollbackTo (name : String)
  | createTable (table : Named) (ifMissing : Bool) (columns : List ColumnDef)
    (clauses : List TableClause)
  | addColumn (table : String) (column : ColumnDef)
  | dropColumn (table : String) (column : Named)
  | dropTable (table : String) (ifPresent : Bool)
  /-- Rows of values; none for one row of defaults. -/
  | insert (table : String) (columns : Option (List String)) (rows : Option (List (List Expr)))
  | update (table : String) (changes : List (String × Expr)) (condition : Option Expr)
  | delete (table : String) (condition : Option Expr)
  | select (s : Select)
  | pragma (name : String) (value : Option String)

end DataAccess.Sqlite
