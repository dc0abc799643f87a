import DataAccess.Access.Engine
import DataAccess.Sqlite.Change
import DataAccess.Sqlite.Reader
import DataAccess.Sqlite.Selection

/-!
# Connections

A connection runs scripts: statement after statement, each of which takes effect as a whole or not
at all. Between statements it keeps the open transaction, as the state when it began and the states
at its savepoints. Rolling back to a savepoint keeps the savepoint; releasing one gives up those
inside it.
-/

namespace DataAccess.Sqlite

open Access Sql

/-- An open transaction. -/
structure Open where
  /-- The database when the transaction began. -/
  start : Database
  /-- The savepoints with the database at each, innermost first. -/
  marks : List (String × Database)
  /-- Whether the outermost savepoint began the transaction. -/
  byMark : Bool

/-- A connection. -/
structure Connection where
  database : Database
  transaction : Option Open
  /-- The number of rows that the last statement on rows changed. -/
  changes : Nat
  /-- The number of transactions begun on the connection and not ended. -/
  nesting : Nat
  /-- How the database keeps its journal. -/
  journal : String
  /-- The columns of statements that were prepared, by text and place. -/
  prepared : List ((String × Nat) × List ResultColumn)

namespace Connection

/-- A connection to a new database. -/
def ofJournal (journal : String) : Connection :=
  { database := .empty, transaction := none, changes := 0, nesting := 0, journal, prepared := [] }

/-! ### Transactions -/

/-- Whether a transaction that began on one database may end on another: it must leave no reference
that leads nowhere. -/
def mayEnd (start now : Database) : Bool := now.dangling true ≤ start.dangling true

/-- Begin a transaction. -/
def begin (c : Connection) : Except Refusal Connection :=
  match c.transaction with
  | some _ => .error .insideTransaction
  | none => .ok { c with transaction := some ⟨c.database, [], false⟩ }

/-- End a transaction and keep what it did. -/
def commit (c : Connection) : Except Refusal Connection :=
  match c.transaction with
  | none => .error (.noTransaction "commit")
  | some t =>
    if mayEnd t.start c.database then .ok { c with transaction := none } else .error .foreignKey

/-- End a transaction and undo what it did. -/
def rollback (c : Connection) : Except Refusal Connection :=
  match c.transaction with
  | none => .error (.noTransaction "rollback")
  | some t => .ok { c with database := t.start, transaction := none }

/-- Set a savepoint. Outside a transaction it begins one. -/
def savepoint (c : Connection) (name : String) : Connection :=
  match c.transaction with
  | none => { c with transaction := some ⟨c.database, [(name, c.database)], true⟩ }
  | some t => { c with transaction := some { t with marks := (name, c.database) :: t.marks } }

/-- The savepoints from the innermost one with a name on. -/
def marksFrom (name : String) (marks : List (String × Database)) : List (String × Database) :=
  marks.dropWhile fun m => !sameName m.1 name

/-- Release a savepoint. If it began the transaction, the transaction ends. -/
def release (c : Connection) (name : String) : Except Refusal Connection :=
  match c.transaction with
  | none => .error (.noSuchSavepoint name)
  | some t =>
    match marksFrom name t.marks with
    | [] => .error (.noSuchSavepoint name)
    | [_] =>
      if t.byMark then c.commit else .ok { c with transaction := some { t with marks := [] } }
    | _ :: rest => .ok { c with transaction := some { t with marks := rest } }

/-- Roll back to a savepoint, which stays. -/
def rollbackTo (c : Connection) (name : String) : Except Refusal Connection :=
  match c.transaction with
  | none => .error (.noSuchSavepoint name)
  | some t =>
    match marksFrom name t.marks with
    | [] => .error (.noSuchSavepoint name)
    | m :: rest =>
      .ok { c with database := m.2, transaction := some { t with marks := m :: rest } }

/-! ### Statements -/

/-- Whether a statement may leave a database behind: no immediate reference leads nowhere that did
not before, and outside a transaction no other one either. -/
def mayLeave (c : Connection) (d : Database) : Bool :=
  d.dangling false ≤ c.database.dangling false && (c.transaction.isSome || mayEnd c.database d)

/-- Take on a database that a statement leaves behind. -/
def adopt (c : Connection) (d : Database) : Except Refusal Connection :=
  if c.mayLeave d then .ok { c with database := d } else .error .foreignKey

/-- Take on a definition of tables. -/
def defined (c : Connection) (d : Except Refusal Database) : Except Refusal Connection :=
  d.bind c.adopt

/-- Take on a change of rows. A change that fails on the way counts as a change of no rows. -/
def changed (c : Connection) (d : Except Refusal Changed) :
    Except Refusal Connection × Connection :=
  match d.bind fun d => (c.adopt d.1).map fun c => { c with changes := d.2 } with
  | .ok c' => (.ok c', c')
  | .error e => (.error e, if e.isLate then { c with changes := 0 } else c)

/-- No rows. -/
def noRows : Answer := ⟨[], []⟩

/-- A row with one value. -/
def oneValue (name : String) (v : Value) : Answer := ⟨[⟨name, none⟩], [[v]]⟩

/-- A setting of the connection. -/
def setting (c : Connection) (name : String) (value : Option String) : Answer :=
  if sameName name "foreign_keys" then
    if value.isSome then noRows else oneValue "foreign_keys" (.int 1)
  else if sameName name "journal_mode" then oneValue "journal_mode" (.text c.journal)
  else noRows

/-- What a statement does: its rows, or why it is refused, and the connection after it. -/
def perform (c : Connection) (s : Scope) (command : Command) : Except Refusal Answer × Connection :=
  let done (r : Except Refusal Connection) : Except Refusal Answer × Connection :=
    match r with
    | .ok c => (.ok noRows, c)
    | .error e => (.error e, c)
  let counted (r : Except Refusal Connection × Connection) : Except Refusal Answer × Connection :=
    (r.1.map fun _ => noRows, r.2)
  match command with
  | .begin => done c.begin
  | .commit => done c.commit
  | .rollback => done c.rollback
  | .savepoint n => (.ok noRows, c.savepoint n)
  | .release n => done (c.release n)
  | .rollbackTo n => done (c.rollbackTo n)
  | .createTable t ifMissing columns clauses =>
    done (c.defined (c.database.createTable t ifMissing columns clauses))
  | .addColumn t column => done (c.defined (c.database.addColumn t column))
  | .dropColumn t column => done (c.defined (c.database.dropColumn t column))
  | .dropTable t ifPresent => done (c.defined (c.database.dropTable t ifPresent))
  | .insert t columns rows => counted (c.changed (c.database.insert s t columns rows))
  | .update t changes condition => counted (c.changed (c.database.update s t changes condition))
  | .delete t condition => counted (c.changed (c.database.delete s t condition))
  | .select q => (q.run c.database s, c)
  | .pragma n value => (.ok (c.setting n value), c)

/-! ### Scripts -/

/-- What a script answers: the rows of its statements, and its rows affected. -/
structure Outcome where
  answers : List Answer
  affected : Nat

/-- A refusal as a backend reports it. -/
def report (r : Refusal) : BackendError := .database r.code r.message

/-- An answer with the columns that its statement had when it was first prepared. -/
def withPrepared (c : Connection) (key : String × Nat) (a : Answer) : Answer × Connection :=
  match c.prepared.lookup key with
  | some columns => ({ a with columns }, c)
  | none => (a, { c with prepared := (key, a.columns) :: c.prepared })

/-- Declared types that cannot be read back, as messages name them. -/
def unreadable? (declared : Option (List Char)) : Option String :=
  match (declared.map fun t => String.ofList (t.map Char.toLower)).getD "" with
  | "boolean" | "bool" => some "Bool"
  | "date" => some "Date"
  | "time" => some "Time"
  | "datetime" | "timestamp" => some "Datetime"
  | _ => none

/-- Check that the rows of an answer can be read back. -/
def checkReadable (a : Answer) : Except BackendError Unit :=
  if a.rows.isEmpty then .ok ()
  else a.columns.forM fun column =>
    match unreadable? column.declared with
    | none => .ok ()
    | some type => .error (.columnDecode column.name
        ("error in Any driver mapping: Any driver does not support the SQLite type SqliteTypeInfo(" ++
          type ++ ")"))

/-- Run the statements of a script from some tokens on. `key` is given for a script that is kept
prepared; `place` and `offset` count the statements and the parameters before. -/
def runTokens (key : Option String) (args : List Value) (place offset : Nat) (c : Connection)
    (ts : List Token) : Except BackendError Outcome × Connection :=
  match Parsed.next? ts with
  | .error e => (.error (report e), c)
  | .ok none => (.ok ⟨[], 0⟩, c)
  | .ok (some (p, rest)) =>
    match c.perform (.ofParameters args offset) p.command with
    | (.error e, c) => (.error (report e), c)
    | (.ok a, c) =>
      let (a, c) := match key with
        | some sql => c.withPrepared (sql, place) a
        | none => (a, c)
      match checkReadable a with
      | .error e => (.error e, c)
      | .ok () =>
        if _h : rest.length < ts.length then
          match runTokens key args (place + 1) (offset + p.parameters) c rest with
          | (.error e, c') => (.error e, c')
          | (.ok o, c') => (.ok ⟨a :: o.answers, c.changes + o.affected⟩, c')
        else (.ok ⟨[a], c.changes⟩, c)
termination_by ts.length

/-- A value as it is bound: truth values are numbers, and what is not a number is missing. -/
def bindValue : Value → Value
  | .bool b => .int (if b then 1 else 0)
  | .float .nan => .null
  | v => v

/-- Run a script. -/
def runScript (keep : Bool) (s : Statement) (c : Connection) :
    Except BackendError Outcome × Connection :=
  runTokens (if keep then some s.sql else none) (s.args.map bindValue) 0 0 c
    (Token.scan s.sql.toList)

/-! ### The engine -/

/-- A value as it is read back: integers have 32 bits. -/
def readBack : Value → Value
  | .int i => .int i.toInt32.toInt64
  | v => v

/-- The rows of an answer as records. -/
def records (a : Answer) : List Record :=
  a.rows.map fun row => ⟨(a.columns.map (·.name)).zip (row.map readBack)⟩

/-- Run a statement and count the rows it affects. A statement without arguments is not kept. -/
def execute (s : Statement) : StateM Connection (Except BackendError Nat) := fun c =>
  let (r, c) := runScript (!s.args.isEmpty) s c
  (r.map (·.affected), c)

/-- Run a statement and read its rows. -/
def fetch (s : Statement) : StateM Connection (Except BackendError (List Record)) := fun c =>
  let (r, c) := runScript true s c
  (r.map fun o => o.answers.flatMap records, c)

/-- Run SQL that answers nothing. -/
def control (sql : String) : StateM Connection (Except BackendError Unit) := fun c =>
  let (r, c) := runScript false (.raw sql []) c
  (r.map fun _ => (), c)

/-- The name of the savepoint that stands for a transaction inside others. -/
def innerName (nesting : Nat) : String := "_sqlx_savepoint_" ++ toString nesting

/-- Begin a transaction; inside another one it is a savepoint. -/
def beginNested : StateM Connection (Except BackendError Unit) := do
  let n := (← get).nesting
  let r ← control (if n = 0 then "BEGIN" else "SAVEPOINT " ++ innerName n)
  if r.isOk then modify fun c => { c with nesting := n + 1 }
  return r

/-- End the innermost transaction with one of two statements, by whether it is inside another
one. -/
def endNested (outer inner : String) : StateM Connection (Except BackendError Unit) := do
  let n := (← get).nesting
  if n = 0 then return .ok ()
  let r ← control (if n = 1 then outer else inner ++ innerName (n - 1))
  if r.isOk then modify fun c => { c with nesting := n - 1 }
  return r

/-- The engine. It is never late. -/
def engine : Engine Connection where
  execute s := .prompt (execute s)
  fetch s := .prompt (fetch s)
  begin := .prompt beginNested
  commit := .prompt (endNested "COMMIT" "RELEASE SAVEPOINT ")
  rollback := .prompt (endNested "ROLLBACK" "ROLLBACK TO SAVEPOINT ")
  control c := .prompt (control c.sql)
  ping := .prompt (return .ok ())

end Connection

end DataAccess.Sqlite
