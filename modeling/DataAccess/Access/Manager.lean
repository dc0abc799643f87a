import DataAccess.Access.Engine
import DataAccess.Access.Migrator
import DataAccess.Json.Basic
import DataAccess.Sql.Query
import DataAccess.Text.Quoted

/-!
# Managers

A manager is the handle on one configured database. It is live as long as its pool has a connection;
closing it is final. A manager for the driver `none` is never live: what needs a database answers
that there is none, and there is nothing to query. Starting asks the database once whether it is
there; what it answered then is the answer of every later start.
-/

namespace DataAccess.Access

open Observation Sql Text

/-- A handle on a database whose connections have type `σ`. -/
structure Manager (σ : Type) where
  name : String
  driver : Driver
  /-- Whether the handle on the pool is still there. Who got hold of the pool before the handle was
  taken keeps it. -/
  held : Bool
  /-- Most open connections. -/
  maxOpen : UInt32
  /-- The outcome of the first start, with the text of its failure. -/
  started : Option (Except String Unit)
  pool : Pooled σ

/-- Work with a manager. -/
abbrev Managed (σ : Type) := StateM (Manager σ)

/-- How many connections a pool has. -/
structure PoolStats where
  openConnections : UInt32
  inUse : UInt32
  idle : UInt32
  maxOpen : UInt32
deriving DecidableEq

/-- The counts of a pool without connections. -/
def PoolStats.zero : PoolStats := ⟨0, 0, 0, 0⟩

/-- The counts of a pool as a tree. -/
def PoolStats.toJson (s : PoolStats) : Json :=
  .ofMembers [
    ("open_connections", .integer s.openConnections.toNat), ("in_use", .integer s.inUse.toNat),
    ("idle", .integer s.idle.toNat), ("max_open", .integer s.maxOpen.toNat)]

namespace Manager

variable {σ α β : Type}

/-- A manager with a connection. -/
def ofConnection (name : String) (d : Driver) (c : σ) (maxOpen : UInt32) (p : Plugin) : Manager σ :=
  { name, driver := d, held := true, maxOpen, started := none,
    pool := { connection := some c, observer := .ofPlugin p, notices := [] } }

/-- A manager without a database. -/
def withoutDatabase (name : String) (p : Plugin) : Manager σ :=
  { name, driver := .none, held := false, maxOpen := 0, started := none,
    pool := { connection := none, observer := .ofPlugin p, notices := [] } }

/-- Whether the manager still has its pool. -/
def isLive (m : Manager σ) : Bool := m.held

/-- The observer's settings. -/
def observability (m : Manager σ) : Observability := m.pool.observer.plugin.settings

/-- The debug text of a manager. -/
def debugText (m : Manager σ) : String :=
  "ConnectionManager \x7b name: " ++ quoted m.name ++ ", driver: " ++ m.driver.debugName ++
    ", live: " ++ (if m.isLive then "true" else "false") ++ " \x7d"

/-- The counts of the pool. Between two pieces of work the connection is idle. -/
def stats (m : Manager σ) : PoolStats :=
  if m.isLive then ⟨1, 0, 1, m.maxOpen⟩ else .zero

/-! ### Ways to the database -/

/-- Why a manager cannot be used. -/
def check (m : Manager σ) : Except Error Unit :=
  if m.driver = .none then .error .unavailable
  else if m.isLive then .ok ()
  else .error .notInitialized

/-- The executor of a manager for an engine, whether it can be used or not. -/
def executor (m : Manager σ) (e : Engine σ) (d : Deadline) : Executor (Work σ) :=
  e.executor m.driver d

/-- The executor of a live manager. -/
def database? (m : Manager σ) (e : Engine σ) : Option (Executor (Work σ)) :=
  if m.isLive then some (m.executor e .unbounded) else none

/-- The executor of a live manager under a deadline. -/
def withDeadline? (m : Manager σ) (e : Engine σ) (d : Deadline) : Option (Executor (Work σ)) :=
  if m.isLive then some (m.executor e d) else none

/-- A query of a table, if the manager is live. -/
def table? (m : Manager σ) (table : String) : Option Query :=
  if m.isLive then some (.ofTable table) else none

/-- A query of the table with a schema, if the manager is live. -/
def model? (m : Manager σ) (s : Schema) : Option Query := m.table? s.name

/-- Work on the pool of the manager. -/
def onPool (work : Work σ α) : Managed σ α := fun m =>
  let (a, pool) := work.run m.pool
  (a, { m with pool })

/-- Work with the executor of a manager that can be used; `refused` says what comes of it
otherwise. -/
def withExecutor (e : Engine σ) (refused : Error → β) (work : Executor (Work σ) → Work σ β) :
    Managed σ β := do
  let m ← get
  match m.check with
  | .error cause => return refused cause
  | .ok () => onPool (work (m.executor e .unbounded))

/-- Work that fails if the manager cannot be used. -/
def guarded (e : Engine σ) (work : Executor (Work σ) → Work σ (Except Error α)) :
    Managed σ (Except Error α) := withExecutor e .error work

/-! ### Lifecycle -/

/-- How long a database may take to show that it is there. -/
def healthLimit : Duration := .ofWholeSeconds 5

/-- Ask the database whether it is there. -/
def ping (e : Engine σ) : Managed σ (Except Error Unit) :=
  guarded e fun _ => e.pinged .unbounded

/-- Ask the database whether it is there, for a limited time. -/
def health (e : Engine σ) : Managed σ (Except Error Unit) :=
  guarded e fun x => do e.pinged (.after (← x.now) healthLimit)

/-- Start for the first time. -/
def firstStart (e : Engine σ) : Managed σ (Except String Unit) := do
  match ← health e with
  | .ok () => return .ok ()
  | .error cause =>
    let name := (← get).name
    onPool (modify (Pooled.notice (.startFailed name cause)))
    return .error cause.message

/-- Start, once; later starts have the outcome of the first one. -/
def onStart (e : Engine σ) : Managed σ (Except Error Unit) := do
  let m ← get
  if m.driver = .none then return .error .unavailable
  match m.started with
  | some outcome => return outcome.mapError .start
  | none =>
    let outcome ← firstStart e
    modify fun m => { m with started := some outcome }
    return outcome.mapError .start

/-- Take the handle on the pool. The answer says whether it was there. -/
def take : Managed σ Bool := fun m => (m.held, { m with held := false })

/-- Close the pool. -/
def closePool : Work σ Unit := modify fun p => { p with connection := none }

/-- Take the handle and close the pool. Closing a closed manager changes nothing. -/
def close : Managed σ (Except Error Unit) := do
  if ← take then onPool closePool
  return .ok ()

/-- Stop, which is to close. -/
def onStop : Managed σ (Except Error Unit) := close

/-- Replace the observer's settings. -/
def setObservability (o : Observability) : Managed σ (Except Error Unit) := fun m =>
  match m.pool.observer.apply o with
  | .ok observer => (.ok (), { m with pool := { m.pool with observer } })
  | .error e => (.error (.config e), m)

/-! ### Statements and transactions -/

/-- Run raw SQL whose kind is inferred. -/
def exec (e : Engine σ) (sql : String) (args : List Value) : Managed σ (Except Error Nat) :=
  guarded e fun x => x.session.exec sql args

/-- Read the rows of raw SQL. -/
def raw (e : Engine σ) (sql : String) (args : List Value) :
    Managed σ (Except Error (List Record)) :=
  guarded e fun x => x.session.raw sql args

/-- Begin a transaction. -/
def begin (e : Engine σ) : Managed σ (Except Error (Transaction (Work σ))) :=
  guarded e fun x => x.openTransaction

/-- Run a body in a transaction. -/
def transaction {π ε : Type} (e : Engine σ) (ofError : Error → ε)
    (body : Transaction (Work σ) → Work σ (Exit π ε α)) : Managed σ (Exit π ε α) :=
  withExecutor e (fun cause => .error (ofError cause)) fun x => x.transaction ofError body

/-- Run a body in a savepoint of a transaction of its own. -/
def nestedTransaction {π ε : Type} (e : Engine σ) (ofError : Error → ε)
    (body : Transaction (Work σ) → Work σ (Exit π ε α)) : Managed σ (Exit π ε α) :=
  withExecutor e (fun cause => .error (ofError cause)) fun x => x.nestedTransaction ofError body

/-- The executor that migrations run on. -/
def migrator (e : Engine σ) : Managed σ (Except Error (Executor (Work σ))) :=
  guarded e fun x => return .ok x

/-- Create missing tables and add missing columns. -/
def autoMigrate (e : Engine σ) (ss : List Schema) : Managed σ (Except Error Unit) :=
  guarded e fun x => Migrator.autoMigrate x ss

end Manager

end DataAccess.Access
