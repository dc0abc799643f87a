import DataAccess.Access.Notice
import DataAccess.Dsn.Postgres

/-!
# Adapters

What an adapter makes of its section before anything is opened: it checks that the data source name
is not blank and that the pool parameters fit together, turns the name into the text of a URL, and
settles the pool. A database in memory is there once per connection, so its pool has one connection,
which never expires.
-/

namespace DataAccess.Access.Adapter

open Text

/-- The key of a driver's section, with a name for drivers that have none. -/
def sectionKey (d : Driver) : String := d.sectionKey?.getD "driver_config"

/-- Check the section of a driver. -/
def validate (d : Driver) (s : Config.Section) : Except Error Unit :=
  if isAllBlank s.dsn then .error (.invalidConfig (sectionKey d ++ ".dsn must not be empty"))
  else
    match s.pool.validate (sectionKey d ++ ".pool_config") with
    | .ok () => .ok ()
    | .error e => .error (.config e)

/-- A database that is to be opened. -/
structure Target where
  /-- The text of its URL. -/
  url : String
  pool : Pool
  /-- Whether its file writes ahead. -/
  writeAhead : Bool
  notices : List Notice
deriving DecidableEq

/-- A pool of one connection that never expires, with the waiting time of another pool. -/
def pinned (p : Pool) : Pool := { Pool.single with acquire := p.acquire }

/-- The notice on a pool that is pinned though it was to be another one. -/
def pinNotices (p : Pool) : List Notice :=
  if p.maxOpen = 1 then [] else [.singleConnection p.maxOpen]

/-- A SQLite database with a pool. -/
def sqliteTarget (t : Dsn.Sqlite.Target) (p : Pool) : Target :=
  if t.inMemory then
    { url := t.url, pool := pinned p, writeAhead := false, notices := pinNotices p }
  else { url := t.url, pool := p, writeAhead := true, notices := [] }

/-- A database on a server with a pool. -/
def serverTarget (url : String) (p : Pool) : Target :=
  { url, pool := p, writeAhead := false, notices := [] }

/-- The database of a section that has been checked. The driver `none` has no databases. -/
def resolve (d : Driver) (s : Config.Section) : Except Error Target :=
  match d with
  | .sqlite => (Dsn.Sqlite.parse s.dsn).map fun r => sqliteTarget r.1 s.pool
  | .mysql => (Dsn.Mysql.parse s.dsn).map fun r => serverTarget r.1 s.pool
  | .postgresql => (Dsn.Postgres.parse s.dsn).map fun r => serverTarget r.1 s.pool
  | .none => .error .unavailable

/-- The database of a section. -/
def target (d : Driver) (s : Config.Section) : Except Error Target := do
  validate d s
  resolve d s

end DataAccess.Access.Adapter
