import DataAccess.Access.Probe
import DataAccess.Server.Options
import DataAccess.Sqlite.Opening

/-!
# Backends

What there is behind a location. SQLite databases are part of the library. Servers are not: the
options of their connections are checked, and then there is no way to them.
-/

namespace DataAccess.Access.Backend

open Sqlite

/-- A server cannot be reached. -/
def unreachable : BackendError := .io "network is unreachable"

/-- Open the database of a driver in a location, where `writeAhead` says how a file is kept. -/
def reach (dirs : Directories) (d : Driver) (l : Url.Location) (writeAhead : Bool) :
    Except BackendError Connection :=
  match d with
  | .sqlite => Connection.ofUrl dirs l.chars writeAhead
  | .mysql => (Server.Mysql.check l).bind fun () => .error unreachable
  | .postgresql => (Server.Postgres.check l).bind fun () => .error unreachable
  | .none => .error unreachable

/-- Connect to the database of a driver. What is there answers in time. -/
def connect (dirs : Directories) : Connect Connection := fun d l writeAhead =>
  (reach dirs d l writeAhead).mapError .refused

end DataAccess.Access.Backend
