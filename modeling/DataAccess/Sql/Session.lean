import DataAccess.Sql.Record
import DataAccess.Sql.Statement

/-!
# Sessions

A session runs statements: it changes rows and answers how many, or it reads rows. Everything that
talks to a database does so through a session, in whatever monad the database lives in.
-/

namespace DataAccess.Sql

/-- Something that runs statements, for one driver. -/
structure Session (m : Type → Type) where
  driver : Driver
  /-- Run a statement and count the rows it affects. -/
  execute : Statement → m (Except Error Nat)
  /-- Run a statement and read the rows it gives. -/
  fetch : Statement → m (Except Error (List Record))

namespace Session

variable {m : Type → Type}

/-- Run raw SQL whose kind is inferred. -/
def exec (s : Session m) (sql : String) (args : List Value) : m (Except Error Nat) :=
  s.execute (.exec sql args)

/-- Read the rows of raw SQL. -/
def raw (s : Session m) (sql : String) (args : List Value) : m (Except Error (List Record)) :=
  s.fetch (.raw sql args)

end Session

end DataAccess.Sql
