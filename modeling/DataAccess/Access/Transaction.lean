import DataAccess.Access.Notice
import DataAccess.Observation.Plugin
import DataAccess.Sql.Session

/-!
# Transactions

A body of work runs in a transaction, and parts of it in savepoints inside the transaction, to any
depth. Work ends with a value, with an error, or by a panic. A value keeps what was done; an error
and a panic undo it, and go on to the caller as they are.

An `Executor` is what a transaction needs of a database: a session, the five control statements, and
a place for warnings. Control statements are not observed as operations.
-/

namespace DataAccess.Access

open Observation Sql

/-- How a piece of work ends. -/
inductive Exit (π ε α : Type) where
  | value (a : α)
  | error (e : ε)
  /-- A panic, which ends all work around it. -/
  | panic (payload : π)
deriving DecidableEq

namespace Exit

variable {π ε α : Type}

/-- The end of work that cannot panic. -/
def ofExcept : Except ε α → Exit π ε α
  | .ok a => value a
  | .error e => error e

/-- The result of work that cannot panic. -/
def toExcept : Exit Empty ε α → Except ε α
  | value a => .ok a
  | error e => .error e

end Exit

/-- A control statement on savepoints. -/
inductive Control where
  | savepoint (name : String)
  | release (name : String)
  | rollbackTo (name : String)
deriving DecidableEq

/-- The text of a control statement. -/
def Control.sql : Control → String
  | savepoint n => "SAVEPOINT " ++ n
  | release n => "RELEASE SAVEPOINT " ++ n
  | rollbackTo n => "ROLLBACK TO SAVEPOINT " ++ n

/-- A database in use: the statements on it, the transaction that is open on it, and the clock. -/
structure Executor (m : Type → Type) where
  session : Session m
  begin : m (Except Error Unit)
  commit : m (Except Error Unit)
  rollback : m (Except Error Unit)
  /-- Give up the open transaction without an answer. -/
  abandon : m Unit
  control : Control → m (Except Error Unit)
  warn : Notice → m Unit
  now : m Time

/-- An executor of one monad in another one that can run it. -/
def Executor.lift {m n : Type → Type} [MonadLiftT m n] (x : Executor m) : Executor n where
  session := {
    driver := x.session.driver
    execute := fun s => liftM (x.session.execute s)
    fetch := fun s => liftM (x.session.fetch s) }
  begin := liftM x.begin
  commit := liftM x.commit
  rollback := liftM x.rollback
  abandon := liftM x.abandon
  control c := liftM (x.control c)
  warn n := liftM (x.warn n)
  now := liftM x.now

/-- An open transaction with a number of open savepoints. -/
structure Transaction (m : Type → Type) where
  executor : Executor m
  depth : Nat

namespace Transaction

variable {m : Type → Type} [Monad m] {π ε α : Type}

/-- The statements in a transaction. -/
def session (t : Transaction m) : Session m := t.executor.session

/-- The debug text of a transaction. -/
def debugText (t : Transaction m) : String :=
  "Tx \x7b driver: " ++ t.session.driver.debugName ++ ", depth: " ++ toString t.depth ++ " \x7d"

/-- The name of the next savepoint. Savepoints of one depth share a name. -/
def savepointName (t : Transaction m) : String := "conduit_sp_" ++ toString (t.depth + 1)

/-- Roll back to a savepoint; a failure is only reported. -/
def rollbackTo (t : Transaction m) (name : String) : m Unit := do
  match ← t.executor.control (.rollbackTo name) with
  | .ok () => pure ()
  | .error e => t.executor.warn (.savepointKept name e)

/-- Finish a savepoint after its body. -/
def finish (t : Transaction m) (ofError : Error → ε) (name : String) (exit : Exit π ε α) :
    m (Exit π ε α) :=
  match exit with
  | .value a => do
    match ← t.executor.control (.release name) with
    | .ok () => return .value a
    | .error e => return .error (ofError e)
  | .error e => do
    t.rollbackTo name
    return .error e
  | .panic p => do
    t.rollbackTo name
    return .panic p

/-- Run a body in a savepoint. -/
def savepoint (t : Transaction m) (ofError : Error → ε)
    (body : Transaction m → m (Exit π ε α)) : m (Exit π ε α) := do
  match ← t.executor.control (.savepoint t.savepointName) with
  | .error e => return .error (ofError e)
  | .ok () =>
    let exit ← body { t with depth := t.depth + 1 }
    t.finish ofError t.savepointName exit

end Transaction

namespace Executor

variable {m : Type → Type} [Monad m] {π ε α : Type}

/-- Commit; a transaction that cannot be committed is given up. -/
def commitOrAbandon (x : Executor m) : m (Except Error Unit) := do
  match ← x.commit with
  | .ok () => return .ok ()
  | .error e =>
    x.abandon
    return .error e

/-- Roll back; a transaction that cannot be rolled back is given up. -/
def rollbackOrAbandon (x : Executor m) : m (Except Error Unit) := do
  match ← x.rollback with
  | .ok () => return .ok ()
  | .error e =>
    x.abandon
    return .error e

/-- Roll back after a failure; a second failure is only reported. -/
def undo (x : Executor m) (notice : Error → Notice) : m Unit := do
  match ← x.rollbackOrAbandon with
  | .ok () => pure ()
  | .error e => x.warn (notice e)

/-- Finish a transaction after its body. -/
def settle (x : Executor m) (ofError : Error → ε) (exit : Exit π ε α) : m (Exit π ε α) :=
  match exit with
  | .value a => do
    match ← x.commitOrAbandon with
    | .ok () => return .value a
    | .error e => return .error (ofError e)
  | .error e => do
    x.undo .rollbackAfterError
    return .error e
  | .panic p => do
    x.undo .rollbackAfterPanic
    return .panic p

/-- Begin a transaction and leave it open. -/
def openTransaction (x : Executor m) : m (Except Error (Transaction m)) := do
  return (← x.begin).map fun () => { executor := x, depth := 0 }

/-- Run a body in a transaction. -/
def transaction (x : Executor m) (ofError : Error → ε)
    (body : Transaction m → m (Exit π ε α)) : m (Exit π ε α) := do
  match ← x.openTransaction with
  | .error e => return .error (ofError e)
  | .ok t =>
    let exit ← body t
    x.settle ofError exit

/-- Run a body in a savepoint of a transaction of its own: a failure undoes both. -/
def nestedTransaction (x : Executor m) (ofError : Error → ε)
    (body : Transaction m → m (Exit π ε α)) : m (Exit π ε α) :=
  x.transaction ofError fun t => t.savepoint ofError body

end Executor

namespace Transaction

variable {m : Type → Type} [Monad m]

/-- End a transaction and keep what it did. -/
def commit (t : Transaction m) : m (Except Error Unit) := t.executor.commitOrAbandon

/-- End a transaction and undo what it did. -/
def rollback (t : Transaction m) : m (Except Error Unit) := t.executor.rollbackOrAbandon

end Transaction

end DataAccess.Access
