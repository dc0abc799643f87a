import DataAccess.Error

/-!
# Notices

What the library reports on its own account, apart from the statements that are observed: failures
that it survives, and what it does instead.
-/

namespace DataAccess.Access

open Number

/-- Something worth a warning. -/
inductive Notice where
  /-- A database that cannot be used; there is none instead. -/
  | fallback (name : String) (cause : Error)
  /-- A database in memory, of which there is one connection whatever was asked for. -/
  | singleConnection (requested : UInt32)
  /-- A start that failed. -/
  | startFailed (name : String) (cause : Error)
  /-- A savepoint that could not be rolled back to. -/
  | savepointKept (name : String) (cause : Error)
  /-- A rollback that failed after the body of a transaction did. -/
  | rollbackAfterError (cause : Error)
  /-- A rollback that failed after a panic. -/
  | rollbackAfterPanic (cause : Error)
  /-- An applied migration that nobody knows of. -/
  | undefinedMigration (version : Int64)
  /-- A migration that leaves the history without a script being run. -/
  | noDownScript (version : Int64)
deriving DecidableEq

namespace Notice

/-- The wording of a notice. -/
def message : Notice → String
  | fallback .. => "database unavailable, falling back to the none driver"
  | singleConnection _ => "in-memory sqlite is limited to a single connection"
  | startFailed .. => "database start failed"
  | savepointKept .. => "failed to roll back to savepoint"
  | rollbackAfterError _ => "rollback after failed transaction did not complete"
  | rollbackAfterPanic _ => "rollback after panic did not complete"
  | undefinedMigration _ => "applied migration is no longer defined"
  | noDownScript _ => "no rollback SQL, only removing the record"

/-- A version in decimal digits. -/
def versionText (v : Int64) : String := String.ofList (intText v.toInt)

/-- The fields of a notice. -/
def fields : Notice → List (String × String)
  | fallback name e | startFailed name e => [("name", name), ("error", e.message)]
  | singleConnection n => [("requested", toString n.toNat)]
  | savepointKept name e => [("savepoint", name), ("error", e.message)]
  | rollbackAfterError e | rollbackAfterPanic e => [("error", e.message)]
  | undefinedMigration v | noDownScript v => [("version", versionText v)]

end Notice

end DataAccess.Access
