import DataAccess.Config.Settings

/-!
# Errors of data access

`BackendError` is what a database backend or its pool reports; `Error` is what the library answers.
-/

namespace DataAccess

/-- What a backend reports. -/
inductive BackendError where
  /-- Connection options that do not make sense. -/
  | configuration (message : String)
  /-- A statement that the database refuses, with the database's result code. -/
  | database (code : Nat) (message : String)
  /-- A connection that cannot be made, or that breaks. -/
  | io (message : String)
  | rowNotFound
  | columnNotFound (name : String)
  /-- A column whose value has no counterpart. -/
  | columnDecode (column message : String)
  | protocol (message : String)
  | poolTimedOut
  | poolClosed
  | workerCrashed
deriving DecidableEq

/-- The wording of a backend's report. -/
def BackendError.message : BackendError → String
  | configuration m => "error with configuration: " ++ m
  | database code m =>
    "error returned from database: (code: " ++ toString code ++ ") " ++ m
  | io m => "error communicating with database: " ++ m
  | rowNotFound => "no rows returned by a query that expected to return at least one row"
  | columnNotFound n => "no column found for name: " ++ n
  | columnDecode c m => "error occurred while decoding column " ++ c ++ ": " ++ m
  | protocol m => "encountered unexpected or invalid data: " ++ m
  | poolTimedOut => "pool timed out while waiting for an open connection"
  | poolClosed => "attempted to acquire a connection on a closed pool"
  | workerCrashed => "attempted to communicate with a crashed background worker"

/-- The name of the kind of a backend's report. -/
def BackendError.kind : BackendError → String
  | configuration _ => "Configuration"
  | database .. => "Database"
  | io _ => "Io"
  | rowNotFound => "RowNotFound"
  | columnNotFound _ => "ColumnNotFound"
  | columnDecode .. => "ColumnDecode"
  | protocol _ => "Protocol"
  | poolTimedOut => "PoolTimedOut"
  | poolClosed => "PoolClosed"
  | workerCrashed => "WorkerCrashed"

/-- Why an operation fails. -/
inductive Error where
  /-- A configuration that does not pass its check. -/
  | config (cause : Config.Error)
  /-- Settings that no backend can use. -/
  | invalidConfig (message : String)
  /-- A data source name that does not read. -/
  | invalidDsn (driver : Driver) (reason : String)
  /-- A database that cannot be reached. -/
  | connect (driver : Driver) (source : BackendError)
  /-- A database that did not answer the first probe in time. -/
  | probeTimeout (limit : Duration)
  /-- A start that failed. -/
  | start (message : String)
  /-- There is no database. -/
  | unavailable
  /-- The database is closed. -/
  | notInitialized
  /-- The deadline passed. -/
  | timeout
  /-- A report of the backend. -/
  | backend (source : BackendError)
  /-- A column that does not read as the wanted type. -/
  | decode (column reason : String)
  /-- A change of all rows, which is refused. -/
  | missingConditions (operation : String)
  /-- A change of no columns, which is refused. -/
  | missingValues (operation : String)
  /-- A migration that cannot be run. -/
  | migration (message : String)
  /-- An applied migration whose script has changed. -/
  | checksumMismatch (version : Int64) (expected found : String)
  /-- A transaction that its body gave up. -/
  | aborted (message : String)
deriving DecidableEq

namespace Error

/-- The wording of an error. -/
def message : Error → String
  | config e => "invalid database configuration: " ++ e.message
  | invalidConfig m => "invalid database configuration: " ++ m
  | invalidDsn d r => "invalid " ++ d.name ++ " dsn: " ++ r
  | connect d e => "failed to connect to " ++ d.name ++ ": " ++ e.message
  | probeTimeout t => "connectivity probe timed out after " ++ t.debugText
  | start m => "database start failed: " ++ m
  | unavailable => "database not available (none driver)"
  | notInitialized => "database not initialized"
  | timeout => "database operation timed out"
  | backend e => e.message
  | decode c r => "failed to decode column `" ++ c ++ "`: " ++ r
  | missingConditions op => "refusing to " ++ op ++ " without conditions"
  | missingValues op => "refusing to " ++ op ++ " without values"
  | migration m => "migration failed: " ++ m
  | checksumMismatch v expected found => "migration " ++ toString v.toInt ++
      " checksum mismatch: expected " ++ expected ++ ", found " ++ found
  | aborted m => "transaction aborted: " ++ m

/-- The name of the kind of an error. -/
def kind : Error → String
  | config _ => "Config"
  | invalidConfig _ => "InvalidConfig"
  | invalidDsn .. => "InvalidDsn"
  | connect .. => "Connect"
  | probeTimeout _ => "ProbeTimeout"
  | start _ => "Start"
  | unavailable => "Unavailable"
  | notInitialized => "NotInitialized"
  | timeout => "Timeout"
  | backend _ => "Backend"
  | decode .. => "Decode"
  | missingConditions _ => "MissingConditions"
  | missingValues _ => "MissingValues"
  | migration _ => "Migration"
  | checksumMismatch .. => "ChecksumMismatch"
  | aborted _ => "Aborted"

/-- Whether the caller's input is at fault, and not the backend. -/
def isCallerError : Error → Bool
  | config _ | invalidConfig _ | invalidDsn _ _ | missingConditions _ | missingValues _ => true
  | _ => false

/-- Whether there is no database at all. -/
def isUnavailable : Error → Bool
  | unavailable => true
  | _ => false

end Error

end DataAccess
