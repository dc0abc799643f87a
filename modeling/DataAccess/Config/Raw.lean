import DataAccess.Config.Settings
import DataAccess.Duration.Grammar
import DataAccess.Json.Basic

/-!
# Raw configurations

A raw configuration is a tree of nested objects. Reading one visits its known locations in a fixed
order: the driver, the observability settings, then for each driver its section, data source name
and pool. A location that is absent or null keeps its default; the first one that holds something
else than what belongs there is the error. Other keys are ignored.
-/

namespace DataAccess.Config

open Number Json

/-! ### What belongs at a location -/

/-- Why a value does not belong at its location. -/
inductive Fault where
  | type (expected : String)
  | duration (cause : Duration.Error)
  | value (message : String)

/-- A fault at a location. -/
def Fault.at (field : String) : Fault → Error
  | .type expected => .invalidType field expected
  | .duration cause => .invalidDuration field cause.message
  | .value message => .invalidValue field message

/-- An object. -/
def asSection : Json → Except Fault Members
  | .object ms => .ok ms
  | _ => .error (.type "object")

/-- A text. -/
def asText : Json → Except Fault String
  | .text s => .ok s
  | _ => .error (.type "string")

/-- A truth value. -/
def asBool : Json → Except Fault Bool
  | .bool b => .ok b
  | _ => .error (.type "boolean")

/-- A number. -/
def asNumber (v : Json) : Except Fault Binary64 :=
  match v.number? with
  | some x => .ok x
  | none => .error (.type "number")

/-- The largest word; a larger double is cut to it when it is read as a count. -/
def largestWord : Nat := UInt64.size - 1

/-- A natural number as a connection count. -/
def asCountOfNat (n : Nat) : Except Fault UInt32 :=
  if n < UInt32.size then .ok (UInt32.ofNat n)
  else .error (.value (toString n ++ " is out of range"))

/-- A connection count: a number that is whole, not negative and fits in 32 bits, in either kind. -/
def asCount (v : Json) : Except Fault UInt32 :=
  let refused := Fault.value ("expected a non-negative integer, got " ++ v.numberText)
  match v with
  | .integer i => if i < 0 then .error refused else asCountOfNat i.toNat
  | .float x =>
    match x.toInt? with
    | some i => if i < 0 then .error refused else asCountOfNat (min i.toNat largestWord)
    | none => .error refused
  | _ => .error (.type "non-negative integer")

/-- A duration: whole seconds, seconds in double precision, or a duration text. -/
def asDuration (v : Json) : Except Fault Duration :=
  let wrap : Except Duration.Error Duration → Except Fault Duration
    | .ok d => .ok d
    | .error e => .error (.duration e)
  match v with
  | .integer i =>
    match if i < 0 then none else Duration.ofSeconds? i.toNat with
    | some d => .ok d
    | none => wrap (Duration.ofSeconds (.ofInt i))
  | .float x => wrap (Duration.ofSeconds x)
  | .text s => wrap (Duration.parse s)
  | _ => .error (.type "duration (seconds or string)")

/-! ### Locations -/

/-- The path of a key below a path. -/
def join (path key : String) : String := if path.isEmpty then key else path ++ "." ++ key

/-- What a key holds, read by `decode`; nothing if the key is absent or null. -/
def readAt {α : Type} (decode : Json → Except Fault α) (ms : Members) (path key : String) :
    Except Error (Option α) :=
  match ms.present? key with
  | none => .ok none
  | some v =>
    match decode v with
    | .ok a => .ok (some a)
    | .error fault => .error (fault.at (join path key))

/-- What a key holds, or a default. -/
def readOr {α : Type} (decode : Json → Except Fault α) (default : α) (ms : Members)
    (path key : String) : Except Error α :=
  (readAt decode ms path key).map (·.getD default)

/-- A pool, over the defaults of its driver. -/
def readPool (defaults : Pool) (path : String) (ms : Members) : Except Error Pool := do
  let maxOpen ← readOr asCount defaults.maxOpen ms path "max_open_conns"
  let maxIdle ← readOr asCount defaults.maxIdle ms path "max_idle_conns"
  let lifetime ← readOr asDuration defaults.lifetime ms path "conn_max_lifetime"
  let idleTime ← readOr asDuration defaults.idleTime ms path "conn_max_idle_time"
  let acquire ← readOr asDuration defaults.acquire ms path "acquire_timeout"
  return { maxOpen, maxIdle, lifetime, idleTime, acquire }

/-- The observability settings, over the defaults. -/
def readObservability (ms : Members) : Except Error Observability := do
  let defaults := Observability.standard
  let path := "observability_config"
  let slowThreshold ← readOr asDuration defaults.slowThreshold ms path "slow_query_threshold"
  let logSql ← readOr asBool defaults.logSql ms path "log_sql"
  let sampleRate ← readOr asNumber defaults.sampleRate ms path "sample_rate"
  return { slowThreshold, logSql, sampleRate }

/-- The section of a driver, whose key is `path`. -/
def readSection (driver : Driver) (path : String) (ms : Members) : Except Error Section := do
  let dsn ← readOr asText "" ms path "dsn"
  match ← readAt asSection ms path "pool_config" with
  | none => return ⟨dsn, driver.defaultPool⟩
  | some pool => return ⟨dsn, ← readPool driver.defaultPool (join path "pool_config") pool⟩

/-- The section of a driver in a raw configuration, if there is one. -/
def readDriver (driver : Driver) (ms : Members) : Except Error (Option Section) :=
  match driver.sectionKey? with
  | none => .ok none
  | some key => do
    match ← readAt asSection ms "" key with
    | none => return none
    | some sect => return some (← readSection driver key sect)

/-- Read a raw configuration. The result need not be valid. -/
def ofMembers (ms : Members) : Except Error Config := do
  let driver ← readOr asText "" ms "" "driver"
  let observability ← match ← readAt asSection ms "" "observability_config" with
    | none => pure Observability.standard
    | some sect => readObservability sect
  let sqlite ← readDriver .sqlite ms
  let mysql ← readDriver .mysql ms
  let postgresql ← readDriver .postgresql ms
  return { driver, sqlite, mysql, postgresql, observability }

/-- Read a raw configuration from a tree, which has to be an object. -/
def ofJson : Json → Except Error Config
  | .object ms => ofMembers ms
  | _ => .error (.invalidType "database" "object")

end DataAccess.Config
