import DataAccess.Config.Error
import DataAccess.Duration.Basic
import DataAccess.Text.Blank

/-!
# Database settings

The drivers, the parameters of a connection pool, the settings of the observability plugin, and the
configuration that selects a driver among up to three configured ones. `Config.validate` is the
contract that the rest of the library relies on.
-/

namespace DataAccess

open Number Text

/-! ### Drivers -/

/-- The supported kinds of database; `none` stands for having no database. -/
inductive Driver where
  | sqlite
  | mysql
  | postgresql
  | none
deriving DecidableEq, Inhabited

namespace Driver

/-- All drivers, in the order in which messages list them. -/
def all : List Driver := [sqlite, mysql, postgresql, none]

/-- The canonical name of a driver. -/
def name : Driver → String
  | sqlite => "sqlite"
  | mysql => "mysql"
  | postgresql => "postgresql"
  | none => "none"

/-- The name of a driver in debug texts. -/
def debugName : Driver → String
  | sqlite => "Sqlite"
  | mysql => "Mysql"
  | postgresql => "Postgresql"
  | none => "None"

/-- The key of the driver's section in a raw configuration. -/
def sectionKey? : Driver → Option String
  | sqlite => some "sqlite_config"
  | mysql => some "mysql_config"
  | postgresql => some "postgresql_config"
  | none => Option.none

/-- The driver with a canonical name; no other spelling is accepted. -/
def ofName? (s : String) : Option Driver := all.find? fun d => d.name == s

/-- Read a canonical driver name. -/
def parse (s : String) : Except Config.Error Driver :=
  match ofName? s with
  | some d => .ok d
  | Option.none => .error (.unknownDriver s)

end Driver

/-! ### Pools -/

/-- The parameters of a connection pool. -/
structure Pool where
  /-- Most open connections, zero for no ceiling. -/
  maxOpen : UInt32
  /-- Most idle connections. -/
  maxIdle : UInt32
  /-- Longest life of a connection, zero for no limit. -/
  lifetime : Duration
  /-- Longest idle time of a connection, zero for no limit. -/
  idleTime : Duration
  /-- Longest wait for a connection. -/
  acquire : Duration
deriving DecidableEq

namespace Pool

/-- The parameters of a driver without defaults of its own. -/
def standard : Pool :=
  { maxOpen := 10
    maxIdle := 5
    lifetime := .ofWholeSeconds 3600
    idleTime := .ofWholeSeconds 600
    acquire := .ofWholeSeconds 30 }

instance : Inhabited Pool := ⟨standard⟩

/-- One connection that never expires. -/
def single : Pool :=
  { maxOpen := 1
    maxIdle := 1
    lifetime := .zero
    idleTime := .zero
    acquire := .ofWholeSeconds 30 }

/-- Whether the pool has no ceiling. -/
def isUnbounded (p : Pool) : Bool := p.maxOpen == 0

/-- Check the parameters; `field` is the path that errors name. -/
def validate (p : Pool) (field : String) : Except Config.Error Unit :=
  if p.maxOpen > 0 && p.maxIdle > p.maxOpen then
    .error (.poolBounds field p.maxIdle p.maxOpen)
  else if p.acquire.isZero then
    .error (.invalidValue (field ++ ".acquire_timeout") "must be greater than zero")
  else .ok ()

/-- The ceiling that stands for "unbounded": a pool reserves its idle queue ahead of use. -/
def unboundedCeiling : UInt32 := 10000

/-- The most connections that the pool really opens. -/
def ceiling (p : Pool) : UInt32 := if p.isUnbounded then unboundedCeiling else p.maxOpen

/-- A duration in which zero means "no limit". -/
def limit (d : Duration) : Option Duration := if d.isZero then none else some d

/-- What a connection pool is told: the least and the most connections, and its three times. -/
structure Options where
  minConnections : UInt32
  maxConnections : UInt32
  acquireTimeout : Duration
  idleTimeout : Option Duration
  maxLifetime : Option Duration
deriving DecidableEq

/-- The options for a pool. A pool has no ceiling of idle connections, so that number is checked but
not passed on. -/
def options (p : Pool) : Options :=
  { minConnections := 0
    maxConnections := p.ceiling
    acquireTimeout := p.acquire
    idleTimeout := limit p.idleTime
    maxLifetime := limit p.lifetime }

end Pool

/-- The pool that a driver has unless configured otherwise. One writer at a time suits a database
that is a file. -/
def Driver.defaultPool : Driver → Pool
  | .sqlite => .single
  | _ => .standard

/-! ### Observability -/

/-- The settings of the observability plugin. -/
structure Observability where
  /-- Operations that take at least this long are logged as slow; zero for none. -/
  slowThreshold : Duration
  /-- Whether statement text is logged. -/
  logSql : Bool
  /-- The fraction of operations that are timed and traced. -/
  sampleRate : Binary64
deriving DecidableEq

namespace Observability

/-- Slow from 200 ms on, no statement text, every operation sampled. -/
def standard : Observability :=
  { slowThreshold := .ofMillis 200
    logSql := false
    sampleRate := .one }

instance : Inhabited Observability := ⟨standard⟩

/-- Check the sample rate. -/
def validate (o : Observability) : Except Config.Error Unit :=
  if Binary64.le .zero o.sampleRate && Binary64.le o.sampleRate .one then .ok ()
  else .error (.invalidSampleRate "observability_config.sample_rate" o.sampleRate)

/-- Equality of settings, in which the two zeros are one rate. -/
def same (a b : Observability) : Bool :=
  a.slowThreshold == b.slowThreshold && a.logSql == b.logSql && a.sampleRate.same b.sampleRate

end Observability

/-! ### Configurations -/

/-- How to reach one database: its data source name and its pool. -/
structure Config.Section where
  dsn : String
  pool : Pool
deriving DecidableEq

namespace Config.Section

/-- A section with the pool defaults of a driver. -/
def ofDsn (driver : Driver) (dsn : String) : Section := ⟨dsn, driver.defaultPool⟩

/-- Check a section; `field` is its key. -/
def validate (s : Section) (field : String) : Except Config.Error Unit :=
  if isAllBlank s.dsn then .error (.emptyDsn (field ++ ".dsn"))
  else s.pool.validate (field ++ ".pool_config")

end Config.Section

/-- A database configuration: the selected driver by name, a section for each configured driver, and
the observability settings. -/
structure Config where
  driver : String
  sqlite : Option Config.Section
  mysql : Option Config.Section
  postgresql : Option Config.Section
  observability : Observability
deriving DecidableEq

namespace Config

/-- The configuration that selects nothing and configures nothing. -/
def blank : Config :=
  { driver := "", sqlite := none, mysql := none, postgresql := none, observability := .standard }

instance : Inhabited Config := ⟨blank⟩

/-- The section of a driver. -/
def section? (c : Config) : Driver → Option Section
  | .sqlite => c.sqlite
  | .mysql => c.mysql
  | .postgresql => c.postgresql
  | .none => none

/-- Install a section for a driver; the driver `none` has no place for one. -/
def setSection (c : Config) (driver : Driver) (s : Section) : Config :=
  match driver with
  | .sqlite => { c with sqlite := some s }
  | .mysql => { c with mysql := some s }
  | .postgresql => { c with postgresql := some s }
  | .none => c

/-- Change the section of a driver, if it has one. -/
def modifySection (c : Config) (driver : Driver) (f : Section → Section) : Config :=
  match c.section? driver with
  | some s => c.setSection driver (f s)
  | none => c

/-- Select a driver and give it a data source name and its default pool. -/
def ofDsn (driver : Driver) (dsn : String) : Config :=
  ({ blank with driver := driver.name } : Config).setSection driver (.ofDsn driver dsn)

/-- A private database in memory. -/
def sqliteMemory : Config := ofDsn .sqlite ":memory:"

/-- No database. -/
def noDatabase : Config := ofDsn .none ""

/-- The driver that a configuration selects. -/
def selectedDriver (c : Config) : Except Error Driver :=
  if isAllBlank c.driver then .error (.missingField "driver") else Driver.parse c.driver

/-- Check the section of the selected driver; the other sections do not count. -/
def validateSection (c : Config) (driver : Driver) : Except Error Unit :=
  match driver.sectionKey? with
  | none => .ok ()
  | some key =>
    match c.section? driver with
    | none => .error (.missingDriverConfig driver.name key)
    | some s => s.validate key

/-- Check a configuration: its driver, the section of that driver, and the sample rate. -/
def validate (c : Config) : Except Error Unit := do
  let driver ← c.selectedDriver
  c.validateSection driver
  c.observability.validate

/-- A configuration that passes the check. -/
def validated (c : Config) : Except Error Config := do
  c.validate
  return c

/-- Equality of configurations, in which the two zeros are one sample rate. -/
def same (a b : Config) : Bool :=
  a.driver == b.driver && a.sqlite == b.sqlite && a.mysql == b.mysql &&
    a.postgresql == b.postgresql && a.observability.same b.observability

end Config

end DataAccess
