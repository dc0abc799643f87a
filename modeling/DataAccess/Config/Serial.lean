import DataAccess.Config.Settings
import DataAccess.Duration.Seconds
import DataAccess.Json.Basic

/-!
# Serialised settings

The trees that durations, pools, observability settings and configurations are written to. A whole
number of seconds is an integer and any other duration a double; the sections of drivers that are
not configured are left out.
-/

namespace DataAccess

/-- A duration in seconds: an integer when it is whole, a double otherwise. -/
def Duration.toJson (d : Duration) : Json :=
  if d.nanos = 0 then .integer d.seconds else .ofBinary64 d.toSeconds

/-- A connection count as an integer. -/
def Pool.countToJson (n : UInt32) : Json := .integer n.toNat

/-- A pool as an object. -/
def Pool.toJson (p : Pool) : Json :=
  .ofMembers [
    ("max_open_conns", countToJson p.maxOpen),
    ("max_idle_conns", countToJson p.maxIdle),
    ("conn_max_lifetime", p.lifetime.toJson),
    ("conn_max_idle_time", p.idleTime.toJson),
    ("acquire_timeout", p.acquire.toJson)]

/-- Observability settings as an object. -/
def Observability.toJson (o : Observability) : Json :=
  .ofMembers [
    ("slow_query_threshold", o.slowThreshold.toJson),
    ("log_sql", .bool o.logSql),
    ("sample_rate", .ofBinary64 o.sampleRate)]

namespace Config

/-- A section as an object. -/
def Section.toJson (s : Section) : Json :=
  .ofMembers [("dsn", .text s.dsn), ("pool_config", s.pool.toJson)]

/-- The member for an optional section: none when the driver is not configured. -/
def sectionMember (key : String) (s : Option Section) : List (String × Json) :=
  match s with
  | some s => [(key, s.toJson)]
  | none => []

/-- A configuration as an object. -/
def toJson (c : Config) : Json :=
  .ofMembers (
    ("driver", .text c.driver) ::
    (sectionMember "sqlite_config" c.sqlite ++
      sectionMember "mysql_config" c.mysql ++
      sectionMember "postgresql_config" c.postgresql ++
      [("observability_config", c.observability.toJson)]))

end Config

end DataAccess
