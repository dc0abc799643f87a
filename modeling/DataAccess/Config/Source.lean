import DataAccess.Config.Raw
import DataAccess.Environment.Basic

/-!
# Sources of configuration

A source answers keys with trees. An object is a source in which a dotted key walks through nested
objects; the environment is another one. `Config.load` fetches a key, reads the raw configuration
and applies the two overrides.
-/

namespace DataAccess.Config

open Json Text

/-- A source of raw values: a tree for a key, or the error that it has none. -/
abbrev Source := String → Except Error Json

/-- The parts of a dotted key. -/
def keyParts (key : String) : List String :=
  (key.toList.splitOn '.').map String.ofList

/-- Walk down a path of keys. -/
def descend : Json → List String → Option Json
  | v, [] => some v
  | .object ms, key :: path =>
    match Members.find? ms key with
    | some v => descend v path
    | none => none
  | _, _ :: _ => none

/-- The members of an object as a source. -/
def sourceOfMembers (ms : Members) : Source := fun key =>
  match descend (.object ms) (keyParts key) with
  | some v => .ok v
  | none => .error (.notFound key)

/-- The environment as a source: the value of the variable for a key under a leading name, as a
text. -/
def sourceOfEnvironment (env : Environment) (lead : String) : Source := fun key =>
  match env (Environment.keyName lead key) with
  | some s => .ok (.text s)
  | none => .error (.notFound key)

/-! ### Overrides -/

/-- The values that override a configuration; a blank one counts as not given. -/
structure Override where
  driver : Option String
  dsn : Option String

/-- A value that is not blank. -/
def nonBlank (s : Option String) : Option String := s.filter fun s => !isAllBlank s

/-- What applying overrides reports. -/
inductive OverrideNote where
  | driver (name : String)
  | dsn (driver : Driver)
  | dsnIgnored
deriving DecidableEq

/-- The wording of a note and its fields. -/
def OverrideNote.text : OverrideNote → String × List (String × String)
  | .driver name => ("driver overridden from environment", [("driver", name)])
  | .dsn d => ("dsn overridden from environment", [("driver", d.name)])
  | .dsnIgnored => ("ignoring DSN override for the none driver", [])

/-- The outcome of applying overrides: the configuration as it is left, also after an error. -/
structure Overridden where
  config : Config
  notes : List OverrideNote
  result : Except Error Unit

/-- Put a data source name into the section of a driver, which is created with the driver's default
pool when it is missing. -/
def setDsn (c : Config) (driver : Driver) (dsn : String) : Config :=
  match c.section? driver with
  | some s => c.setSection driver { s with dsn := dsn }
  | none => c.setSection driver (.ofDsn driver dsn)

/-- Override the data source name of the selected driver. -/
def overrideDsn (c : Config) (dsn : Option String) : Overridden :=
  match nonBlank dsn with
  | none => ⟨c, [], .ok ()⟩
  | some dsn =>
    match c.selectedDriver with
    | .error e => ⟨c, [], .error e⟩
    | .ok .none => ⟨c, [.dsnIgnored], .ok ()⟩
    | .ok d => ⟨c.setDsn d dsn, [.dsn d], .ok ()⟩

/-- Override the driver, then the data source name of the driver that is selected then. -/
def applyOverride (c : Config) (o : Override) : Overridden :=
  match nonBlank o.driver with
  | none => c.overrideDsn o.dsn
  | some name =>
    let r := ({ c with driver := name } : Config).overrideDsn o.dsn
    { r with notes := .driver name :: r.notes }

/-- Fetch a key, read it and apply overrides. The result is not validated. The notes are given also
when the overrides fail. -/
def load (source : Source) (key : String) (o : Override) :
    Except Error Config × List OverrideNote :=
  match source key with
  | .error e => (.error e, [])
  | .ok raw =>
    match ofJson raw with
    | .error e => (.error e, [])
    | .ok c =>
      let r := c.applyOverride o
      match r.result with
      | .error e => (.error e, r.notes)
      | .ok () => (.ok r.config, r.notes)

end DataAccess.Config
