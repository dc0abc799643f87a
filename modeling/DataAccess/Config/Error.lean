import DataAccess.Number.Layout

/-!
# Configuration errors

What can be wrong with a configuration. Every cause but an unknown driver names the field that it is
about, as a dotted path into the raw configuration.
-/

namespace DataAccess.Config

open Number

/-- Why a configuration is refused. -/
inductive Error where
  /-- A field that has to be there and is not. -/
  | missingField (field : String)
  /-- A field that holds another kind of value than `expected`. -/
  | invalidType (field expected : String)
  /-- A field whose value does not read as a duration. -/
  | invalidDuration (field message : String)
  /-- A field whose value is out of its range. -/
  | invalidValue (field message : String)
  /-- A driver that is not one of the known ones. -/
  | unknownDriver (name : String)
  /-- The section of the selected driver is missing. -/
  | missingDriverConfig (driver field : String)
  /-- A blank data source name. -/
  | emptyDsn (field : String)
  /-- More idle connections than open ones. -/
  | poolBounds (field : String) (maxIdle maxOpen : UInt32)
  /-- A sample rate that is not in the unit interval. -/
  | invalidSampleRate (field : String) (value : Binary64)
  /-- A key that the source of configuration does not have. -/
  | notFound (key : String)
deriving DecidableEq

namespace Error

/-- The wording of an error. -/
def message : Error → String
  | missingField f => "missing required field: " ++ f
  | invalidType f e => "invalid type for " ++ f ++ ": expected " ++ e
  | invalidDuration f m => "invalid duration for " ++ f ++ ": " ++ m
  | invalidValue f m => "invalid value for " ++ f ++ ": " ++ m
  | unknownDriver n =>
    "unknown driver `" ++ n ++ "`: expected one of sqlite, mysql, postgresql, none"
  | missingDriverConfig d f => f ++ " is required when driver is " ++ d
  | emptyDsn f => f ++ " must not be empty"
  | poolBounds f idle opened => f ++ ": max_idle_conns (" ++ toString idle.toNat ++
      ") must not exceed max_open_conns (" ++ toString opened.toNat ++ ")"
  | invalidSampleRate f x => f ++ " must be within [0, 1], got " ++ Layout.plain.text x
  | notFound k => "config key not found: " ++ k

/-- The name of the kind of an error. -/
def kind : Error → String
  | missingField _ => "MissingField"
  | invalidType .. => "InvalidType"
  | invalidDuration .. => "InvalidDuration"
  | invalidValue .. => "InvalidValue"
  | unknownDriver _ => "UnknownDriver"
  | missingDriverConfig .. => "MissingDriverConfig"
  | emptyDsn _ => "EmptyDsn"
  | poolBounds .. => "PoolBounds"
  | invalidSampleRate .. => "InvalidSampleRate"
  | notFound _ => "NotFound"

/-- The field that an error is about. -/
def field : Error → Option String
  | missingField f | invalidType f _ | invalidDuration f _ | invalidValue f _
  | emptyDsn f | poolBounds f _ _ | invalidSampleRate f _ | missingDriverConfig _ f => some f
  | unknownDriver _ => some "driver"
  | notFound k => some k

end Error

end DataAccess.Config
