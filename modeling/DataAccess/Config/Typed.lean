import DataAccess.Config.Raw
import DataAccess.Text.Quoted

/-!
# Typed reading

The strict way from a tree to settings. An absent field keeps its default, but a field that is there
has to hold its own type: null and a count written as a double are refused. The members of an object
are read in the order of their keys and the first bad one is the error. The settings that are plain
records may also be written as a list of their fields in order.
-/

namespace DataAccess.Typed

open Json Text

/-- Why a tree is not a value of a type. -/
inductive Error where
  /-- A tree of another kind than expected. -/
  | invalidType (found : Json) (expected : String)
  /-- An integer outside the expected type. -/
  | outOfRange (value : Int) (expected : String)
  /-- More items than a record has fields. -/
  | tooLong (count : Nat)
  /-- A driver that does not exist. -/
  | unknownDriver (name : String)
  /-- An object in the place of a driver that does not have one member. -/
  | notSingle
  /-- A value that is no duration. -/
  | duration (cause : Duration.Error)
  /-- A raw configuration that is refused. -/
  | config (cause : Config.Error)

/-- How an error names what it found. -/
def found : Json → String
  | .null => "null"
  | .bool b => "boolean `" ++ (if b then "true" else "false") ++ "`"
  | .integer i => "integer `" ++ (Json.integer i).numberText ++ "`"
  | .float x => "floating point `" ++ (Json.float x).numberText ++ "`"
  | .text s => "string " ++ quoted s
  | .list _ => "sequence"
  | .object _ => "map"

/-- The driver names as a message lists them. -/
def driverNames : String :=
  ", ".intercalate (Driver.all.map fun d => "`" ++ d.name ++ "`")

/-- The wording of an error. -/
def Error.message : Error → String
  | .invalidType v expected => "invalid type: " ++ found v ++ ", expected " ++ expected
  | .outOfRange i expected =>
    "invalid value: integer `" ++ (Json.integer i).numberText ++ "`, expected " ++ expected
  | .tooLong n => "invalid length " ++ toString n ++ ", expected fewer elements in array"
  | .unknownDriver n => "unknown variant `" ++ n ++ "`, expected one of " ++ driverNames
  | .notSingle => "invalid value: map, expected map with a single key"
  | .duration e => e.message
  | .config e => e.message

/-! ### Fields -/

/-- A 32-bit count. -/
def count (v : Json) : Except Error UInt32 :=
  match v with
  | .integer i =>
    if 0 ≤ i ∧ i < UInt32.size then .ok (UInt32.ofNat i.toNat) else .error (.outOfRange i "u32")
  | v => .error (.invalidType v "u32")

/-- A duration: seconds as an integer or a double, or a duration text. -/
def duration (v : Json) : Except Error Duration :=
  let wrap : Except Duration.Error Duration → Except Error Duration
    | .ok d => .ok d
    | .error e => .error (.duration e)
  match v with
  | .integer i =>
    if i < 0 then .error (.duration (.negativeCount i))
    else match Duration.ofSeconds? i.toNat with
      | some d => .ok d
      | none => wrap (Duration.ofSeconds (.ofInt i))
  | .float x => wrap (Duration.ofSeconds x)
  | .text s => wrap (Duration.parse s)
  | v => .error (.invalidType v "seconds as a number or a duration string like \"1h30m\"")

/-- A truth value. -/
def bool (v : Json) : Except Error Bool :=
  match v with
  | .bool b => .ok b
  | v => .error (.invalidType v "a boolean")

/-- A number, in either kind. -/
def number (v : Json) : Except Error Number.Binary64 :=
  match v.number? with
  | some x => .ok x
  | none => .error (.invalidType v "f64")

/-! ### Records -/

/-- How one field of a record is read into it. -/
structure Field (α : Type) where
  key : String
  read : α → Json → Except Error α

/-- Read the members of an object into a record, in the order of their keys. -/
def readMembers {α : Type} (fields : List (Field α)) : α → Members → Except Error α
  | a, [] => .ok a
  | a, (key, v) :: rest =>
    match fields.find? (·.key == key) with
    | none => readMembers fields a rest
    | some f =>
      match f.read a v with
      | .ok a => readMembers fields a rest
      | .error e => .error e

/-- Read the items of a list into the fields of a record, one by one; fields past the end of the
list keep their defaults. -/
def readItems {α : Type} : List (Field α) → α → List Json → Except Error α
  | f :: fields, a, v :: rest =>
    match f.read a v with
    | .ok a => readItems fields a rest
    | .error e => .error e
  | _, a, _ => .ok a

/-- Read a record from an object or a list. -/
def readRecord {α : Type} (name : String) (fields : List (Field α)) (default : α) (v : Json) :
    Except Error α :=
  match v with
  | .object ms => readMembers fields default ms
  | .list vs =>
    match readItems fields default vs with
    | .error e => .error e
    | .ok a => if fields.length < vs.length then .error (.tooLong vs.length) else .ok a
  | v => .error (.invalidType v ("struct " ++ name))

/-- The fields of a pool, in order. -/
def poolFields : List (Field Pool) := [
  ⟨"max_open_conns", fun p v => (count v).map fun n => { p with maxOpen := n }⟩,
  ⟨"max_idle_conns", fun p v => (count v).map fun n => { p with maxIdle := n }⟩,
  ⟨"conn_max_lifetime", fun p v => (duration v).map fun d => { p with lifetime := d }⟩,
  ⟨"conn_max_idle_time", fun p v => (duration v).map fun d => { p with idleTime := d }⟩,
  ⟨"acquire_timeout", fun p v => (duration v).map fun d => { p with acquire := d }⟩]

/-- A pool. -/
def pool (v : Json) : Except Error Pool := readRecord "PoolParameters" poolFields .standard v

/-- The fields of observability settings, in order. -/
def observabilityFields : List (Field Observability) := [
  ⟨"slow_query_threshold", fun o v => (duration v).map fun d => { o with slowThreshold := d }⟩,
  ⟨"log_sql", fun o v => (bool v).map fun b => { o with logSql := b }⟩,
  ⟨"sample_rate", fun o v => (number v).map fun x => { o with sampleRate := x }⟩]

/-- Observability settings. -/
def observability (v : Json) : Except Error Observability :=
  readRecord "ObservabilityConfig" observabilityFields .standard v

/-! ### Drivers and configurations -/

/-- A driver by its name. -/
def driverOfName (name : String) : Except Error Driver :=
  match Driver.ofName? name with
  | some d => .ok d
  | none => .error (.unknownDriver name)

/-- A driver: its name, or an object whose one member has the name as key and null as value. -/
def driver (v : Json) : Except Error Driver :=
  match v with
  | .text s => driverOfName s
  | .object [(key, content)] =>
    match driverOfName key with
    | .error e => .error e
    | .ok d => if content == .null then .ok d else .error (.invalidType content "unit")
  | .object _ => .error .notSingle
  | v => .error (.invalidType v "string or map")

/-- A configuration, which goes through the raw reading. -/
def config (v : Json) : Except Error Config :=
  match v with
  | .object ms =>
    match Config.ofMembers ms with
    | .ok c => .ok c
    | .error e => .error (.config e)
  | v => .error (.invalidType v "a map")

end DataAccess.Typed
