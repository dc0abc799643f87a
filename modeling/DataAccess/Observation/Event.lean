import DataAccess.Number.Word

/-!
# Events

What observing an operation reports: log lines with fields, and the start, errors and end of a span.
`Trace` is the form in which a structured trace takes these events: the known fields of a line
become fields of their own and the others share one.
-/

namespace DataAccess.Observation

open Number

/-- The levels of a log line. -/
inductive Level where
  | debug
  | info
  | warn
  | error
deriving DecidableEq

/-- The name of a level. -/
def Level.name : Level → String
  | debug => "debug"
  | info => "info"
  | warn => "warn"
  | error => "error"

/-- The level with a name, an error for any other name. -/
def Level.ofName : String → Level
  | "debug" => debug
  | "info" => info
  | "warn" => warn
  | _ => error

/-- A key and its text. -/
abbrev Fields := List (String × String)

/-- Something that is reported. -/
inductive Event where
  | line (level : Level) (message : String) (fields : Fields)
  | spanStart (name table : String)
  | spanError (name text : String)
  | spanEnd (name : String)
deriving DecidableEq

/-! ### Structured traces -/

/-- An event of a structured trace. -/
inductive Trace where
  | event (level : Level) (fields : Fields)
  | span (fields : Fields)
  | record (fields : Fields)
deriving DecidableEq

namespace Trace

/-- The fields of a line that a trace has a place for. -/
def knownKeys : List String := ["table", "operation", "duration_ms", "sql", "error"]

/-- An unsigned word in decimal digits; anything else is dropped. -/
def wordText? (s : String) : Option String :=
  (readWord? UInt64.size s.toList).map fun n => String.ofList (natText n)

/-- The value of a known key: the first one wins, and a duration has to be a number. -/
def known? (fields : Fields) (key : String) : Option String :=
  match fields.lookup key with
  | none => none
  | some v => if key = "duration_ms" then wordText? v else some v

/-- The fields without a place of their own, as one text. -/
def extra (fields : Fields) : Fields :=
  match fields.filter (fun f => !knownKeys.contains f.1) with
  | [] => []
  | rest => [("extra", " ".intercalate (rest.map fun f => f.1 ++ "=" ++ f.2))]

/-- A line as an event of a trace. -/
def ofLine (level : Level) (message : String) (fields : Fields) : Trace :=
  .event level (
    ("message", message) ::
    (knownKeys.filterMap fun k => (known? fields k).map fun v => (k, v)) ++ extra fields)

/-- An event as a structured trace takes it. The end of a span is not an event of its own. -/
def ofEvent : Event → List Trace
  | .line level message fields => [ofLine level message fields]
  | .spanStart name table => [.span [("otel.name", name), ("db.table", table)]]
  | .spanError _ text => [.record [("error", text)]]
  | .spanEnd _ => []

end Trace

end DataAccess.Observation
