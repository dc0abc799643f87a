import DataAccess.Error
import DataAccess.Observation.Event
import DataAccess.Sql.Statement

/-!
# Observing operations

Every statement passes through `before` and `after`. `before` decides whether the operation is
sampled, and if so answers a guard that carries the start time and the span; `after` reports a
guarded operation under the settings that are in force by then. An operation without a guard leaves
no report.
-/

namespace DataAccess.Observation

open Number Sql

/-- A reading of the clock, in nanoseconds. -/
abbrev Time := Nat

/-- The observer of operations: its settings, and whether it opens spans. -/
structure Plugin where
  settings : Observability
  traced : Bool
deriving DecidableEq

/-- What `before` hands on to `after` for a sampled operation. -/
structure Guard where
  started : Time
  /-- The name of the open span. -/
  span : Option String
deriving DecidableEq

namespace Plugin

/-- Replace the settings. A sample rate outside the unit interval is refused and changes nothing. -/
def apply (p : Plugin) (settings : Observability) : Except Config.Error Plugin :=
  match settings.validate with
  | .ok () => .ok { p with settings := settings }
  | .error e => .error e

/-- Whether an operation is sampled; `draw` is a number from the unit interval, drawn for it. -/
def isSampled (rate draw : Binary64) : Bool :=
  Binary64.le .one rate || (!Binary64.le rate .zero && Binary64.lt draw rate)

/-- The name of the span of a statement. -/
def spanName (s : Statement) : String := "db." ++ s.kind.name

/-- Start observing a statement. -/
def before (p : Plugin) (draw : Binary64) (now : Time) (s : Statement) :
    Option Guard × List Event :=
  if isSampled p.settings.sampleRate draw then
    if p.traced then (some ⟨now, some (spanName s)⟩, [.spanStart (spanName s) s.table])
    else (some ⟨now, none⟩, [])
  else (none, [])

/-- The fields that every line on a statement has. -/
def fields (settings : Observability) (s : Statement) (elapsed : Time) : Fields :=
  [("table", s.table), ("operation", s.kind.name),
    ("duration_ms", toString (elapsed / 1_000_000))] ++
    (if settings.logSql then [("sql", s.sql)] else [])

/-- Whether an operation took too long. A threshold of zero is none. -/
def isSlow (settings : Observability) (elapsed : Time) : Bool :=
  !settings.slowThreshold.isZero && settings.slowThreshold.inNanos ≤ elapsed

/-- What is reported on a failed operation: a line, and an error on its span. -/
def failureEvents (fields : Fields) (span : Option String) (error : Option String) : List Event :=
  match error with
  | none => []
  | some text =>
    .line .error "query failed" (fields ++ [("error", text)]) ::
      match span with
      | some name => [.spanError name text]
      | none => []

/-- The report on a sampled operation: its failure, its slowness, its statement, and the end of its
span. -/
def report (settings : Observability) (s : Statement) (elapsed : Time) (span : Option String)
    (error : Option String) : List Event :=
  let fs := fields settings s elapsed
  failureEvents fs span error ++
    (if isSlow settings elapsed then [.line .warn "slow query" fs] else []) ++
    (if settings.logSql then [.line .debug "query executed" fs] else []) ++
    match span with
    | some name => [.spanEnd name]
    | none => []

/-- Finish observing a statement. -/
def after (p : Plugin) (now : Time) (s : Statement) (guard : Option Guard) (error : Option Error) :
    List Event :=
  match guard with
  | none => []
  | some g => report p.settings s (now - g.started) g.span (error.map Error.message)

/-- The debug text of the observer. -/
def debugText (p : Plugin) : String :=
  let truth (b : Bool) : String := if b then "true" else "false"
  "ObservabilityPlugin \x7b config: ObservabilityConfig \x7b slow_query_threshold: " ++
    p.settings.slowThreshold.debugText ++ ", log_sql: " ++ truth p.settings.logSql ++
    ", sample_rate: " ++ Layout.debug.text p.settings.sampleRate ++ " \x7d, tracer: " ++
    truth p.traced ++ " \x7d"

end Plugin

/-! ### An observed world -/

/-- An observer at work: its clock, its source of draws and what it has reported so far, newest
first. -/
structure Observer where
  plugin : Plugin
  now : Time
  draw : Nat → Binary64
  drawn : Nat
  reported : List Event

namespace Observer

/-- An observer that has not reported anything. -/
def ofPlugin (p : Plugin) : Observer :=
  { plugin := p, now := 0, draw := fun _ => .zero, drawn := 0, reported := [] }

/-- How much later it is at every reading of the clock. -/
def tick : Time := 1000

/-- Let time pass. -/
def pass (o : Observer) (t : Time) : Observer := { o with now := o.now + t }

/-- Report events in order. -/
def report (o : Observer) (events : List Event) : Observer :=
  { o with reported := events.reverse ++ o.reported }

/-- Start observing a statement. -/
def before (o : Observer) (s : Statement) : Option Guard × Observer :=
  let r := o.plugin.before (o.draw o.drawn) o.now s
  (r.1, { (o.report r.2).pass tick with drawn := o.drawn + 1 })

/-- Finish observing a statement. -/
def after (o : Observer) (s : Statement) (guard : Option Guard) (error : Option Error) : Observer :=
  (o.report (o.plugin.after o.now s guard error)).pass tick

/-- Replace the settings. -/
def apply (o : Observer) (settings : Observability) : Except Config.Error Observer :=
  (o.plugin.apply settings).map fun p => { o with plugin := p }

end Observer

end DataAccess.Observation
