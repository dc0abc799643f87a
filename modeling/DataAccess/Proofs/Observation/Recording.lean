import DataAccess.Observation.Plugin
import DataAccess.Proofs.Number.Order

/-!
# Recordings

A recording is what a logger, a tracer and a clock see of tasks that share an observer, in the order
in which it happens, together with the calls of the observer and the settings that it is given.
From a recording one can tell which settings were in force at any point (`inForce`) and what one
task did (`own`).

`Begun` and `Ended` say how far a task is with its statement. Both survive what other tasks do.
-/

namespace DataAccess.Observation

open Number Sql

/-- Something that a task does with an observer. -/
inductive Note where
  | before (q : Statement)
  | clock (t : Time)
  | after (q : Statement) (failure : Option Error)
  | event (e : Event)
  | settings (o : Observability)

/-- Whether a note is about a call of the observer. -/
def Note.isCall : Note → Bool
  | before _ | after .. => true
  | _ => false

/-- What some tasks did, the oldest first. -/
abbrev Recording (ι : Type) := List (ι × Note)

namespace Recording

variable {ι : Type}

/-- What one task did. -/
def own [DecidableEq ι] (i : ι) (l : Recording ι) : List Note :=
  l.filterMap fun m => if m.1 = i then some m.2 else none

/-- The events that were reported. -/
def events (l : Recording ι) : List Event :=
  l.filterMap fun m =>
    match m.2 with
    | .event e => some e
    | _ => none

/-- The settings after what was recorded: the last ones that were given, or else the first ones. -/
def inForce (first : Observability) (l : Recording ι) : Observability :=
  l.foldl (fun settings m =>
    match m.2 with
    | .settings o => o
    | _ => settings) first

section

variable [DecidableEq ι] (i : ι)

@[simp] theorem own_nil : own i ([] : Recording ι) = [] := rfl

@[simp] theorem own_append (l l' : Recording ι) : own i (l ++ l') = own i l ++ own i l' :=
  List.filterMap_append

@[simp] theorem own_map_self (ns : List Note) : own i (ns.map (i, ·)) = ns := by
  rw [own, List.filterMap_map]
  simp

theorem own_others {j : ι} (hj : j ≠ i) (ns : List Note) : own i (ns.map (j, ·)) = [] := by
  rw [own, List.filterMap_map]
  simp [hj]

end

theorem events_append (l l' : Recording ι) : events (l ++ l') = events l ++ events l' :=
  List.filterMap_append

theorem inForce_append (first : Observability) (l l' : Recording ι) :
    inForce first (l ++ l') = inForce (inForce first l) l' := List.foldl_append

end Recording

open Recording

/-! ### The course of a statement -/

/-- Whether a statement is sampled is decided by the rate: at one it is, at zero it is not, and in
between it may be. -/
def Decided (rate : Binary64) (sampled : Bool) : Prop :=
  (Binary64.le .one rate = true → sampled = true) ∧
    (Binary64.le rate .zero = true → sampled = false)

theorem decided_isSampled (rate draw : Binary64) : Decided rate (Plugin.isSampled rate draw) := by
  unfold Plugin.isSampled
  constructor
  · intro h
    rw [h, Bool.true_or]
  · intro h
    have hone : Binary64.le .one rate = false := by
      apply Bool.eq_false_iff.mpr
      intro hle
      obtain ⟨v, hv⟩ :=
        Binary64.value?_isSome_of_le Binary64.value?_one Binary64.value?_zero hle h
      have hlow := (Binary64.le_iff_value Binary64.value?_one hv).mp hle
      have hhigh := (Binary64.le_iff_value hv Binary64.value?_zero).mp h
      exact absurd (hlow.trans hhigh) (by norm_num)
    rw [hone, h]
    rfl

variable {ι : Type} [DecidableEq ι] {first : Observability} {i : ι} {q : Statement}
variable {sampled : Bool} {ns ms : List Note} {failure : Option Error} {settings : Observability}
variable {l : Recording ι}

/-- A task has begun to observe a statement, and has done `ns` since. -/
def Begun (first : Observability) (i : ι) (q : Statement) (sampled : Bool) (ns : List Note)
    (l : Recording ι) : Prop :=
  ∃ l₀ l₁, l = l₀ ++ (i, .before q) :: l₁ ∧ own i l₀ = [] ∧
    Decided (inForce first l₀).sampleRate sampled ∧ own i l₁ = ns

/-- A task has finished observing a statement, at a point where `settings` were in force: it did
`ns` before and has done `ms` since. -/
def Ended (first : Observability) (i : ι) (q : Statement) (sampled : Bool) (ns : List Note)
    (failure : Option Error) (settings : Observability) (ms : List Note) (l : Recording ι) : Prop :=
  ∃ l₁ l₂, l = l₁ ++ (i, .after q failure) :: l₂ ∧ Begun first i q sampled ns l₁ ∧
    inForce first l₁ = settings ∧ own i l₂ = ms

theorem Begun.append (h : Begun first i q sampled ns l) (l' : Recording ι) :
    Begun first i q sampled (ns ++ own i l') (l ++ l') := by
  obtain ⟨l₀, l₁, rfl, hbefore, hdecided, hns⟩ := h
  refine ⟨l₀, l₁ ++ l', ?_, hbefore, hdecided, ?_⟩
  · rw [List.append_assoc, List.cons_append]
  · rw [own_append, hns]

theorem Ended.append (h : Ended first i q sampled ns failure settings ms l) (l' : Recording ι) :
    Ended first i q sampled ns failure settings (ms ++ own i l') (l ++ l') := by
  obtain ⟨l₁, l₂, rfl, hbegun, hsettings, hms⟩ := h
  refine ⟨l₁, l₂ ++ l', ?_, hbegun, hsettings, ?_⟩
  · rw [List.append_assoc, List.cons_append]
  · rw [own_append, hms]

theorem Begun.notes (h : Begun first i q sampled ns l) (ms : List Note) :
    Begun first i q sampled (ns ++ ms) (l ++ ms.map (i, ·)) := by
  have h := h.append (ms.map (i, ·))
  rwa [own_map_self] at h

theorem Ended.notes (h : Ended first i q sampled ns failure settings ms l) (ms' : List Note) :
    Ended first i q sampled ns failure settings (ms ++ ms') (l ++ ms'.map (i, ·)) := by
  have h := h.append (ms'.map (i, ·))
  rwa [own_map_self] at h

theorem Begun.of_own_eq_nil (h : own i l = [])
    (hdecided : Decided (inForce first l).sampleRate sampled) :
    Begun first i q sampled [] (l ++ [(i, .before q)]) :=
  ⟨l, [], rfl, h, hdecided, rfl⟩

theorem Begun.ended (h : Begun first i q sampled ns l) (failure : Option Error) :
    Ended first i q sampled ns failure (inForce first l) [] (l ++ [(i, .after q failure)]) :=
  ⟨l, [], rfl, h, rfl, rfl⟩

/-- All that a task has done when it has finished observing a statement. -/
theorem Ended.own_eq (h : Ended first i q sampled ns failure settings ms l) :
    own i l = .before q :: ns ++ .after q failure :: ms := by
  obtain ⟨l₁, l₂, rfl, ⟨l₀, l₁', rfl, hbefore, -, rfl⟩, -, rfl⟩ := h
  rw [own_append, own_append, hbefore, List.nil_append]
  simp [own]

/-! ### Reports -/

/-- Whether an event goes to the logger; the others go to the tracer. -/
def Event.isLine : Event → Bool
  | .line .. => true
  | _ => false

/-- The fields of all lines on a statement: its table, its kind, how long it took, and the statement
itself where statements are logged. -/
def lineFields (settings : Observability) (q : Statement) (elapsed : Time) : Fields :=
  [("table", q.table), ("operation", q.kind.name),
    ("duration_ms", toString (elapsed / 1_000_000))] ++
    if settings.logSql then [("sql", q.sql)] else []

/-- The lines on a statement: that it failed, that it was slow, and that it was executed. -/
def linesOn (settings : Observability) (q : Statement) (elapsed : Time) (failure : Option Error) :
    List Event :=
  let fs := lineFields settings q elapsed
  (failure.toList.map fun cause => .line .error "query failed" (fs ++ [("error", cause.message)])) ++
    (if settings.slowThreshold.inNanos ≠ 0 ∧ settings.slowThreshold.inNanos ≤ elapsed then
      [.line .warn "slow query" fs] else []) ++
    if settings.logSql then [.line .debug "query executed" fs] else []

/-- What becomes of a span: it records the failure of its statement, and it ends. -/
def spanEvents (name : String) (failure : Option Error) : List Event :=
  (failure.toList.map fun cause => .spanError name cause.message) ++ [.spanEnd name]

theorem isSlow_iff {settings : Observability} {elapsed : Time} :
    Plugin.isSlow settings elapsed = true ↔
      settings.slowThreshold.inNanos ≠ 0 ∧ settings.slowThreshold.inNanos ≤ elapsed := by
  have hzero : settings.slowThreshold.isZero = true ↔ settings.slowThreshold.inNanos = 0 := by
    rw [Duration.isZero, Duration.inNanos, Bool.and_eq_true, beq_iff_eq, beq_iff_eq]
    omega
  rw [Plugin.isSlow, Bool.and_eq_true, Bool.not_eq_true', ← Bool.not_eq_true, hzero,
    decide_eq_true_iff]

theorem lines_report (settings : Observability) (q : Statement) (elapsed : Time)
    (span : Option String) (failure : Option Error) :
    (Plugin.report settings q elapsed span (failure.map Error.message)).filter Event.isLine =
      linesOn settings q elapsed failure := by
  simp only [Plugin.report, linesOn, isSlow_iff]
  cases failure <;> cases span <;> split <;> split <;> rfl

theorem spans_report (settings : Observability) (q : Statement) (elapsed : Time)
    (span : Option String) (failure : Option Error) :
    (Plugin.report settings q elapsed span (failure.map Error.message)).filter
      (fun e => !e.isLine) = span.toList.flatMap fun name => spanEvents name failure := by
  simp only [Plugin.report]
  cases failure <;> cases span <;> split <;> split <;> rfl

end DataAccess.Observation
