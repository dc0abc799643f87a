import DataAccess.Access.Manager
import DataAccess.Proofs.Concurrent.Program
import DataAccess.Proofs.Observation.Recording

/-!
# Operations that share an observer

Statements, work that is not observed, and changes of settings, each as a program whose pieces are
the points at which other tasks may come in between: a statement first reads the sample rate, opens
its span and reads the clock; then it runs; then it reads the clock and the settings and reports one
event after the other. Each piece leaves a note.

By itself the program of an operation does what is done in one go (`Operation.run_program`). What an
executor does are such operations (`Engine.executor_eq_meaning`).
-/

namespace DataAccess.Access

open Observation Sql

variable {ι σ α : Type}

/-! ### Connections without observers -/

/-- Work on the connection alone. -/
def Work.onConnectionOnly (work : StateM (Option σ) α) : Work σ α := fun p =>
  let (a, connection) := work.run p.connection
  (a, { p with connection })

/-- Work of the engine where there may be no connection. -/
def Engine.attempt (work : StateM σ (Except Error α)) : StateM (Option σ) (Except Error α)
  | none => (.error (.backend .poolClosed), none)
  | some c => ((work.run c).1, some (work.run c).2)

theorem Engine.within_eq (d : Deadline) (a : Action σ α) :
    within d a = Work.onConnectionOnly (attempt (a.under d)) := by
  funext p
  obtain ⟨connection, observer, notices⟩ := p
  cases connection with
  | none => rfl
  | some c => rfl

/-! ### What is recorded -/

/-- A pool with a recording of what its tasks do with the observer. -/
structure Recorded (ι σ : Type) where
  pool : Pooled σ
  recording : Recording ι

namespace Recorded

/-- Take a note. -/
def note (i : ι) (n : Note) (s : Recorded ι σ) : Recorded ι σ :=
  { s with recording := s.recording ++ [(i, n)] }

/-- The same pool with another observer. -/
def withObserver (s : Recorded ι σ) (observer : Observer) : Recorded ι σ :=
  { s with pool := { s.pool with observer } }

/-- The same pool with another connection. -/
def withConnection (s : Recorded ι σ) (connection : Option σ) : Recorded ι σ :=
  { s with pool := { s.pool with connection } }

/-- Decide whether a statement is sampled. -/
def sample (i : ι) (q : Statement) : StateM (Recorded ι σ) Bool := fun s =>
  let o := s.pool.observer
  (Plugin.isSampled o.plugin.settings.sampleRate (o.draw o.drawn),
    (s.withObserver { o with drawn := o.drawn + 1 }).note i (.before q))

theorem sample_eq (i : ι) (q : Statement) (s : Recorded ι σ) : sample i q s =
    (Plugin.isSampled s.pool.observer.plugin.settings.sampleRate
      (s.pool.observer.draw s.pool.observer.drawn), (s.withObserver
        { s.pool.observer with drawn := s.pool.observer.drawn + 1 }).note i (.before q)) := rfl

/-- Report an event. -/
def emit (i : ι) (e : Event) (s : Recorded ι σ) : Recorded ι σ :=
  (s.withObserver (s.pool.observer.report [e])).note i (.event e)

/-- Open the span of a statement, if there is a tracer. -/
def openSpan (i : ι) (q : Statement) : StateM (Recorded ι σ) (Option String) := fun s =>
  if s.pool.observer.plugin.traced then
    (some (Plugin.spanName q), s.emit i (.spanStart (Plugin.spanName q) q.table))
  else (none, s)

/-- Time passes while nobody looks at the clock. -/
def idle (s : Recorded ι σ) : Recorded ι σ := s.withObserver (s.pool.observer.pass Observer.tick)

/-- Read the clock. -/
def readClock (i : ι) : StateM (Recorded ι σ) Time := fun s =>
  (s.pool.observer.now, s.idle.note i (.clock s.pool.observer.now))

/-- Look at the settings when a statement is over. -/
def look (i : ι) (q : Statement) (failure : Option Error) :
    StateM (Recorded ι σ) Observability := fun s =>
  (s.pool.observer.plugin.settings, s.note i (.after q failure))

/-- Replace the settings, unless they are refused. -/
def apply (i : ι) (o : Observability) : StateM (Recorded ι σ) (Except Error Unit) := fun s =>
  match s.pool.observer.apply o with
  | .ok observer => (.ok (), (s.withObserver observer).note i (.settings o))
  | .error e => (.error (.config e), s)

end Recorded

/-! ### Programs -/

/-- What failed, if anything did. -/
def failureOf : Except Error α → Option Error
  | .ok _ => none
  | .error e => some e

theorem Program.run_bind_apply {S β : Type} (p : Program S α) (f : α → Program S β) (s : S) :
    (p >>= f).run s = (f (p.run s).1).run (p.run s).2 := by
  rw [run_bind]
  rfl

theorem Program.run_atomic {S : Type} (work : StateM S α) (s : S) :
    (atomic work).run s = work s := rfl

/-- A program on a connection as a program on a pool that is recorded. -/
def Program.onConnection : Program (Option σ) α → Program (Recorded ι σ) α
  | .done a => .done a
  | .next ready piece rest =>
    .next (fun s => ready s.pool.connection)
      (fun s => s.withConnection (piece s.pool.connection))
      fun s => (rest s.pool.connection).onConnection

namespace Operation

open Program Recorded

/-- Open a statement that is sampled or not. -/
def opening (i : ι) (q : Statement) : Bool → Program (Recorded ι σ) (Option Guard)
  | true => do
    let span ← atomic (openSpan i q)
    let started ← atomic (readClock i)
    return some ⟨started, span⟩
  | false => do
    atomic (modify idle)
    return none

/-- Start observing a statement. -/
def starting (i : ι) (q : Statement) : Program (Recorded ι σ) (Option Guard) := do
  opening i q (← atomic (sample i q))

/-- Report events one after the other. -/
def emitAll (i : ι) : List Event → Program (Recorded ι σ) Unit
  | [] => return ()
  | e :: rest => do
    atomic (modify (emit i e))
    emitAll i rest

/-- Finish observing a statement. -/
def finishing (i : ι) (q : Statement) (failure : Option Error) :
    Option Guard → Program (Recorded ι σ) Unit
  | none => do
    atomic (modify idle)
    let _ ← atomic (look i q failure)
  | some guard => do
    let now ← atomic (readClock i)
    let settings ← atomic (look i q failure)
    emitAll i (Plugin.report settings q (now - guard.started) guard.span
      (failure.map Error.message))

/-- Run a statement and observe it. -/
def observing (i : ι) (q : Statement) (work : Program (Option σ) (Except Error α)) :
    Program (Recorded ι σ) (Except Error α) := do
  let guard ← starting i q
  let r ← work.onConnection
  finishing i q (failureOf r) guard
  return r

end Operation

/-- Something that a task does with a pool and its observer. -/
inductive Operation (σ : Type) : Type → Type 1 where
  /-- A statement, and the work that it is: it may fail, and it may be given up. -/
  | statement {α : Type} (q : Statement) (work : Program (Option σ) (Except Error α)) :
    Operation σ (Except Error α)
  /-- Work that is no statement, such as the control of transactions. -/
  | control {α : Type} (work : Program (Option σ) α) : Operation σ α
  /-- New settings for the observer. -/
  | apply (o : Observability) : Operation σ (Except Error Unit)
  /-- Time that passes. -/
  | wait (t : Time) : Operation σ Unit

namespace Operation

open Program Recorded

/-- The program of an operation of task `i`. -/
def program (i : ι) : Operation σ α → Program (Recorded ι σ) α
  | statement q work => observing i q work
  | control work => work.onConnection
  | apply o => atomic (Recorded.apply i o)
  | wait t => atomic (modify fun s => s.withObserver (s.pool.observer.pass t))

/-- What an operation does in one go. -/
def meaning : Operation σ α → Work σ α
  | statement q work => Work.observed q (Work.onConnectionOnly work.run)
  | control work => Work.onConnectionOnly work.run
  | apply o => fun p =>
    match p.observer.apply o with
    | .ok observer => (.ok (), { p with observer })
    | .error e => (.error (.config e), p)
  | wait t => modify fun p => { p with observer := p.observer.pass t }

theorem run_apply (o : Observability) (p : Pooled σ) : (meaning (.apply o)).run p =
    match p.observer.apply o with
    | .ok observer => (.ok (), { p with observer })
    | .error e => (.error (.config e), p) := rfl

/-! ### An operation by itself -/

/-- What a program does to the pool when it runs by itself. -/
def alone (p : Program (Recorded ι σ) α) (s : Recorded ι σ) : α × Pooled σ :=
  ((p.run s).1, (p.run s).2.pool)

theorem run_onConnection (work : Program (Option σ) α) (s : Recorded ι σ) :
    work.onConnection.run s =
      ((work.run s.pool.connection).1, s.withConnection (work.run s.pool.connection).2) := by
  induction work generalizing s with
  | done a => rfl
  | next ready piece rest ih =>
    exact ih s.pool.connection (s.withConnection (piece s.pool.connection))

theorem pool_run_emitAll (i : ι) (es : List Event) (s : Recorded ι σ) :
    ((emitAll i es).run s).2.pool = { s.pool with observer := s.pool.observer.report es } := by
  induction es generalizing s with
  | nil => rfl
  | cons e rest ih =>
    have hrun : (emitAll i (e :: rest)).run s = (emitAll i rest).run (s.emit i e) := rfl
    rw [hrun, ih]
    simp [emit, note, withObserver, Observer.report]

theorem run_opening (i : ι) (q : Statement) (s : Recorded ι σ) :
    (opening i q true).run s =
      let (span, s') := openSpan i q s
      (some ⟨s'.pool.observer.now, span⟩, s'.idle.note i (.clock s'.pool.observer.now)) := rfl

theorem alone_starting (i : ι) (q : Statement) (s : Recorded ι σ) :
    alone (starting i q) s = (Work.before q).run s.pool := by
  have hrun : (starting i q).run s = (opening i q (sample i q s).1).run (sample i q s).2 := by
    rw [starting, run_bind_apply, run_atomic]
  have hbefore : (Work.before q).run s.pool =
      ((s.pool.observer.before q).1, { s.pool with observer := (s.pool.observer.before q).2 }) := by
    simp [Work.before]
    rfl
  rw [alone, hrun, sample_eq, hbefore, Observer.before, Plugin.before]
  generalize Plugin.isSampled s.pool.observer.plugin.settings.sampleRate
    (s.pool.observer.draw s.pool.observer.drawn) = sampled
  cases sampled with
  | false => rfl
  | true =>
    rw [run_opening]
    cases htraced : s.pool.observer.plugin.traced with
    | false =>
      simp [openSpan, note, withObserver, htraced, idle, Observer.pass, Observer.report]
    | true =>
      simp [openSpan, note, withObserver, htraced, idle, Observer.pass, Observer.report, emit]

theorem pool_run_finishing (i : ι) (q : Statement) (failure : Option Error)
    (guard : Option Guard) (s : Recorded ι σ) :
    ((finishing i q failure guard).run s).2.pool =
      { s.pool with observer := s.pool.observer.after q guard failure } := by
  cases guard with
  | none => rfl
  | some guard =>
    have hrun : (finishing i q failure (some guard)).run s =
        (emitAll i (Plugin.report s.pool.observer.plugin.settings q
          (s.pool.observer.now - guard.started) guard.span (failure.map Error.message))).run
            (s.idle.note i (.clock s.pool.observer.now) |>.note i (.after q failure)) := rfl
    rw [hrun, pool_run_emitAll]
    rfl

theorem run_observed {q : Statement} {work : Work σ (Except Error α)} {p p₁ p₂ : Pooled σ}
    {guard : Option Guard} {r : Except Error α} (hbefore : (Work.before q).run p = (guard, p₁))
    (hwork : work.run p₁ = (r, p₂)) : (Work.observed q work).run p =
      (r, { p₂ with observer := p₂.observer.after q guard (failureOf r) }) := by
  unfold Work.observed
  rw [StateT.run_bind, hbefore]
  show (work >>= fun r => Work.after q guard r >>= fun _ => pure r).run p₁ = _
  rw [StateT.run_bind, hwork]
  cases r <;> rfl

/-- By itself a statement that is observed piece by piece is observed as in one go. -/
theorem alone_observing (i : ι) (q : Statement) (work : Program (Option σ) (Except Error α))
    (s : Recorded ι σ) : alone (observing i q work) s =
      (Work.observed q (Work.onConnectionOnly work.run)).run s.pool := by
  have hstart := alone_starting i q s
  cases hs : (starting i q).run s with
  | mk guard s₁ =>
    rw [alone, hs] at hstart
    have hwork : (Work.onConnectionOnly work.run).run s₁.pool =
        ((work.run s₁.pool.connection).1,
          (s₁.withConnection (work.run s₁.pool.connection).2).pool) := rfl
    have hrun : (observing i q work).run s =
        (work.onConnection >>= fun r =>
          finishing i q (failureOf r) guard >>= fun _ => pure r).run s₁ := by
      rw [observing, run_bind_apply, hs]
    rw [run_observed hstart.symm hwork, alone, hrun, run_bind_apply, run_onConnection,
      run_bind_apply]
    show (_, ((finishing i q _ guard).run _).2.pool) = _
    rw [pool_run_finishing]
    rfl

/-- By itself the program of an operation does what is done in one go. -/
theorem run_program (i : ι) (op : Operation σ α) (s : Recorded ι σ) :
    alone (op.program i) s = op.meaning.run s.pool := by
  cases op with
  | statement q work => exact alone_observing i q work s
  | control work =>
    rw [alone, program, run_onConnection]
    rfl
  | apply o =>
    rw [run_apply, alone, program, run_atomic, Recorded.apply]
    cases s.pool.observer.apply o with
    | ok observer => rfl
    | error e => rfl
  | wait t => rfl

end Operation

/-! ### What executors and managers do -/

/-- A statement of an engine under a deadline. -/
def Operation.ofStatement (q : Statement) (d : Deadline) (a : Action σ α) :
    Operation σ (Except Error α) := .statement q (.atomic (Engine.attempt (a.under d)))

/-- An action of an engine that is no statement, under a deadline. -/
def Operation.ofControl (d : Deadline) (a : Action σ α) : Operation σ (Except Error α) :=
  .control (.atomic (Engine.attempt (a.under d)))

/-- Statements of an executor are observed, also those that are given up, and nothing else is. -/
theorem Engine.executor_eq_meaning (e : Engine σ) (driver : Driver) (d : Deadline) :
    let x := e.executor driver d
    (∀ q, x.session.execute q = (Operation.ofStatement q d (e.execute q)).meaning) ∧
    (∀ q, x.session.fetch q = (Operation.ofStatement q d (e.fetch q)).meaning) ∧
    x.begin = (Operation.ofControl d e.begin).meaning ∧
    x.commit = (Operation.ofControl d e.commit).meaning ∧
    x.rollback = (Operation.ofControl d e.rollback).meaning ∧
    (∀ c, x.control c = (Operation.ofControl d (e.control c)).meaning) ∧
    x.abandon = (Operation.ofControl .unbounded e.rollback).meaning >>= fun _ => pure () := by
  have hobserved : ∀ {β : Type} (q : Statement) (a : Action σ β),
      Work.observed q (within d a) = (Operation.ofStatement q d a).meaning :=
    fun q a => congrArg (Work.observed q) (within_eq d a)
  refine ⟨fun q => hobserved q _, fun q => hobserved q _, within_eq d _, within_eq d _,
    within_eq d _, fun c => within_eq d _, ?_⟩
  exact congrArg (· >>= fun _ => pure ()) (within_eq .unbounded e.rollback)

theorem Manager.setObservability_eq_meaning (o : Observability) :
    (setObservability o : Managed σ _) = onPool (Operation.apply o).meaning := by
  funext m
  have hpool : onPool (Operation.apply o).meaning m =
      (((Operation.apply o).meaning.run m.pool).1,
        { m with pool := ((Operation.apply o).meaning.run m.pool).2 }) := rfl
  rw [hpool, Operation.run_apply, setObservability]
  cases m.pool.observer.apply o with
  | ok observer => rfl
  | error e => rfl

end DataAccess.Access
