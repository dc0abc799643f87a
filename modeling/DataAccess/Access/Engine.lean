import DataAccess.Access.Deadline
import DataAccess.Access.Transaction

/-!
# Engines

A database engine is what acts on one connection. An action may be late: under a deadline it is then
given up, and the engine says how that leaves the connection. What is answered is what `Deadline.run`
gives at any time (`Action.run_seen`). `Engine.executor` turns an engine into an executor: every
statement is observed, runs under a deadline, and fails once the pool is closed. Control of
transactions is not observed. Actions do not move the clock of the observer; what time they take,
passes outside of them.
-/

namespace DataAccess.Access

open Observation Sql

/-- An action on a connection. -/
structure Action (σ α : Type) where
  /-- What it does for who waits until it is done. -/
  work : StateM σ (Except BackendError α)
  /-- How it leaves a connection if it is given up at some time; it is not if it is done by then. -/
  givenUp? : Time → σ → Option σ

namespace Action

variable {σ α : Type}

/-- An action that is done whenever anybody looks. -/
def prompt (work : StateM σ (Except BackendError α)) : Action σ α := ⟨work, fun _ _ => none⟩

/-- An action as a deadline sees it. -/
def seen (d : Deadline) (a : Action σ α) : StateM σ (Deadline.Work α) := fun c =>
  match d.at?.bind (a.givenUp? · c) with
  | some c => (.never, c)
  | none =>
    let (r, c) := a.work.run c
    (.ready (r.mapError .backend), c)

/-- An action under a deadline. -/
def under (d : Deadline) (a : Action σ α) : StateM σ (Except Error α) := do
  return (← a.seen d).answer

variable {d : Deadline} {a : Action σ α} {c c' : σ}

theorem seen_of_done (h : d.at?.bind (a.givenUp? · c) = none) :
    (a.seen d).run c = (.ready ((a.work.run c).1.mapError .backend), (a.work.run c).2) := by
  simp only [seen, StateT.run, h]
  rfl

theorem seen_of_givenUp (h : d.at?.bind (a.givenUp? · c) = some c') :
    (a.seen d).run c = (.never, c') := by
  simp only [seen, StateT.run, h]

/-- What is done in time has its result, also if the deadline has passed. -/
theorem under_of_done (h : d.at?.bind (a.givenUp? · c) = none) :
    (a.under d).run c = ((a.work.run c).1.mapError .backend, (a.work.run c).2) := by
  rw [under, StateT.run_bind, seen_of_done h]
  rfl

/-- Work that is always done has its result under every deadline. -/
theorem under_prompt (work : StateM σ (Except BackendError α)) :
    ((prompt work).under d).run c = ((work.run c).1.mapError .backend, (work.run c).2) := by
  refine under_of_done ?_
  cases d.at? with
  | none => rfl
  | some t => rfl

/-- What is not done in time is given up. -/
theorem under_of_givenUp (h : d.at?.bind (a.givenUp? · c) = some c') :
    (a.under d).run c = (.error .timeout, c') := by
  rw [under, StateT.run_bind, seen_of_givenUp h]
  rfl

/-- Running an action under a deadline has a result, whatever the time: without a deadline no action
is never done. -/
theorem run_seen (now : Time) :
    (d.run now ((a.seen d).run c).1).map (·.1) = some ((a.under d).run c).1 := by
  cases h : d.at?.bind (a.givenUp? · c) with
  | none =>
    rw [seen_of_done h, under_of_done h]
    rfl
  | some c' =>
    obtain ⟨t, ht, -⟩ := Option.bind_eq_some_iff.mp h
    rw [seen_of_givenUp h, under_of_givenUp h, Deadline.run, ht]
    rfl

end Action

/-- A database engine with connections of type `σ`. -/
structure Engine (σ : Type) where
  execute : Statement → Action σ Nat
  fetch : Statement → Action σ (List Record)
  begin : Action σ Unit
  commit : Action σ Unit
  rollback : Action σ Unit
  control : Control → Action σ Unit
  ping : Action σ Unit

/-- A pool with its observer. There is no connection in a pool that was never opened or is
closed. -/
structure Pooled (σ : Type) where
  connection : Option σ
  observer : Observer
  /-- The notices so far, newest first. -/
  notices : List Notice

namespace Pooled

variable {σ α : Type}

/-- Report a notice. -/
def notice (n : Notice) (p : Pooled σ) : Pooled σ := { p with notices := n :: p.notices }

end Pooled

/-- Work on a pool. -/
abbrev Work (σ : Type) := StateM (Pooled σ)

namespace Work

variable {σ α : Type}

/-- Run work on the connection, if there is one. -/
def onConnection (work : StateM σ (Except Error α)) : Work σ (Except Error α) := do
  let p ← get
  match p.connection with
  | none => return .error (.backend .poolClosed)
  | some c =>
    let (r, c) := work.run c
    set { p with connection := some c }
    return r

/-- Start observing a statement. -/
def before (s : Statement) : Work σ (Option Guard) := do
  let p ← get
  let (guard, observer) := p.observer.before s
  set { p with observer }
  return guard

/-- Finish observing a statement. -/
def after (s : Statement) (guard : Option Guard) (r : Except Error α) : Work σ Unit :=
  modify fun p =>
    let failure := match r with
      | .ok _ => none
      | .error e => some e
    { p with observer := p.observer.after s guard failure }

/-- Run work on a statement and observe it. -/
def observed (s : Statement) (work : Work σ (Except Error α)) : Work σ (Except Error α) := do
  let guard ← before s
  let r ← work
  after s guard r
  return r

end Work

namespace Engine

variable {σ : Type}

/-- An action on the connection of a pool under a deadline. -/
def within {α : Type} (d : Deadline) (a : Action σ α) : Work σ (Except Error α) :=
  Work.onConnection (a.under d)

/-- The statements of an engine, observed. -/
def session (e : Engine σ) (driver : Driver) (d : Deadline) : Session (Work σ) where
  driver := driver
  execute s := Work.observed s (within d (e.execute s))
  fetch s := Work.observed s (within d (e.fetch s))

/-- An engine as an executor. -/
def executor (e : Engine σ) (driver : Driver) (d : Deadline) : Executor (Work σ) where
  session := e.session driver d
  begin := within d e.begin
  commit := within d e.commit
  rollback := within d e.rollback
  abandon := do
    let _ ← within .unbounded e.rollback
    return ()
  control c := within d (e.control c)
  warn n := modify (Pooled.notice n)
  now := return (← get).observer.now

/-- Ask a connection whether it is there. -/
def pinged (e : Engine σ) (d : Deadline) : Work σ (Except Error Unit) := within d e.ping

end Engine

end DataAccess.Access
