import DataAccess.Access.Manager
import DataAccess.Proofs.Concurrent.Program

/-!
# Calls of a manager

The calls that tasks make of a manager that they share, each as a program: in one piece a call looks
for the handle, takes it, or enters the first start, and after that its work on the pool goes
statement by statement. By itself the program of a call does what the manager does
(`Call.run_program`).

There are two places where calls meet, apart from the pool. The handle is looked at and taken in one
piece. The first start is entered by one task; who comes while it is under way waits for its
outcome.
-/

namespace DataAccess.Access

open Sql

variable {ι σ α π ε : Type}

/-! ## What is shared -/

/-- A manager that tasks share, with a record of what they did to it. -/
structure Shared (ι σ : Type) where
  manager : Manager σ
  /-- The task that entered the first start. -/
  starter : Option ι
  /-- The task that took the handle. -/
  closer : Option ι
  /-- How often a first start was entered. -/
  probes : Nat
  /-- How often the pool was closed. -/
  closes : Nat

namespace Shared

/-- Work on the manager, of which there is no record. -/
def onManager (work : Managed σ α) : StateM (Shared ι σ) α := fun s =>
  let (a, manager) := work.run s.manager
  (a, { s with manager })

/-- The same manager with another pool. -/
def withPool (s : Shared ι σ) (pool : Pooled σ) : Shared ι σ :=
  { s with manager := { s.manager with pool } }

/-- Take the handle. -/
def take (i : ι) : StateM (Shared ι σ) Bool := fun s =>
  let (held, manager) := Manager.take.run s.manager
  (held, { s with manager, closer := if held then some i else s.closer })

/-- Close the pool. -/
def closePool : StateM (Shared ι σ) Unit := fun s =>
  let ((), manager) := (Manager.onPool Manager.closePool).run s.manager
  ((), { s with manager, closes := s.closes + 1 })

/-- Whether it is known how the first start ends, or nobody is in it. -/
def canEnter (s : Shared ι σ) : Bool := s.manager.started.isSome || s.starter.isNone

/-- Enter the first start, unless there was one. -/
def enter (i : ι) (s : Shared ι σ) : Shared ι σ :=
  if s.manager.started.isSome then s else { s with starter := some i, probes := s.probes + 1 }

/-- Record the outcome of the first start. -/
def record (outcome : Except String Unit) : Managed σ Unit :=
  modify fun m => { m with started := some outcome }

end Shared

/-- A program on the pool as a program on a manager that is shared. -/
def Program.onPool : Program (Pooled σ) α → Program (Shared ι σ) α
  | .done a => .done a
  | .next ready piece rest =>
    .next (fun s => ready s.manager.pool) (fun s => s.withPool (piece s.manager.pool))
      fun s => (rest s.manager.pool).onPool

/-! ## Calls -/

/-- A call that needs the database. -/
inductive Request (σ : Type) : Type → Type 1 where
  | health : Request σ (Except Error Unit)
  | ping : Request σ (Except Error Unit)
  | begin : Request σ (Except Error (Transaction (Work σ)))
  | transaction {π ε α : Type} (ofError : Error → ε)
    (body : Transaction (Program (Pooled σ)) → Program (Pooled σ) (Exit π ε α)) :
    Request σ (Exit π ε α)
  | nestedTransaction {π ε α : Type} (ofError : Error → ε)
    (body : Transaction (Program (Pooled σ)) → Program (Pooled σ) (Exit π ε α)) :
    Request σ (Exit π ε α)
  | exec (sql : String) (args : List Value) : Request σ (Except Error Nat)
  | raw (sql : String) (args : List Value) : Request σ (Except Error (List Record))
  | migrator : Request σ (Except Error (Executor (Work σ)))
  | autoMigrate (schemas : List Schema) : Request σ (Except Error Unit)

/-- A call that looks at the manager. -/
inductive Lookup (σ : Type) : Type → Type 1 where
  | table (name : String) : Lookup σ (Option Query)
  | model (schema : Schema) : Lookup σ (Option Query)
  | db : Lookup σ (Option (Executor (Work σ)))
  | withContext (d : Deadline) : Lookup σ (Option (Executor (Work σ)))
  | stats : Lookup σ PoolStats

/-- A call of a manager. -/
inductive Call (σ : Type) : Type → Type 1 where
  | onStart : Call σ (Except Error Unit)
  | request {α : Type} (r : Request σ α) : Call σ α
  | lookup {α : Type} (l : Lookup σ α) : Call σ α
  | close : Call σ (Except Error Unit)
  | onStop : Call σ (Except Error Unit)

/-- A transaction whose statements are pieces of a program. -/
def Transaction.lift {m n : Type → Type} [MonadLiftT m n] (t : Transaction m) : Transaction n :=
  ⟨t.executor.lift, t.depth⟩

namespace Request

/-- The answer of a request that is refused. -/
def refusal : Request σ α → Error → α
  | health | ping | begin | exec .. | raw .. | migrator | autoMigrate .. => .error
  | transaction ofError _ | nestedTransaction ofError _ => fun cause => .error (ofError cause)

/-- What a request does with an executor. -/
def work (e : Engine σ) (x : Executor (Work σ)) : Request σ α → Program (Pooled σ) α
  | health => do e.pinged (.after (← x.now) Manager.healthLimit)
  | ping => liftM (e.pinged .unbounded)
  | begin => liftM x.openTransaction
  | transaction ofError body => x.lift.transaction ofError body
  | nestedTransaction ofError body => x.lift.nestedTransaction ofError body
  | exec sql args => liftM (x.session.exec sql args)
  | raw sql args => liftM (x.session.raw sql args)
  | migrator => return .ok x
  | autoMigrate schemas => Migrator.autoMigrate x.lift schemas

/-- What is left of a request when it has found a manager as it is. -/
def found (e : Engine σ) (r : Request σ α) (m : Manager σ) : Program (Shared ι σ) α :=
  match m.check with
  | .error cause => .done (r.refusal cause)
  | .ok () => (r.work e (m.executor e .unbounded)).onPool

/-- A request looks for the handle first. -/
def program (e : Engine σ) (r : Request σ α) : Program (Shared ι σ) α :=
  .next (fun _ => true) id fun s => r.found e s.manager

/-- What a manager does for a request. -/
def meaning (e : Engine σ) : Request σ α → Managed σ α
  | health => Manager.health e
  | ping => Manager.ping e
  | begin => Manager.begin e
  | transaction ofError body => Manager.transaction e ofError fun t => (body t.lift).run
  | nestedTransaction ofError body => Manager.nestedTransaction e ofError fun t => (body t.lift).run
  | exec sql args => Manager.exec e sql args
  | raw sql args => Manager.raw e sql args
  | migrator => Manager.migrator e
  | autoMigrate schemas => Manager.autoMigrate e schemas

end Request

namespace Lookup

/-- What a look at a manager sees. -/
def answer (e : Engine σ) (m : Manager σ) : Lookup σ α → α
  | table name => m.table? name
  | model schema => m.model? schema
  | db => m.database? e
  | withContext d => m.withDeadline? e d
  | stats => m.stats

/-- What a look sees where there is no handle. -/
def absent : Lookup σ α → α
  | table _ | model _ => none
  | db | withContext _ => none
  | stats => .zero

end Lookup

namespace Call

/-- Take the handle and close the pool. -/
def closing (i : ι) : Program (Shared ι σ) (Except Error Unit) := do
  if ← Program.atomic (Shared.take i) then Program.atomic Shared.closePool
  return .ok ()

/-- The first start. -/
def firstStart (e : Engine σ) : Program (Shared ι σ) (Except String Unit) := do
  match ← Request.health.program e with
  | .ok () => return .ok ()
  | .error cause =>
    let name ← Program.atomic (Shared.onManager do return (← get).name)
    let notice : Work σ Unit := modify (Pooled.notice (.startFailed name cause))
    Program.atomic (Shared.onManager (Manager.onPool notice))
    return .error cause.message

/-- The first start, of which the outcome is recorded. -/
def recordedStart (e : Engine σ) : Program (Shared ι σ) (Except Error Unit) := do
  let outcome ← firstStart e
  Program.atomic (Shared.onManager (Shared.record outcome))
  return outcome.mapError .start

/-- What is left of a start for which there is an outcome already, or not. -/
def entered (e : Engine σ) : Option (Except String Unit) →
    Program (Shared ι σ) (Except Error Unit)
  | some outcome => .done (outcome.mapError .start)
  | none => recordedStart e

/-- Start, unless there is an outcome already. -/
def entering (e : Engine σ) (i : ι) : Program (Shared ι σ) (Except Error Unit) :=
  .next Shared.canEnter (Shared.enter i) fun s => entered e s.manager.started

/-- Start; without a database that is refused at once. -/
def starting (e : Engine σ) (i : ι) : Program (Shared ι σ) (Except Error Unit) :=
  .next (fun _ => true) id fun s =>
    if s.manager.driver = .none then .done (.error .unavailable) else entering e i

/-- The program of a call of task `i`. -/
def program (e : Engine σ) (i : ι) : Call σ α → Program (Shared ι σ) α
  | onStart => starting e i
  | request r => r.program e
  | lookup l => Program.atomic fun s => (l.answer e s.manager, s)
  | close | onStop => closing i

/-- What a manager does for a call. -/
def meaning (e : Engine σ) : Call σ α → Managed σ α
  | onStart => Manager.onStart e
  | request r => r.meaning e
  | lookup l => fun m => (l.answer e m, m)
  | close => Manager.close
  | onStop => Manager.onStop

end Call

/-! ## A call by itself

What is written for any monad does the same in pieces. -/

section Pieces

open Program

variable (x : Executor (Work σ))

/-- The executor whose statements are pieces of a program. -/
abbrev Executor.pieces : Executor (Program (Pooled σ)) := x.lift

theorem run_commitOrAbandon : x.pieces.commitOrAbandon.run = x.commitOrAbandon := by
  unfold Executor.commitOrAbandon
  rw [run_bind]
  refine bind_congr fun r => ?_
  cases r with
  | ok _ => rfl
  | error cause => rfl

theorem run_rollbackOrAbandon : x.pieces.rollbackOrAbandon.run = x.rollbackOrAbandon := by
  unfold Executor.rollbackOrAbandon
  rw [run_bind]
  refine bind_congr fun r => ?_
  cases r with
  | ok _ => rfl
  | error cause => rfl

theorem run_undo (notice : Error → Notice) : (x.pieces.undo notice).run = x.undo notice := by
  unfold Executor.undo
  rw [run_bind, run_rollbackOrAbandon]
  refine bind_congr fun r => ?_
  cases r with
  | ok _ => rfl
  | error cause => rfl

theorem run_settle (ofError : Error → ε) (exit : Exit π ε α) :
    (x.pieces.settle ofError exit).run = x.settle ofError exit := by
  cases exit with
  | value a =>
    simp only [Executor.settle, run_bind, run_commitOrAbandon]
    refine bind_congr fun r => ?_
    cases r with
    | ok _ => rfl
    | error cause => rfl
  | error cause => simp only [Executor.settle, run_bind, run_undo, run_pure]
  | panic payload => simp only [Executor.settle, run_bind, run_undo, run_pure]

theorem run_transaction (ofError : Error → ε)
    (body : Transaction (Program (Pooled σ)) → Program (Pooled σ) (Exit π ε α)) :
    (x.pieces.transaction ofError body).run = x.transaction ofError fun t => (body t.lift).run := by
  simp only [Executor.transaction, Executor.openTransaction, run_bind, bind_assoc]
  refine bind_congr fun r => ?_
  cases r with
  | ok _ =>
    simp only [Except.map, run_pure, pure_bind, run_bind, run_settle]
    rfl
  | error cause => rfl

theorem run_rollbackTo (t : Transaction (Work σ)) (name : String) :
    ((t.lift : Transaction (Program (Pooled σ))).rollbackTo name).run = t.rollbackTo name := by
  unfold Transaction.rollbackTo
  rw [run_bind]
  refine bind_congr fun r => ?_
  cases r with
  | ok _ => rfl
  | error cause => rfl

theorem run_finish (t : Transaction (Work σ)) (ofError : Error → ε) (name : String)
    (exit : Exit π ε α) :
    ((t.lift : Transaction (Program (Pooled σ))).finish ofError name exit).run =
      t.finish ofError name exit := by
  cases exit with
  | value a =>
    simp only [Transaction.finish, run_bind]
    refine bind_congr fun r => ?_
    cases r with
    | ok _ => rfl
    | error cause => rfl
  | error cause => simp only [Transaction.finish, run_bind, run_rollbackTo, run_pure]
  | panic payload => simp only [Transaction.finish, run_bind, run_rollbackTo, run_pure]

theorem run_savepoint (t : Transaction (Work σ)) (ofError : Error → ε)
    (body : Transaction (Program (Pooled σ)) → Program (Pooled σ) (Exit π ε α)) :
    ((t.lift : Transaction (Program (Pooled σ))).savepoint ofError body).run =
      t.savepoint ofError fun t' => (body t'.lift).run := by
  simp only [Transaction.savepoint, run_bind]
  refine bind_congr fun r => ?_
  cases r with
  | ok _ =>
    have hfinish := run_finish (π := π) (α := α) t ofError t.savepointName
    simp only [run_bind, ← hfinish]
    rfl
  | error cause => rfl

theorem run_nestedTransaction (ofError : Error → ε)
    (body : Transaction (Program (Pooled σ)) → Program (Pooled σ) (Exit π ε α)) :
    (x.pieces.nestedTransaction ofError body).run =
      x.nestedTransaction ofError fun t => (body t.lift).run := by
  unfold Executor.nestedTransaction
  rw [run_transaction]
  simp only [run_savepoint]

/-! ### Schema changes -/

theorem run_count (sql : String) (args : List Value) :
    (Migrator.count x.pieces sql args).run = Migrator.count x sql args := by
  unfold Migrator.count
  rw [run_bind]
  refine bind_congr fun r => ?_
  split <;> rfl

theorem run_addMissing (table : String) (cs : List Column) :
    (Migrator.addMissing x.pieces table cs).run = Migrator.addMissing x table cs := by
  have hcolumn : ∀ c, (Migrator.hasColumn x.pieces table c).run = Migrator.hasColumn x table c := by
    intro c
    unfold Migrator.hasColumn
    rw [run_bind, run_count]
    rfl
  induction cs with
  | nil => rfl
  | cons c rest ih =>
    unfold Migrator.addMissing
    split
    · exact ih
    · rw [run_bind, hcolumn]
      refine bind_congr fun found => ?_
      match found with
      | .error cause => rfl
      | .ok true => exact ih
      | .ok false =>
        refine (run_bind ..).trans (bind_congr fun added => ?_)
        match added with
        | .error cause => rfl
        | .ok () => exact ih

theorem run_bringUp (schema : Schema) :
    (Migrator.bringUp x.pieces schema).run = Migrator.bringUp x schema := by
  have htable : (Migrator.hasTable x.pieces schema.name).run =
      Migrator.hasTable x schema.name := by
    unfold Migrator.hasTable
    rw [run_bind, run_count]
    rfl
  unfold Migrator.bringUp
  rw [run_bind, htable]
  refine bind_congr fun found => ?_
  match found with
  | .error cause => rfl
  | .ok true => exact run_addMissing x schema.name schema.columns
  | .ok false => rfl

theorem run_autoMigrate (schemas : List Schema) :
    (Migrator.autoMigrate x.pieces schemas).run = Migrator.autoMigrate x schemas := by
  induction schemas with
  | nil => rfl
  | cons schema rest ih =>
    unfold Migrator.autoMigrate
    rw [run_bind, run_bringUp]
    refine bind_congr fun r => ?_
    match r with
    | .error cause => rfl
    | .ok () => exact ih

end Pieces

/-! ### Calls -/

theorem onManager_bind {β : Type} (work : Managed σ α) (f : α → Managed σ β) :
    (Shared.onManager (work >>= f) : StateM (Shared ι σ) β) =
      Shared.onManager work >>= fun a => Shared.onManager (f a) := rfl

theorem run_onPool (p : Program (Pooled σ) α) :
    (p.onPool : Program (Shared ι σ) α).run = Shared.onManager (Manager.onPool p.run) := by
  induction p with
  | done a => rfl
  | next ready piece rest ih =>
    funext s
    exact congrFun (ih s.manager.pool) (s.withPool (piece s.manager.pool))

/-- A request is work with the executor of the manager, refused where there is none. -/
theorem Request.meaning_eq (e : Engine σ) (r : Request σ α) :
    r.meaning e = Manager.withExecutor e r.refusal fun x => (r.work e x).run := by
  cases r with
  | health => simp only [work, Program.run_bind]; rfl
  | ping => rfl
  | begin => rfl
  | transaction ofError body => simp only [work, run_transaction]; rfl
  | nestedTransaction ofError body => simp only [work, run_nestedTransaction]; rfl
  | exec sql args => rfl
  | raw sql args => rfl
  | migrator => rfl
  | autoMigrate schemas => simp only [work, run_autoMigrate]; rfl

theorem Request.run_program (e : Engine σ) (r : Request σ α) :
    (r.program e : Program (Shared ι σ) α).run = Shared.onManager (r.meaning e) := by
  rw [meaning_eq]
  funext s
  have hprogram : (r.program e).run s =
      (r.found e s.manager : Program (Shared ι σ) α).run s := rfl
  have hmeaning : Shared.onManager (Manager.withExecutor e r.refusal fun x => (r.work e x).run) s =
      Shared.onManager (match s.manager.check with
        | .error cause => pure (r.refusal cause)
        | .ok () => Manager.onPool (r.work e (s.manager.executor e .unbounded)).run) s := rfl
  rw [hprogram, hmeaning, found]
  cases s.manager.check with
  | error cause => rfl
  | ok _ => exact congrFun (run_onPool _) s

theorem Call.run_firstStart (e : Engine σ) :
    (firstStart e : Program (Shared ι σ) _).run = Shared.onManager (Manager.firstStart e) := by
  unfold firstStart Manager.firstStart
  rw [Program.run_bind, Request.run_program, onManager_bind (Manager.health e)]
  refine bind_congr fun r => ?_
  cases r with
  | ok _ => rfl
  | error cause => rfl

theorem Call.run_recordedStart (e : Engine σ) :
    (recordedStart e : Program (Shared ι σ) _).run = Shared.onManager do
      let outcome ← Manager.firstStart e
      Shared.record outcome
      return outcome.mapError .start := by
  unfold recordedStart
  rw [Program.run_bind, run_firstStart]
  rfl

theorem Call.run_starting (e : Engine σ) (i : ι) (s : Shared ι σ) :
    (((starting e i).run s).1, ((starting e i).run s).2.manager) =
      (Manager.onStart e).run s.manager := by
  rcases s with ⟨⟨name, driver, held, maxOpen, started, pool⟩, starter, closer, probes, closes⟩
  cases started with
  | some outcome => cases driver <;> rfl
  | none =>
    have hrecorded := congrFun (run_recordedStart (ι := ι) e)
      ⟨⟨name, driver, held, maxOpen, none, pool⟩, some i, closer, probes + 1, closes⟩
    cases driver with
    | none => rfl
    | _ => exact congrArg (fun p => (p.1, p.2.manager)) hrecorded

/-- By itself the program of a call does what the manager does. -/
theorem Call.run_program (e : Engine σ) (i : ι) (call : Call σ α) (s : Shared ι σ) :
    (((call.program e i).run s).1, ((call.program e i).run s).2.manager) =
      (call.meaning e).run s.manager := by
  have hclosing : (((closing i).run s).1, ((closing i).run s).2.manager) =
      (Manager.close : Managed σ _).run s.manager := by
    rcases s with ⟨⟨name, driver, held, maxOpen, started, pool⟩, starter, closer, probes, closes⟩
    cases held <;> rfl
  cases call with
  | onStart => exact run_starting e i s
  | request r => exact congrArg (fun p => (p.1, p.2.manager)) (congrFun (r.run_program e) s)
  | lookup l => rfl
  | close => exact hclosing
  | onStop => exact hclosing

end DataAccess.Access
