import DataAccess.Access.Engine

/-!
# Stores: what an engine does to its data

The library runs on whatever engine it is given. A `Store` says what the statements of an engine
mean on its data, apart from transactions, and `Engine.Refines` says that an engine keeps
transactions over the data of a store the way databases do: a transaction is undone as a whole or
committed as a whole, a savepoint is a named mark on a stack, releasing pops through the most recent
mark of a name, and rolling back restores that mark and keeps it.

Not everything that statements touch is undone with a transaction (counters of a connection,
sequences, whatever makes a statement fail now and then). A store has a world for it next to the
data.

What an engine keeps, it keeps under a deadline. A store answers what is answered under it, so a
statement that is given up is one that fails with a timeout, and leaves what a failure leaves. An
engine that commits although nobody waits for it any more does not keep its data under such a
deadline.
-/

namespace DataAccess.Access

open Sql

variable {σ ω δ : Type}

/-- The meaning of statements on data of type `δ` in a world of type `ω`. They fail with an `ε`. -/
structure Meaning (ε ω δ : Type) where
  /-- Run a statement that counts rows. A script that fails may have done a part of its work. -/
  execute : Statement → ω × δ → Except ε Nat × ω × δ
  /-- Run a statement that reads rows. -/
  fetch : Statement → ω × δ → Except ε (List Record) × ω × δ
  /-- Whether a transaction begins. -/
  begin : ω → Except ε Unit × ω
  /-- Whether a transaction that began on some data may be committed as it stands. -/
  commit : δ → ω × δ → Except ε Unit × ω
  /-- Whether a control statement on a savepoint that is there goes through. -/
  control : Control → ω → Except ε Unit × ω

/-- The meaning of statements as they are answered: a store. -/
abbrev Store (ω δ : Type) := Meaning Error ω δ

/-- Where a connection stands: outside a transaction, or in one, with the data when it began, the
data now, and the savepoints with the data at each, innermost first. -/
inductive Phase (δ : Type) where
  | idle (data : δ)
  | inside (start now : δ) (marks : List (String × δ))

/-- The data that is left when the open transaction, if any, is undone. -/
def Phase.base : Phase δ → δ
  | idle d => d
  | inside s _ _ => s

/-- The savepoints from the most recent one with a name on. -/
def marksFrom (name : String) (marks : List (String × δ)) : List (String × δ) :=
  marks.dropWhile fun m => m.1 != name

/-- What a control statement makes of the data and the savepoints, if its savepoint is there. -/
def Control.act (now : δ) (marks : List (String × δ)) :
    Control → Option (δ × List (String × δ))
  | .savepoint n => some (now, (n, now) :: marks)
  | .release n =>
    match marksFrom n marks with
    | [] => none
    | _ :: rest => some (now, rest)
  | .rollbackTo n =>
    match marksFrom n marks with
    | [] => none
    | m :: rest => some (m.2, m :: rest)

/-- What there is after an attempt: the new on success, the old on failure. -/
def whenOk {ε α β : Type} (r : Except ε α) (new old : β) : β :=
  match r with
  | .ok _ => new
  | .error _ => old

@[simp] theorem whenOk_ok {ε α β : Type} (a : α) (new old : β) :
    whenOk (.ok a : Except ε α) new old = new := rfl

@[simp] theorem whenOk_error {ε α β : Type} (e : ε) (new old : β) :
    whenOk (.error e : Except ε α) new old = old := rfl

/-- The statements that a store speaks for: in a transaction, and on their own outside of one. -/
structure Coverage where
  inside : Statement → Prop
  alone : Statement → Prop

/-- All statements. -/
def Coverage.all : Coverage := ⟨fun _ => True, fun _ => True⟩

/-- Work on a connection that shows as `v` answers `a` and leaves it showing as `v'`. -/
def Answers {τ α : Type} (view : σ → τ) (v : τ) (work : StateM σ α) (a : α) (v' : τ) : Prop :=
  ∀ c, view c = v → (work.run c).1 = a ∧ view (work.run c).2 = v'

/-- The connections of an engine under a deadline, seen through `view`, keep the data of a store. -/
structure Engine.Refines (e : Engine σ) (dl : Deadline) (S : Store ω δ) (covered : Coverage)
    (view : σ → ω × Phase δ) : Prop where
  execute_inside : ∀ {q w s d ms}, covered.inside q →
    Answers view (w, .inside s d ms) ((e.execute q).under dl) (S.execute q (w, d)).1
      ((S.execute q (w, d)).2.1, .inside s (S.execute q (w, d)).2.2 ms)
  fetch_inside : ∀ {q w s d ms}, covered.inside q →
    Answers view (w, .inside s d ms) ((e.fetch q).under dl) (S.fetch q (w, d)).1
      ((S.fetch q (w, d)).2.1, .inside s (S.fetch q (w, d)).2.2 ms)
  /-- Outside a transaction a statement that fails has no effect. -/
  execute_alone : ∀ {q w d}, covered.alone q →
    Answers view (w, .idle d) ((e.execute q).under dl) (S.execute q (w, d)).1
      ((S.execute q (w, d)).2.1,
        .idle (whenOk (S.execute q (w, d)).1 (S.execute q (w, d)).2.2 d))
  fetch_alone : ∀ {q w d}, covered.alone q →
    Answers view (w, .idle d) ((e.fetch q).under dl) (S.fetch q (w, d)).1
      ((S.fetch q (w, d)).2.1,
        .idle (whenOk (S.fetch q (w, d)).1 (S.fetch q (w, d)).2.2 d))
  begin : ∀ {w d}, Answers view (w, .idle d) (e.begin.under dl) (S.begin w).1
    ((S.begin w).2, whenOk (S.begin w).1 (.inside d d []) (.idle d))
  /-- A commit that goes through keeps everything. One that does not keeps nothing, and may leave
  the transaction open or not. -/
  commit : ∀ {w s d ms c}, view c = (w, .inside s d ms) →
    ((e.commit.under dl).run c).1 = (S.commit s (w, d)).1 ∧
    (view ((e.commit.under dl).run c).2).1 = (S.commit s (w, d)).2 ∧
    whenOk (S.commit s (w, d)).1 ((view ((e.commit.under dl).run c).2).2 = .idle d)
      ((view ((e.commit.under dl).run c).2).2.base = s)
  /-- A rollback that goes through undoes the transaction. One that does not may leave it open or
  not, and keeps nothing either. -/
  rollback : ∀ c, (view ((e.rollback.under dl).run c).2).1 = (view c).1 ∧
    (view ((e.rollback.under dl).run c).2).2.base = (view c).2.base ∧
    (((e.rollback.under dl).run c).1 = .ok () →
      (view ((e.rollback.under dl).run c).2).2 = .idle (view c).2.base)
  /-- Whatever a rollback answers to who waits for it, the transaction is undone. -/
  abandon : ∀ c, view ((e.rollback.under .unbounded).run c).2 = ((view c).1, .idle (view c).2.base)
  control : ∀ {k : Control} {w s d ms d' ms'}, k.act d ms = some (d', ms') →
    Answers view (w, .inside s d ms) ((e.control k).under dl) (S.control k w).1
      ((S.control k w).2, whenOk (S.control k w).1 (.inside s d' ms') (.inside s d ms))

namespace Meaning

/-! ## The plainest engine of a store

Where statements fail only as the backend reports, an engine can do what they mean and never be
late. -/

/-- What the backend reports, as an answer. -/
def reported {α β : Type} (r : Except BackendError α × β) : Except Error α × β :=
  (r.1.mapError .backend, r.2)

theorem reported_eq_ok {α β : Type} {r : Except BackendError α × β} {a : α} {b : β} :
    reported r = (.ok a, b) ↔ r = (.ok a, b) := by
  rcases r with ⟨cause | a', b'⟩
  · constructor
    · intro h
      cases h
    · intro h
      cases h
  · constructor
    · intro h
      cases h
      rfl
    · intro h
      cases h
      rfl

/-- The store of statements that fail as the backend reports. -/
def store (M : Meaning BackendError ω δ) : Store ω δ where
  execute q now := reported (M.execute q now)
  fetch q now := reported (M.fetch q now)
  begin w := reported (M.begin w)
  commit start now := reported (M.commit start now)
  control k w := reported (M.control k w)

/-- Run a statement in whatever phase there is. -/
def statement {α : Type} (run : ω × δ → Except BackendError α × ω × δ) :
    StateM (ω × Phase δ) (Except BackendError α) := fun (w, phase) =>
  match phase with
  | .idle d =>
    let r := run (w, d)
    (r.1, r.2.1, .idle (whenOk r.1 r.2.2 d))
  | .inside s d ms =>
    let r := run (w, d)
    (r.1, r.2.1, .inside s r.2.2 ms)

/-- The refusal of a statement that does not fit the phase. -/
def misplaced : BackendError := .database 1 "no such transaction or savepoint"

/-- The engine whose connections are nothing but the world, the data and the marks. -/
def engine (M : Meaning BackendError ω δ) : Engine (ω × Phase δ) where
  execute q := .prompt (statement (M.execute q))
  fetch q := .prompt (statement (M.fetch q))
  begin := .prompt fun (w, phase) =>
    match phase with
    | .idle d => ((M.begin w).1, (M.begin w).2,
        whenOk (M.begin w).1 (.inside d d []) (.idle d))
    | _ => (.error misplaced, w, phase)
  commit := .prompt fun (w, phase) =>
    match phase with
    | .inside s d ms => ((M.commit s (w, d)).1, (M.commit s (w, d)).2,
        whenOk (M.commit s (w, d)).1 (.idle d) (.inside s d ms))
    | _ => (.error misplaced, w, phase)
  rollback := .prompt fun (w, phase) => (.ok (), w, .idle phase.base)
  control k := .prompt fun (w, phase) =>
    match phase with
    | .inside s d ms =>
      match k.act d ms with
      | some (d', ms') => ((M.control k w).1, (M.control k w).2,
          whenOk (M.control k w).1 (.inside s d' ms') (.inside s d ms))
      | none => (.error misplaced, w, phase)
    | _ => (.error misplaced, w, phase)
  ping := .prompt (return .ok ())

theorem whenOk_mapError {α β : Type} (r : Except BackendError α) (new old : β) :
    whenOk (r.mapError Error.backend) new old = whenOk r new old := by
  cases r with
  | ok _ => rfl
  | error _ => rfl

/-- An action that is never late answers what its work does, whatever the deadline. -/
theorem prompt_answers {τ α : Type} {view : σ → τ} {v v' : τ}
    {work : StateM σ (Except BackendError α)} {r : Except BackendError α} (dl : Deadline)
    (h : Answers view v work r v') :
    Answers view v ((Action.prompt work).under dl) (r.mapError .backend) v' := by
  intro c hc
  obtain ⟨rfl, rfl⟩ := h c hc
  rw [Action.under_prompt]
  exact ⟨rfl, rfl⟩

/-- The plainest engine of a store keeps its data, for every statement and under every deadline. -/
theorem engine_refines (M : Meaning BackendError ω δ) (dl : Deadline) :
    M.engine.Refines dl M.store .all id where
  execute_inside := by
    rintro q w s d ms -
    refine prompt_answers dl ?_
    rintro _ rfl
    exact ⟨rfl, rfl⟩
  fetch_inside := by
    rintro q w s d ms -
    refine prompt_answers dl ?_
    rintro _ rfl
    exact ⟨rfl, rfl⟩
  execute_alone := by
    rintro q w d -
    simp only [store, reported, whenOk_mapError]
    refine prompt_answers dl ?_
    rintro _ rfl
    exact ⟨rfl, rfl⟩
  fetch_alone := by
    rintro q w d -
    simp only [store, reported, whenOk_mapError]
    refine prompt_answers dl ?_
    rintro _ rfl
    exact ⟨rfl, rfl⟩
  begin := by
    intro w d
    simp only [store, reported, whenOk_mapError]
    refine prompt_answers dl ?_
    rintro _ rfl
    exact ⟨rfl, rfl⟩
  commit := by
    rintro w s d ms _ rfl
    simp only [store, reported, whenOk_mapError]
    rw [show M.engine.commit = .prompt _ from rfl, Action.under_prompt]
    refine ⟨rfl, rfl, ?_⟩
    cases h : (M.commit s (w, d)).1 with
    | ok _ => simp [StateT.run, h]
    | error _ => simp [StateT.run, h, Phase.base]
  rollback := by
    rintro ⟨w, phase⟩
    rw [show M.engine.rollback = .prompt _ from rfl, Action.under_prompt]
    exact ⟨rfl, rfl, fun _ => rfl⟩
  abandon := by
    rintro ⟨w, phase⟩
    rw [show M.engine.rollback = .prompt _ from rfl, Action.under_prompt]
    rfl
  control := by
    rintro k w s d ms d' ms' hk
    simp only [store, reported, whenOk_mapError]
    refine prompt_answers dl ?_
    rintro _ rfl
    simp [StateT.run, hk]

end Meaning

end DataAccess.Access
