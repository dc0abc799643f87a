import DataAccess.Proofs.Migration.History

/-!
# A small database with a history

A `Ledger` is just enough of a database to run migrations on. It has the table of the history, and
of all other scripts it remembers that they ran; none of them runs twice. Two scripts stand for what
scripts may do besides: one writes the history itself, and one breaks a constraint that is checked
when the transaction is committed, which then fails.

Ledgers keep the history as `KeepsHistory` says, so that what is proved of all stores can be looked
at on them.
-/

namespace DataAccess.Access.Migrator

open Sql

/-! ## Rows in order -/

/-- Put a row where its version belongs. -/
def insertRow (r : Row) : List Row → List Row
  | [] => [r]
  | x :: rest => if r.version < x.version then r :: x :: rest else x :: insertRow r rest

theorem insertRow_perm (r : Row) (rows : List Row) : (insertRow r rows).Perm (r :: rows) := by
  induction rows with
  | nil => exact .rfl
  | cons x rest ih =>
    unfold insertRow
    split
    · exact .rfl
    · exact (ih.cons x).trans (.swap r x rest)

theorem insertRow_sorted {r : Row} {rows : List Row}
    (hrows : rows.Pairwise (·.version < ·.version)) (hr : ∀ x ∈ rows, x.version ≠ r.version) :
    (insertRow r rows).Pairwise (·.version < ·.version) := by
  induction rows with
  | nil => exact List.pairwise_singleton _ r
  | cons x rest ih =>
    obtain ⟨hx, hrest⟩ := List.pairwise_cons.mp hrows
    unfold insertRow
    by_cases hlt : r.version < x.version
    · rw [if_pos hlt]
      refine List.pairwise_cons.mpr ⟨fun y hy => ?_, hrows⟩
      rcases List.mem_cons.mp hy with rfl | hy
      · exact hlt
      · exact Int64.lt_trans hlt (hx y hy)
    · rw [if_neg hlt]
      -- Versions are distinct, so a row that is not before is after.
      have hxr : x.version < r.version := by
        have hne : x.version.toInt ≠ r.version.toInt :=
          fun heq => hr x List.mem_cons_self (Int64.toInt_inj.mp heq)
        rw [Int64.lt_iff_toInt_lt] at hlt ⊢
        omega
      refine List.pairwise_cons.mpr ⟨fun y hy => ?_, ih hrest fun y hy => hr y (.tail x hy)⟩
      rcases List.mem_cons.mp ((insertRow_perm r rest).mem_iff.mp hy) with rfl | hy
      · exact hxr
      · exact hx y hy

/-! ## Ledgers -/

/-- The rows of a history in the order of their versions. -/
abbrev Rows := { rows : List Row // rows.Pairwise (·.version < ·.version) }

/-- A history, if its table is there, and the scripts that have run. -/
structure Ledger where
  history : Option Rows
  ran : List String

namespace Ledger

/-- A database with nothing in it. -/
def empty : Ledger := ⟨none, []⟩

/-- A script that creates a table. -/
def createNotes : String := "CREATE TABLE notes (id INTEGER PRIMARY KEY)"

/-- A script that drops it. -/
def dropNotes : String := "DROP TABLE notes"

/-- A row for a migration that nobody knows of. -/
def strayRow : Row := ⟨2, "other", "", "2024-01-01T00:00:00+00:00", 0⟩

/-- A script that writes a row to the history itself. -/
def stray : String :=
  "INSERT INTO _conduit_migrations VALUES (2, 'other', '', '2024-01-01T00:00:00+00:00', 0)"

/-- A script that breaks a constraint which is checked at the end of the transaction. -/
def orphan : String := "INSERT INTO child (parent) VALUES (1)"

/-! ## Statements -/

/-- The refusal while the table of the history is not there. -/
def noTable : BackendError := .database 1 "no such table: _conduit_migrations"

/-- Create the table of the history unless it is there. -/
def touch (d : Ledger) : Ledger := { d with history := some (d.history.getD ⟨[], .nil⟩) }

/-- Record a row. -/
def record (r : Row) (d : Ledger) : Except BackendError Nat × Unit × Ledger :=
  match d.history with
  | none => (.error noTable, (), d)
  | some rows =>
    if h : ∀ x ∈ rows.val, x.version ≠ r.version then
      (.ok 1, (), { d with
        history := some ⟨insertRow r rows.val, insertRow_sorted rows.property h⟩ })
    else (.error (.database 1555 "UNIQUE constraint failed: _conduit_migrations.version"), (), d)

/-- Forget a version. -/
def forget (version : Int64) (d : Ledger) : Except BackendError Nat × Unit × Ledger :=
  match d.history with
  | none => (.error noTable, (), d)
  | some rows =>
    (.ok 1, (), { d with
      history := some ⟨rows.val.filter (·.version != version), rows.property.filter _⟩ })

/-- Run a script, or create the table of the history. -/
def runScript (sql : String) (d : Ledger) : Except BackendError Nat × Unit × Ledger :=
  if sql = historySchema.createSql .sqlite then (.ok 0, (), d.touch)
  else if sql = stray then record strayRow d
  else if sql ∈ d.ran then (.error (.database 1 "already there"), (), d)
  else (.ok 0, (), { d with ran := sql :: d.ran })

/-- The history of a ledger. -/
def view : HistoryView Ledger where
  rows d := d.history.elim [] Subtype.val
  touch := touch

/-- Run a query on the history. -/
def query (q : Statement) (d : Ledger) : Except BackendError (List Record) × Unit × Ledger :=
  if d.history.isNone then (.error noTable, (), d)
  else if q.sql = latestSql .sqlite then (.ok [latestRecord (view.latest d)], (), d)
  else (.ok ((view.rows d).map Row.record), (), d)

/-- The statements of the migrator on a ledger. They are told apart by their arguments. -/
def statements : Meaning BackendError Unit Ledger where
  execute q := fun (_, d) =>
    match q.args with
    | [.int version, .text name, .text checksum, .text appliedAt, .int millis] =>
      d.record ⟨version, name, checksum, appliedAt, millis⟩
    | [.int version] => d.forget version
    | _ => runScript q.sql d
  fetch q := fun (_, d) => query q d
  begin _ := (.ok (), ())
  commit _ now :=
    if orphan ∈ now.2.ran then (.error (.database 787 "FOREIGN KEY constraint failed"), ())
    else (.ok (), ())
  control _ _ := (.ok (), ())

/-- The statements as they are answered. -/
def store : Store Unit Ledger := statements.store

theorem refines (dl : Deadline) : statements.engine.Refines dl store .all id :=
  statements.engine_refines dl

/-! ## The laws -/

theorem execute_script (sql : String) (d : Ledger) :
    store.execute (script sql) ((), d) = Meaning.reported (runScript sql d) := rfl

theorem execute_init (d : Ledger) :
    store.execute (initStatement .sqlite) ((), d) = (.ok 0, (), d.touch) := by
  rw [initStatement, ← script, execute_script, runScript, if_pos rfl]
  rfl

theorem view_sorted (d : Ledger) : (view.rows d).Pairwise (·.version < ·.version) := by
  rcases d with ⟨_ | rows, ran⟩
  · exact .nil
  · exact rows.property

theorem record_rows {d d' : Ledger} {r : Row} {n : Nat} (h : d.record r = (.ok n, (), d')) :
    (view.rows d').Perm (r :: view.rows d) := by
  rcases d with ⟨_ | rows, ran⟩
  · cases h
  · by_cases hv : ∀ x ∈ rows.val, x.version ≠ r.version
    · simp only [record, dif_pos hv] at h
      cases h
      exact insertRow_perm r rows.val
    · simp only [record, dif_neg hv] at h
      cases h

theorem forget_rows {d d' : Ledger} {version : Int64} {n : Nat}
    (h : d.forget version = (.ok n, (), d')) :
    view.rows d' = (view.rows d).filter (·.version != version) := by
  rcases d with ⟨_ | rows, ran⟩
  · cases h
  · cases h
    rfl

theorem query_latest {d d' : Ledger} {rs : List Record}
    (h : query (latestStatement .sqlite) d = (.ok rs, (), d')) :
    d' = d ∧ rs = [latestRecord (view.latest d)] := by
  unfold query at h
  by_cases hd : d.history.isNone
  · rw [if_pos hd] at h
    cases h
  · have hsql : (latestStatement .sqlite).sql = latestSql .sqlite := rfl
    rw [if_neg hd, if_pos hsql] at h
    cases h
    exact ⟨rfl, rfl⟩

theorem historySql_ne_latestSql : (historyStatement .sqlite).sql ≠ latestSql .sqlite := by
  decide +kernel

theorem query_history {d d' : Ledger} {rs : List Record}
    (h : query (historyStatement .sqlite) d = (.ok rs, (), d')) :
    d' = d ∧ rs = (view.rows d).map Row.record := by
  unfold query at h
  by_cases hd : d.history.isNone
  · rw [if_pos hd] at h
    cases h
  · rw [if_neg hd, if_neg historySql_ne_latestSql] at h
    cases h
    exact ⟨rfl, rfl⟩

theorem keepsHistory : KeepsHistory store .sqlite view where
  sorted := view_sorted
  rows_touch d := by
    rcases d with ⟨_ | rows, ran⟩
    · rfl
    · rfl
  touch_touch d := rfl
  init h := by
    rw [execute_init] at h
    cases h
    rfl
  latest h := query_latest (Meaning.reported_eq_ok.mp h)
  history h := query_history (Meaning.reported_eq_ok.mp h)
  record h := record_rows (Meaning.reported_eq_ok.mp h)
  forget h := forget_rows (Meaning.reported_eq_ok.mp h)

theorem readsHistory : ReadsHistory store .sqlite view where
  init _ d := ⟨0, ((), d.touch), execute_init d⟩
  history _ d := ⟨(view.rows d.touch).map Row.record, ((), d.touch), by
    refine Meaning.reported_eq_ok.mpr ?_
    show query (historyStatement .sqlite) d.touch = _
    unfold query
    rw [if_neg (by simp [touch]), if_neg historySql_ne_latestSql]⟩

/-- A script other than the one that does so leaves the history alone. -/
theorem leavesHistory {sql : String} (hinit : sql ≠ historySchema.createSql .sqlite)
    (hstray : sql ≠ stray) : LeavesHistory store view sql := by
  rintro ⟨-, d⟩
  rw [execute_script, runScript, if_neg hinit, if_neg hstray]
  split
  · rfl
  · rfl

theorem createNotes_leavesHistory : LeavesHistory store view createNotes :=
  leavesHistory (by decide +kernel) (by decide +kernel)

/-! ## Ledgers in use -/

/-- The executor of a ledger. -/
def executor : Executor (Work (Unit × Phase Ledger)) :=
  statements.engine.executor .sqlite .unbounded

/-- A pool on an empty ledger. -/
def pool : Pooled (Unit × Phase Ledger) :=
  ⟨some ((), .idle empty), .ofPlugin ⟨.standard, false⟩, []⟩

/-- The versions that are recorded for good. -/
def versions (p : Pooled (Unit × Phase Ledger)) : Option (List Int64) :=
  p.connection.map fun c => (view.rows c.2.base).map (·.version)

theorem coversMigrations (ms : List Migration) :
    CoversMigrations .all .sqlite ms where
  init := trivial
  latest := trivial
  history := trivial
  record _ := trivial
  forget _ := trivial
  up _ _ := trivial
  down _ _ _ _ := trivial

end Ledger

end DataAccess.Access.Migrator
