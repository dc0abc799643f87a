import DataAccess.Proofs.Migration.Remainder

/-!
# Ledgers whose scripts can be undone

A ledger forgets what has been undone: some of its scripts undo others, and a script that has been
undone may run again. Two more scripts do not keep off the history. One takes a row off it; the
other one undoes its like only while nothing has been recorded.

The history and the scripts that ran are apart, as `KeepsRemainder` says.
-/

namespace DataAccess.Access.Migrator

open Sql

namespace Ledger

/-! ## Scripts -/

def createTags : String := "CREATE TABLE tags (id INTEGER PRIMARY KEY)"

def dropTags : String := "DROP TABLE tags"

/-- A script that takes the row off the history that `stray` writes. -/
def unstray : String := "DELETE FROM _conduit_migrations WHERE version = 2"

def fillTags : String := "INSERT INTO tags (id) VALUES (1)"

/-- A script that clears the table unless the history has a row. -/
def clearTags : String :=
  "DELETE FROM tags WHERE NOT EXISTS (SELECT version FROM _conduit_migrations)"

/-- The script that a script undoes, if any. -/
def undoes (sql : String) : Option String :=
  if sql = dropTags then some createTags else if sql = dropNotes then some createNotes else none

/-- Run a script, which may undo another one. -/
def runUndoing (sql : String) (d : Ledger) : Except BackendError Nat × Unit × Ledger :=
  if sql = unstray then d.forget 2
  else if sql = clearTags then
    (.ok 0, (), if (view.rows d).isEmpty then { d with ran := d.ran.erase fillTags } else d)
  else
    match undoes sql with
    | none => runScript sql d
    | some made =>
      if made ∈ d.ran then (.ok 0, (), { d with ran := d.ran.erase made })
      else (.error (.database 1 "no such table"), (), d)

/-- The statements of the migrator on a ledger whose scripts can be undone. -/
def undoable : Meaning BackendError Unit Ledger :=
  { statements with
    execute := fun q (w, d) =>
      match q.args with
      | [] => runUndoing q.sql d
      | _ => statements.execute q (w, d) }

/-- These statements as they are answered. -/
def undoing : Store Unit Ledger := undoable.store

theorem undoing_refines (dl : Deadline) : undoable.engine.Refines dl undoing .all id :=
  undoable.engine_refines dl

/-- The scripts that ran and have not been undone. -/
def remainder : Remainder Ledger (List String) where
  rest := ran
  act sql ran :=
    match undoes sql with
    | none => if sql ∈ ran then none else some (sql :: ran)
    | some made => if made ∈ ran then some (ran.erase made) else none
  Fit ran := orphan ∉ ran

/-- A script that keeps off the history. -/
abbrev KeepsOff (sql : String) : Prop :=
  sql ∉ [historySchema.createSql .sqlite, stray, unstray, clearTags]

/-! ## The laws -/

theorem execute_undoing (sql : String) (d : Ledger) :
    undoing.execute (script sql) ((), d) = Meaning.reported (runUndoing sql d) := rfl

theorem undoing_init (d : Ledger) :
    undoing.execute (initStatement .sqlite) ((), d) = (.ok 0, (), d.touch) := by
  have hunstray : historySchema.createSql .sqlite ≠ unstray := by decide +kernel
  have hclear : historySchema.createSql .sqlite ≠ clearTags := by decide +kernel
  have hundoes : undoes (historySchema.createSql .sqlite) = none := by decide +kernel
  rw [initStatement, ← script, execute_undoing, runUndoing, if_neg hunstray, if_neg hclear, hundoes]
  dsimp only
  rw [runScript, if_pos rfl]
  rfl

theorem undoing_keepsHistory : KeepsHistory undoing .sqlite view where
  sorted := keepsHistory.sorted
  rows_touch := keepsHistory.rows_touch
  touch_touch := keepsHistory.touch_touch
  init h := by
    rw [undoing_init] at h
    cases h
    rfl
  latest h := query_latest (Meaning.reported_eq_ok.mp h)
  history h := query_history (Meaning.reported_eq_ok.mp h)
  record h := record_rows (Meaning.reported_eq_ok.mp h)
  forget h := forget_rows (Meaning.reported_eq_ok.mp h)

theorem undoing_answersHistory : AnswersHistory undoing .sqlite view where
  reads :=
    { init := fun _ d => ⟨0, ((), d.touch), undoing_init d⟩
      history := readsHistory.history }
  latest _ d := by
    refine ⟨[latestRecord (view.latest d.touch)], ((), d.touch), ?_⟩
    have hsql : (latestStatement .sqlite).sql = latestSql .sqlite := rfl
    refine Meaning.reported_eq_ok.mpr ?_
    show query (latestStatement .sqlite) d.touch = _
    unfold query
    rw [if_neg (by simp [touch]), if_pos hsql]

theorem touch_eq {d d' : Ledger} (hran : d.ran = d'.ran) (hrows : view.rows d = view.rows d') :
    d.touch = d'.touch := by
  -- A ledger with its table is nothing but its rows and its scripts.
  have htouch : ∀ d : Ledger, d.touch = ⟨some ⟨view.rows d, view_sorted d⟩, d.ran⟩ := by
    rintro ⟨_ | rows, ran⟩
    · rfl
    · rfl
  rw [htouch d, htouch d', hran]
  simp only [hrows]

theorem undoing_keepsRemainder : KeepsRemainder undoing .sqlite view remainder where
  ext := touch_eq
  rest_touch _ := rfl
  begin _ := ⟨(), rfl⟩
  answers := undoing_answersHistory
  record _ d r hthere hfresh := by
    obtain ⟨rows, hrows⟩ : ∃ rows, d.history = some rows := ⟨_, congrArg history hthere.symm⟩
    rcases d with ⟨history, ran⟩
    subst hrows
    have hrun : record r ⟨some rows, ran⟩ =
        (.ok 1, (), ⟨some ⟨insertRow r rows.val, insertRow_sorted rows.property hfresh⟩, ran⟩) :=
      dif_pos hfresh
    exact ⟨1, (), _, Meaning.reported_eq_ok.mpr hrun, rfl, rfl⟩
  forget _ d v hthere := by
    obtain ⟨rows, hrows⟩ : ∃ rows, d.history = some rows := ⟨_, congrArg history hthere.symm⟩
    rcases d with ⟨history, ran⟩
    subst hrows
    exact ⟨1, (), _, rfl, rfl, rfl⟩
  commit := by
    intro start w d _
    show (∃ w', Meaning.reported (if orphan ∈ d.ran then _ else _) = _) ↔ orphan ∉ d.ran
    simp only [Meaning.reported_eq_ok]
    by_cases horphan : orphan ∈ d.ran
    · simp [horphan]
    · simp [horphan]

/-- What a script does that keeps off the history. -/
theorem runUndoing_cases {sql : String} (h : KeepsOff sql) (d : Ledger) :
    (∃ ran, remainder.act sql d.ran = some ran ∧
      runUndoing sql d = (.ok 0, (), { d with ran := ran })) ∨
    (remainder.act sql d.ran = none ∧ ∃ cause, runUndoing sql d = (.error cause, (), d)) := by
  simp only [KeepsOff, List.mem_cons, List.not_mem_nil, or_false, not_or] at h
  obtain ⟨hinit, hstray, hunstray, hclear⟩ := h
  simp only [remainder]
  -- What is left are the scripts that are there once or that take one back.
  rw [runUndoing, if_neg hunstray, if_neg hclear]
  cases undoes sql with
  | none =>
    simp only [runScript, if_neg hinit, if_neg hstray]
    by_cases hran : sql ∈ d.ran
    · exact .inr ⟨if_pos hran, _, if_pos hran⟩
    · exact .inl ⟨_, if_neg hran, if_neg hran⟩
  | some made =>
    by_cases hran : made ∈ d.ran
    · exact .inl ⟨_, if_pos hran, if_pos hran⟩
    · exact .inr ⟨if_neg hran, _, if_neg hran⟩

theorem undoing_leavesHistory {sql : String} (h : KeepsOff sql) :
    LeavesHistory undoing view sql := by
  rintro ⟨-, d⟩
  show view.rows (Meaning.reported (runUndoing sql d)).2.2 = _
  rcases runUndoing_cases h d with ⟨ran, -, hrun⟩ | ⟨-, cause, hrun⟩
  · rw [hrun]
    rfl
  · rw [hrun]
    rfl

theorem remainder_governs {sql : String} (h : KeepsOff sql) :
    remainder.Governs undoing view sql where
  succeeds := by
    intro w d r hthere hact
    rcases runUndoing_cases h d with ⟨ran, hact', hrun⟩ | ⟨hnone, -⟩
    · obtain rfl := Option.some.inj (hact'.symm.trans hact)
      refine ⟨0, (), _, Meaning.reported_eq_ok.mpr hrun, ?_, rfl⟩
      exact congrArg (fun rows => (⟨rows, ran⟩ : Ledger)) (congrArg history hthere)
    · cases hnone.symm.trans hact
  fails := by
    intro w d hthere hact
    rcases runUndoing_cases h d with ⟨ran, hsome, -⟩ | ⟨-, cause, hrun⟩
    · cases hsome.symm.trans hact
    · exact ⟨.backend cause, _, by rw [execute_undoing, hrun]; rfl⟩

def undoingExecutor : Executor (Work (Unit × Phase Ledger)) :=
  undoable.engine.executor .sqlite .unbounded

/-- What a script has made, the one that undoes it takes back. -/
theorem undoes_restores {made sql : String} {ran ran' : List String} (hmade : undoes made = none)
    (hsql : undoes sql = some made) (hact : remainder.act made ran = some ran') :
    remainder.act sql ran' = some ran := by
  simp only [remainder, hmade] at hact
  by_cases hran : made ∈ ran
  · rw [if_pos hran] at hact
    cases hact
  · rw [if_neg hran] at hact
    cases hact
    simp [remainder, hsql]

end Ledger

end DataAccess.Access.Migrator
