import DataAccess.Proofs.Migration.Reversal

/-!
# Undoing all of a migration or nothing

`RolledBack` says how undoing the last migration ends, statement by statement. This is what it means
for the database, which has its history and whatever is beside it:

* `RolledBack.unchanged` — unless a migration has been undone, both are as they were;
* `RolledBack.undone_inv` — otherwise the script has run, if there is one, and the last row is gone.

So no half of a migration is ever undone (`rollbackLast_all_or_nothing`), as long as its script
leaves the history alone.
-/

namespace DataAccess.Access.Migrator

open Calendar Observation Sql Work

variable {σ ω δ ρ : Type} {view : σ → ω × Phase δ} {S : Store ω δ} {driver : Driver}
variable {H : HistoryView δ} {beside : δ → ρ} {ms : List Migration} {d : δ}

/-- What is beside the history stays the same when its table is created and when a version is
forgotten. -/
structure KeepsBeside (S : Store ω δ) (driver : Driver) (H : HistoryView δ) (beside : δ → ρ) :
    Prop where
  touch : ∀ d, beside (H.touch d) = beside d
  forget : ∀ {w w' d d' n v}, S.execute (forgetStatement driver v) (w, d) = (.ok n, w', d') →
    beside d' = beside d

/-- What undoing the last migration leaves of a database. -/
structure AllOrNothing (S : Store ω δ) (driver : Driver) (H : HistoryView δ) (beside : δ → ρ)
    (ms : List Migration) (d : δ) (r : Except Error (Option (Int64 × String))) (d' : δ) :
    Prop where
  /-- Unless a migration has been undone, everything is as it was, except that the table of the
  history may have been created. -/
  nothing : (∀ last, r ≠ .ok (some last)) →
    H.Read d d' ∧ H.rows d' = H.rows d ∧ beside d' = beside d
  /-- There is nothing to undo just when the history is empty. -/
  nothing_iff : (r = .ok none → H.rows d = []) ∧
    (AnswersHistory S driver H → H.rows d = [] → r = .ok none)
  /-- What has been undone is the first migration of the greatest version, which is that of the last
  row. Beside the history its script has run, if there is one; and the last row is gone, it alone if
  the script leaves the history alone. -/
  all : ∀ last, r = .ok (some last) → ∃ m w mid before row, last = entry m ∧ IsFirst ms m ∧
    H.rows d = before ++ [row] ∧ row.version = m.version ∧ (∀ x ∈ before, x.version < m.version) ∧
    Scripted S m (w, H.touch d) mid ∧ beside d' = beside mid.2 ∧
    H.rows d' = (H.rows mid.2).filter (·.version != m.version) ∧
    ((∀ sql ∈ m.down, LeavesHistory S H sql) → H.rows d' = before)

/-- The greatest version is that of the last row. -/
theorem rows_of_latest (hS : KeepsHistory S driver H) {version : Int64}
    (h : H.latest d = some version) :
    ∃ before row, H.rows d = before ++ [row] ∧ row.version = version ∧
      ∀ x ∈ before, x.version < version := by
  obtain ⟨row, hlast, rfl⟩ := Option.map_eq_some_iff.mp h
  obtain ⟨before, hrows⟩ := List.getLast?_eq_some_iff.mp hlast
  have hsorted := hS.sorted d
  rw [hrows, List.pairwise_append] at hsorted
  exact ⟨before, row, hrows, rfl, fun x hx => hsorted.2.2 x hx row List.mem_cons_self⟩

theorem latest_eq_none : H.latest d = none ↔ H.rows d = [] := by
  simp [HistoryView.latest]

/-- A script that leaves the history alone leaves all rows. -/
theorem Scripted.rows {m : Migration} {now mid : ω × δ} (h : Scripted S m now mid)
    (hleave : ∀ sql ∈ m.down, LeavesHistory S H sql) : H.rows mid.2 = H.rows now.2 := by
  cases h with
  | without _ => rfl
  | ran hdown hscript =>
    have hleft := hleave _ hdown now
    rwa [hscript] at hleft

/-- A transaction that does not succeed leaves the data as they were. -/
theorem UndoEnding.unchanged {m : Migration} {version : Int64} {before now : ω × δ} {cause : Error}
    (h : UndoEnding S driver m version before (.error cause) now) : now.2 = before.2 := by
  cases h with
  | notBegun _ => rfl
  | scriptFailed _ _ _ => rfl
  | rowKept _ _ _ => rfl
  | notCommitted _ _ _ _ => rfl

namespace RolledBack

variable {w : ω} {now : ω × δ} {r : Except Error (Option (Int64 × String))}

/-- Unless a migration has been undone, the most that has changed is that the table is there. -/
theorem unchanged (h : RolledBack S driver H ms (w, d) r now)
    (hnot : ∀ last, r ≠ .ok (some last)) : H.Read d now.2 := by
  cases h with
  | unread hreads => exact hreads.read
  | nothing hreads => exact hreads.read
  | undefined hreads _ => exact hreads.read
  | failed hreads _ hend =>
    rw [hend.unchanged]
    exact hreads.read
  | undone _ _ _ => exact absurd rfl (hnot _)

/-- A history is found empty only if it is, and if it can be read it is found so. -/
theorem none_iff (h : RolledBack S driver H ms (w, d) r now) :
    (r = .ok none → H.rows d = []) ∧
    (AnswersHistory S driver H → H.rows d = [] → r = .ok none) := by
  have hsome : ∀ {version mid}, ReadsLatest S driver H (w, d) (.ok (some version)) mid →
      H.rows d ≠ [] := by
    intro version mid hreads hempty
    cases (latest_eq_none.mpr hempty).symm.trans hreads.of_ok.2.symm
  cases h with
  | unread hreads => exact ⟨nofun, fun hA => absurd hA hreads.not_answers⟩
  | nothing hreads => exact ⟨fun _ => latest_eq_none.mp hreads.of_ok.2.symm, fun _ _ => rfl⟩
  | undefined hreads _ => exact ⟨nofun, fun _ hempty => absurd hempty (hsome hreads)⟩
  | failed hreads _ _ => exact ⟨nofun, fun _ hempty => absurd hempty (hsome hreads)⟩
  | undone hreads _ _ => exact ⟨nofun, fun _ hempty => absurd hempty (hsome hreads)⟩

/-- What has been undone: a transaction has begun, its script has succeeded if there is one, and
the version has been forgotten after it. -/
theorem undone_inv {last : Int64 × String}
    (h : RolledBack S driver H ms (w, d) (.ok (some last)) now) :
    ∃ m w₁ w₂ mid n, last = entry m ∧ IsFirst ms m ∧ H.latest d = some m.version ∧
      Scripted S m (w₁, H.touch d) mid ∧
      S.execute (forgetStatement driver m.version) mid = (.ok n, w₂, now.2) := by
  cases h with
  | @undone m _ _ hreads hfirst hend =>
    cases hend with
    | committed _ hscripted hforget _ =>
      obtain ⟨rfl, hlatest⟩ := hreads.of_ok
      exact ⟨m, _, _, _, _, rfl, hfirst, hlatest.symm, hscripted, hforget⟩

theorem allOrNothing (hS : KeepsHistory S driver H) (hB : KeepsBeside S driver H beside)
    (h : RolledBack S driver H ms (w, d) r now) :
    AllOrNothing S driver H beside ms d r now.2 where
  nothing hnot := by
    have hread := h.unchanged hnot
    -- Creating the table adds no row and touches nothing beside the history.
    refine ⟨hread, hread.rows hS, ?_⟩
    rcases hread with heq | heq
    · rw [heq]
    · rw [heq, hB.touch]
  nothing_iff := h.none_iff
  all := by
    rintro last rfl
    obtain ⟨m, w₁, w₂, mid, n, rfl, hfirst, hlatest, hscripted, hforget⟩ := h.undone_inv
    obtain ⟨before, row, hall, hversion, hbefore⟩ := rows_of_latest hS hlatest
    have hrows := hS.forget hforget
    refine ⟨m, w₁, mid, before, row, rfl, hfirst, hall, hversion, hbefore, hscripted,
      hB.forget hforget, hrows, fun hleave => ?_⟩
    -- The row that is forgotten is the last one, because the rows are in order.
    have hsorted := hS.sorted d
    rw [hall] at hsorted
    rw [hrows, hscripted.rows hleave, hS.rows_touch, hall, ← hversion]
    exact filter_ne_of_sorted Row.version hsorted

end RolledBack

/-- **Undoing the last migration is all or nothing.** Whichever of its statements fails, the call
ends as `RolledBack` says. Unless it answers what it has undone, the history and what is beside it
are as they were; and if it does, the history has lost the row of the greatest version, and beside
it the script of the first migration of this version has run, if there is one. -/
theorem rollbackLast_all_or_nothing {e : Engine σ} {covered : Coverage} {dl : Deadline}
    (h : e.Refines dl S covered view) (hS : KeepsHistory S driver H)
    (hB : KeepsBeside S driver H beside) (hcov : CoversMigrations covered driver ms)
    {p : Pooled σ} {c : σ} {w : ω} (hp : p.connection = some c) (hc : view c = (w, .idle d)) :
    ∃ r p' c' w' d', (rollbackLast (e.executor driver dl) ms).run p = (r, p') ∧
      p'.connection = some c' ∧ view c' = (w', .idle d') ∧
      RolledBack S driver H ms (w, d) r (w', d') ∧ AllOrNothing S driver H beside ms d r d' := by
  obtain ⟨r, w', d', ⟨p', hrun, -, c', hp', hc'⟩, hback⟩ :=
    rollbackLast_rolledBack h hS hcov ⟨c, hp, hc⟩
  exact ⟨r, p', c', w', d', hrun, hp', hc', hback, hback.allOrNothing hS hB⟩

/-! ### Two tables -/

/-- Rows for the migrations that made two tables. -/
def tableRows : List Row :=
  tables.reverse.map fun m => ⟨m.version, m.name, m.checksum, "2024-01-01T00:00:00+00:00", 0⟩

theorem tableRows_sorted : tableRows.Pairwise (·.version < ·.version) := by
  have hsorted : (tables.reverse.map (·.version)).Pairwise (· < ·) := by decide
  exact List.pairwise_map.mpr (List.pairwise_map.mp hsorted)

/-- A ledger with two tables and their migrations. -/
def tabled : Ledger := ⟨some ⟨tableRows, tableRows_sorted⟩, [Ledger.createTags, Ledger.createNotes]⟩

/-- A pool on a ledger. -/
def poolOn (d : Ledger) : Pooled (Unit × Phase Ledger) :=
  ⟨some ((), .idle d), .ofPlugin ⟨.standard, false⟩, []⟩

theorem undoing_keepsBeside : KeepsBeside Ledger.undoing .sqlite Ledger.view Ledger.ran where
  touch _ := rfl
  forget := by
    rintro w w' ⟨_ | rows, ran⟩ d' n v hforget
    · cases hforget
    · cases hforget
      rfl

theorem tabled_rollbackLast :
    (Ledger.undoable.engine.Refines .unbounded Ledger.undoing .all id ∧
      KeepsHistory Ledger.undoing .sqlite Ledger.view ∧
      KeepsBeside Ledger.undoing .sqlite Ledger.view Ledger.ran ∧
      CoversMigrations .all .sqlite tables ∧
      (poolOn tabled).connection = some ((), .idle tabled)) ∧
    ∃ r p' c' w' d', (rollbackLast Ledger.undoingExecutor tables).run (poolOn tabled) = (r, p') ∧
      p'.connection = some c' ∧ c' = (w', .idle d') ∧
      RolledBack Ledger.undoing .sqlite Ledger.view tables ((), tabled) r (w', d') ∧
      AllOrNothing Ledger.undoing .sqlite Ledger.view Ledger.ran tables tabled r d' :=
  ⟨⟨Ledger.undoing_refines .unbounded, Ledger.undoing_keepsHistory, undoing_keepsBeside,
      Ledger.coversMigrations _, rfl⟩,
    rollbackLast_all_or_nothing (Ledger.undoing_refines .unbounded)
      Ledger.undoing_keepsHistory undoing_keepsBeside (Ledger.coversMigrations tables) rfl rfl⟩

example :
    ((rollbackLast Ledger.undoingExecutor tables).run (poolOn tabled)).1.toOption =
      some (some (2, "tags")) ∧
    ranFor ((rollbackLast Ledger.undoingExecutor tables).run (poolOn tabled)).2 =
      some [Ledger.createNotes] := by
  decide +kernel

/-! ### What else a call may do -/

/-- A migration whose other script takes the row of version 2 off the history. -/
def forgetful : Migration :=
  (Migration.ofScript 3 "forgetful" Ledger.createTags).withDown Ledger.unstray

/-- A ledger on which it has been applied. -/
def overgrown : Ledger :=
  ⟨some ⟨[Ledger.strayRow, { Ledger.strayRow with version := 3 }], by decide⟩, [Ledger.createTags]⟩

/-- Ledgers that somebody else has locked. -/
def locked : Meaning BackendError Unit Ledger :=
  { Ledger.undoable with
    execute := fun _ (w, d) => (.error (.database 5 "database is locked"), w, d) }

/-- The table of the history is created even if there is nothing to undo, a script takes off
another row besides, and an empty history is an error if it cannot be read. -/
theorem rollbackLast_does_more :
    (((rollbackLast Ledger.undoingExecutor []).run Ledger.pool).1.toOption = some none ∧
      Ledger.empty.history.isSome = false ∧
      ((rollbackLast Ledger.undoingExecutor []).run Ledger.pool).2.connection.map
        (fun c => c.2.base.history.isSome) = some true) ∧
    (((rollbackLast Ledger.undoingExecutor [forgetful]).run (poolOn overgrown)).1.toOption =
        some (some (3, "forgetful")) ∧
      (Ledger.view.rows overgrown).map (·.version) = [2, 3] ∧
      Ledger.versions ((rollbackLast Ledger.undoingExecutor [forgetful]).run
        (poolOn overgrown)).2 = some []) ∧
    ((rollbackLast (locked.engine.executor .sqlite .unbounded) []).run Ledger.pool).1.toOption =
      none := by
  decide +kernel

end DataAccess.Access.Migrator
