import DataAccess.Proofs.Migration.Ledger
import DataAccess.Proofs.Migration.Order
import DataAccess.Proofs.Migration.Steps

/-!
# Applying migrations

Migrations are applied one after the other, up to the first one that fails. What one of them does is
the outcome of an `Attempt`; `attempts` folds the outcomes over a list as long as they succeed.

* `applyAll_ends` — applying a list of migrations ends as `Ending` says, by induction on the list.
* `apply_folds_attempts` — so does applying what is pending, once the history has been checked.
* `apply_fails_at_commit` — a migration whose statements all succeed may still fail.
-/

namespace DataAccess.Access.Migrator

open Observation Sql Work

variable {σ ω δ : Type} {view : σ → ω × Phase δ} {S : Store ω δ} {driver : Driver}
variable {H : HistoryView δ} {d : δ}

/-! ## Attempts in turn -/

/-- Where an attempt leads if it succeeds. -/
def Attempt.next? (S : Store ω δ) (driver : Driver) (now : ω × δ) (a : Attempt) :
    Option (ω × δ) :=
  match a.outcome S driver now with
  | (.ok (), now') => some now'
  | (.error _, _) => none

theorem Attempt.next?_eq_some {a : Attempt} {now now' : ω × δ} :
    a.next? S driver now = some now' ↔ a.outcome S driver now = (.ok (), now') := by
  unfold next?
  rcases a.outcome S driver now with ⟨r, now₁⟩
  cases r with
  | ok _ => simp
  | error cause => simp

/-- Where some attempts in turn lead if all of them succeed. -/
def attempts (S : Store ω δ) (driver : Driver) (as : List Attempt) (start : ω × δ) :
    Option (ω × δ) :=
  as.foldlM (Attempt.next? S driver) start

theorem attempts_cons {a : Attempt} {as : List Attempt} {start mid now : ω × δ}
    (ha : a.outcome S driver start = (.ok (), mid)) (has : attempts S driver as mid = some now) :
    attempts S driver (a :: as) start = some now := by
  unfold attempts
  rw [List.foldlM_cons, Attempt.next?_eq_some.mpr ha]
  exact has

/-- Attempts that succeed have added their rows to the history, if their scripts leave the history
alone. -/
theorem rows_of_attempts (hS : KeepsHistory S driver H) {as : List Attempt} {start now : ω × δ}
    (hleave : ∀ a ∈ as, LeavesHistory S H a.migration.up)
    (has : attempts S driver as start = some now) :
    (H.rows now.2).Perm (as.map Attempt.row ++ H.rows start.2) := by
  induction as generalizing start with
  | nil =>
    cases has
    exact .rfl
  | cons a rest ih =>
    unfold attempts at has
    rw [List.foldlM_cons] at has
    obtain ⟨mid, ha, hrest⟩ := Option.bind_eq_some_iff.mp has
    have hmid := a.rows_of_ok hS (hleave a List.mem_cons_self) (Attempt.next?_eq_some.mp ha)
    have hnow := ih (fun b hb => hleave b (List.mem_cons_of_mem a hb)) hrest
    exact hnow.trans ((hmid.append_left _).trans List.perm_middle)

/-- How applying `todo` from some start ends: with `done` attempts that succeed, and then either
nothing left to do, or one attempt that fails and changes no data. -/
inductive Ending (S : Store ω δ) (driver : Driver) (start : ω × δ) (todo : List Migration)
    (done : List Attempt) :
    Option Attempt → Except Error (List (Int64 × String)) → ω × δ → Prop
  | all {now : ω × δ} : done.map (·.migration) = todo → attempts S driver done start = some now →
      Ending S driver start todo done none (.ok (todo.map fun m => (m.version, m.name))) now
  | stopped {now : ω × δ} {w : ω} {a : Attempt} {rest : List Migration} {cause : Error} :
      done.map (·.migration) ++ a.migration :: rest = todo →
      attempts S driver done start = some now →
      a.outcome S driver now = (.error cause, w, now.2) →
      Ending S driver start todo done (some a) (.error cause) (w, now.2)

namespace Ending

variable {start mid now : ω × δ} {todo : List Migration} {done : List Attempt} {a : Attempt}
variable {failed : Option Attempt} {r : Except Error (List (Int64 × String))}

/-- One more attempt before all others. -/
theorem cons (ha : a.outcome S driver start = (.ok (), mid))
    (h : Ending S driver mid todo done failed r now) :
    Ending S driver start (a.migration :: todo) (a :: done) failed
      (r.map ((a.migration.version, a.migration.name) :: ·)) now := by
  cases h with
  | all hdone hattempts =>
    subst hdone
    exact .all rfl (attempts_cons ha hattempts)
  | stopped htodo hattempts hfailed =>
    subst htodo
    exact .stopped rfl (attempts_cons ha hattempts) hfailed

/-- The attempts of an ending lead to its data. -/
theorem attempts_eq (h : Ending S driver start todo done failed r now) :
    ∃ w, attempts S driver done start = some (w, now.2) := by
  cases h with
  | all _ hattempts => exact ⟨now.1, hattempts⟩
  | stopped _ hattempts _ => exact ⟨_, hattempts⟩

theorem mem_todo (h : Ending S driver start todo done failed r now) (ha : a ∈ done) :
    a.migration ∈ todo := by
  have hmem : a.migration ∈ done.map (·.migration) := List.mem_map_of_mem ha
  cases h with
  | all hdone _ => exact hdone ▸ hmem
  | stopped htodo _ _ => exact htodo ▸ List.mem_append_left _ hmem

/-- An ending without an error has attempted everything. -/
theorem done_of_ok {answer : List (Int64 × String)}
    (h : Ending S driver start todo done failed (.ok answer) now) :
    done.map (·.migration) = todo := by
  cases h with
  | all hdone _ => exact hdone

theorem isPrefix (h : Ending S driver start todo done failed r now) :
    done.map (·.migration) <+: todo := by
  cases h with
  | all hdone _ => exact hdone ▸ List.prefix_rfl
  | stopped htodo _ _ => exact htodo ▸ List.prefix_append _ _

end Ending

section

variable {e : Engine σ} {covered : Coverage} {dl : Deadline} {ms : List Migration}

/-- Some attempts are started in turn between two times. -/
structure StartedBetween (first last : Time) (as : List Attempt) : Prop where
  bounds : ∀ a ∈ as, first ≤ a.started ∧ a.started ≤ last
  inTurn : as.Pairwise (·.started ≤ ·.started)

/-- An attempt that is started first, before time goes on. -/
theorem StartedBetween.cons {first mid last : Time} {a : Attempt} {as : List Attempt}
    (h : StartedBetween mid last as) (ha : a.started = first) (hmid : first ≤ mid)
    (hlast : mid ≤ last) : StartedBetween first last (a :: as) where
  bounds := by
    intro b hb
    rcases List.mem_cons.mp hb with rfl | hb
    · exact ⟨Nat.le_of_eq ha.symm, ha ▸ Nat.le_trans hmid hlast⟩
    · exact ⟨Nat.le_trans hmid (h.bounds b hb).1, (h.bounds b hb).2⟩
  inTurn := List.pairwise_cons.mpr
    ⟨fun b hb => ha ▸ Nat.le_trans hmid (h.bounds b hb).1, h.inTurn⟩

theorem StartedBetween.le_last {first last : Time} {a : Attempt} {as bs : List Attempt}
    (h : StartedBetween first last (as ++ bs)) (ha : a ∈ as) : a.started ≤ last :=
  (h.bounds a (List.mem_append_left bs ha)).2

/-- Applying migrations in turn ends with attempts that are started while it runs. -/
theorem applyAll_ends (h : e.Refines dl S covered view) (hcov : CoversMigrations covered driver ms)
    (todo : List Migration) :
    ∀ {p : Pooled σ} {w : ω} {d : δ}, (∀ m ∈ todo, m ∈ ms) → p.Shows view (w, .idle d) →
      ∃ r done failed p' w' d', (applyAll (e.executor driver dl) todo).run p = (r, p') ∧
        p.observer.now ≤ p'.observer.now ∧ p'.Shows view (w', .idle d') ∧
        Ending S driver (w, d) todo done failed r (w', d') ∧
        StartedBetween p.observer.now p'.observer.now (done ++ failed.toList) := by
  induction todo with
  | nil =>
    intro p w d _ hp
    exact ⟨.ok [], [], none, p, w, d, rfl, Nat.le_refl _, hp, .all rfl rfl, nofun, .nil⟩
  | cons m rest ih =>
    intro p w d hmem hp
    obtain ⟨a, rfl, hstarted, p₁, hrun₁, hle₁, hp₁⟩ :=
      applyOne_ends h hcov (hmem m List.mem_cons_self) hp
    rcases ha : a.outcome S driver (w, d) with ⟨r, w₁, d₁⟩
    rw [ha] at hrun₁ hp₁
    cases r with
    | error cause =>
      -- The first failure: nothing is done yet, and the data are as they were.
      obtain rfl := Store.atomically_error ha
      have hstart : attempts S driver [] (w, d₁) = some (w, d₁) := rfl
      have hend : Ending S driver (w, d₁) (a.migration :: rest) [] (some a) (.error cause)
          (w₁, d₁) := .stopped rfl hstart ha
      have hnone : StartedBetween p₁.observer.now p₁.observer.now [] := ⟨nofun, .nil⟩
      exact ⟨.error cause, [], some a, p₁, w₁, d₁, run_after hrun₁, hle₁, hp₁, hend,
        hnone.cons hstarted hle₁ (Nat.le_refl _)⟩
    | ok _ =>
      obtain ⟨r, done, failed, p₂, w₂, d₂, hrun₂, hle₂, hp₂, hend, htimes⟩ :=
        ih (fun m hm => hmem m (List.mem_cons_of_mem _ hm)) hp₁
      exact ⟨r.map ((a.migration.version, a.migration.name) :: ·), a :: done, failed, p₂, w₂, d₂,
        (run_after hrun₁).trans (run_after hrun₂), Nat.le_trans hle₁ hle₂, hp₂, hend.cons ha,
        htimes.cons hstarted hle₁ hle₂⟩

/-- What an ending from a database with a table for its history has recorded, if the scripts leave
the history alone. -/
theorem rows_of_ending (hS : KeepsHistory S driver H) {w : ω} {d : δ} {done : List Attempt}
    {todo : List Migration} {failed : Option Attempt}
    {r : Except Error (List (Int64 × String))} {now : ω × δ}
    (hend : Ending S driver (w, H.touch d) todo done failed r now)
    (hleave : ∀ m ∈ todo, LeavesHistory S H m.up) :
    (H.rows now.2).Perm (done.map Attempt.row ++ H.rows d) := by
  obtain ⟨w', hattempts⟩ := hend.attempts_eq
  have hrows := rows_of_attempts hS (fun a ha => hleave _ (hend.mem_todo ha)) hattempts
  rwa [hS.rows_touch] at hrows

/-- How applying migrations to a database with some data ends, on which pool, and with which
data. -/
inductive ApplyEnding (x : Executor (Work σ)) (view : σ → ω × Phase δ) (S : Store ω δ)
    (driver : Driver) (H : HistoryView δ) (ms : List Migration) (p : Pooled σ) (d : δ) :
    Except Error (List (Int64 × String)) → Pooled σ → ω × δ → Prop
  /-- The check of the history fails, and nothing else happens. -/
  | unverified {cause : Error} {p' : Pooled σ} {w : ω} {d' : δ} :
      (verify x ms).run p = (.error cause, p') → H.Read d d' →
      ApplyEnding x view S driver H ms p d (.error cause) p' (w, d')
  /-- The greatest version cannot be read, and nothing else happens. -/
  | unread {cause : Error} {p₁ p' : Pooled σ} {w : ω} :
      (verify x ms).run p = (.ok (), p₁) → (pending x ms).run p₁ = (.error cause, p') →
      ApplyEnding x view S driver H ms p d (.error cause) p' (w, H.touch d)
  /-- What is beyond the greatest version is attempted in turn, from where reading it has led. -/
  | attempted {r : Except Error (List (Int64 × String))} {p₁ p₂ p' : Pooled σ} {w₂ : ω}
      {now : ω × δ} {done : List Attempt} {failed : Option Attempt} :
      (verify x ms).run p = (.ok (), p₁) →
      (pending x ms).run p₁ = (.ok (newer ((H.latest d).getD 0) ms), p₂) →
      p₂.Shows view (w₂, .idle (H.touch d)) →
      Ending S driver (w₂, H.touch d) (newer ((H.latest d).getD 0) ms) done failed r now →
      StartedBetween p₂.observer.now p'.observer.now (done ++ failed.toList) →
      ((∀ m ∈ ms, LeavesHistory S H m.up) →
        (H.rows now.2).Perm (done.map Attempt.row ++ H.rows d)) →
      ApplyEnding x view S driver H ms p d r p' now

theorem apply_ends (h : e.Refines dl S covered view) (hS : KeepsHistory S driver H)
    (hcov : CoversMigrations covered driver ms) {p : Pooled σ} {w : ω} {d : δ}
    (hp : p.Shows view (w, .idle d)) :
    ∃ r p' w' d', (apply (e.executor driver dl) ms).run p = (r, p') ∧
      p'.Shows view (w', .idle d') ∧
      ApplyEnding (e.executor driver dl) view S driver H ms p d r p' (w', d') := by
  obtain ⟨r₁, w₁, d₁, ⟨p₁, hrun₁, -, hp₁⟩, hread₁, htouch₁⟩ := verify_ends h hS hcov hp
  cases r₁ with
  | error cause =>
    exact ⟨.error cause, p₁, w₁, d₁, run_after hrun₁, hp₁, .unverified hrun₁ hread₁⟩
  | ok _ =>
    obtain rfl := htouch₁ rfl
    obtain ⟨r₂, w₂, d₂, ⟨p₂, hrun₂, -, hp₂⟩, hread₂, htodo, -⟩ := pending_ends h hS hcov hp₁
    obtain rfl := hread₂.of_touch hS
    cases r₂ with
    | error cause =>
      exact ⟨.error cause, p₂, w₂, H.touch d, (run_after hrun₁).trans (run_after hrun₂), hp₂,
        .unread hrun₁ hrun₂⟩
    | ok todo =>
      obtain ⟨-, rfl⟩ := htodo todo rfl
      -- The table is there by now, and what is pending is read off the rows as they were.
      rw [HistoryView.latest_touch hS] at hrun₂
      obtain ⟨r, done, failed, p', w', d', hrun, -, hp', hend, htimes⟩ :=
        applyAll_ends h hcov (newer ((H.latest d).getD 0) ms)
          (fun m hm => (mem_newer.mp hm).1) hp₂
      exact ⟨r, p', w', d', (run_after hrun₁).trans ((run_after hrun₂).trans hrun), hp',
        .attempted hrun₁ hrun₂ hp₂ hend htimes fun hleave =>
          rows_of_ending hS hend fun m hm => hleave m (mem_newer.mp hm).1⟩

/-- **Applying is atomic for each migration, and stops at the first failure.** If the check of the
history fails, or reading the greatest version does, that is all that happens, except that the table
of the history may have been created. Otherwise what is pending is attempted in turn, each migration
with its script and its row in one transaction: either all attempts succeed, and the versions and
names are answered, or one fails, and the data are those that the attempts before it led to. -/
theorem apply_folds_attempts (h : e.Refines dl S covered view) (hS : KeepsHistory S driver H)
    (hcov : CoversMigrations covered driver ms) {p : Pooled σ} {c : σ} {w : ω} {d : δ}
    (hp : p.connection = some c) (hc : view c = (w, .idle d)) :
    ∃ r p' c' w' d', (apply (e.executor driver dl) ms).run p = (r, p') ∧
      p'.connection = some c' ∧ view c' = (w', .idle d') ∧
      ApplyEnding (e.executor driver dl) view S driver H ms p d r p' (w', d') := by
  obtain ⟨r, p', w', d', hrun, ⟨c', hp', hc'⟩, hend⟩ := apply_ends h hS hcov ⟨c, hp, hc⟩
  exact ⟨r, p', c', w', d', hrun, hp', hc', hend⟩

end

/-! ### Notes, an archive and orphans -/

/-- A migration that creates a table. -/
def notes : Migration := .ofScript 1 "notes" Ledger.createNotes

/-- A migration that copies it. -/
def archive : Migration := .ofScript 2 "archive" "CREATE TABLE archive AS SELECT * FROM notes"

/-- A migration that breaks a constraint. -/
def orphans : Migration := .ofScript 1 "orphans" Ledger.orphan

/-- The scripts that ran on a ledger and have not been undone. -/
def ranFor (p : Pooled (Unit × Phase Ledger)) : Option (List String) :=
  p.connection.map fun c => c.2.base.ran

/-- The statements that record or forget the second version. -/
def atSecond (q : Statement) : Bool := q.args.head? == some (.int 2)

/-- An executor that has a second for a ledger on which the second version is recorded late. -/
def hurried : Executor (Work (Unit × Phase Ledger)) :=
  (Ledger.statements.engine.slowed atSecond).executor .sqlite (.after 0 (.ofWholeSeconds 1))

theorem apply_folds_notes :
    ((Ledger.statements.engine.slowed atSecond).Refines (.after 0 (.ofWholeSeconds 1))
        (Ledger.store.slowed atSecond) .all id ∧
      KeepsHistory (Ledger.store.slowed atSecond) .sqlite Ledger.view ∧
      CoversMigrations .all .sqlite [notes, archive]) ∧
    (∃ r p' c' w' d', (apply hurried [notes, archive]).run Ledger.pool = (r, p') ∧
      p'.connection = some c' ∧ c' = (w', .idle d') ∧
      ApplyEnding hurried id (Ledger.store.slowed atSecond) .sqlite Ledger.view [notes, archive]
        Ledger.pool Ledger.empty r p' (w', d')) ∧
    ((apply hurried [notes, archive]).run Ledger.pool).1 = .error .timeout ∧
    ranFor ((apply hurried [notes, archive]).run Ledger.pool).2 = some [notes.up] ∧
    Ledger.versions ((apply hurried [notes, archive]).run Ledger.pool).2 = some [1] := by
  have hrefines := (Ledger.refines (.after 0 (.ofWholeSeconds 1))).slowed atSecond
  have hkeeps := Ledger.keepsHistory.slowed atSecond
  refine ⟨⟨hrefines, hkeeps, Ledger.coversMigrations _⟩, ?_, ?_⟩
  · exact apply_folds_attempts hrefines hkeeps (Ledger.coversMigrations [notes, archive]) rfl rfl
  · -- Sorting does not compute, but these are in order.
    have hnewer (v : Int64) : newer v [notes, archive] = _ := newer_of_sorted (by decide +kernel)
    simp only [apply, pending, hnewer]
    decide +kernel

/-- A migration whose script and whose row both succeed may still fail, at the end of its
transaction. -/
theorem apply_fails_at_commit :
    ((verify Ledger.executor [orphans]).run Ledger.pool).1.toOption = some () ∧
    (∀ a : Attempt, a.migration = orphans →
      ∃ now, a.body Ledger.store .sqlite ((), Ledger.empty.touch) = (.ok (), now)) ∧
    ((apply Ledger.executor [orphans]).run Ledger.pool).1.toOption = none ∧
    Ledger.versions ((apply Ledger.executor [orphans]).run Ledger.pool).2 = some [] := by
  refine ⟨by decide +kernel, fun a ha => ?_, by decide +kernel, by decide +kernel⟩
  have hscript : Ledger.store.execute (script a.migration.up) ((), Ledger.empty.touch) =
      (.ok 0, (), { Ledger.empty.touch with ran := [Ledger.orphan] }) := by
    rw [ha, Ledger.execute_script]
    rfl
  exact ⟨_, Attempt.body_ok.mpr ⟨0, 1, _, hscript, rfl⟩⟩

example : ((apply Ledger.executor [notes]).run Ledger.pool).1.toOption = some [(1, "notes")] := by
  decide +kernel

end DataAccess.Access.Migrator
