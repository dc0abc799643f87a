import DataAccess.Proofs.Migration.Prefix
import Mathlib.Data.List.Nodup
import Mathlib.Logic.Function.Basic
import Mathlib.Logic.Relation

/-!
# Deployers at the same time

Any number of calls may apply the same migrations to one database at the same time. Each call
checks the history, reads what is pending, and then applies one migration after the other, each in a
transaction of its own; between any two of these steps the other calls may take theirs. So what a
call is still to do was read off a history that may have grown since. A call waits for its
statements as long as its own deadline allows, so what fails for one call need not fail for another
one: to each call the database is a store of its own, over the same data.

* `Deployer.advance_outcome` — a call that takes its steps with nobody in between is `apply`;
* `Deployer.advance_ends` — all that one step can do to the data;
* `Consistent.step` — what one step preserves: what a call is still to do begins inside the history
  or right at its end, so a stale call fails at its next migration;
* `deployers_apply_once` — what every run of steps comes to.
-/

namespace DataAccess.Access.Migrator

open Observation Sql Work

/-! ## The steps of a call -/

/-- How far a call has come. -/
inductive Deployer where
  | verifying
  | reading
  /-- Between two migrations, with the versions and names applied so far. -/
  | applying (done : List (Int64 × String)) (todo : List Migration)
  | finished (answer : Except Error (List (Int64 × String)))

namespace Deployer

section

variable {m : Type → Type} [Monad m] (x : Executor m) (ms : List Migration)

/-- Take the next step of a call. -/
def advance : Deployer → m Deployer
  | verifying => do
    match ← verify x ms with
    | .error e => return .finished (.error e)
    | .ok () => return .reading
  | reading => do
    match ← pending x ms with
    | .error e => return .finished (.error e)
    | .ok todo => return .applying [] todo
  | applying done [] => return .finished (.ok done)
  | applying done (d :: rest) => do
    match ← applyOne x d with
    | .error e => return .finished (.error e)
    | .ok () => return .applying (done ++ [(d.version, d.name)]) rest
  | finished answer => return .finished answer

/-- The migration that a step from one stage of a call to the next has committed. -/
def commits : Deployer → Deployer → List Migration
  | applying _ (d :: _), applying _ _ => [d]
  | _, _ => []

/-- Whether a call has answered an error. -/
def hasFailed : Deployer → Bool
  | finished (.error _) => true
  | _ => false

/-- What is left of a call when nobody else is there. -/
def outcome : Deployer → m (Except Error (List (Int64 × String)))
  | verifying => apply x ms
  | reading => do
    match ← pending x ms with
    | .error e => return .error e
    | .ok todo => applyAll x todo
  | applying done todo => return (← applyAll x todo).map (done ++ ·)
  | finished answer => return answer

/-- The steps of a call make up the call. -/
theorem advance_outcome [LawfulMonad m] (c : Deployer) :
    (c.advance x ms >>= outcome x ms) = c.outcome x ms := by
  cases c with
  | verifying =>
    simp only [advance, outcome, apply, bind_assoc]
    refine bind_congr fun r => ?_
    cases r with
    | error e => exact pure_bind _ _
    | ok _ => exact pure_bind _ _
  | reading =>
    simp only [advance, outcome, bind_assoc]
    refine bind_congr fun r => ?_
    cases r with
    | error e => exact pure_bind _ _
    | ok todo =>
      simp only [pure_bind, outcome]
      refine (bind_congr fun r => ?_).trans (bind_pure _)
      cases r <;> rfl
  | applying done todo =>
    cases todo with
    | nil => simp [advance, outcome, applyAll, Except.map]
    | cons d rest =>
      simp only [advance, outcome, applyAll, bind_assoc]
      refine bind_congr fun r => ?_
      cases r with
      | error e => simp [outcome, Except.map]
      | ok _ =>
        simp only [pure_bind, bind_assoc, outcome]
        refine bind_congr fun r => ?_
        cases r <;> simp [Except.map]
  | finished answer => exact pure_bind _ _

end

variable {σ ω δ : Type} {view : σ → ω × Phase δ} {S : Store ω δ} {driver : Driver}
variable {H : HistoryView δ} {ms : List Migration} {d d' : δ}

/-- All that the next step of a call can do to the data, and what becomes of the call. -/
inductive Advances (S : Store ω δ) (driver : Driver) (H : HistoryView δ) (ms : List Migration)
    (d : δ) : Deployer → Deployer → δ → Prop
  | verified : Advances S driver H ms d .verifying .reading (H.touch d)
  | unverified {cause : Error} {d' : δ} : H.Read d d' →
      Advances S driver H ms d .verifying (.finished (.error cause)) d'
  | read : Advances S driver H ms d .reading
      (.applying [] (newer ((H.latest d).getD 0) ms)) (H.touch d)
  | unread {cause : Error} {d' : δ} : H.Read d d' →
      Advances S driver H ms d .reading (.finished (.error cause)) d'
  | applied {a : Attempt} {done : List (Int64 × String)} {todo : List Migration} {w w' : ω}
      {d' : δ} : a.outcome S driver (w, d) = (.ok (), w', d') →
      Advances S driver H ms d (.applying done (a.migration :: todo))
        (.applying (done ++ [(a.migration.version, a.migration.name)]) todo) d'
  | failed {a : Attempt} {done : List (Int64 × String)} {todo : List Migration} {w w' : ω}
      {cause : Error} : a.outcome S driver (w, d) = (.error cause, w', d) →
      Advances S driver H ms d (.applying done (a.migration :: todo)) (.finished (.error cause)) d
  | completed {done : List (Int64 × String)} :
      Advances S driver H ms d (.applying done []) (.finished (.ok done)) d
  | finished {answer : Except Error (List (Int64 × String))} :
      Advances S driver H ms d (.finished answer) (.finished answer) d

variable {e : Engine σ} {covered : Coverage} {dl : Deadline}

theorem advance_ends (h : e.Refines dl S covered view) (hS : KeepsHistory S driver H)
    (hcov : CoversMigrations covered driver ms) {c : Deployer}
    (hmem : ∀ done todo, c = .applying done todo → ∀ m ∈ todo, m ∈ ms) {p : Pooled σ} {w : ω}
    (hp : p.Shows view (w, .idle d)) :
    ∃ c' p' w' d', (c.advance (e.executor driver dl) ms).run p = (c', p') ∧
      p'.Shows view (w', .idle d') ∧ Advances S driver H ms d c c' d' := by
  cases c with
  | verifying =>
    obtain ⟨r, w₁, d₁, ⟨p₁, hrun₁, -, hp₁⟩, hread, htouch⟩ := verify_ends h hS hcov hp
    cases r with
    | error cause => exact ⟨_, p₁, w₁, d₁, run_after hrun₁, hp₁, .unverified hread⟩
    | ok _ =>
      obtain rfl := htouch rfl
      exact ⟨_, p₁, w₁, _, run_after hrun₁, hp₁, .verified⟩
  | reading =>
    obtain ⟨r, w₁, d₁, ⟨p₁, hrun₁, -, hp₁⟩, hread, htodo, -⟩ := pending_ends h hS hcov hp
    cases r with
    | error cause => exact ⟨_, p₁, w₁, d₁, run_after hrun₁, hp₁, .unread hread⟩
    | ok todo =>
      obtain ⟨rfl, rfl⟩ := htodo todo rfl
      exact ⟨_, p₁, w₁, _, run_after hrun₁, hp₁, .read⟩
  | applying done todo =>
    cases todo with
    | nil => exact ⟨_, p, w, d, rfl, hp, .completed⟩
    | cons m rest =>
      have hm : m ∈ ms := hmem done (m :: rest) rfl m List.mem_cons_self
      obtain ⟨a, rfl, -, p₁, hrun₁, -, hp₁⟩ := applyOne_ends h hcov hm hp
      rcases ha : a.outcome S driver (w, d) with ⟨r, w₁, d₁⟩
      rw [ha] at hrun₁ hp₁
      cases r with
      | error cause =>
        obtain rfl := Store.atomically_error ha
        exact ⟨_, p₁, w₁, d₁, run_after hrun₁, hp₁, .failed ha⟩
      | ok _ => exact ⟨_, p₁, w₁, d₁, run_after hrun₁, hp₁, .applied ha⟩
  | finished answer => exact ⟨_, p, w, d, rfl, hp, .finished⟩

end Deployer

variable {σ ω δ ι : Type} {view : σ → ω × Phase δ} {S : ι → Store ω δ} {driver : Driver}
variable {H : HistoryView δ} {ms : List Migration} {origin : δ}

/-! ## Deployments -/

/-- Calls that apply migrations to one database: its data, how far each call has come, and the
migrations committed so far, in the order of their transactions. -/
structure Deployment (ι δ : Type) where
  data : δ
  deployers : ι → Deployer
  committed : List Migration

namespace Deployment

variable [DecidableEq ι]

/-- Calls that have not begun, on some data. -/
def start (d : δ) : Deployment ι δ := ⟨d, fun _ => .verifying, []⟩

/-- One call has come to a new stage, and the data with it. -/
def moved (s : Deployment ι δ) (i : ι) (c : Deployer) (d : δ) : Deployment ι δ :=
  ⟨d, Function.update s.deployers i c, s.committed ++ (s.deployers i).commits c⟩

theorem moved_self (s : Deployment ι δ) (i : ι) (c : Deployer) (d : δ) :
    (s.moved i c d).deployers i = c := by simp [moved]

theorem moved_of_ne (s : Deployment ι δ) {i j : ι} (h : j ≠ i) (c : Deployer) (d : δ) :
    (s.moved i c d).deployers j = s.deployers j := by simp [moved, h]

/-- One call takes its next step, on a connection that shows the data outside of a transaction. The
calls may have different executors, and the connection may be any, in whatever world. -/
inductive Step (view : σ → ω × Phase δ) (x : ι → Executor (Work σ)) (ms : List Migration) :
    Deployment ι δ → Deployment ι δ → Prop
  | advance {s : Deployment ι δ} (i : ι) {p p' : Pooled σ} {w w' : ω} {c : Deployer} {d : δ} :
      p.Shows view (w, .idle s.data) → ((s.deployers i).advance (x i) ms).run p = (c, p') →
      p'.Shows view (w', .idle d) → Step view x ms s (s.moved i c d)

/-- Runs of steps, in whatever order the calls take them. -/
abbrev Runs (view : σ → ω × Phase δ) (x : ι → Executor (Work σ)) (ms : List Migration) :
    Deployment ι δ → Deployment ι δ → Prop :=
  Relation.ReflTransGen (Step view x ms)

end Deployment

/-- How data came about: from some data, by scripts of the history's table and by attempts that were
committed, in order, each as one of the calls sees the store. -/
inductive Replay (S : ι → Store ω δ) (driver : Driver) (H : HistoryView δ) (origin : δ) :
    List Attempt → δ → Prop
  | start : Replay S driver H origin [] start
  | touch {as : List Attempt} {d : δ} : Replay S driver H origin as d →
      Replay S driver H origin as (H.touch d)
  | commit {as : List Attempt} {i : ι} {a : Attempt} {w w' : ω} {d d' : δ} :
      Replay S driver H origin as d → a.outcome (S i) driver (w, d) = (.ok (), w', d') →
      Replay S driver H origin (as ++ [a]) d'

/-! ## The invariant -/

/-- What holds between the steps of a deployment. The history is what has been committed, the
beginning of the migrations in order; and what a call is still to do begins inside of it or right
after it. -/
structure Consistent (S : ι → Store ω δ) (driver : Driver) (H : HistoryView δ) (ms : List Migration)
    (origin : δ) (s : Deployment ι δ) : Prop where
  ordered : s.committed <+: inOrder ms
  recorded : (H.rows s.data).map (·.version) = s.committed.map (·.version)
  replayed : ∃ as : List Attempt, as.map (·.migration) = s.committed ∧
    Replay S driver H origin as s.data
  todo : ∀ i done todo, s.deployers i = .applying done todo →
    ∃ before, before ++ todo = inOrder ms ∧ before <+: s.committed

namespace Consistent

variable {s : Deployment ι δ} {d : δ}

theorem of_rows_nil (h : H.rows origin = []) :
    Consistent S driver H ms origin (Deployment.start origin : Deployment ι δ) where
  ordered := List.nil_prefix
  recorded := by rw [Deployment.start, h]; rfl
  replayed := ⟨[], rfl, .start⟩
  todo := nofun

/-- What a call is still to do is among the migrations. -/
theorem mem_of_mem_todo (h : Consistent S driver H ms origin s) {i : ι}
    {done : List (Int64 × String)} {todo : List Migration}
    (hi : s.deployers i = .applying done todo) {m : Migration} (hm : m ∈ todo) : m ∈ ms := by
  obtain ⟨before, hsplit, -⟩ := h.todo i done todo hi
  refine inOrder_perm.mem_iff.mp ?_
  rw [← hsplit]
  exact List.mem_append_right before hm

/-- A call that commits its next migration was the first to come to it. -/
theorem next_of_committed {i : ι} (hS : KeepsHistory (S i) driver H)
    (hleave : ∀ m ∈ ms, LeavesHistory (S i) H m.up) (h : Consistent S driver H ms origin s)
    {a : Attempt} {done : List (Int64 × String)} {todo : List Migration} {w w' : ω}
    (hi : s.deployers i = .applying done (a.migration :: todo))
    (ha : a.outcome (S i) driver (w, s.data) = (.ok (), w', d)) :
    inOrder ms = s.committed ++ a.migration :: todo := by
  obtain ⟨before, hsplit, more, hmore⟩ := h.todo i done _ hi
  cases more with
  | nil => rw [← hsplit, ← hmore, List.append_nil]
  | cons b rest =>
    -- Otherwise the migration is the first one that others have committed since.
    obtain ⟨after, hafter⟩ := h.ordered
    have hb : b = a.migration := by
      rw [← hsplit, ← hmore, List.append_assoc, List.append_cancel_left_eq, List.cons_append,
        List.cons.injEq] at hafter
      exact hafter.1
    have hmem : a.migration.version ∈ (H.rows s.data).map (·.version) := by
      rw [h.recorded, ← hmore, hb]
      exact List.mem_map_of_mem (List.mem_append_right _ List.mem_cons_self)
    obtain ⟨r, hr, hversion⟩ := List.mem_map.mp hmem
    have hup : LeavesHistory (S i) H a.migration.up :=
      hleave _ (h.mem_of_mem_todo hi List.mem_cons_self)
    have hfails : ∃ cause w₁, a.outcome (S i) driver (w, s.data) = (.error cause, w₁, s.data) :=
      Attempt.error_of_recorded hS hup hr hversion
    obtain ⟨cause, w₁, herror⟩ := hfails
    cases herror.symm.trans ha

variable [DecidableEq ι]

/-- A step that commits nothing and at most creates the table of the history. -/
theorem of_read {i : ι} (hS : KeepsHistory (S i) driver H)
    (h : Consistent S driver H ms origin s) {c : Deployer} (hread : H.Read s.data d)
    (hcommits : (s.deployers i).commits c = [])
    (hc : ∀ done todo, c = .applying done todo →
      ∃ before, before ++ todo = inOrder ms ∧ before <+: s.committed) :
    Consistent S driver H ms origin (s.moved i c d) := by
  have hcommitted : (s.moved i c d).committed = s.committed := by
    rw [Deployment.moved, hcommits, List.append_nil]
  refine ⟨hcommitted ▸ h.ordered, ?_, ?_, ?_⟩
  · rw [hcommitted]
    exact (congrArg (List.map Row.version) (hread.rows hS)).trans h.recorded
  · obtain ⟨as, has, hreplay⟩ := h.replayed
    refine ⟨as, has.trans hcommitted.symm, ?_⟩
    rcases hread with rfl | rfl
    · exact hreplay
    · exact hreplay.touch
  · intro j done todo hj
    rw [hcommitted]
    by_cases hij : j = i
    · subst hij
      exact hc done todo (by rwa [Deployment.moved_self] at hj)
    · rw [Deployment.moved_of_ne s hij] at hj
      exact h.todo j done todo hj

/-- A step that commits a migration makes the history longer by it. -/
theorem of_applied {i : ι} (hS : KeepsHistory (S i) driver H)
    (hdistinct : (ms.map (·.version)).Nodup) (hleave : ∀ m ∈ ms, LeavesHistory (S i) H m.up)
    (h : Consistent S driver H ms origin s) {a : Attempt} {done done' : List (Int64 × String)}
    {todo : List Migration} {w w' : ω}
    (hi : s.deployers i = .applying done (a.migration :: todo))
    (ha : a.outcome (S i) driver (w, s.data) = (.ok (), w', d)) :
    Consistent S driver H ms origin (s.moved i (.applying done' todo) d) := by
  have hnext := h.next_of_committed hS hleave hi ha
  have hcommitted : (s.moved i (.applying done' todo) d).committed =
      s.committed ++ [a.migration] := by
    rw [Deployment.moved, hi]
    rfl
  have hup : LeavesHistory (S i) H a.migration.up :=
    hleave _ (h.mem_of_mem_todo hi List.mem_cons_self)
  have hrows : (H.rows d).Perm ([a.row] ++ H.rows s.data) := a.rows_of_ok hS hup ha
  refine ⟨?_, ?_, ?_, ?_⟩
  · rw [hcommitted, hnext]
    exact ⟨todo, List.append_assoc _ _ _⟩
  · have hversion : [a.row].map (·.version) = [a.migration].map (·.version) := rfl
    rw [hcommitted]
    exact versions_of_perm hS hdistinct hnext h.recorded hversion hrows
  · obtain ⟨as, has, hreplay⟩ := h.replayed
    refine ⟨as ++ [a], ?_, hreplay.commit ha⟩
    rw [hcommitted, List.map_append, has]
    rfl
  · intro j done₁ todo₁ hj
    rw [hcommitted]
    by_cases hij : j = i
    · subst hij
      rw [Deployment.moved_self] at hj
      cases hj
      exact ⟨s.committed ++ [a.migration], by rw [hnext, List.append_assoc]; rfl, List.prefix_rfl⟩
    · rw [Deployment.moved_of_ne s hij] at hj
      obtain ⟨before, hsplit, hbefore⟩ := h.todo j done₁ todo₁ hj
      exact ⟨before, hsplit, hbefore.trans (List.prefix_append _ _)⟩

/-- Every step keeps the invariant, whoever takes it. -/
theorem step {i : ι} (hS : KeepsHistory (S i) driver H)
    (hdistinct : (ms.map (·.version)).Nodup) (hpositive : ∀ m ∈ ms, 0 < m.version)
    (hleave : ∀ m ∈ ms, LeavesHistory (S i) H m.up) (h : Consistent S driver H ms origin s)
    {c : Deployer} (hc : Deployer.Advances (S i) driver H ms s.data (s.deployers i) c d) :
    Consistent S driver H ms origin (s.moved i c d) := by
  generalize hi : s.deployers i = before at hc
  cases hc with
  | verified => exact h.of_read hS (.inr rfl) (by rw [hi]; rfl) nofun
  | unverified hread => exact h.of_read hS hread (by rw [hi]; rfl) nofun
  | unread hread => exact h.of_read hS hread (by rw [hi]; rfl) nofun
  | failed _ => exact h.of_read hS (.inl rfl) (by rw [hi]; rfl) nofun
  | completed => exact h.of_read hS (.inl rfl) (by rw [hi]; rfl) nofun
  | finished => exact h.of_read hS (.inl rfl) (by rw [hi]; rfl) nofun
  | applied ha => exact h.of_applied hS hdistinct hleave hi ha
  | read =>
    refine h.of_read hS (.inr rfl) (by rw [hi]; rfl) fun done todo heq => ?_
    obtain ⟨rest, hsplit⟩ := h.ordered
    have htodo := newer_of_split hdistinct hpositive hsplit.symm
    rw [← latest_eq_of_versions h.recorded] at htodo
    cases heq
    exact ⟨s.committed, by rw [htodo, hsplit], List.prefix_rfl⟩

end Consistent

/-! ## Runs -/

variable {e : Engine σ} {covered : Coverage} {dl : ι → Deadline}

/-- Every call can take its next step, on whatever connection, and all it does to the data is what
its stage allows. -/
theorem Consistent.advance {i : ι} (h : e.Refines (dl i) (S i) covered view)
    (hS : KeepsHistory (S i) driver H) (hcov : CoversMigrations covered driver ms)
    {s : Deployment ι δ} (hs : Consistent S driver H ms origin s) {p : Pooled σ} {w : ω}
    (hp : p.Shows view (w, .idle s.data)) :
    ∃ c p' w' d, ((s.deployers i).advance (e.executor driver (dl i)) ms).run p = (c, p') ∧
      p'.Shows view (w', .idle d) ∧
      Deployer.Advances (S i) driver H ms s.data (s.deployers i) c d :=
  Deployer.advance_ends h hS hcov (fun _ _ hi _ hm => hs.mem_of_mem_todo hi hm) hp

variable [DecidableEq ι]

/-- Every run of steps keeps the invariant, by induction on the steps. -/
theorem runs_consistent (h : ∀ i, e.Refines (dl i) (S i) covered view)
    (hS : ∀ i, KeepsHistory (S i) driver H) (hcov : CoversMigrations covered driver ms)
    (hdistinct : (ms.map (·.version)).Nodup) (hpositive : ∀ m ∈ ms, 0 < m.version)
    (hleave : ∀ i, ∀ m ∈ ms, LeavesHistory (S i) H m.up) {s s' : Deployment ι δ}
    (hs : Consistent S driver H ms origin s)
    (hrun : Deployment.Runs view (fun i => e.executor driver (dl i)) ms s s') :
    Consistent S driver H ms origin s' := by
  induction hrun with
  | refl => exact hs
  | tail _ hstep ih =>
    cases hstep with
    | advance i hp hrun hp' =>
      obtain ⟨c, p₁, w₁, d₁, hrun₁, hp₁, hc⟩ := ih.advance (h i) (hS i) hcov hp
      cases hrun.symm.trans hrun₁
      cases hp'.unique hp₁
      exact ih.step (hS i) hdistinct hpositive (hleave i) hc

/-- **Concurrent deployers apply each migration at most once.** From an empty history, after any
steps of any number of calls that apply the same migrations, each with a deadline of its own, a
script has been committed as often as its version is recorded, which is at most once; what is
recorded are the first versions of the migrations in order; and the data are what the committed
scripts have made, one after the other. -/
theorem deployers_apply_once (h : ∀ i, e.Refines (dl i) (S i) covered view)
    (hS : ∀ i, KeepsHistory (S i) driver H) (hcov : CoversMigrations covered driver ms)
    (hdistinct : (ms.map (·.version)).Nodup) (hpositive : ∀ m ∈ ms, 0 < m.version)
    (hleave : ∀ i, ∀ m ∈ ms, LeavesHistory (S i) H m.up) (hempty : H.rows origin = [])
    {s : Deployment ι δ}
    (hrun : Deployment.Runs view (fun i => e.executor driver (dl i)) ms (.start origin) s) :
    (∀ v, (s.committed.map (·.version)).count v = ((H.rows s.data).map (·.version)).count v ∧
      (s.committed.map (·.version)).count v ≤ 1) ∧
    (∃ k, (H.rows s.data).map (·.version) = ((inOrder ms).take k).map (·.version)) ∧
    ∃ as : List Attempt, as.map (·.migration) = s.committed ∧
      Replay S driver H origin as s.data := by
  have hs := runs_consistent h hS hcov hdistinct hpositive hleave (.of_rows_nil hempty) hrun
  refine ⟨fun v => ⟨by rw [hs.recorded], ?_⟩, ⟨s.committed.length, ?_⟩, hs.replayed⟩
  · have hcommitted : (s.committed.map (·.version)).Nodup :=
      ((inOrder_perm.map _).nodup_iff.mpr hdistinct).sublist (hs.ordered.sublist.map _)
    exact List.nodup_iff_count_le_one.mp hcommitted v
  · obtain ⟨todo, hsplit⟩ := hs.ordered
    rw [hs.recorded, ← hsplit, List.take_left]

/-! ### Deployers of a ledger -/

namespace Ledger

variable {n : Nat} (x : Fin n → Executor (Work (Unit × Phase Ledger)))

/-- One of some calls takes its next step on a ledger, if that leaves no transaction open. -/
def stepped (ms : List Migration) (s : Deployment (Fin n) Ledger) (i : Fin n) :
    Option (Deployment (Fin n) Ledger) :=
  let r := ((s.deployers i).advance (x i) ms).run
    { pool with connection := some ((), .idle s.data) }
  match r.2.connection with
  | some (_, .idle d) => some (s.moved i r.1 d)
  | _ => none

/-- Calls take their steps in the order of a schedule. -/
def scheduled (ms : List Migration) (schedule : List (Fin n)) :
    Option (Deployment (Fin n) Ledger) :=
  schedule.foldlM (stepped x ms) (.start empty)

variable {x}

theorem step_of_stepped {ms : List Migration} {s s' : Deployment (Fin n) Ledger} {i : Fin n}
    (h : stepped x ms s i = some s') :
    Deployment.Step (σ := Unit × Phase Ledger) id x ms s s' := by
  unfold stepped at h
  generalize hr : ((s.deployers i).advance (x i) ms).run
    { pool with connection := some ((), .idle s.data) } = r at h
  dsimp only at h
  split at h
  · next d hd =>
    cases h
    exact .advance i ⟨_, rfl, rfl⟩ hr ⟨_, hd, rfl⟩
  · cases h

theorem runs_of_foldlM {ms : List Migration} (schedule : List (Fin n)) :
    ∀ {s s' : Deployment (Fin n) Ledger}, schedule.foldlM (stepped x ms) s = some s' →
      Deployment.Runs (σ := Unit × Phase Ledger) id x ms s s' := by
  induction schedule with
  | nil =>
    intro s s' h
    cases h
    exact .refl
  | cons i rest ih =>
    intro s s' h
    rw [List.foldlM_cons] at h
    obtain ⟨mid, hmid, hrest⟩ := Option.bind_eq_some_iff.mp h
    exact (ih hrest).head (step_of_stepped hmid)

end Ledger

/-- Of three calls, the first one has a second. -/
def patience (i : Fin 3) : Deadline :=
  if i.val = 0 then .after 0 (.ofWholeSeconds 1) else .unbounded

/-- The executors of three calls on a ledger on which the second version is recorded late. -/
def waiting (i : Fin 3) : Executor (Work (Unit × Phase Ledger)) :=
  (Ledger.statements.engine.slowed atSecond).executor .sqlite (patience i)

/-- The ledger as each call sees it. -/
def seenBy (i : Fin 3) : Store Unit Ledger :=
  if i.val = 0 then Ledger.store.slowed atSecond else Ledger.store

theorem seenBy_lawful (i : Fin 3) :
    (Ledger.statements.engine.slowed atSecond).Refines (patience i) (seenBy i) .all id ∧
      KeepsHistory (seenBy i) .sqlite Ledger.view ∧
      ∀ m ∈ [notes, archive], LeavesHistory (seenBy i) Ledger.view m.up := by
  have hleave : ∀ m ∈ [notes, archive], LeavesHistory Ledger.store Ledger.view m.up := by
    intro m hm
    simp only [List.mem_cons, List.not_mem_nil, or_false] at hm
    rcases hm with rfl | rfl
    · exact Ledger.createNotes_leavesHistory
    · exact Ledger.leavesHistory (by decide +kernel) (by decide +kernel)
  by_cases hi : i.val = 0
  · rw [patience, seenBy, if_pos hi, if_pos hi]
    exact ⟨(Ledger.refines _).slowed atSecond, Ledger.keepsHistory.slowed atSecond,
      fun m hm => (hleave m hm).slowed atSecond⟩
  · rw [patience, seenBy, if_neg hi, if_neg hi]
    exact ⟨(Ledger.refines .unbounded).slowed_unbounded atSecond, Ledger.keepsHistory, hleave⟩

/-- Two calls read that two migrations are pending. The first one applies the first of them and is
too late for the second, the other one fails at the first, and a third call applies the second. -/
theorem deployers_apply_once_notes :
    ((∀ i, (Ledger.statements.engine.slowed atSecond).Refines (patience i) (seenBy i) .all id) ∧
      (∀ i, KeepsHistory (seenBy i) .sqlite Ledger.view) ∧
      CoversMigrations .all .sqlite [notes, archive] ∧
      ([notes, archive].map (·.version)).Nodup ∧ (∀ m ∈ [notes, archive], 0 < m.version) ∧
      (∀ i, ∀ m ∈ [notes, archive], LeavesHistory (seenBy i) Ledger.view m.up) ∧
      Ledger.view.rows Ledger.empty = []) ∧
    ∃ s : Deployment (Fin 3) Ledger,
      Deployment.Runs (σ := Unit × Phase Ledger) id waiting [notes, archive] (.start .empty) s ∧
      s.committed = [notes, archive] ∧ (s.deployers 0).hasFailed = true ∧
      (s.deployers 1).hasFailed = true ∧ (s.deployers 2).hasFailed = false ∧
      (∀ v, (s.committed.map (·.version)).count v =
          ((Ledger.view.rows s.data).map (·.version)).count v ∧
        (s.committed.map (·.version)).count v ≤ 1) ∧
      (∃ k, (Ledger.view.rows s.data).map (·.version) =
        ((inOrder [notes, archive]).take k).map (·.version)) ∧
      ∃ as : List Attempt, as.map (·.migration) = s.committed ∧
        Replay seenBy .sqlite Ledger.view .empty as s.data := by
  have hraced : (Ledger.scheduled waiting [notes, archive] [0, 0, 1, 1, 0, 0, 1, 2, 2, 2]).map
      (fun s => (s.committed, (s.deployers 0).hasFailed, (s.deployers 1).hasFailed,
        (s.deployers 2).hasFailed)) = some ([notes, archive], true, true, false) := by
    -- The steps are opened as functions: sorting does not compute, but these are in order.
    have hnewer (v : Int64) : newer v [notes, archive] = _ := newer_of_sorted (by decide +kernel)
    delta Ledger.scheduled Ledger.stepped Deployer.advance pending
    simp only [hnewer]
    decide +kernel
  obtain ⟨s, hs, hfacts⟩ := Option.map_eq_some_iff.mp hraced
  simp only [Prod.mk.injEq] at hfacts
  obtain ⟨hcommitted, hfirst, hsecond, hthird⟩ := hfacts
  have hrun := Ledger.runs_of_foldlM _ hs
  have hrefines := fun i => (seenBy_lawful i).1
  have hkeeps := fun i => (seenBy_lawful i).2.1
  have hleave := fun i => (seenBy_lawful i).2.2
  exact ⟨⟨hrefines, hkeeps, Ledger.coversMigrations _, by decide, by decide, hleave, rfl⟩, s, hrun,
    hcommitted, hfirst, hsecond, hthird,
    deployers_apply_once hrefines hkeeps (Ledger.coversMigrations [notes, archive]) (by decide)
      (by decide) hleave rfl hrun⟩

/-- A script that writes the history itself records a version that no call has committed. -/
theorem stray_row_without_deployer :
    ([strays].map (·.version)).Nodup ∧ (∀ m ∈ [strays], 0 < m.version) ∧
    Ledger.view.rows Ledger.empty = [] ∧
    ∃ s : Deployment (Fin 2) Ledger,
      Deployment.Runs (σ := Unit × Phase Ledger) id (fun _ => Ledger.executor) [strays]
        (.start .empty) s ∧
      (s.committed.map (·.version)).count 2 = 0 ∧
      ((Ledger.view.rows s.data).map (·.version)).count 2 = 1 := by
  have halone : (Ledger.scheduled (fun _ : Fin 2 => Ledger.executor) [strays] [0, 0, 0]).map
      (fun s => (s.committed.map (·.version), (Ledger.view.rows s.data).map (·.version))) =
        some ([1], [1, 2]) := by decide +kernel
  obtain ⟨s, hs, hfacts⟩ := Option.map_eq_some_iff.mp halone
  simp only [Prod.mk.injEq] at hfacts
  obtain ⟨hcommitted, hrecorded⟩ := hfacts
  refine ⟨by decide, by decide, rfl, s, Ledger.runs_of_foldlM _ hs, ?_, ?_⟩
  · rw [hcommitted]
    rfl
  · rw [hrecorded]
    rfl

end DataAccess.Access.Migrator
