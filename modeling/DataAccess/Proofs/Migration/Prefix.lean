import DataAccess.Proofs.Migration.Apply
import DataAccess.Proofs.Migration.Rollback

/-!
# The history is a prefix

What is pending is read off the greatest version alone, which is right as long as the history has no
gap. `IsPrefix` says so: the history holds the first few versions of a list of migrations. Applying
and undoing keep it, wherever they fail, and so does every run of them:

* `apply_keeps_prefix`, `rollbackLast_keeps_prefix` — one call;
* `performAll_keeps_prefix` — a run, by induction on the calls;
* `history_is_prefix` — a run from an empty history.
-/

namespace DataAccess.Access.Migrator

open Observation Sql Work

variable {σ ω δ : Type} {view : σ → ω × Phase δ} {S : Store ω δ} {driver : Driver}
variable {H : HistoryView δ} {ms : List Migration} {d d' : δ}

/-! ## The invariant -/

/-- The history holds the first few versions of a list of migrations. -/
def HistoryView.IsPrefix (H : HistoryView δ) (ms : List Migration) (d : δ) : Prop :=
  ∃ done todo, inOrder ms = done ++ todo ∧
    (H.rows d).map (·.version) = done.map (·.version)

/-- Migrations with distinct positive versions whose scripts leave the history alone. -/
structure WellBehaved (S : Store ω δ) (H : HistoryView δ) (ms : List Migration) : Prop where
  distinct : (ms.map (·.version)).Nodup
  positive : ∀ m ∈ ms, 0 < m.version
  up : ∀ m ∈ ms, LeavesHistory S H m.up
  down : ∀ m ∈ ms, ∀ sql ∈ m.down, LeavesHistory S H sql

namespace HistoryView.IsPrefix

theorem of_rows_nil (h : H.rows d = []) : H.IsPrefix ms d :=
  ⟨[], inOrder ms, rfl, by rw [h]; rfl⟩

theorem of_rows_eq (h : H.IsPrefix ms d) (hrows : H.rows d' = H.rows d) : H.IsPrefix ms d' := by
  obtain ⟨done, todo, hsplit, hversions⟩ := h
  exact ⟨done, todo, hsplit, hrows ▸ hversions⟩

/-- The versions of the history are the first `k` ones, for some `k`. -/
theorem versions_eq_take (h : H.IsPrefix ms d) :
    ∃ k, (H.rows d).map (·.version) = ((inOrder ms).take k).map (·.version) := by
  obtain ⟨done, todo, hsplit, hversions⟩ := h
  exact ⟨done.length, by rw [hversions, hsplit, List.take_left]⟩

end HistoryView.IsPrefix

theorem latest_eq_of_versions {done : List Migration}
    (h : (H.rows d).map (·.version) = done.map (·.version)) :
    H.latest d = done.getLast?.map (·.version) := by
  unfold HistoryView.latest
  rw [← List.getLast?_map, ← List.getLast?_map, h]

/-- Rows for the next few migrations make a history of the first ones a longer one. -/
theorem versions_of_perm (hS : KeepsHistory S driver H) (hdistinct : (ms.map (·.version)).Nodup)
    {done more todo : List Migration} {added : List Row}
    (hsplit : inOrder ms = done ++ (more ++ todo))
    (hversions : (H.rows d).map (·.version) = done.map (·.version))
    (hadded : added.map (·.version) = more.map (·.version))
    (hrows : (H.rows d').Perm (added ++ H.rows d)) :
    (H.rows d').map (·.version) = (done ++ more).map (·.version) := by
  -- Both sides are in strict order, so it is enough that they have the same elements.
  have hsorted : ((H.rows d').map (·.version)).Pairwise (· < ·) :=
    List.pairwise_map.mpr (hS.sorted d')
  have hsorted' : ((done ++ more).map (·.version)).Pairwise (· < ·) := by
    have hall := inOrder_sorted hdistinct
    rw [hsplit, ← List.append_assoc] at hall
    exact List.pairwise_map.mpr (List.pairwise_append.mp hall).1
  refine eq_of_perm_of_sorted id hsorted hsorted' ?_
  have hperm := hrows.map (·.version)
  rw [List.map_append, hversions, hadded] at hperm
  rw [List.map_append]
  exact hperm.trans List.perm_append_comm

/-! ## One call -/

/-- Attempts at what is beyond the greatest version make a longer prefix. -/
theorem ending_keeps_prefix (hS : KeepsHistory S driver H) (hms : WellBehaved S H ms) {w : ω}
    {now : ω × δ} {as : List Attempt} {failed : Option Attempt}
    {r : Except Error (List (Int64 × String))} (h : H.IsPrefix ms d)
    (hend : Ending S driver (w, H.touch d) (newer ((H.latest d).getD 0) ms) as failed r now) :
    H.IsPrefix ms now.2 := by
  obtain ⟨done, todo, hsplit, hversions⟩ := h
  have hleave : ∀ m ∈ newer ((H.latest d).getD 0) ms, LeavesHistory S H m.up :=
    fun m hm => hms.up m (mem_newer.mp hm).1
  have hrows := rows_of_ending hS hend hleave
  rw [latest_eq_of_versions hversions, newer_of_split hms.distinct hms.positive hsplit] at hend
  -- What was attempted is the beginning of what was left to do.
  obtain ⟨rest, hrest⟩ := hend.isPrefix
  rw [← hrest] at hsplit
  refine ⟨done ++ as.map (·.migration), rest, by rw [hsplit, List.append_assoc], ?_⟩
  refine versions_of_perm hS hms.distinct hsplit hversions ?_ hrows
  rw [List.map_map, List.map_map]
  rfl

variable {e : Engine σ} {covered : Coverage} {dl : Deadline}

/-- A pool on a database whose history is a prefix. -/
def Pooled.HasPrefix (view : σ → ω × Phase δ) (H : HistoryView δ) (ms : List Migration)
    (p : Pooled σ) : Prop :=
  ∃ w d, p.Shows view (w, .idle d) ∧ H.IsPrefix ms d

theorem apply_keeps_prefix (h : e.Refines dl S covered view) (hS : KeepsHistory S driver H)
    (hcov : CoversMigrations covered driver ms) (hms : WellBehaved S H ms) {p : Pooled σ}
    (hp : Pooled.HasPrefix view H ms p) :
    ∃ r p', (apply (e.executor driver dl) ms).run p = (r, p') ∧ Pooled.HasPrefix view H ms p' := by
  obtain ⟨w, d, hshows, hprefix⟩ := hp
  obtain ⟨r, p', w', d', hrun, hp', hend⟩ := apply_ends h hS hcov hshows
  refine ⟨r, p', hrun, w', d', hp', ?_⟩
  cases hend with
  | unverified _ hread => exact hprefix.of_rows_eq (hread.rows hS)
  | unread _ _ => exact hprefix.of_rows_eq (hS.rows_touch d)
  | attempted _ _ _ hend _ _ => exact ending_keeps_prefix hS hms hprefix hend

/-- Forgetting the greatest version of a prefix makes a shorter one. -/
theorem forget_latest_keeps_prefix (hS : KeepsHistory S driver H) {version : Int64}
    (h : H.IsPrefix ms d) (hlatest : H.latest d = some version)
    (hrows : H.rows d' = (H.rows d).filter (·.version != version)) : H.IsPrefix ms d' := by
  obtain ⟨done, todo, hsplit, hversions⟩ := h
  rw [latest_eq_of_versions hversions] at hlatest
  rcases List.eq_nil_or_concat done with rfl | ⟨before, a, rfl⟩
  · cases hlatest
  · rw [List.concat_eq_append] at hversions hsplit hlatest
    rw [List.getLast?_concat] at hlatest
    obtain rfl := Option.some.inj hlatest
    refine ⟨before, a :: todo, by rw [hsplit, List.append_assoc]; rfl, ?_⟩
    have hsorted : ((before ++ [a]).map (·.version)).Pairwise (· < ·) :=
      hversions ▸ List.pairwise_map.mpr (hS.sorted d)
    rw [List.map_append] at hsorted hversions
    calc (H.rows d').map (·.version)
        = ((H.rows d).map (·.version)).filter fun v => v != a.version := by
          rw [hrows, List.filter_map]
          rfl
      _ = before.map (·.version) := by
          rw [hversions]
          exact filter_ne_of_sorted id hsorted

theorem rollbackLast_keeps_prefix (h : e.Refines dl S covered view) (hS : KeepsHistory S driver H)
    (hcov : CoversMigrations covered driver ms) (hms : WellBehaved S H ms) {p : Pooled σ}
    (hp : Pooled.HasPrefix view H ms p) :
    ∃ r p', (rollbackLast (e.executor driver dl) ms).run p = (r, p') ∧
      Pooled.HasPrefix view H ms p' := by
  obtain ⟨w, d, hshows, hprefix⟩ := hp
  obtain ⟨r, w', d', ⟨p', hrun, -, hp'⟩, hend⟩ := rollbackLast_ends h hS hcov hshows
  refine ⟨r, p', hrun, w', d', hp', ?_⟩
  cases hend with
  | unread _ hread => exact hprefix.of_rows_eq (hread.rows hS)
  | nothing _ => exact hprefix.of_rows_eq (hS.rows_touch d)
  | undefined _ _ => exact hprefix.of_rows_eq (hS.rows_touch d)
  | failed _ _ _ => exact hprefix.of_rows_eq (hS.rows_touch d)
  | undone hlatest hfind hundo =>
    have hleave := hms.down _ (List.mem_of_find?_eq_some hfind)
    have hrows := rows_of_undo hS hleave hundo
    rw [hS.rows_touch] at hrows
    exact forget_latest_keeps_prefix hS hprefix hlatest hrows

/-! ## Runs -/

/-- A call of the migrator that may change the history. -/
inductive Call where
  | apply
  | rollbackLast
deriving DecidableEq

/-- Make a call, and go on whatever it answers. -/
def Call.perform {m : Type → Type} [Monad m] (x : Executor m) (ms : List Migration) :
    Call → m Unit
  | .apply => do
    let _ ← Migrator.apply x ms
    return ()
  | .rollbackLast => do
    let _ ← Migrator.rollbackLast x ms
    return ()

/-- Make some calls in turn. -/
def performAll {m : Type → Type} [Monad m] (x : Executor m) (ms : List Migration) :
    List Call → m Unit
  | [] => return ()
  | c :: rest => do
    c.perform x ms
    performAll x ms rest

theorem perform_keeps_prefix (h : e.Refines dl S covered view) (hS : KeepsHistory S driver H)
    (hcov : CoversMigrations covered driver ms) (hms : WellBehaved S H ms) {p : Pooled σ}
    (hp : Pooled.HasPrefix view H ms p) (c : Call) :
    ∃ p', (c.perform (e.executor driver dl) ms).run p = ((), p') ∧
      Pooled.HasPrefix view H ms p' := by
  cases c with
  | apply =>
    obtain ⟨r, p', hrun, hp'⟩ := apply_keeps_prefix h hS hcov hms hp
    exact ⟨p', run_after hrun, hp'⟩
  | rollbackLast =>
    obtain ⟨r, p', hrun, hp'⟩ := rollbackLast_keeps_prefix h hS hcov hms hp
    exact ⟨p', run_after hrun, hp'⟩

theorem performAll_keeps_prefix (h : e.Refines dl S covered view) (hS : KeepsHistory S driver H)
    (hcov : CoversMigrations covered driver ms) (hms : WellBehaved S H ms) (calls : List Call) :
    ∀ {p : Pooled σ}, Pooled.HasPrefix view H ms p →
      ∃ p', (performAll (e.executor driver dl) ms calls).run p = ((), p') ∧
        Pooled.HasPrefix view H ms p' := by
  induction calls with
  | nil =>
    intro p hp
    exact ⟨p, rfl, hp⟩
  | cons c rest ih =>
    intro p hp
    obtain ⟨p₁, hrun₁, hp₁⟩ := perform_keeps_prefix h hS hcov hms hp c
    obtain ⟨p₂, hrun₂, hp₂⟩ := ih hp₁
    exact ⟨p₂, (run_after hrun₁).trans hrun₂, hp₂⟩

/-- **The history is always a prefix.** From an empty history, whatever calls are made and wherever
they fail, the history holds the first versions of the migrations in order. -/
theorem history_is_prefix (h : e.Refines dl S covered view) (hS : KeepsHistory S driver H)
    (hcov : CoversMigrations covered driver ms) (hms : WellBehaved S H ms) (calls : List Call)
    {p : Pooled σ} {c : σ} {w : ω} (hp : p.connection = some c) (hc : view c = (w, .idle d))
    (hempty : H.rows d = []) :
    ∃ p' c' w' d' k, (performAll (e.executor driver dl) ms calls).run p = ((), p') ∧
      p'.connection = some c' ∧ view c' = (w', .idle d') ∧
      (H.rows d').map (·.version) = ((inOrder ms).take k).map (·.version) := by
  obtain ⟨p', hrun, w', d', ⟨c', hp', hc'⟩, hprefix⟩ :=
    performAll_keeps_prefix h hS hcov hms calls
      ⟨w, d, ⟨c, hp, hc⟩, .of_rows_nil hempty⟩
  obtain ⟨k, hk⟩ := hprefix.versions_eq_take
  exact ⟨p', c', w', d', k, hrun, hp', hc', hk⟩

/-! ### A shelf of migrations -/

/-- A migration that can be undone, and one after it that always fails when it is committed. -/
def shelf : List Migration :=
  [.ofScript 2 "orphans" Ledger.orphan,
    (Migration.ofScript 1 "notes" Ledger.createNotes).withDown Ledger.dropNotes]

theorem shelf_wellBehaved : WellBehaved Ledger.store Ledger.view shelf where
  distinct := by decide
  positive := by decide
  up m hm := by
    simp only [shelf, List.mem_cons, List.not_mem_nil, or_false] at hm
    rcases hm with rfl | rfl
    · exact Ledger.leavesHistory (by decide +kernel) (by decide +kernel)
    · exact Ledger.leavesHistory (by decide +kernel) (by decide +kernel)
  down m hm sql hsql := by
    simp only [shelf, List.mem_cons, List.not_mem_nil, or_false] at hm
    rcases hm with rfl | rfl
    · cases hsql
    · cases hsql
      exact Ledger.leavesHistory (by decide +kernel) (by decide +kernel)

theorem shelf_history_is_prefix :
    (Ledger.statements.engine.Refines .unbounded Ledger.store .all id ∧
      KeepsHistory Ledger.store .sqlite Ledger.view ∧
      CoversMigrations .all .sqlite shelf ∧
      WellBehaved Ledger.store Ledger.view shelf ∧ Ledger.view.rows Ledger.empty = []) ∧
    ∃ p' c' w' d' k, (performAll Ledger.executor shelf [.apply, .rollbackLast, .apply]).run
        Ledger.pool = ((), p') ∧
      p'.connection = some c' ∧ c' = (w', .idle d') ∧
      (Ledger.view.rows d').map (·.version) = ((inOrder shelf).take k).map (·.version) :=
  ⟨⟨Ledger.refines .unbounded, Ledger.keepsHistory, Ledger.coversMigrations _, shelf_wellBehaved,
      rfl⟩,
    history_is_prefix (Ledger.refines .unbounded) Ledger.keepsHistory
      (Ledger.coversMigrations shelf) shelf_wellBehaved [.apply, .rollbackLast, .apply] rfl rfl rfl⟩

/-- A migration whose script writes a row of the history. -/
def strays : Migration := .ofScript 1 "strays" Ledger.stray

/-- Without leaving the history to the migrator, scripts may break the prefix. -/
theorem stray_row_breaks_prefix :
    ([strays].map (·.version)).Nodup ∧ (∀ m ∈ [strays], 0 < m.version) ∧
    Ledger.view.rows Ledger.empty = [] ∧
    Ledger.versions ((performAll Ledger.executor [strays] [.apply]).run Ledger.pool).2 =
      some [1, 2] ∧
    ∀ k, [1, 2] ≠ ((inOrder [strays]).take k).map (·.version) := by
  refine ⟨by decide, by decide, rfl, by decide +kernel, fun k heq => ?_⟩
  have hlength := congrArg List.length heq
  rw [List.length_map, List.length_take, inOrder_perm.length_eq] at hlength
  simp only [List.length_cons, List.length_nil] at hlength
  omega

end DataAccess.Access.Migrator
