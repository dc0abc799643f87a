import DataAccess.Proofs.Engine.Executor

/-!
# Engines that keep a log

`Engine.logged` puts a log next to each connection of an engine, with the statements that were
issued on it in order, whether they succeeded or not, or were given up. Everything else stays as it
is: the engine with the log keeps the data of a store as the engine without it does, in a world that
has the log as well (`Engine.Refines.logged`).
-/

namespace DataAccess.Access

open Sql

variable {σ ω δ α τ : Type}

/-- Work next to a log, which gets some statements. -/
def logging (issued : List Statement) (work : StateM σ α) : StateM (σ × List Statement) α :=
  fun c => ((work.run c.1).1, (work.run c.1).2, c.2 ++ issued)

/-- An action next to a log, which gets some statements whether or not the action is given up. -/
def Action.logged (issued : List Statement) (a : Action σ α) :
    Action (σ × List Statement) α where
  work := logging issued a.work
  givenUp? t c := (a.givenUp? t c.1).map fun c' => (c', c.2 ++ issued)

theorem Action.under_logged (issued : List Statement) (a : Action σ α) (dl : Deadline) :
    (a.logged issued).under dl = logging issued (a.under dl) := by
  funext c
  show ((a.logged issued).under dl).run c =
    (((a.under dl).run c.1).1, ((a.under dl).run c.1).2, c.2 ++ issued)
  have hgivenUp : dl.at?.bind ((a.logged issued).givenUp? · c) =
      (dl.at?.bind (a.givenUp? · c.1)).map fun c' => (c', c.2 ++ issued) := by
    rw [Option.map_bind]
    rfl
  cases h : dl.at?.bind (a.givenUp? · c.1) with
  | none =>
    rw [h] at hgivenUp
    rw [under_of_done hgivenUp, under_of_done h]
    rfl
  | some c' =>
    rw [h] at hgivenUp
    rw [under_of_givenUp hgivenUp, under_of_givenUp h]

/-- The engine with the log on each connection. -/
def Engine.logged (e : Engine σ) : Engine (σ × List Statement) where
  execute q := (e.execute q).logged [q]
  fetch q := (e.fetch q).logged [q]
  begin := e.begin.logged []
  commit := e.commit.logged []
  rollback := e.rollback.logged []
  control k := (e.control k).logged []
  ping := e.ping.logged []

/-- The store with the log in its world. -/
def Store.logged (S : Store ω δ) : Store (ω × List Statement) δ where
  execute q := fun ((w, log), d) =>
    ((S.execute q (w, d)).1, ((S.execute q (w, d)).2.1, log ++ [q]), (S.execute q (w, d)).2.2)
  fetch q := fun ((w, log), d) =>
    ((S.fetch q (w, d)).1, ((S.fetch q (w, d)).2.1, log ++ [q]), (S.fetch q (w, d)).2.2)
  begin := fun (w, log) => ((S.begin w).1, (S.begin w).2, log)
  commit s := fun ((w, log), d) => ((S.commit s (w, d)).1, (S.commit s (w, d)).2, log)
  control k := fun (w, log) => ((S.control k w).1, (S.control k w).2, log)

/-- A connection with its log, seen through the view of the connection. -/
def withLog (view : σ → ω × τ) (c : σ × List Statement) : (ω × List Statement) × τ :=
  (((view c.1).1, c.2), (view c.1).2)

variable {view : σ → ω × Phase δ}

theorem withLog_eq {c : σ × List Statement} {w : ω} {log : List Statement} {phase : Phase δ} :
    withLog view c = ((w, log), phase) ↔ view c.1 = (w, phase) ∧ c.2 = log := by
  simp only [withLog, Prod.ext_iff]
  exact and_right_comm

/-- An action that answers does so next to a log, and the log gets its statements. -/
theorem Answers.logged {action : Action σ α} {dl : Deadline} {a : Except Error α} {w w' : ω}
    {phase phase' : Phase δ} (h : Answers view (w, phase) (action.under dl) a (w', phase'))
    (issued log : List Statement) :
    Answers (withLog view) ((w, log), phase) ((action.logged issued).under dl) a
      ((w', log ++ issued), phase') := by
  intro c hc
  obtain ⟨hview, rfl⟩ := withLog_eq.mp hc
  obtain ⟨hanswer, hafter⟩ := h c.1 hview
  rw [Action.under_logged]
  exact ⟨hanswer, withLog_eq.mpr ⟨hafter, rfl⟩⟩

/-- An action without statements leaves the log. -/
theorem Answers.unlogged {action : Action σ α} {dl : Deadline} {a : Except Error α} {w w' : ω}
    {phase phase' : Phase δ} (h : Answers view (w, phase) (action.under dl) a (w', phase'))
    (log : List Statement) :
    Answers (withLog view) ((w, log), phase) ((action.logged []).under dl) a
      ((w', log), phase') := by
  have hlog := h.logged [] log
  rw [List.append_nil] at hlog
  exact hlog

/-- What an action without statements leaves, next to a log. -/
theorem withLog_unlogged (view : σ → ω × Phase δ) (action : Action σ α) (dl : Deadline)
    (c : σ × List Statement) :
    (((action.logged []).under dl).run c).1 = ((action.under dl).run c.1).1 ∧
    withLog view (((action.logged []).under dl).run c).2 =
      (((view ((action.under dl).run c.1).2).1, c.2), (view ((action.under dl).run c.1).2).2) := by
  rw [Action.under_logged]
  exact ⟨rfl, withLog_eq.mpr ⟨rfl, List.append_nil c.2⟩⟩

/-- An engine with a log keeps the same data. -/
theorem Engine.Refines.logged {e : Engine σ} {dl : Deadline} {S : Store ω δ} {covered : Coverage}
    (h : e.Refines dl S covered view) :
    e.logged.Refines dl S.logged covered (withLog view) where
  execute_inside hq := (h.execute_inside hq).logged _ _
  fetch_inside hq := (h.fetch_inside hq).logged _ _
  execute_alone hq := (h.execute_alone hq).logged _ _
  fetch_alone hq := (h.fetch_alone hq).logged _ _
  begin := h.begin.unlogged _
  commit := by
    rintro ⟨w, log⟩ s d ms c hc
    obtain ⟨hview, rfl⟩ := withLog_eq.mp hc
    obtain ⟨hanswer, hworld, hphase⟩ := h.commit hview
    obtain ⟨hsame, hleft⟩ := withLog_unlogged view e.commit dl c
    rw [show e.logged.commit = e.commit.logged [] from rfl, hsame, hleft]
    exact ⟨hanswer, congrArg (·, c.2) hworld, hphase⟩
  rollback := by
    intro c
    obtain ⟨hworld, hbase, hphase⟩ := h.rollback c.1
    obtain ⟨hsame, hleft⟩ := withLog_unlogged view e.rollback dl c
    rw [show e.logged.rollback = e.rollback.logged [] from rfl, hsame, hleft]
    exact ⟨congrArg (·, c.2) hworld, hbase, hphase⟩
  abandon := by
    intro c
    obtain ⟨-, hleft⟩ := withLog_unlogged view e.rollback .unbounded c
    rw [show e.logged.rollback = e.rollback.logged [] from rfl, hleft, h.abandon c.1]
    rfl
  control hk := (h.control hk).unlogged _

end DataAccess.Access
