import DataAccess.Proofs.Transaction.Atomicity

/-!
# Savepoints that are not released

A savepoint whose body fails or panics leaves nothing behind. One whose body ends with a value and
whose release fails answers an error as well, but nothing goes back to its mark: what the body did
stays, and the next commit makes it last (`savepoint_release`).
-/

namespace DataAccess.Access

open Observation Sql Work

variable {σ ω δ π ε α : Type} {view : σ → ω × Phase δ}
variable {x : Executor (Work σ)} {C : Conduct ω δ} {covered : Statement → Prop}

/-- The ways in which a savepoint ends, with the data that it leaves. -/
theorem Conduct.finish_cases (ofError : Error → ε) (name : String) (old : δ)
    (r : Exit π ε α × ω × δ) :
    match (C.finish ofError name old r).1 with
    | .value a => r.1 = .value a ∧ (C.finish ofError name old r).2.2 = r.2.2
    | .error cause => (r.1 = .error cause ∧ (C.finish ofError name old r).2.2 = old) ∨
        ∃ a e, r.1 = .value a ∧ (C.release name r.2.1).1.answer = .error e ∧ cause = ofError e ∧
          (C.finish ofError name old r).2.2 = r.2.2
    | .panic payload => r.1 = .panic payload ∧ (C.finish ofError name old r).2.2 = old := by
  obtain ⟨exit, w, d⟩ := r
  cases exit with
  | value a =>
    dsimp only [finish]
    cases (C.release name w).1 with
    | done => exact ⟨rfl, rfl⟩
    | refused e => exact .inr ⟨a, e, rfl, rfl, rfl, rfl⟩
    | late e => exact .inr ⟨a, e, rfl, rfl, rfl, rfl⟩
  | error cause => exact .inl ⟨rfl, rfl⟩
  | panic payload => exact ⟨rfl, rfl⟩

/-- **A savepoint that answers an error leaves nothing behind unless it is its release that
failed.** If the body failed the data is what it was before; if the body ended with a value and the
release failed, the data is what the body made of it. The depth is as before in either case, for
whatever comes next, and a commit that goes through makes the data last as it is. -/
theorem savepoint_release (h : x.Follows C covered view) (ofError : Error → ε) {f : Body π ε α}
    (hf : f.Uses covered) (depth : Nat) {w : ω} {s d : δ} {ms : List (String × δ)} {p : Pooled σ}
    (hp : p.Shows view (w, .inside s d ms)) :
    let name := markName (depth + 1)
    let inner := f.effect C (depth + 1) (C.mark name w, d)
    let outer := C.finish ofError name d inner
    (match outer.1 with
      | .value a => inner.1 = .value a ∧ outer.2.2 = inner.2.2
      | .error cause => (inner.1 = .error cause ∧ outer.2.2 = d) ∨
          ∃ a e, inner.1 = .value a ∧ (C.release name inner.2.1).1.answer = .error e ∧
            cause = ofError e ∧ outer.2.2 = inner.2.2
      | .panic payload => inner.1 = .panic payload ∧ outer.2.2 = d) ∧
    ∃ p' stale, Stale depth stale ∧
      (Transaction.savepoint ⟨x, depth⟩ ofError f.run).run p = (outer.1, p') ∧
      p'.Shows view (outer.2.1, .inside s outer.2.2 (stale ++ ms)) ∧
      (∀ {ε' β : Type} (next : Exit π ε α → Body π ε' β),
        ((Body.savepoint ofError f next).run ⟨x, depth⟩).run p =
          ((next outer.1).run ⟨x, depth⟩).run p') ∧
      ((C.commit s outer.2).1 = .ok () → Ends view (Transaction.commit ⟨x, depth⟩) p' (.ok ())
        ((C.commit s outer.2).2, .idle outer.2.2)) := by
  intro name inner outer
  obtain ⟨stale, hstale, p₁, hrun, -, hp₁⟩ :=
    savepoint_ends h ofError hp fun _ hp' => run_effect h f hf hp'
  refine ⟨C.finish_cases ofError name d inner, p₁, stale, hstale, hrun, hp₁, ?_, ?_⟩
  · exact fun next => run_after hrun
  · exact fun hcommit => (h.commit hcommit hp₁).bind fun _ _ hp₂ => .pure hp₂

/-! ### Releases that are refused or late -/

/-- The numbers where no savepoint is released while a constraint is open. -/
def heldNumbers : Meaning BackendError Unit (List Int64) :=
  { numbers with
    control := fun k w =>
      match k with
      | .release _ => (.error (.database 787 "FOREIGN KEY constraint failed"), w)
      | _ => (.ok (), w) }

/-- What is answered where no savepoint is released. -/
def heldStore : Store Unit (List Int64) := heldNumbers.store

theorem heldStore_marksSucceed : heldStore.MarksSucceed := ⟨fun _ _ => rfl, fun _ _ => rfl⟩

/-- The numbers on an engine where savepoints are released, but later than anybody waits. -/
def tardyNumbers : Engine (Unit × Phase (List Int64)) :=
  { numbers.engine with
    control := fun k =>
      let released := numbers.engine.control k
      match k with
      | .release _ => { released with givenUp? := fun _ c => some (released.work.run c).2 }
      | _ => released }

def tardyConduct : Conduct Unit (List Int64) :=
  { numberStore.conduct with release := fun _ w => (.late .timeout, w) }

theorem tardyNumbers_follows (t : Time) :
    (tardyNumbers.executor .sqlite ⟨some t⟩).Follows tardyConduct Coverage.all.inside id :=
  { (numbers_refines ⟨some t⟩).follows .sqlite ⟨fun _ _ => rfl, fun _ _ => rfl⟩ with
    release := by
      intro n p w s d ms d' rest hmark hp
      have hact : Control.act d ms (.release n) = some (d, rest) := by
        simp only [Control.act, hmark]
      show Ends id (onConnection ((tardyNumbers.control (.release n)).under ⟨some t⟩)) p
        (.error .timeout) (w, .inside s d rest)
      refine onConnection_ends hp ?_
      rintro _ rfl
      rw [Action.under_of_givenUp rfl]
      refine ⟨rfl, ?_⟩
      show id ((numbers.engine.control (.release n)).work.run (w, .inside s d ms)).2 = _
      simp only [Meaning.engine, Action.prompt, StateT.run, hact]
      rfl }

/-- The savepoint fails, whether its release is refused or late, and the number it inserted is
committed. -/
theorem savepoint_release_refused :
    let refusing := heldNumbers.engine.executor .sqlite .unbounded
    let waiting := tardyNumbers.executor .sqlite ⟨some 0⟩
    let body : Body String Error Nat := insertNumber 1 fun inserted => .done (.ofExcept inserted)
    let p : Pooled (Unit × Phase (List Int64)) :=
      ⟨some ((), .inside [] [] []), .ofPlugin ⟨.standard, false⟩, []⟩
    (refusing.Follows heldStore.conduct Coverage.all.inside id ∧
      waiting.Follows tardyConduct Coverage.all.inside id ∧
      body.Uses Coverage.all.inside ∧ p.Shows id ((), .inside [] [] [])) ∧
    (∃ p', (Transaction.savepoint ⟨refusing, 0⟩ id body.run).run p =
        (.error (.backend (.database 787 "FOREIGN KEY constraint failed")), p') ∧
      Ends id (Transaction.commit ⟨refusing, 0⟩) p' (.ok ()) ((), .idle [1])) ∧
    ∃ p', (Transaction.savepoint ⟨waiting, 0⟩ id body.run).run p = (.error .timeout, p') ∧
      Ends id (Transaction.commit ⟨waiting, 0⟩) p' (.ok ()) ((), .idle [1]) := by
  intro refusing waiting body p
  have hrefusing := (heldNumbers.engine_refines .unbounded).follows .sqlite heldStore_marksSucceed
  have hp : p.Shows id ((), .inside [] [] []) := ⟨_, rfl, rfl⟩
  obtain ⟨-, p₁, -, -, hrun₁, -, -, hcommit₁⟩ :=
    savepoint_release hrefusing id body.uses_all 0 hp
  obtain ⟨-, p₂, -, -, hrun₂, -, -, hcommit₂⟩ :=
    savepoint_release (tardyNumbers_follows 0) id body.uses_all 0 hp
  exact ⟨⟨hrefusing, tardyNumbers_follows 0, body.uses_all, hp⟩, ⟨p₁, hrun₁, hcommit₁ rfl⟩,
    p₂, hrun₂, hcommit₂ rfl⟩

end DataAccess.Access
