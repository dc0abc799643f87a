import DataAccess.Proofs.Transaction.Conduct

/-!
# Nested transactions are atomic

Where control statements go through, a body does to the data what it is meant to do (`run_meaning`),
to any depth of savepoints, and so does a transaction, up to what it commits
(`transaction_commits_meaning`).
-/

namespace DataAccess.Access

open Sql Work

variable {σ ω δ π ε ε' α β : Type} {view : σ → ω × Phase δ}

/-- Control statements go through and leave the world alone. -/
structure Store.ControlSucceeds (S : Store ω δ) : Prop where
  begin : ∀ w, S.begin w = (.ok (), w)
  commit : ∀ start now, S.commit start now = (.ok (), now.1)
  control : ∀ k w, S.control k w = (.ok (), w)

section

variable {e : Engine σ} {S : Store ω δ} {covered : Coverage} (driver : Driver) {dl : Deadline}

/-! ## Bodies -/

theorem Store.ControlSucceeds.marksSucceed (hS : S.ControlSucceeds) : S.MarksSucceed where
  savepoint n w := by rw [hS.control]
  rollbackTo n w := by rw [hS.control]

/-- Where every release goes through, a savepoint ends as its body does. -/
theorem Store.ControlSucceeds.finish_eq (hS : S.ControlSucceeds) (ofError : Error → ε)
    (name : String) (old : δ) (r : Exit π ε α × ω × δ) :
    S.conduct.finish ofError name old r = (r.1, r.2.1, r.1.keep r.2.2 old) := by
  obtain ⟨exit, w, d⟩ := r
  cases exit with
  | value a => simp [Conduct.finish, Store.conduct, hS.control, Release.exit, Exit.keep]
  | error cause => simp [Conduct.finish, Store.conduct, hS.control, Exit.keep]
  | panic payload => simp [Conduct.finish, Store.conduct, hS.control, Exit.keep]

theorem effect_eq_meaning (hS : S.ControlSucceeds) (f : Body π ε α) :
    ∀ (depth : Nat) (now : ω × δ), f.effect S.conduct depth now = f.meaning S depth now := by
  induction f with
  | done exit => exact fun _ _ => rfl
  | execute q next ih => exact fun depth now => ih _ depth _
  | fetch q next ih => exact fun depth now => ih _ depth _
  | askDepth next ih => exact fun depth now => ih depth depth now
  | savepoint ofError inner next ihInner ihNext =>
    intro depth now
    have hmark : S.conduct.mark (markName (depth + 1)) now.1 = now.1 := by
      simp [Store.conduct, hS.control]
    simp only [Body.effect, Body.meaning, hmark, hS.finish_eq, ihInner, ihNext]

/-- A body does to the data what it is meant to do. Where it runs there may be marks already; it
leaves them as they are, below marks that are stale. -/
theorem run_meaning (h : e.Refines dl S covered view) (hS : S.ControlSucceeds) (f : Body π ε α)
    {depth : Nat} {w : ω} {s d : δ} {ms : List (String × δ)} {p : Pooled σ}
    (hf : f.Uses covered.inside) (hp : p.Shows view (w, .inside s d ms)) :
    ∃ stale, Stale depth stale ∧
      Ends view (f.run ⟨e.executor driver dl, depth⟩) p (f.meaning S depth (w, d)).1
        ((f.meaning S depth (w, d)).2.1,
          .inside s (f.meaning S depth (w, d)).2.2 (stale ++ ms)) := by
  rw [← effect_eq_meaning hS f]
  exact run_effect (h.follows driver hS.marksSucceed) f hf hp

/-! ## Transactions -/

/-- **A transaction commits the meaning of its body.** On an engine that keeps the data of a store
and on which control statements succeed, a transaction answers what its body is meant to answer,
with every depth that the body asks for being the number of savepoints around the question. It
commits what the body is meant to do if that ends with a value, and nothing after an error or a
panic. -/
theorem transaction_commits_meaning (h : e.Refines dl S covered view) (hS : S.ControlSucceeds)
    (ofError : Error → ε) {f : Body π ε α} (hf : f.Uses covered.inside) {p : Pooled σ} {c : σ}
    {w : ω} {d : δ} (hp : p.connection = some c) (hc : view c = (w, .idle d)) :
    ∃ p' c', ((e.executor driver dl).transaction ofError f.run).run p =
        ((f.meaning S 0 (w, d)).1, p') ∧
      p'.connection = some c' ∧
      view c' = ((f.meaning S 0 (w, d)).2.1,
        .idle ((f.meaning S 0 (w, d)).1.keep (f.meaning S 0 (w, d)).2.2 d)) := by
  obtain ⟨p₁, -, hp₁, hsettled⟩ :=
    h.transaction_of_body driver ofError f.run (hS.begin w) ⟨c, hp, hc⟩
  obtain ⟨stale, -, hend⟩ := run_meaning driver h hS f hf hp₁
  obtain ⟨p', hrun, -, c', hp', hc'⟩ := hsettled hend
  have hsettle : S.settle ofError d (f.meaning S 0 (w, d)).1 (f.meaning S 0 (w, d)).2 =
      ((f.meaning S 0 (w, d)).1, (f.meaning S 0 (w, d)).2.1,
        (f.meaning S 0 (w, d)).1.keep (f.meaning S 0 (w, d)).2.2 d) := by
    cases hexit : (f.meaning S 0 (w, d)).1 with
    | value a => simp only [Store.settle, hS.commit, Exit.keep]
    | error cause => rfl
    | panic payload => rfl
  rw [hsettle] at hrun hc'
  exact ⟨p', c', hrun, hp', hc'⟩

end

/-! ### Savepoints over a set of numbers

Two savepoints of one depth fail inside a third one, so that their marks lie on those of the third
when it fails as well. -/

/-- A table of distinct numbers. A statement inserts its argument, newest first. -/
def numbers : Meaning BackendError Unit (List Int64) where
  execute q := fun (_, d) =>
    match q.args with
    | [.int n] =>
      if n ∈ d then (.error (.database 2067 "UNIQUE constraint failed"), (), d)
      else (.ok 1, (), n :: d)
    | _ => (.error (.database 1 "no such table"), (), d)
  fetch _ := fun (_, d) => (.ok (d.map fun n => ⟨[("n", .int n)]⟩), (), d)
  begin _ := (.ok (), ())
  commit _ _ := (.ok (), ())
  control _ _ := (.ok (), ())

/-- The numbers as they are answered. -/
def numberStore : Store Unit (List Int64) := numbers.store

theorem numbers_refines (dl : Deadline) : numbers.engine.Refines dl numberStore .all id :=
  numbers.engine_refines dl

theorem numberStore_controlSucceeds : numberStore.ControlSucceeds where
  begin _ := rfl
  commit _ _ := rfl
  control _ _ := rfl

/-- Insert a number and go on. -/
def insertNumber (n : Int64) (next : Except Error Nat → Body π ε α) : Body π ε α :=
  .execute (.exec "INSERT INTO numbers (n) VALUES (?)" [.int n]) next

/-- Insert 1 and 5. What a failing savepoint inserts in between is not to stay. The answer has the
depth in the last savepoint and the depth after it. -/
def numbersBody : Body String Error (Nat × Nat) :=
  insertNumber 1 fun _ =>
  .savepoint id
    (insertNumber 2 fun _ =>
      .savepoint id (insertNumber 3 fun _ => .done (.error .timeout : Exit _ _ Unit)) fun _ =>
      .savepoint id (insertNumber 4 fun _ => .done (.panic "four" : Exit _ Error Unit)) fun _ =>
      insertNumber 1 fun inserted => .done (.ofExcept inserted)) fun _ =>
  .savepoint id (insertNumber 5 fun _ => .askDepth fun k => .done (.value k)) fun exit =>
  match exit with
  | .value inner => .askDepth fun outer => .done (.value (inner, outer))
  | .error cause => .done (.error cause)
  | .panic payload => .done (.panic payload)

theorem numbersBody_meaning :
    numbersBody.meaning numberStore 0 ((), []) = (.value (1, 0), (), [5, 1]) := by rfl

theorem transaction_commits_numbers :
    (numbers.engine.Refines .unbounded numberStore .all id ∧
      numberStore.ControlSucceeds ∧ numbersBody.Uses fun _ => True) ∧
    ∃ p' c', ((numbers.engine.executor .sqlite .unbounded).transaction id numbersBody.run).run
        ⟨some ((), .idle []), .ofPlugin ⟨.standard, false⟩, []⟩ = (.value (1, 0), p') ∧
      p'.connection = some c' ∧ c' = ((), .idle [5, 1]) := by
  refine ⟨⟨numbers_refines .unbounded, numberStore_controlSucceeds, numbersBody.uses_all⟩, ?_⟩
  have hkept := transaction_commits_meaning .sqlite
    (numbers_refines .unbounded) numberStore_controlSucceeds id numbersBody.uses_all
    (p := ⟨some ((), .idle []), .ofPlugin ⟨.standard, false⟩, []⟩) rfl rfl
  rw [numbersBody_meaning] at hkept
  exact hkept

end DataAccess.Access
