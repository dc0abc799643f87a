import DataAccess.Proofs.Number.Digits
import DataAccess.Proofs.Transaction.Body

/-!
# What bodies of transactions do

Savepoints of one depth share a name, and a savepoint that is rolled back to stays on the stack of
the engine, so marks of the same name pile up. Bodies get their effect all the same, on whatever
executor conducts itself like a database, and whichever releases fail:

* `savepoint_ends` — a savepoint goes back to its mark unless its body ends with a value, and leaves
  only marks of its own depth or deeper ones behind.
* `run_effect` — a body does what its effect is, by induction on the body.

A release fails if the engine refuses it, or if a deadline passes while the engine does it.
-/

namespace DataAccess.Access

open Number Sql Work

variable {σ ω δ π ε ε' α β : Type} {view : σ → ω × Phase δ}

/-! ## Marks -/

/-- The name of the savepoint number `n` from the outside. -/
def markName (n : Nat) : String := "conduit_sp_" ++ toString n

theorem markName_injective {m n : Nat} (h : markName m = markName n) : m = n := by
  have htext := congrArg String.toList ((String.append_right_inj _).mp h)
  rw [Nat.toString_eq_repr, Nat.toString_eq_repr, Nat.toList_repr, Nat.toList_repr] at htext
  calc m = natOfDigits (natText m) := (natOfDigits_natText m).symm
    _ = natOfDigits (natText n) := congrArg natOfDigits htext
    _ = n := natOfDigits_natText n

/-- Marks that savepoints inside `depth` others have left behind. -/
def Stale (depth : Nat) (marks : List (String × δ)) : Prop :=
  ∀ m ∈ marks, ∃ n, depth < n ∧ m.1 = markName n

theorem Stale.nil {depth : Nat} : Stale depth ([] : List (String × δ)) := by
  intro m hm
  cases hm

theorem Stale.append {depth : Nat} {ms ns : List (String × δ)} (hms : Stale depth ms)
    (hns : Stale depth ns) : Stale depth (ms ++ ns) := by
  intro m hm
  rcases List.mem_append.mp hm with hm | hm
  · exact hms m hm
  · exact hns m hm

theorem Stale.outer {depth : Nat} {marks : List (String × δ)} (h : Stale (depth + 1) marks) :
    Stale depth marks := by
  intro m hm
  obtain ⟨n, hn, hname⟩ := h m hm
  exact ⟨n, Nat.lt_of_succ_lt hn, hname⟩

/-- Stale marks of deeper savepoints do not hide a mark. -/
theorem marksFrom_stale {n : Nat} {stale marks : List (String × δ)} {d : δ} (h : Stale n stale) :
    marksFrom (markName n) (stale ++ (markName n, d) :: marks) = (markName n, d) :: marks := by
  induction stale with
  | nil => simp [marksFrom]
  | cons m rest ih =>
    obtain ⟨j, hj, hm⟩ := h m List.mem_cons_self
    -- A stale mark has the name of a deeper savepoint, so it is passed over.
    have hne : m.1 ≠ markName n := by
      intro heq
      have := markName_injective (hm.symm.trans heq)
      omega
    have hrest := ih fun m' hm' => h m' (List.mem_cons_of_mem m hm')
    simpa [marksFrom, hne] using hrest

/-! ## What an executor does -/

/-- How the release of a savepoint ends. -/
inductive Release where
  | done
  /-- The mark is still there. -/
  | refused (cause : Error)
  /-- The mark is gone, but nobody waited for the answer. -/
  | late (cause : Error)

/-- The answer of a release. -/
def Release.answer : Release → Except Error Unit
  | done => .ok ()
  | refused cause => .error cause
  | late cause => .error cause

/-- How a savepoint ends whose body has ended with a value. -/
def Release.exit (r : Release) (ofError : Error → ε) (a : α) : Exit π ε α :=
  match r with
  | done => .value a
  | refused cause => .error (ofError cause)
  | late cause => .error (ofError cause)

/-- The marks after a release, of those without the mark and those with it. -/
def Release.marks (r : Release) (gone kept : List (String × δ)) : List (String × δ) :=
  match r with
  | done => gone
  | refused _ => kept
  | late _ => gone

/-- What statements on data of type `δ` do in a world of type `ω`. Setting a mark and rolling back
to one never fail. -/
structure Conduct (ω δ : Type) where
  execute : Statement → ω × δ → Except Error Nat × ω × δ
  fetch : Statement → ω × δ → Except Error (List Record) × ω × δ
  mark : String → ω → ω
  restore : String → ω → ω
  release : String → ω → Release × ω
  /-- Whether a transaction that began on some data is committed. -/
  commit : δ → ω × δ → Except Error Unit × ω

/-- In a transaction an executor does what a conduct says. -/
structure Executor.Follows (x : Executor (Work σ)) (C : Conduct ω δ) (covered : Statement → Prop)
    (view : σ → ω × Phase δ) : Prop where
  execute : ∀ {q p w s d ms}, covered q → p.Shows view (w, .inside s d ms) →
    Ends view (x.session.execute q) p (C.execute q (w, d)).1
      ((C.execute q (w, d)).2.1, .inside s (C.execute q (w, d)).2.2 ms)
  fetch : ∀ {q p w s d ms}, covered q → p.Shows view (w, .inside s d ms) →
    Ends view (x.session.fetch q) p (C.fetch q (w, d)).1
      ((C.fetch q (w, d)).2.1, .inside s (C.fetch q (w, d)).2.2 ms)
  mark : ∀ {n p w s d ms}, p.Shows view (w, .inside s d ms) →
    Ends view (x.control (.savepoint n)) p (.ok ()) (C.mark n w, .inside s d ((n, d) :: ms))
  restore : ∀ {n p w s d ms d' rest}, marksFrom n ms = (n, d') :: rest →
    p.Shows view (w, .inside s d ms) →
    Ends view (x.control (.rollbackTo n)) p (.ok ())
      (C.restore n w, .inside s d' ((n, d') :: rest))
  release : ∀ {n p w s d ms d' rest}, marksFrom n ms = (n, d') :: rest →
    p.Shows view (w, .inside s d ms) →
    Ends view (x.control (.release n)) p (C.release n w).1.answer
      ((C.release n w).2, .inside s d ((C.release n w).1.marks rest ms))
  commit : ∀ {p w s d ms}, (C.commit s (w, d)).1 = .ok () → p.Shows view (w, .inside s d ms) →
    Ends view x.commit p (.ok ()) ((C.commit s (w, d)).2, .idle d)

/-! ## What a body does -/

namespace Conduct

variable (C : Conduct ω δ)

/-- How a savepoint ends after its body, given the data when it was set. A body that ends with a
value has done what it did, also if it answers an error because of its release. -/
def finish (ofError : Error → ε) (name : String) (old : δ) :
    Exit π ε α × ω × δ → Exit π ε α × ω × δ
  | (.value a, w, d) => ((C.release name w).1.exit ofError a, (C.release name w).2, d)
  | (.error cause, w, _) => (.error cause, C.restore name w, old)
  | (.panic payload, w, _) => (.panic payload, C.restore name w, old)

end Conduct

/-- What a body inside `depth` savepoints does to the world and the data. -/
def Body.effect (C : Conduct ω δ) {ε α : Type} :
    Body π ε α → (depth : Nat) → ω × δ → Exit π ε α × ω × δ
  | .done exit, _, now => (exit, now)
  | .execute q next, depth, now =>
    (next (C.execute q now).1).effect C depth (C.execute q now).2
  | .fetch q next, depth, now => (next (C.fetch q now).1).effect C depth (C.fetch q now).2
  | .askDepth next, depth, now => (next depth).effect C depth now
  | .savepoint ofError inner next, depth, now =>
    let name := markName (depth + 1)
    let r := C.finish ofError name now.2 (inner.effect C (depth + 1) (C.mark name now.1, now.2))
    (next r.1).effect C depth r.2

section

variable {x : Executor (Work σ)} {C : Conduct ω δ} {covered : Statement → Prop}

theorem rollbackTo_ends (h : x.Follows C covered view) {depth : Nat} {name : String} {w : ω}
    {s d d' : δ} {ms rest : List (String × δ)} {p : Pooled σ}
    (hmark : marksFrom name ms = (name, d') :: rest) (hp : p.Shows view (w, .inside s d ms)) :
    Ends view (Transaction.rollbackTo ⟨x, depth⟩ name) p ()
      (C.restore name w, .inside s d' ((name, d') :: rest)) :=
  (h.restore hmark hp).bind fun _ _ hp₁ => .pure hp₁

/-- One savepoint, given what its body does. Besides the marks of the body it leaves at most its
own. -/
theorem savepoint_ends (h : x.Follows C covered view) (ofError : Error → ε) {depth : Nat}
    {body : Transaction (Work σ) → Work σ (Exit π ε α)} {w : ω} {s d : δ}
    {ms : List (String × δ)} {p : Pooled σ} {r : Exit π ε α × ω × δ}
    (hp : p.Shows view (w, .inside s d ms))
    (hbody : ∀ p', p'.Shows view
        (C.mark (markName (depth + 1)) w, .inside s d ((markName (depth + 1), d) :: ms)) →
      ∃ stale, Stale (depth + 1) stale ∧ Ends view (body ⟨x, depth + 1⟩) p' r.1
        (r.2.1, .inside s r.2.2 (stale ++ (markName (depth + 1), d) :: ms))) :
    ∃ stale, Stale depth stale ∧
      Ends view (Transaction.savepoint ⟨x, depth⟩ ofError body) p
        (C.finish ofError (markName (depth + 1)) d r).1
        ((C.finish ofError (markName (depth + 1)) d r).2.1,
          .inside s (C.finish ofError (markName (depth + 1)) d r).2.2 (stale ++ ms)) := by
  obtain ⟨p₁, hrun₁, hle₁, hp₁⟩ := h.mark (n := markName (depth + 1)) hp
  obtain ⟨stale, hstale, hend⟩ := hbody p₁ hp₁
  have hmark : marksFrom (markName (depth + 1)) (stale ++ (markName (depth + 1), d) :: ms) =
      (markName (depth + 1), d) :: ms := marksFrom_stale hstale
  have hown : Stale depth [(markName (depth + 1), d)] := by
    intro m hm
    exact ⟨depth + 1, Nat.lt_succ_self depth, by rw [List.mem_singleton.mp hm]⟩
  obtain ⟨exit, w', d'⟩ := r
  cases exit with
  | value a =>
    -- What is left above the older marks depends on how the release ends.
    obtain ⟨stale', hstale', hmarks⟩ : ∃ stale', Stale depth stale' ∧
        (C.release (markName (depth + 1)) w').1.marks ms
          (stale ++ (markName (depth + 1), d) :: ms) = stale' ++ ms := by
      cases (C.release (markName (depth + 1)) w').1 with
      | done => exact ⟨[], .nil, rfl⟩
      | refused cause => exact ⟨_, hstale.outer.append hown, by simp [Release.marks]⟩
      | late cause => exact ⟨[], .nil, rfl⟩
    refine ⟨stale', hstale', .after hrun₁ hle₁ (hend.bind fun p₂ _ hp₂ => ?_)⟩
    have hreleased := h.release hmark hp₂
    rw [hmarks] at hreleased
    refine hreleased.bind fun p₃ _ hp₃ => ?_
    dsimp only [Conduct.finish]
    cases (C.release (markName (depth + 1)) w').1 with
    | done => exact .pure hp₃
    | refused cause => exact .pure hp₃
    | late cause => exact .pure hp₃
  | error cause =>
    refine ⟨_, hown, .after hrun₁ hle₁ (hend.bind fun p₂ _ hp₂ => ?_)⟩
    exact (rollbackTo_ends h hmark hp₂).bind fun _ _ hp₃ => .pure hp₃
  | panic payload =>
    refine ⟨_, hown, .after hrun₁ hle₁ (hend.bind fun p₂ _ hp₂ => ?_)⟩
    exact (rollbackTo_ends h hmark hp₂).bind fun _ _ hp₃ => .pure hp₃

/-- A body does what its effect is, whichever releases fail. Below the marks that it leaves, those
that were there before are as they were. -/
theorem run_effect (h : x.Follows C covered view) (f : Body π ε α) :
    ∀ {depth : Nat} {w : ω} {s d : δ} {ms : List (String × δ)} {p : Pooled σ},
      f.Uses covered → p.Shows view (w, .inside s d ms) →
      ∃ stale, Stale depth stale ∧
        Ends view (f.run ⟨x, depth⟩) p (f.effect C depth (w, d)).1
          ((f.effect C depth (w, d)).2.1,
            .inside s (f.effect C depth (w, d)).2.2 (stale ++ ms)) := by
  induction f with
  | done exit =>
    intro depth w s d ms p _ hp
    exact ⟨[], .nil, .pure hp⟩
  | execute q next ih =>
    intro depth w s d ms p hf hp
    obtain ⟨p₁, hrun, hle, hp₁⟩ := h.execute hf.1 hp
    obtain ⟨stale, hstale, hend⟩ := ih _ (hf.2 _) hp₁
    exact ⟨stale, hstale, .after hrun hle hend⟩
  | fetch q next ih =>
    intro depth w s d ms p hf hp
    obtain ⟨p₁, hrun, hle, hp₁⟩ := h.fetch hf.1 hp
    obtain ⟨stale, hstale, hend⟩ := ih _ (hf.2 _) hp₁
    exact ⟨stale, hstale, .after hrun hle hend⟩
  | askDepth next ih =>
    intro depth w s d ms p hf hp
    exact ih depth (hf depth) hp
  | savepoint ofError inner next ihInner ihNext =>
    intro depth w s d ms p hf hp
    obtain ⟨stale, hstale, p₁, hrun, hle, hp₁⟩ :=
      savepoint_ends h ofError hp fun p' hp' => ihInner hf.1 hp'
    obtain ⟨above, habove, hend⟩ := ihNext _ (hf.2 _) hp₁
    refine ⟨above ++ stale, habove.append hstale, .after hrun hle ?_⟩
    rw [List.append_assoc]
    exact hend

end

/-! ## Engines -/

/-- Marks are set and rolled back to without failing. -/
structure Store.MarksSucceed (S : Store ω δ) : Prop where
  savepoint : ∀ n w, (S.control (.savepoint n) w).1 = .ok ()
  rollbackTo : ∀ n w, (S.control (.rollbackTo n) w).1 = .ok ()

/-- What an executor does on an engine that keeps the data of a store. -/
def Store.conduct (S : Store ω δ) : Conduct ω δ where
  execute := S.execute
  fetch := S.fetch
  mark n w := (S.control (.savepoint n) w).2
  restore n w := (S.control (.rollbackTo n) w).2
  release n w :=
    match (S.control (.release n) w).1 with
    | .ok () => (.done, (S.control (.release n) w).2)
    | .error cause => (.refused cause, (S.control (.release n) w).2)
  commit := S.commit

theorem Engine.Refines.follows {e : Engine σ} {S : Store ω δ} {covered : Coverage}
    {dl : Deadline} (driver : Driver) (h : e.Refines dl S covered view) (hS : S.MarksSucceed) :
    (e.executor driver dl).Follows S.conduct covered.inside view where
  execute hq hp := h.execute_inside_ends driver hq hp
  fetch hq hp := h.fetch_inside_ends driver hq hp
  mark {n} {p} {w} {s} {d} {ms} hp := by
    have hset := h.control_ends driver (k := .savepoint n) rfl hp
    rw [hS.savepoint] at hset
    exact hset
  restore {n} {p} {w} {s} {d} {ms} {d'} {rest} hmark hp := by
    have hact : Control.act d ms (.rollbackTo n) = some (d', (n, d') :: rest) := by
      simp only [Control.act, hmark]
    have hback := h.control_ends driver hact hp
    rw [hS.rollbackTo] at hback
    exact hback
  release {n} {p} {w} {s} {d} {ms} {d'} {rest} hmark hp := by
    have hact : Control.act d ms (.release n) = some (d, rest) := by
      simp only [Control.act, hmark]
    have hdone := h.control_ends driver hact hp
    unfold Store.conduct
    dsimp only
    cases hanswer : (S.control (.release n) w).1 with
    | ok _ =>
      rw [hanswer] at hdone
      exact hdone
    | error cause =>
      rw [hanswer] at hdone
      exact hdone
  commit {p} {w} {s} {d} {ms} hcommit hp := by
    obtain ⟨c, hc, hv⟩ := hp
    obtain ⟨hanswer, hworld, hphase⟩ := h.commit hv
    have hend : Ends view (e.executor driver dl).commit p _ _ :=
      onConnection_run hc (e.commit.under dl)
    change (S.commit s (w, d)).1 = .ok () at hcommit
    rw [hcommit, whenOk_ok] at hphase
    rw [hanswer, hcommit, ← Prod.eta (view _), hworld, hphase] at hend
    exact hend

end DataAccess.Access
