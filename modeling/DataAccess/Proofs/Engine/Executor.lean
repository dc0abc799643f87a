import DataAccess.Proofs.Engine.Store

/-!
# Executors over a store

An executor adds to an engine that statements are observed and that all work runs under a deadline.
Observing does not show in the data: on an engine that keeps the data of a store under the deadline,
every operation of the executor does to the data what the store says. `Work.Ends` states what one
piece of work does, and the lemmas here give it for each operation of an executor, up to a whole
transaction (`Engine.Refines.transaction_of_body`).
-/

namespace DataAccess.Access

open Observation Sql

variable {σ ω δ α β π ε : Type} {view : σ → ω × Phase δ}

/-- A pool whose connection shows as `v`. -/
def Pooled.Shows (view : σ → ω × Phase δ) (p : Pooled σ) (v : ω × Phase δ) : Prop :=
  ∃ c, p.connection = some c ∧ view c = v

/-- A connection shows as one thing only. -/
theorem Pooled.Shows.unique {p : Pooled σ} {v v' : ω × Phase δ} (h : p.Shows view v)
    (h' : p.Shows view v') : v = v' := by
  obtain ⟨c, hc, rfl⟩ := h
  obtain ⟨c', hc', rfl⟩ := h'
  rw [hc, Option.some.injEq] at hc'
  rw [hc']

/-- Work on a pool answers `a` and leaves a connection that shows as `v`. Meanwhile the clock does
not go back. -/
def Work.Ends (view : σ → ω × Phase δ) (work : Work σ α) (p : Pooled σ) (a : α)
    (v : ω × Phase δ) : Prop :=
  ∃ p', work.run p = (a, p') ∧ p.observer.now ≤ p'.observer.now ∧ p'.Shows view v

namespace Work

variable {p : Pooled σ} {a : α} {b : β} {v v' : ω × Phase δ}

theorem Ends.pure (h : p.Shows view v) : Ends view (pure a : Work σ α) p a v :=
  ⟨p, rfl, Nat.le_refl _, h⟩

theorem run_after {work : Work σ α} {next : α → Work σ β} {p₁ : Pooled σ}
    (hrun : work.run p = (a, p₁)) : (work >>= next).run p = (next a).run p₁ := by
  rw [StateT.run_bind, hrun]
  rfl

theorem Ends.after {work : Work σ α} {next : α → Work σ β} {p₁ : Pooled σ}
    (hrun : work.run p = (a, p₁)) (hle : p.observer.now ≤ p₁.observer.now)
    (h : Ends view (next a) p₁ b v) : Ends view (work >>= next) p b v := by
  obtain ⟨p₂, hrun₂, hle₂, hp₂⟩ := h
  exact ⟨p₂, (run_after hrun).trans hrun₂, Nat.le_trans hle hle₂, hp₂⟩

theorem Ends.bind {work : Work σ α} {next : α → Work σ β} (h : Ends view work p a v)
    (hnext : ∀ p', p.observer.now ≤ p'.observer.now → p'.Shows view v →
      Ends view (next a) p' b v') :
    Ends view (work >>= next) p b v' := by
  obtain ⟨p₁, hrun, hle, hp₁⟩ := h
  exact .after hrun hle (hnext p₁ hle hp₁)

theorem Ends.map {work : Work σ α} (f : α → β) (h : Ends view work p a v) :
    Ends view (do return f (← work)) p (f a) v :=
  h.bind fun _ _ hp => .pure hp

theorem eq_ok_of_toOption {α β : Type} {r : Except Error α × β} {a : α}
    (h : r.1.toOption = some a) : r = (.ok a, r.2) := by
  rcases r with ⟨_ | b, s⟩
  · cases h
  · cases h
    rfl

/-! ## The layers of an executor -/

theorem onConnection_run {c : σ} (hc : p.connection = some c)
    (work : StateM σ (Except Error α)) :
    Ends view (onConnection work) p (work.run c).1 (view (work.run c).2) := by
  refine ⟨{ p with connection := some (work.run c).2 }, ?_, Nat.le_refl _, _, rfl, rfl⟩
  simp only [onConnection, StateT.run_bind, StateT.run_get, pure_bind, hc]
  rfl

theorem onConnection_ends {work : StateM σ (Except Error α)} {a : Except Error α}
    (hp : p.Shows view v) (h : Answers view v work a v') :
    Ends view (onConnection work) p a v' := by
  obtain ⟨c, hc, hv⟩ := hp
  obtain ⟨rfl, rfl⟩ := h c hv
  exact onConnection_run hc work

/-! An observer is looked at as a whole: its clock is ahead by a large number literal after every
step, which is not to be unfolded. -/

theorem now_le_before (o : Observer) (s : Statement) : o.now ≤ (o.before s).2.now := by
  have h : (o.before s).2.now = o.now + Observer.tick := by
    simp only [Observer.before, Observer.pass, Observer.report]
  rw [h]
  exact Nat.le_add_right _ _

theorem now_le_after (o : Observer) (s : Statement) (guard : Option Guard) (r : Option Error) :
    o.now ≤ (o.after s guard r).now := by
  have h : (o.after s guard r).now = o.now + Observer.tick := by
    simp only [Observer.after, Observer.pass, Observer.report]
  rw [h]
  exact Nat.le_add_right _ _

theorem before_ends {s : Statement} (hp : p.Shows view v) :
    Ends view (before s) p (p.observer.before s).1 v := by
  have hle := now_le_before p.observer s
  unfold before
  generalize ho : p.observer.before s = o at hle
  refine ⟨{ p with observer := o.2 }, ?_, hle, hp⟩
  simp only [StateT.run_bind, StateT.run_get, pure_bind, ho]
  rfl

theorem modify_ends {f : Pooled σ → Pooled σ} (hp : p.Shows view v)
    (hle : p.observer.now ≤ (f p).observer.now) (hc : (f p).connection = p.connection) :
    Ends view (modify f : Work σ Unit) p () v := by
  obtain ⟨c, hpc, hv⟩ := hp
  exact ⟨f p, rfl, hle, c, hc.trans hpc, hv⟩

theorem after_ends {s : Statement} {guard : Option Guard} {r : Except Error α}
    (hp : p.Shows view v) : Ends view (after s guard r) p () v :=
  modify_ends hp (now_le_after _ _ _ _) rfl

/-- Observing a statement reads the clock and leaves the connection alone. -/
theorem observed_ends {s : Statement} {work : Work σ (Except Error α)} {a : Except Error α}
    (hp : p.Shows view v) (h : ∀ p', p'.Shows view v → Ends view work p' a v') :
    Ends view (observed s work) p a v' :=
  (before_ends hp).bind fun p₁ _ hp₁ => (h p₁ hp₁).bind fun _ _ hp₂ =>
    (after_ends hp₂).bind fun _ _ hp₃ => .pure hp₃

end Work

namespace Engine.Refines

open Work

variable {e : Engine σ} {S : Store ω δ} {covered : Coverage}
variable (driver : Driver) {dl : Deadline} {p : Pooled σ} {w : ω} {s d : δ}
variable {ms : List (String × δ)} {q : Statement}

/-! ## Statements -/

theorem execute_inside_ends (h : e.Refines dl S covered view) (hq : covered.inside q)
    (hp : p.Shows view (w, .inside s d ms)) :
    Ends view ((e.executor driver dl).session.execute q) p (S.execute q (w, d)).1
      ((S.execute q (w, d)).2.1, .inside s (S.execute q (w, d)).2.2 ms) :=
  observed_ends hp fun _ hp' => onConnection_ends hp' (h.execute_inside hq)

theorem fetch_inside_ends (h : e.Refines dl S covered view) (hq : covered.inside q)
    (hp : p.Shows view (w, .inside s d ms)) :
    Ends view ((e.executor driver dl).session.fetch q) p (S.fetch q (w, d)).1
      ((S.fetch q (w, d)).2.1, .inside s (S.fetch q (w, d)).2.2 ms) :=
  observed_ends hp fun _ hp' => onConnection_ends hp' (h.fetch_inside hq)

theorem execute_alone_ends (h : e.Refines dl S covered view) (hq : covered.alone q)
    (hp : p.Shows view (w, .idle d)) :
    Ends view ((e.executor driver dl).session.execute q) p (S.execute q (w, d)).1
      ((S.execute q (w, d)).2.1,
        .idle (whenOk (S.execute q (w, d)).1 (S.execute q (w, d)).2.2 d)) :=
  observed_ends hp fun _ hp' => onConnection_ends hp' (h.execute_alone hq)

theorem fetch_alone_ends (h : e.Refines dl S covered view) (hq : covered.alone q)
    (hp : p.Shows view (w, .idle d)) :
    Ends view ((e.executor driver dl).session.fetch q) p (S.fetch q (w, d)).1
      ((S.fetch q (w, d)).2.1,
        .idle (whenOk (S.fetch q (w, d)).1 (S.fetch q (w, d)).2.2 d)) :=
  observed_ends hp fun _ hp' => onConnection_ends hp' (h.fetch_alone hq)

/-! ## Control -/

theorem control_ends (h : e.Refines dl S covered view) {k : Control} {d' : δ}
    {ms' : List (String × δ)} (hk : k.act d ms = some (d', ms'))
    (hp : p.Shows view (w, .inside s d ms)) :
    Ends view ((e.executor driver dl).control k) p (S.control k w).1
      ((S.control k w).2, whenOk (S.control k w).1 (.inside s d' ms') (.inside s d ms)) :=
  onConnection_ends hp (h.control hk)

theorem begin_ends (h : e.Refines dl S covered view) (hp : p.Shows view (w, .idle d)) :
    Ends view (e.executor driver dl).begin p (S.begin w).1
      ((S.begin w).2, whenOk (S.begin w).1 (.inside d d []) (.idle d)) :=
  onConnection_ends hp h.begin

theorem open_ends (h : e.Refines dl S covered view) (hp : p.Shows view (w, .idle d)) :
    Ends view (e.executor driver dl).openTransaction p
      ((S.begin w).1.map fun () => ⟨e.executor driver dl, 0⟩)
      ((S.begin w).2, whenOk (S.begin w).1 (.inside d d []) (.idle d)) :=
  (h.begin_ends driver hp).bind fun _ _ hp₁ => .pure hp₁

theorem now_run : (e.executor driver dl).now.run p = (p.observer.now, p) := rfl

theorem warn_ends {v : ω × Phase δ} {n : Notice} (hp : p.Shows view v) :
    Ends view ((e.executor driver dl).warn n) p () v :=
  modify_ends hp (Nat.le_refl _) rfl

/-! ## The end of a transaction -/

theorem rollback_ends (h : e.Refines dl S covered view) {phase : Phase δ}
    (hp : p.Shows view (w, phase)) :
    ∃ r phase', Ends view (e.executor driver dl).rollback p r (w, phase') ∧
      phase'.base = phase.base ∧ (r = .ok () → phase' = .idle phase.base) := by
  obtain ⟨c, hc, hv⟩ := hp
  obtain ⟨hworld, hbase, hphase⟩ := h.rollback c
  have hback : Ends view (e.executor driver dl).rollback p _ _ :=
    onConnection_run hc (e.rollback.under dl)
  rw [hv] at hworld hbase hphase
  rw [← Prod.eta (view _), hworld] at hback
  exact ⟨_, _, hback, hbase, hphase⟩

theorem abandon_ends (h : e.Refines dl S covered view) {phase : Phase δ}
    (hp : p.Shows view (w, phase)) :
    Ends view (e.executor driver dl).abandon p () (w, .idle phase.base) := by
  obtain ⟨c, hc, hv⟩ := hp
  have hback : Ends view (within .unbounded e.rollback) p _ _ :=
    onConnection_run hc (e.rollback.under .unbounded)
  rw [h.abandon c, hv] at hback
  exact hback.bind fun _ _ hp₁ => .pure hp₁

/-- A rollback that fails is given up, and the transaction is undone all the same. -/
theorem undo_ends (h : e.Refines dl S covered view) {phase : Phase δ} {notice : Error → Notice}
    (hp : p.Shows view (w, phase)) :
    Ends view ((e.executor driver dl).undo notice) p () (w, .idle phase.base) := by
  obtain ⟨r, phase', hr, hbase, hphase⟩ := h.rollback_ends driver hp
  have hgiven : Ends view (e.executor driver dl).rollbackOrAbandon p r (w, .idle phase.base) := by
    refine hr.bind fun p₁ _ hp₁ => ?_
    cases r with
    | ok _ =>
      rw [hphase rfl] at hp₁
      exact .pure hp₁
    | error cause =>
      rw [← hbase]
      exact (h.abandon_ends driver hp₁).bind fun _ _ hp₂ => .pure hp₂
  refine hgiven.bind fun p₁ _ hp₁ => ?_
  cases r with
  | ok _ => exact .pure hp₁
  | error cause => exact warn_ends driver hp₁

theorem commitOrAbandon_ends (h : e.Refines dl S covered view)
    (hp : p.Shows view (w, .inside s d ms)) :
    Ends view (e.executor driver dl).commitOrAbandon p
      (S.commit s (w, d)).1
      ((S.commit s (w, d)).2, .idle (whenOk (S.commit s (w, d)).1 d s)) := by
  obtain ⟨c, hc, hv⟩ := hp
  obtain ⟨hanswer, hworld, hphase⟩ := h.commit hv
  -- A commit that fails may leave any phase; what counts is the data that undoing it leaves.
  have hcommit : Ends view (e.executor driver dl).commit p _ _ :=
    onConnection_run hc (e.commit.under dl)
  rw [hanswer, ← Prod.eta (view _), hworld] at hcommit
  refine hcommit.bind fun p₁ _ hp₁ => ?_
  cases hr : (S.commit s (w, d)).1 with
  | ok _ =>
    rw [hr, whenOk_ok] at hphase
    rw [hphase] at hp₁
    exact .pure hp₁
  | error cause =>
    rw [hr, whenOk_error] at hphase
    refine (h.abandon_ends driver hp₁).bind fun p₂ _ hp₂ => ?_
    rw [hphase] at hp₂
    exact .pure hp₂

end Engine.Refines

namespace Store

/-- What a transaction that began on some data comes to after its body. -/
def settle (S : Store ω δ) (ofError : Error → ε) (start : δ) (exit : Exit π ε α) (now : ω × δ) :
    Exit π ε α × ω × δ :=
  match exit with
  | .value a =>
    match S.commit start now with
    | (.ok (), w) => (.value a, w, now.2)
    | (.error e, w) => (.error (ofError e), w, start)
  | .error e => (.error e, now.1, start)
  | .panic p => (.panic p, now.1, start)

/-- What a transaction comes to whose body does `body`. -/
def transaction (S : Store ω δ) (ofError : Error → ε) (body : ω × δ → Exit π ε α × ω × δ)
    (before : ω × δ) : Exit π ε α × ω × δ :=
  match S.begin before.1 with
  | (.ok (), w) => S.settle ofError before.2 (body (w, before.2)).1 (body (w, before.2)).2
  | (.error e, w) => (.error (ofError e), w, before.2)

end Store

namespace Engine.Refines

open Work

variable {e : Engine σ} {S : Store ω δ} {covered : Coverage}
variable (driver : Driver) {dl : Deadline} {p : Pooled σ} {w : ω} {s d : δ}
variable {ms : List (String × δ)} (ofError : Error → ε)

theorem settle_ends (h : e.Refines dl S covered view) {exit : Exit π ε α}
    (hp : p.Shows view (w, .inside s d ms)) :
    Ends view ((e.executor driver dl).settle ofError exit) p (S.settle ofError s exit (w, d)).1
      ((S.settle ofError s exit (w, d)).2.1, .idle (S.settle ofError s exit (w, d)).2.2) := by
  cases exit with
  | value a =>
    refine (h.commitOrAbandon_ends driver hp).bind fun p₁ _ hp₁ => ?_
    unfold Store.settle
    rcases hr : S.commit s (w, d) with ⟨r, w'⟩
    rw [hr] at hp₁
    cases r with
    | ok _ => exact .pure hp₁
    | error cause => exact .pure hp₁
  | error cause => exact (h.undo_ends driver hp).bind fun p₁ _ hp₁ => .pure hp₁
  | panic payload => exact (h.undo_ends driver hp).bind fun p₁ _ hp₁ => .pure hp₁

/-- A transaction that does not begin does nothing. -/
theorem transaction_not_begun (h : e.Refines dl S covered view) {cause : Error} {w' : ω}
    (body : Transaction (Work σ) → Work σ (Exit π ε α)) (hbegin : S.begin w = (.error cause, w'))
    (hp : p.Shows view (w, .idle d)) :
    Ends view ((e.executor driver dl).transaction ofError body) p
      (.error (ofError cause)) (w', .idle d) := by
  have hopen := h.open_ends driver hp
  rw [hbegin] at hopen
  exact hopen.bind fun _ _ hp₁ => .pure hp₁

/-- A transaction that begins runs its body on some pool, and then settles what the body did. -/
theorem transaction_of_body (h : e.Refines dl S covered view) {w' : ω}
    (body : Transaction (Work σ) → Work σ (Exit π ε α)) (hbegin : S.begin w = (.ok (), w'))
    (hp : p.Shows view (w, .idle d)) :
    ∃ p₁, p.observer.now ≤ p₁.observer.now ∧ p₁.Shows view (w', .inside d d []) ∧
      ∀ {exit : Exit π ε α} {now : ω × δ} {ms : List (String × δ)},
        Ends view (body ⟨e.executor driver dl, 0⟩) p₁ exit (now.1, .inside d now.2 ms) →
        Ends view ((e.executor driver dl).transaction ofError body) p
          (S.settle ofError d exit now).1
          ((S.settle ofError d exit now).2.1, .idle (S.settle ofError d exit now).2.2) := by
  obtain ⟨p₁, hrun, hle, hp₁⟩ := h.open_ends driver hp
  rw [hbegin] at hrun hp₁
  refine ⟨p₁, hle, hp₁, fun {exit now ms} hbody => ?_⟩
  exact .after hrun hle (hbody.bind fun _ _ hp₂ => h.settle_ends driver ofError hp₂)

end Engine.Refines

end DataAccess.Access
