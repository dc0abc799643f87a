import DataAccess.Proofs.Migration.History

/-!
# One migration, one transaction

Applying a migration runs its script and records it in one transaction, and undoing one runs its
other script and forgets it. `Store.atomically` is what a transaction does to the data of a store
when its body cannot panic: everything the body did, or nothing.

* `applyOne_ends` — applying a migration has the outcome of an `Attempt`.
* `Attempt.error_of_recorded` — an attempt at a recorded version fails.
* `undoOne_ends` — undoing a migration has the outcome of `undoOutcome`.
-/

namespace DataAccess.Access

open Calendar Observation Sql Work

variable {σ ω δ α : Type} {view : σ → ω × Phase δ}

/-! ## Transactions whose body cannot panic -/

/-- What a transaction comes to whose body does `body` and cannot panic. -/
def Store.atomically (S : Store ω δ) (body : ω × δ → Except Error α × ω × δ)
    (before : ω × δ) : Except Error α × ω × δ :=
  let r := S.transaction (π := Empty) id (fun now => (.ofExcept (body now).1, (body now).2)) before
  (r.1.toExcept, r.2)

/-- A transaction has begun, done its body and been committed, or it fails and leaves the data as
they were. -/
theorem Store.atomically_cases (S : Store ω δ) (body : ω × δ → Except Error α × ω × δ) (w : ω)
    (d : δ) :
    (∃ a w₁ w₂ w' d', S.begin w = (.ok (), w₁) ∧ body (w₁, d) = (.ok a, w₂, d') ∧
      S.commit d (w₂, d') = (.ok (), w') ∧ S.atomically body (w, d) = (.ok a, w', d')) ∨
    ∃ cause w', S.atomically body (w, d) = (.error cause, w', d) := by
  unfold atomically transaction
  rcases S.begin w with ⟨_ | _, w₁⟩
  · exact .inr ⟨_, _, rfl⟩
  · rcases hbody : body (w₁, d) with ⟨_ | a, w₂, d₂⟩
    · simp only [hbody]
      exact .inr ⟨_, _, rfl⟩
    · simp only [hbody, Exit.ofExcept, settle]
      rcases hcommit : S.commit d (w₂, d₂) with ⟨_ | _, w₃⟩
      · exact .inr ⟨_, _, rfl⟩
      · exact .inl ⟨a, w₁, w₂, w₃, d₂, rfl, hbody, hcommit, rfl⟩

/-- A transaction succeeds just when it begins, its body succeeds and it is committed. Then the data
are those of the body. -/
theorem Store.atomically_ok {S : Store ω δ} {body : ω × δ → Except Error α × ω × δ} {w w' : ω}
    {d d' : δ} {a : α} :
    S.atomically body (w, d) = (.ok a, w', d') ↔
      ∃ w₁ w₂, S.begin w = (.ok (), w₁) ∧ body (w₁, d) = (.ok a, w₂, d') ∧
        S.commit d (w₂, d') = (.ok (), w') := by
  constructor
  · intro hdone
    rcases S.atomically_cases body w d with
      ⟨b, w₁, w₂, w₃, d₃, hbegin, hbody, hcommit, heq⟩ | ⟨cause, w₃, heq⟩
    · cases heq.symm.trans hdone
      exact ⟨w₁, w₂, hbegin, hbody, hcommit⟩
    · cases heq.symm.trans hdone
  · rintro ⟨w₁, w₂, hbegin, hbody, hcommit⟩
    simp only [atomically, transaction, hbegin, hbody, Exit.ofExcept, settle, hcommit,
      Exit.toExcept]

/-- A transaction that fails leaves the data as they were. -/
theorem Store.atomically_error {S : Store ω δ} {body : ω × δ → Except Error α × ω × δ} {w w' : ω}
    {d d' : δ} {cause : Error} (h : S.atomically body (w, d) = (.error cause, w', d')) :
    d' = d := by
  rcases S.atomically_cases body w d with ⟨_, _, _, _, _, -, -, -, heq⟩ | ⟨cause', w₁, heq⟩
  · cases heq.symm.trans h
  · cases heq.symm.trans h
    rfl

namespace Migrator

variable {S : Store ω δ} {driver : Driver} {H : HistoryView δ} {d : δ} {e : Engine σ}
variable {covered : Coverage} {dl : Deadline} {ms : List Migration} {p : Pooled σ} {w : ω}

/-- A transaction that begins runs its body on some pool, and is then committed or undone. -/
theorem inTransaction_of_body (driver : Driver) (h : e.Refines dl S covered view) {w' : ω}
    (body : Transaction (Work σ) → Work σ (Except Error α)) (hbegin : S.begin w = (.ok (), w'))
    (hp : p.Shows view (w, .idle d)) :
    ∃ p₁, p.observer.now ≤ p₁.observer.now ∧ p₁.Shows view (w', .inside d d []) ∧
      ∀ {meant : ω × δ → Except Error α × ω × δ},
        Ends view (body ⟨e.executor driver dl, 0⟩) p₁ (meant (w', d)).1
          ((meant (w', d)).2.1, .inside d (meant (w', d)).2.2 []) →
        Ends view (inTransaction (e.executor driver dl) body) p (S.atomically meant (w, d)).1
          ((S.atomically meant (w, d)).2.1, .idle (S.atomically meant (w, d)).2.2) := by
  obtain ⟨p₁, hle, hp₁, hsettled⟩ :=
    h.transaction_of_body driver id (π := Empty) (fun t => do return .ofExcept (← body t))
      hbegin hp
  refine ⟨p₁, hle, hp₁, fun {meant} hbody => ?_⟩
  have hdone := hsettled (hbody.map Exit.ofExcept)
  simp only [Store.atomically, Store.transaction, hbegin]
  exact hdone.map Exit.toExcept

/-- A transaction that does not begin fails. -/
theorem inTransaction_not_begun (h : e.Refines dl S covered view) {cause : Error} {w' : ω}
    {body : Transaction (Work σ) → Work σ (Except Error α)}
    (hbegin : S.begin w = (.error cause, w')) (meant : ω × δ → Except Error α × ω × δ)
    (hp : p.Shows view (w, .idle d)) :
    Ends view (inTransaction (e.executor driver dl) body) p (S.atomically meant (w, d)).1
      ((S.atomically meant (w, d)).2.1, .idle (S.atomically meant (w, d)).2.2) := by
  have hdone := h.transaction_not_begun driver id (π := Empty)
    (fun t => do return .ofExcept (← body t)) hbegin hp
  simp only [Store.atomically, Store.transaction, hbegin]
  exact hdone.map Exit.toExcept

/-! ## Applying a migration -/

/-- An attempt at a migration: when it is started, and how long its script takes. -/
structure Attempt where
  migration : Migration
  started : Time
  millis : Int64

namespace Attempt

/-- The row that an attempt is to record. -/
def row (a : Attempt) : Row :=
  ⟨a.migration.version, a.migration.name, a.migration.checksum, (Timestamp.ofNanos a.started).text,
    a.millis⟩

/-- Run the script of a migration, then record it. -/
def body (S : Store ω δ) (driver : Driver) (a : Attempt) (now : ω × δ) :
    Except Error Unit × ω × δ :=
  let scripted := S.execute (script a.migration.up) now
  match scripted.1 with
  | .error cause => (.error (failed "apply" a.migration.version cause), scripted.2)
  | .ok _ =>
    let recorded := S.execute (recordStatement driver a.row) scripted.2
    (recorded.1.map fun _ => (), recorded.2)

/-- What an attempt comes to: everything it is to do, or nothing. -/
def outcome (S : Store ω δ) (driver : Driver) (a : Attempt) : ω × δ → Except Error Unit × ω × δ :=
  S.atomically (a.body S driver)

theorem body_of_error {a : Attempt} {now mid : ω × δ} {cause : Error}
    (h : S.execute (script a.migration.up) now = (.error cause, mid)) :
    a.body S driver now = (.error (failed "apply" a.migration.version cause), mid) := by
  simp only [body, h]

theorem body_of_ok {a : Attempt} {now mid : ω × δ} {n : Nat}
    (h : S.execute (script a.migration.up) now = (.ok n, mid)) :
    a.body S driver now =
      ((S.execute (recordStatement driver a.row) mid).1.map fun _ => (),
        (S.execute (recordStatement driver a.row) mid).2) := by
  simp only [body, h]

/-- A body that succeeds has run the script and recorded the migration. -/
theorem body_ok {a : Attempt} {now now' : ω × δ} :
    a.body S driver now = (.ok (), now') ↔
      ∃ n k mid, S.execute (script a.migration.up) now = (.ok n, mid) ∧
        S.execute (recordStatement driver a.row) mid = (.ok k, now') := by
  constructor
  · intro hdone
    rcases hscript : S.execute (script a.migration.up) now with ⟨r, mid⟩
    cases r with
    | error cause =>
      rw [body_of_error hscript] at hdone
      cases hdone
    | ok n =>
      rw [body_of_ok hscript] at hdone
      rcases hrecord : S.execute (recordStatement driver a.row) mid with ⟨r, now₂⟩
      rw [hrecord] at hdone
      cases r with
      | error cause => cases hdone
      | ok k =>
        cases hdone
        exact ⟨n, k, mid, rfl, hrecord⟩
  · rintro ⟨n, k, mid, hscript, hrecord⟩
    rw [body_of_ok hscript, hrecord]
    rfl

/-- An attempt that succeeds has added its row to the history, if its script leaves the history
alone. -/
theorem rows_of_ok (hS : KeepsHistory S driver H) {a : Attempt} {now now' : ω × δ}
    (hleave : LeavesHistory S H a.migration.up) (hok : a.outcome S driver now = (.ok (), now')) :
    (H.rows now'.2).Perm (a.row :: H.rows now.2) := by
  obtain ⟨w₁, w₂, -, hbody, -⟩ := Store.atomically_ok.mp hok
  obtain ⟨n, k, mid, hscript, hrecord⟩ := body_ok.mp hbody
  have hleft : H.rows mid.2 = H.rows now.2 := by
    have := hleave (w₁, now.2)
    rwa [hscript] at this
  rw [← hleft]
  exact hS.record hrecord

/-- A row that has been added has a version of its own. -/
theorem fresh_of_rows (hS : KeepsHistory S driver H) {d d' : δ} {r : Row}
    (hrows : (H.rows d').Perm (r :: H.rows d)) : ∀ x ∈ H.rows d, x.version ≠ r.version := by
  have hne : (H.rows d').Pairwise fun x y => x.version ≠ y.version := by
    refine (hS.sorted d').imp fun {x y} hlt heq => ?_
    rw [heq] at hlt
    exact Int64.lt_irrefl hlt
  have hne' := hne.perm hrows fun h => h.symm
  intro x hx heq
  exact (List.pairwise_cons.mp hne').1 x hx heq.symm

/-- An attempt at a version that is in the history fails, and changes no data. -/
theorem error_of_recorded (hS : KeepsHistory S driver H) {a : Attempt} {now : ω × δ} {r : Row}
    (hleave : LeavesHistory S H a.migration.up) (hr : r ∈ H.rows now.2)
    (hversion : r.version = a.migration.version) :
    ∃ cause w, a.outcome S driver now = (.error cause, w, now.2) := by
  rcases hout : a.outcome S driver now with ⟨answer, w, d'⟩
  cases answer with
  | error cause =>
    obtain rfl := Store.atomically_error hout
    exact ⟨cause, w, rfl⟩
  | ok _ =>
    -- Otherwise the version would be in the history twice.
    exact absurd hversion (fresh_of_rows hS (a.rows_of_ok hS hleave hout) r hr)

end Attempt

theorem record_ends (h : e.Refines dl S covered view) (hcov : CoversMigrations covered driver ms)
    {r : Row} {s : δ} {marks : List (String × δ)} (hp : p.Shows view (w, .inside s d marks)) :
    Ends view (do
        return (← (e.executor driver dl).session.exec (recordSql driver) r.values).map
          fun _ => ()) p
      ((S.execute (recordStatement driver r) (w, d)).1.map fun _ => ())
      ((S.execute (recordStatement driver r) (w, d)).2.1,
        .inside s (S.execute (recordStatement driver r) (w, d)).2.2 marks) :=
  (h.execute_inside_ends driver (hcov.record r) hp).map (Except.map fun _ => ())

theorem applyIn_ends (started : Time) (h : e.Refines dl S covered view)
    (hcov : CoversMigrations covered driver ms) {m : Migration} (hm : m ∈ ms) {s : δ}
    {marks : List (String × δ)} (hp : p.Shows view (w, .inside s d marks)) :
    ∃ millis, Ends view (applyIn ⟨e.executor driver dl, 0⟩ m started) p
      (Attempt.body S driver ⟨m, started, millis⟩ (w, d)).1
      ((Attempt.body S driver ⟨m, started, millis⟩ (w, d)).2.1,
        .inside s (Attempt.body S driver ⟨m, started, millis⟩ (w, d)).2.2 marks) := by
  obtain ⟨p₁, hrun₁, hle₁, hp₁⟩ := h.execute_inside_ends driver (hcov.up m hm) hp
  rcases hq : S.execute (script m.up) (w, d) with ⟨r, w₁, d₁⟩
  rw [hq] at hrun₁ hp₁
  cases r with
  | error cause =>
    refine ⟨0, ?_⟩
    rw [Attempt.body_of_error (a := ⟨m, started, 0⟩) hq]
    exact .after hrun₁ hle₁ (.pure hp₁)
  | ok n =>
    -- The time is read again after the script, for the row that is recorded next.
    generalize hmillis : Int64.ofNat ((p₁.observer.now - started) / 1_000_000) = millis
    refine ⟨millis, .after hrun₁ hle₁ ?_⟩
    rw [Attempt.body_of_ok (a := ⟨m, started, millis⟩) hq]
    refine .after (Engine.Refines.now_run driver) (Nat.le_refl _) ?_
    simp only [hmillis]
    exact record_ends (r := Attempt.row ⟨m, started, millis⟩) h hcov hp₁

/-- Applying a migration is an attempt that is started now. -/
theorem applyOne_ends (h : e.Refines dl S covered view) (hcov : CoversMigrations covered driver ms)
    {m : Migration} (hm : m ∈ ms) (hp : p.Shows view (w, .idle d)) :
    ∃ a : Attempt, a.migration = m ∧ a.started = p.observer.now ∧
      Ends view (applyOne (e.executor driver dl) m) p (a.outcome S driver (w, d)).1
        ((a.outcome S driver (w, d)).2.1, .idle (a.outcome S driver (w, d)).2.2) := by
  rcases hbegin : S.begin w with ⟨r, w'⟩
  cases r with
  | error cause =>
    exact ⟨⟨m, p.observer.now, 0⟩, rfl, rfl,
      .after (Engine.Refines.now_run driver) (Nat.le_refl _)
        (inTransaction_not_begun h hbegin _ hp)⟩
  | ok _ =>
    obtain ⟨p₁, hle, hp₁, hdone⟩ := inTransaction_of_body driver h
      (fun t => applyIn t m p.observer.now) hbegin hp
    obtain ⟨millis, hbody⟩ := applyIn_ends p.observer.now h hcov hm hp₁
    exact ⟨⟨m, p.observer.now, millis⟩, rfl, rfl,
      .after (Engine.Refines.now_run driver) (Nat.le_refl _) (hdone hbody)⟩

/-! ## Undoing a migration -/

/-- Forget a version. -/
def forgetBody (S : Store ω δ) (driver : Driver) (version : Int64) (now : ω × δ) :
    Except Error Unit × ω × δ :=
  let forgotten := S.execute (forgetStatement driver version) now
  (forgotten.1.map fun _ => (), forgotten.2)

/-- Run the script that undoes a migration, if there is one, then forget the version. -/
def undoBody (S : Store ω δ) (driver : Driver) (m : Migration) (version : Int64) (now : ω × δ) :
    Except Error Unit × ω × δ :=
  match m.down with
  | none => forgetBody S driver version now
  | some sql =>
    let scripted := S.execute (script sql) now
    match scripted.1 with
    | .error cause => (.error (failed "roll back" version cause), scripted.2)
    | .ok _ => forgetBody S driver version scripted.2

/-- What undoing a migration comes to: everything it is to do, or nothing. -/
def undoOutcome (S : Store ω δ) (driver : Driver) (m : Migration) (version : Int64) :
    ω × δ → Except Error Unit × ω × δ :=
  S.atomically (undoBody S driver m version)

theorem forgetBody_ok {version : Int64} {now now' : ω × δ} :
    forgetBody S driver version now = (.ok (), now') ↔
      ∃ n, S.execute (forgetStatement driver version) now = (.ok n, now') := by
  unfold forgetBody
  rcases S.execute (forgetStatement driver version) now with ⟨r, now₁⟩
  cases r with
  | error cause =>
    constructor
    · intro hdone
      cases hdone
    · rintro ⟨n, heq⟩
      cases heq
  | ok n =>
    constructor
    · intro hdone
      cases hdone
      exact ⟨n, rfl⟩
    · rintro ⟨k, heq⟩
      cases heq
      rfl

/-- A body that succeeds has run the script, if there is one, and forgotten the version. -/
theorem undoBody_ok {m : Migration} {version : Int64} {now now' : ω × δ} :
    undoBody S driver m version now = (.ok (), now') ↔
      ∃ mid n, (match m.down with
        | none => mid = now
        | some sql => ∃ k, S.execute (script sql) now = (.ok k, mid)) ∧
        S.execute (forgetStatement driver version) mid = (.ok n, now') := by
  unfold undoBody
  cases m.down with
  | none =>
    simp only [forgetBody_ok]
    constructor
    · rintro ⟨n, hforget⟩
      exact ⟨now, n, rfl, hforget⟩
    · rintro ⟨_, n, rfl, hforget⟩
      exact ⟨n, hforget⟩
  | some sql =>
    rcases hscript : S.execute (script sql) now with ⟨r, mid⟩
    simp only [hscript]
    cases r with
    | error cause =>
      constructor
      · intro hdone
        cases hdone
      · rintro ⟨_, n, ⟨k, heq⟩, -⟩
        cases heq
    | ok k =>
      simp only [forgetBody_ok]
      constructor
      · rintro ⟨n, hforget⟩
        exact ⟨mid, n, ⟨k, rfl⟩, hforget⟩
      · rintro ⟨_, n, ⟨k', heq⟩, hforget⟩
        cases heq
        exact ⟨n, hforget⟩

theorem forget_ends (h : e.Refines dl S covered view) (hcov : CoversMigrations covered driver ms)
    {version : Int64} {s : δ} {marks : List (String × δ)}
    (hp : p.Shows view (w, .inside s d marks)) :
    Ends view (do
        return (← (e.executor driver dl).session.exec (forgetSql driver) [.int version]).map
          fun _ => ()) p (forgetBody S driver version (w, d)).1
      ((forgetBody S driver version (w, d)).2.1,
        .inside s (forgetBody S driver version (w, d)).2.2 marks) :=
  (h.execute_inside_ends driver (hcov.forget version) hp).map (Except.map fun _ => ())

theorem undoIn_ends (h : e.Refines dl S covered view) (hcov : CoversMigrations covered driver ms)
    {m : Migration} (hm : m ∈ ms) {version : Int64} {s : δ} {marks : List (String × δ)}
    (hp : p.Shows view (w, .inside s d marks)) :
    Ends view (undoIn ⟨e.executor driver dl, 0⟩ m version) p (undoBody S driver m version (w, d)).1
      ((undoBody S driver m version (w, d)).2.1,
        .inside s (undoBody S driver m version (w, d)).2.2 marks) := by
  unfold undoIn undoBody
  cases hdown : m.down with
  | none =>
    exact (Engine.Refines.warn_ends (e := e) driver hp).bind fun p₁ _ hp₁ =>
      forget_ends h hcov hp₁
  | some sql =>
    obtain ⟨p₁, hrun₁, hle₁, hp₁⟩ :=
      h.execute_inside_ends driver (hcov.down m hm sql hdown) hp
    simp only
    rcases hq : S.execute (script sql) (w, d) with ⟨r, w₁, d₁⟩
    rw [hq] at hrun₁ hp₁
    cases r with
    | error cause => exact .after hrun₁ hle₁ (.pure hp₁)
    | ok n => exact .after hrun₁ hle₁ (forget_ends h hcov hp₁)

/-- Undoing a migration in a transaction of its own has the outcome it is meant to have. -/
theorem undoOne_ends (version : Int64) (h : e.Refines dl S covered view)
    (hcov : CoversMigrations covered driver ms) {m : Migration} (hm : m ∈ ms)
    (hp : p.Shows view (w, .idle d)) :
    Ends view (inTransaction (e.executor driver dl) fun t => undoIn t m version) p
      (undoOutcome S driver m version (w, d)).1
      ((undoOutcome S driver m version (w, d)).2.1,
        .idle (undoOutcome S driver m version (w, d)).2.2) := by
  rcases hbegin : S.begin w with ⟨r, w'⟩
  cases r with
  | error cause => exact inTransaction_not_begun h hbegin _ hp
  | ok _ =>
    obtain ⟨p₁, hle, hp₁, hdone⟩ := inTransaction_of_body driver h
      (fun t => undoIn t m version) hbegin hp
    exact hdone (undoIn_ends h hcov hm hp₁)

end Migrator

end DataAccess.Access
