import DataAccess.Proofs.Migration.Steps

/-!
# Undoing the last migration

Undoing the last migration takes up to six statements in turn, and any of them may be the last one:

* `ReadsLatest` — the two that read the greatest version;
* `UndoEnding` — the transaction that undoes a migration: it begins, the script runs if there is
  one, the version is forgotten, and all of it is committed;
* `RolledBack` — the two together, and the look-up of the version between them.

`rollbackLast_rolledBack` says that so it ends. `rollbackLast_ends` puts it more shortly: nothing
happens unless the greatest version can be read, is there, and is defined, and then the outcome is
that of `undoOutcome`.
-/

namespace DataAccess.Access.Migrator

open Observation Sql Work

variable {σ ω δ : Type} {view : σ → ω × Phase δ} {S : Store ω δ} {driver : Driver}
variable {H : HistoryView δ} {d : δ}

/-- The error for a version that no migration defines. -/
def undefinedVersion (version : Int64) : Error :=
  .migration ("migration " ++ Notice.versionText version ++ " is not defined")

/-- A migration is the first one of its version in a list. -/
def IsFirst (ms : List Migration) (m : Migration) : Prop :=
  ∃ before after, ms = before ++ m :: after ∧ ∀ x ∈ before, x.version ≠ m.version

theorem find?_version_eq_some {ms : List Migration} {version : Int64} {m : Migration} :
    ms.find? (·.version == version) = some m ↔ IsFirst ms m ∧ m.version = version := by
  rw [List.find?_eq_some_iff_append]
  constructor
  · rintro ⟨hversion, before, after, rfl, hbefore⟩
    obtain rfl := eq_of_beq hversion
    exact ⟨⟨before, after, rfl, fun x hx heq => by simpa [heq] using hbefore x hx⟩, rfl⟩
  · rintro ⟨⟨before, after, rfl, hbefore⟩, rfl⟩
    exact ⟨beq_self_eq_true _, before, after, rfl, fun x hx => by simpa using hbefore x hx⟩

theorem find?_version_eq_none {ms : List Migration} {version : Int64} :
    ms.find? (·.version == version) = none ↔ ∀ m ∈ ms, m.version ≠ version := by
  simp

/-! ## The transaction -/

/-- The script that undoes a migration has run, if there is one. -/
inductive Scripted (S : Store ω δ) (m : Migration) : ω × δ → ω × δ → Prop
  | without {now : ω × δ} : m.down = none → Scripted S m now now
  | ran {sql : String} {now mid : ω × δ} {n : Nat} : m.down = some sql →
      S.execute (script sql) now = (.ok n, mid) → Scripted S m now mid

/-- Undoing a migration in a transaction: its statements in turn, up to the one that fails. -/
inductive UndoEnding (S : Store ω δ) (driver : Driver) (m : Migration) (version : Int64) :
    ω × δ → Except Error Unit → ω × δ → Prop
  | notBegun {w w' : ω} {d : δ} {cause : Error} : S.begin w = (.error cause, w') →
      UndoEnding S driver m version (w, d) (.error cause) (w', d)
  | scriptFailed {w w₁ w' : ω} {d d' : δ} {sql : String} {cause : Error} :
      S.begin w = (.ok (), w₁) → m.down = some sql →
      S.execute (script sql) (w₁, d) = (.error cause, w', d') →
      UndoEnding S driver m version (w, d)
        (.error (failed "roll back" version cause)) (w', d)
  | rowKept {w w₁ w' : ω} {d d' : δ} {mid : ω × δ} {cause : Error} :
      S.begin w = (.ok (), w₁) → Scripted S m (w₁, d) mid →
      S.execute (forgetStatement driver version) mid = (.error cause, w', d') →
      UndoEnding S driver m version (w, d) (.error cause) (w', d)
  | notCommitted {w w₁ w₂ w' : ω} {d d' : δ} {mid : ω × δ} {n : Nat} {cause : Error} :
      S.begin w = (.ok (), w₁) → Scripted S m (w₁, d) mid →
      S.execute (forgetStatement driver version) mid = (.ok n, w₂, d') →
      S.commit d (w₂, d') = (.error cause, w') →
      UndoEnding S driver m version (w, d) (.error cause) (w', d)
  | committed {w w₁ w₂ w' : ω} {d d' : δ} {mid : ω × δ} {n : Nat} :
      S.begin w = (.ok (), w₁) → Scripted S m (w₁, d) mid →
      S.execute (forgetStatement driver version) mid = (.ok n, w₂, d') →
      S.commit d (w₂, d') = (.ok (), w') →
      UndoEnding S driver m version (w, d) (.ok ()) (w', d')

/-- A body that gets as far as forgetting the version does what forgetting it does. -/
theorem undoBody_of_scripted {m : Migration} {version : Int64} {now mid : ω × δ}
    (h : Scripted S m now mid) :
    undoBody S driver m version now = forgetBody S driver version mid := by
  cases h with
  | without hdown => simp only [undoBody, hdown]
  | ran hdown hscript => simp only [undoBody, hdown, hscript]

theorem forgetBody_of_error {version : Int64} {now now' : ω × δ} {cause : Error}
    (h : S.execute (forgetStatement driver version) now = (.error cause, now')) :
    forgetBody S driver version now = (.error cause, now') := by
  unfold forgetBody
  rw [h]
  rfl

/-- Either the script fails or the body goes on to forget the version. -/
theorem scripted_or_failed (S : Store ω δ) (m : Migration) (now : ω × δ) :
    (∃ mid, Scripted S m now mid) ∨
      ∃ sql cause mid, m.down = some sql ∧ S.execute (script sql) now = (.error cause, mid) := by
  cases hdown : m.down with
  | none => exact .inl ⟨now, .without hdown⟩
  | some sql =>
    rcases hscript : S.execute (script sql) now with ⟨r, mid⟩
    cases r with
    | error cause => exact .inr ⟨sql, cause, mid, rfl, hscript⟩
    | ok n => exact .inl ⟨mid, .ran hdown hscript⟩

theorem UndoEnding.outcome {m : Migration} {version : Int64} {before now : ω × δ}
    {r : Except Error Unit} (h : UndoEnding S driver m version before r now) :
    undoOutcome S driver m version before = (r, now) := by
  unfold undoOutcome Store.atomically Store.transaction
  cases h with
  | notBegun hbegin => simp only [hbegin, Exit.toExcept, id]
  | scriptFailed hbegin hdown hscript =>
    simp only [hbegin, undoBody, hdown, hscript, Exit.ofExcept, Store.settle, Exit.toExcept]
  | rowKept hbegin hscripted hforget =>
    simp only [hbegin, undoBody_of_scripted hscripted, forgetBody_of_error hforget, Exit.ofExcept,
      Store.settle, Exit.toExcept]
  | notCommitted hbegin hscripted hforget hcommit =>
    simp only [hbegin, undoBody_of_scripted hscripted, forgetBody_ok.mpr ⟨_, hforget⟩,
      Exit.ofExcept, Store.settle, hcommit, Exit.toExcept, id]
  | committed hbegin hscripted hforget hcommit =>
    simp only [hbegin, undoBody_of_scripted hscripted, forgetBody_ok.mpr ⟨_, hforget⟩,
      Exit.ofExcept, Store.settle, hcommit, Exit.toExcept]

/-- However undoing a migration ends, it ends in one of these ways. -/
theorem exists_undoEnding (S : Store ω δ) (driver : Driver) (m : Migration) (version : Int64)
    (before : ω × δ) : ∃ r now, UndoEnding S driver m version before r now := by
  rcases before with ⟨w, d⟩
  rcases hbegin : S.begin w with ⟨_ | _, w₁⟩
  · exact ⟨_, _, .notBegun hbegin⟩
  · rcases scripted_or_failed S m (w₁, d) with
      ⟨mid, hscripted⟩ | ⟨sql, cause, ⟨w₂, d₂⟩, hdown, hscript⟩
    · rcases hforget : S.execute (forgetStatement driver version) mid with ⟨_ | _, w₂, d₂⟩
      · exact ⟨_, _, .rowKept hbegin hscripted hforget⟩
      · rcases hcommit : S.commit d (w₂, d₂) with ⟨_ | _, w₃⟩
        · exact ⟨_, _, .notCommitted hbegin hscripted hforget hcommit⟩
        · exact ⟨_, _, .committed hbegin hscripted hforget hcommit⟩
    · exact ⟨_, _, .scriptFailed hbegin hdown hscript⟩

theorem undoOutcome_eq_iff {m : Migration} {version : Int64} {before now : ω × δ}
    {r : Except Error Unit} :
    undoOutcome S driver m version before = (r, now) ↔
      UndoEnding S driver m version before r now := by
  refine ⟨fun heq => ?_, UndoEnding.outcome⟩
  obtain ⟨r', now', hend⟩ := exists_undoEnding S driver m version before
  cases heq.symm.trans hend.outcome
  exact hend

/-! ## The call -/

/-- Undoing the last migration: the greatest version is read and looked up, and the first migration
of it is undone. -/
inductive RolledBack (S : Store ω δ) (driver : Driver) (H : HistoryView δ) (ms : List Migration)
    (before : ω × δ) : Except Error (Option (Int64 × String)) → ω × δ → Prop
  | unread {cause : Error} {now : ω × δ} : ReadsLatest S driver H before (.error cause) now →
      RolledBack S driver H ms before (.error cause) now
  | nothing {now : ω × δ} : ReadsLatest S driver H before (.ok none) now →
      RolledBack S driver H ms before (.ok none) now
  | undefined {version : Int64} {now : ω × δ} :
      ReadsLatest S driver H before (.ok (some version)) now →
      (∀ m ∈ ms, m.version ≠ version) →
      RolledBack S driver H ms before (.error (undefinedVersion version)) now
  | failed {m : Migration} {cause : Error} {mid now : ω × δ} :
      ReadsLatest S driver H before (.ok (some m.version)) mid → IsFirst ms m →
      UndoEnding S driver m m.version mid (.error cause) now →
      RolledBack S driver H ms before (.error cause) now
  | undone {m : Migration} {mid now : ω × δ} :
      ReadsLatest S driver H before (.ok (some m.version)) mid → IsFirst ms m →
      UndoEnding S driver m m.version mid (.ok ()) now →
      RolledBack S driver H ms before (.ok (some (m.version, m.name))) now

/-- How undoing the last migration ends, and with which data. -/
inductive RollbackEnding (S : Store ω δ) (driver : Driver) (H : HistoryView δ)
    (ms : List Migration) (d : δ) : Except Error (Option (Int64 × String)) → ω × δ → Prop
  /-- The greatest version cannot be read. -/
  | unread {cause : Error} {w : ω} {d' : δ} : ¬ AnswersHistory S driver H → H.Read d d' →
      RollbackEnding S driver H ms d (.error cause) (w, d')
  | nothing {w : ω} : H.latest d = none → RollbackEnding S driver H ms d (.ok none) (w, H.touch d)
  | undefined {version : Int64} {w : ω} : H.latest d = some version →
      ms.find? (·.version == version) = none →
      RollbackEnding S driver H ms d (.error (undefinedVersion version)) (w, H.touch d)
  | failed {version : Int64} {m : Migration} {cause : Error} {w₁ w : ω} :
      H.latest d = some version → ms.find? (·.version == version) = some m →
      undoOutcome S driver m version (w₁, H.touch d) = (.error cause, w, H.touch d) →
      RollbackEnding S driver H ms d (.error cause) (w, H.touch d)
  | undone {version : Int64} {m : Migration} {w₁ : ω} {now : ω × δ} :
      H.latest d = some version → ms.find? (·.version == version) = some m →
      undoOutcome S driver m version (w₁, H.touch d) = (.ok (), now) →
      RollbackEnding S driver H ms d (.ok (some (version, m.name))) now

namespace RollbackEnding

variable {ms : List Migration} {answer : Except Error (Option (Int64 × String))} {now : ω × δ}

/-- On an empty history nothing is undone. -/
theorem of_latest_none (hA : AnswersHistory S driver H) (hlatest : H.latest d = none)
    (hend : RollbackEnding S driver H ms d answer now) :
    answer = .ok none ∧ now.2 = H.touch d := by
  cases hend with
  | unread hunread _ => exact absurd hA hunread
  | nothing _ => exact ⟨rfl, rfl⟩
  | undefined hversion _ => cases hlatest.symm.trans hversion
  | failed hversion _ _ => cases hlatest.symm.trans hversion
  | undone hversion _ _ => cases hlatest.symm.trans hversion

/-- A defined version that can be undone is undone. -/
theorem of_latest_some (hA : AnswersHistory S driver H) {version : Int64} {m : Migration}
    (hlatest : H.latest d = some version) (hfind : ms.find? (·.version == version) = some m)
    (hundo : ∀ w, ∃ now, undoOutcome S driver m version (w, H.touch d) = (.ok (), now))
    (hend : RollbackEnding S driver H ms d answer now) :
    answer = .ok (some (version, m.name)) ∧
      ∃ w, undoOutcome S driver m version (w, H.touch d) = (.ok (), now) := by
  cases hend with
  | unread hunread _ => exact absurd hA hunread
  | nothing hnone => cases hnone.symm.trans hlatest
  | undefined hversion hnone =>
    obtain rfl := Option.some.inj (hlatest.symm.trans hversion)
    cases hnone.symm.trans hfind
  | @failed _ _ _ w₁ _ hversion hfind' hfailed =>
    obtain rfl := Option.some.inj (hlatest.symm.trans hversion)
    obtain rfl := Option.some.inj (hfind.symm.trans hfind')
    obtain ⟨now, hok⟩ := hundo w₁
    cases hfailed.symm.trans hok
  | undone hversion hfind' hok =>
    obtain rfl := Option.some.inj (hlatest.symm.trans hversion)
    obtain rfl := Option.some.inj (hfind.symm.trans hfind')
    exact ⟨rfl, _, hok⟩

end RollbackEnding

variable {e : Engine σ} {covered : Coverage} {dl : Deadline} {ms : List Migration}

theorem rollbackLast_rolledBack (h : e.Refines dl S covered view) (hS : KeepsHistory S driver H)
    (hcov : CoversMigrations covered driver ms) {p : Pooled σ} {w : ω} {d : δ}
    (hp : p.Shows view (w, .idle d)) :
    ∃ r w' d', Ends view (rollbackLast (e.executor driver dl) ms) p r (w', .idle d') ∧
      RolledBack S driver H ms (w, d) r (w', d') := by
  obtain ⟨r, w₁, d₁, ⟨p₁, hrun₁, hle₁, hp₁⟩, hreads⟩ := currentVersion_reads h hS hcov hp
  cases r with
  | error cause => exact ⟨.error cause, w₁, d₁, .after hrun₁ hle₁ (.pure hp₁), .unread hreads⟩
  | ok v =>
    cases v with
    | none => exact ⟨.ok none, w₁, d₁, .after hrun₁ hle₁ (.pure hp₁), .nothing hreads⟩
    | some version =>
      cases hfind : ms.find? (·.version == version) with
      | none =>
        refine ⟨.error (undefinedVersion version), w₁, d₁, .after hrun₁ hle₁ ?_,
          .undefined hreads (find?_version_eq_none.mp hfind)⟩
        simp only [hfind]
        exact .pure hp₁
      | some m =>
        obtain ⟨hfirst, rfl⟩ := find?_version_eq_some.mp hfind
        obtain ⟨p₂, hrun₂, hle₂, hp₂⟩ :=
          undoOne_ends m.version h hcov (List.mem_of_find?_eq_some hfind) hp₁
        rcases hundo : undoOutcome S driver m m.version (w₁, d₁) with ⟨r, w₂, d₂⟩
        rw [hundo] at hrun₂ hp₂
        have hend := undoOutcome_eq_iff.mp hundo
        cases r with
        | error cause =>
          refine ⟨.error cause, w₂, d₂, .after hrun₁ hle₁ ?_, .failed hreads hfirst hend⟩
          simp only [hfind]
          exact .after hrun₂ hle₂ (.pure hp₂)
        | ok _ =>
          refine ⟨.ok (some (m.version, m.name)), w₂, d₂, .after hrun₁ hle₁ ?_,
            .undone hreads hfirst hend⟩
          simp only [hfind]
          exact .after hrun₂ hle₂ (.pure hp₂)

theorem RolledBack.ending {w : ω} {answer : Except Error (Option (Int64 × String))} {now : ω × δ}
    (h : RolledBack S driver H ms (w, d) answer now) :
    RollbackEnding S driver H ms d answer now := by
  rcases now with ⟨w', d'⟩
  cases h with
  | unread hreads => exact .unread hreads.not_answers hreads.read
  | nothing hreads =>
    obtain ⟨rfl, hlatest⟩ := hreads.of_ok
    exact .nothing hlatest.symm
  | undefined hreads hnone =>
    obtain ⟨rfl, hlatest⟩ := hreads.of_ok
    exact .undefined hlatest.symm (find?_version_eq_none.mpr hnone)
  | @failed m _ mid _ hreads hfirst hend =>
    rcases mid with ⟨w₁, d₁⟩
    obtain ⟨rfl, hlatest⟩ := hreads.of_ok
    have hundo := hend.outcome
    obtain rfl := Store.atomically_error hundo
    exact .failed hlatest.symm (find?_version_eq_some.mpr ⟨hfirst, rfl⟩) hundo
  | @undone m mid _ hreads hfirst hend =>
    rcases mid with ⟨w₁, d₁⟩
    obtain ⟨rfl, hlatest⟩ := hreads.of_ok
    exact .undone hlatest.symm (find?_version_eq_some.mpr ⟨hfirst, rfl⟩) hend.outcome

theorem rollbackLast_ends (h : e.Refines dl S covered view) (hS : KeepsHistory S driver H)
    (hcov : CoversMigrations covered driver ms) {p : Pooled σ} {w : ω} {d : δ}
    (hp : p.Shows view (w, .idle d)) :
    ∃ r w' d', Ends view (rollbackLast (e.executor driver dl) ms) p r (w', .idle d') ∧
      RollbackEnding S driver H ms d r (w', d') := by
  obtain ⟨r, w', d', hends, hback⟩ := rollbackLast_rolledBack h hS hcov hp
  exact ⟨r, w', d', hends, hback.ending⟩

/-- A migration that is undone is no longer in the history, if its script leaves the history
alone. -/
theorem rows_of_undo (hS : KeepsHistory S driver H) {m : Migration} {version : Int64}
    {now now' : ω × δ} (hleave : ∀ sql ∈ m.down, LeavesHistory S H sql)
    (hok : undoOutcome S driver m version now = (.ok (), now')) :
    H.rows now'.2 = (H.rows now.2).filter (·.version != version) := by
  obtain ⟨w₁, w₂, -, hbody, -⟩ := Store.atomically_ok.mp hok
  obtain ⟨mid, n, hmid, hforget⟩ := undoBody_ok.mp hbody
  rw [hS.forget hforget]
  cases hdown : m.down with
  | none =>
    rw [hdown] at hmid
    rw [hmid]
  | some sql =>
    rw [hdown] at hmid
    obtain ⟨k, hscript⟩ := hmid
    have hleft := hleave sql hdown (w₁, now.2)
    rw [hscript] at hleft
    rw [hleft]

end DataAccess.Access.Migrator
