import DataAccess.Proofs.Migration.Apply
import DataAccess.Proofs.Migration.Prefix

/-!
# What stands beside the history

The data of a database are its history and a remainder, and the scripts of migrations work on the
remainder alone. A `Remainder` shows it, with what each script makes of it and whether it may be
committed. On a store that keeps a history and a remainder apart, and that fails for no other reason
than a script or a commit, the remainder decides what becomes of a migration:

* `Attempt.climbs`, `Attempt.succeeds` — an attempt succeeds if its script does and the outcome may
  be committed, and only then;
* `undo_restores` — so does undoing a migration;
* `climbs_of_attempts` — attempts in turn lead where `Remainder.Climbs` says.
-/

namespace DataAccess.Access.Migrator

open Sql

variable {ω δ ρ : Type}

/-- How data show what is beside their history. -/
structure Remainder (δ ρ : Type) where
  rest : δ → ρ
  /-- What a script makes of a remainder, if it succeeds. -/
  act : String → ρ → Option ρ
  /-- Whether all constraints hold that are checked at the end of a transaction. -/
  Fit : ρ → Prop

/-- The table of the history is there. -/
def HistoryView.There (H : HistoryView δ) (d : δ) : Prop := H.touch d = d

variable {S : Store ω δ} {driver : Driver} {H : HistoryView δ} {R : Remainder δ ρ}
variable {ms : List Migration} {d d' : δ}

theorem HistoryView.there_touch (hS : KeepsHistory S driver H) (d : δ) : H.There (H.touch d) :=
  hS.touch_touch d

/-- The history and the remainder are all there is, and neither gets in the way of the other.
Transactions begin, statements on the history succeed, and a commit is refused just when it would
break a constraint. -/
structure KeepsRemainder (S : Store ω δ) (driver : Driver) (H : HistoryView δ)
    (R : Remainder δ ρ) : Prop where
  ext : ∀ {d d'}, R.rest d = R.rest d' → H.rows d = H.rows d' → H.touch d = H.touch d'
  rest_touch : ∀ d, R.rest (H.touch d) = R.rest d
  begin : ∀ w, ∃ w', S.begin w = (.ok (), w')
  answers : AnswersHistory S driver H
  record : ∀ w {d r}, H.There d → (∀ x ∈ H.rows d, x.version ≠ r.version) →
    ∃ n w' d', S.execute (recordStatement driver r) (w, d) = (.ok n, w', d') ∧
      H.There d' ∧ R.rest d' = R.rest d
  forget : ∀ w {d} v, H.There d →
    ∃ n w' d', S.execute (forgetStatement driver v) (w, d) = (.ok n, w', d') ∧
      H.There d' ∧ R.rest d' = R.rest d
  commit : ∀ {start w d}, R.Fit (R.rest start) →
    ((∃ w', S.commit start (w, d) = (.ok (), w')) ↔ R.Fit (R.rest d))

namespace Remainder

/-- What a script does depends on the remainder alone, and is done to the remainder. -/
structure Governs (R : Remainder δ ρ) (S : Store ω δ) (H : HistoryView δ) (sql : String) :
    Prop where
  succeeds : ∀ w {d r}, H.There d → R.act sql (R.rest d) = some r →
    ∃ n w' d', S.execute (script sql) (w, d) = (.ok n, w', d') ∧ H.There d' ∧ R.rest d' = r
  fails : ∀ w {d}, H.There d → R.act sql (R.rest d) = none →
    ∃ cause now, S.execute (script sql) (w, d) = (.error cause, now)

/-- Scripts that run on the remainder alone. -/
structure GovernsAll (R : Remainder δ ρ) (S : Store ω δ) (H : HistoryView δ)
    (ms : List Migration) : Prop where
  up : ∀ m ∈ ms, R.Governs S H m.up
  down : ∀ m ∈ ms, ∀ sql ∈ m.down, R.Governs S H sql

/-! ## Climbing -/

/-- Migrations in turn lead from one remainder to another, and each of them may be committed. -/
inductive Climbs (R : Remainder δ ρ) : ρ → List Migration → ρ → Prop
  | nil {r : ρ} : Climbs R r [] r
  | cons {r r₁ r₂ : ρ} {m : Migration} {rest : List Migration} : R.act m.up r = some r₁ →
      R.Fit r₁ → Climbs R r₁ rest r₂ → Climbs R r (m :: rest) r₂

namespace Climbs

variable {r r₁ r₂ : ρ} {as bs : List Migration}

theorem fit (h : R.Climbs r as r₁) (hr : R.Fit r) : R.Fit r₁ := by
  induction h with
  | nil => exact hr
  | cons _ hfit _ ih => exact ih hfit

/-- A climb that begins with some migrations passes where these lead. -/
theorem drop (hall : R.Climbs r (as ++ bs) r₂) (has : R.Climbs r as r₁) : R.Climbs r₁ bs r₂ := by
  induction has with
  | nil => exact hall
  | cons hact _ _ ih =>
    cases hall with
    | cons hact' _ hrest =>
      obtain rfl := Option.some.inj (hact.symm.trans hact')
      exact ih hrest

theorem take (hall : R.Climbs r (as ++ bs) r₂) : ∃ r₁, R.Climbs r as r₁ := by
  induction as generalizing r with
  | nil => exact ⟨r, .nil⟩
  | cons m rest ih =>
    cases hall with
    | cons hact hfit hrest =>
      obtain ⟨r₁, hr₁⟩ := ih hrest
      exact ⟨r₁, .cons hact hfit hr₁⟩

theorem nil_eq (h : R.Climbs r [] r₁) : r₁ = r := by
  cases h
  rfl

/-- The last step of a climb. -/
theorem concat {m : Migration} (h : R.Climbs r (as ++ [m]) r₂) :
    ∃ r₁, R.Climbs r as r₁ ∧ R.act m.up r₁ = some r₂ := by
  obtain ⟨r₁, hr₁⟩ := h.take
  cases h.drop hr₁ with
  | cons hact _ hrest =>
    obtain rfl := hrest.nil_eq
    exact ⟨r₁, hr₁, hact⟩

end Climbs

/-- Wherever the turn of a migration comes, it has a script that undoes there what it does. -/
def Reversible (R : Remainder δ ρ) (start : ρ) (ms : List Migration) : Prop :=
  ∀ before m after r r', inOrder ms = before ++ m :: after → R.Climbs start before r →
    R.act m.up r = some r' → ∃ sql, m.down = some sql ∧ R.act sql r' = some r

end Remainder

/-! ## One migration -/

section

variable {a : Attempt} {m : Migration} {now now' : ω × δ}

/-- An attempt that succeeds has done what its script does to the remainder. -/
theorem Attempt.climbs (hS : KeepsHistory S driver H) (hA : KeepsRemainder S driver H R)
    (hup : R.Governs S H a.migration.up) (hthere : H.There now.2) (hfit : R.Fit (R.rest now.2))
    (hok : a.outcome S driver now = (.ok (), now')) :
    R.act a.migration.up (R.rest now.2) = some (R.rest now'.2) ∧ R.Fit (R.rest now'.2) ∧
      H.There now'.2 := by
  obtain ⟨w₁, w₂, -, hbody, hcommit⟩ := Store.atomically_ok.mp hok
  obtain ⟨n, k, ⟨w₃, mid⟩, hscript, hrecord⟩ := body_ok.mp hbody
  cases hact : R.act a.migration.up (R.rest now.2) with
  | none =>
    obtain ⟨cause, s, hfailed⟩ := hup.fails w₁ hthere hact
    cases hscript.symm.trans hfailed
  | some r =>
    obtain ⟨n', w', mid', hscript', hmid, hrest⟩ := hup.succeeds w₁ hthere hact
    cases hscript.symm.trans hscript'
    -- The row has been recorded, so its version was not there before.
    obtain ⟨k', w'', d'', hrecord', hthere', hsame⟩ :=
      hA.record w₃ hmid (fresh_of_rows hS (hS.record hrecord))
    cases hrecord.symm.trans hrecord'
    refine ⟨?_, (hA.commit hfit).mp ⟨_, hcommit⟩, hthere'⟩
    rw [hsame, hrest]

/-- An attempt succeeds if its version is new, its script succeeds, and the outcome may be
committed. -/
theorem Attempt.succeeds {r : ρ} (hA : KeepsRemainder S driver H R)
    (hleave : LeavesHistory S H a.migration.up) (hup : R.Governs S H a.migration.up)
    (hthere : H.There now.2) (hfit : R.Fit (R.rest now.2))
    (hfresh : ∀ x ∈ H.rows now.2, x.version ≠ a.migration.version)
    (hact : R.act a.migration.up (R.rest now.2) = some r) (hr : R.Fit r) :
    ∃ now', a.outcome S driver now = (.ok (), now') := by
  obtain ⟨w₁, hbegin⟩ := hA.begin now.1
  obtain ⟨n, w₂, mid, hscript, hmid, hrest⟩ := hup.succeeds w₁ hthere hact
  have hrows : H.rows mid = H.rows now.2 := by
    have hleft := hleave (w₁, now.2)
    rwa [hscript] at hleft
  obtain ⟨k, w₃, d', hrecord, -, hsame⟩ := hA.record (r := a.row) w₂ hmid (hrows ▸ hfresh)
  have hbody : a.body S driver (w₁, now.2) = (.ok (), w₃, d') :=
    body_ok.mpr ⟨n, k, (w₂, mid), hscript, hrecord⟩
  have hfit' : R.Fit (R.rest d') := by rwa [hsame, hrest]
  obtain ⟨w₄, hcommit⟩ := (hA.commit hfit).mpr hfit'
  exact ⟨(w₄, d'), Store.atomically_ok.mpr ⟨w₁, w₃, hbegin, hbody, hcommit⟩⟩

/-- Undoing a migration does what its other script does to the remainder. -/
theorem undo_restores {version : Int64} {sql : String} {r : ρ} (hA : KeepsRemainder S driver H R)
    (hdown : m.down = some sql) (hsql : R.Governs S H sql) (hthere : H.There now.2)
    (hfit : R.Fit (R.rest now.2)) (hact : R.act sql (R.rest now.2) = some r) (hr : R.Fit r) :
    ∃ now', undoOutcome S driver m version now = (.ok (), now') ∧ H.There now'.2 ∧
      R.rest now'.2 = r := by
  obtain ⟨w₁, hbegin⟩ := hA.begin now.1
  obtain ⟨n, w₂, mid, hscript, hmid, hrest⟩ := hsql.succeeds w₁ hthere hact
  obtain ⟨k, w₃, d', hforget, hthere', hsame⟩ := hA.forget w₂ version hmid
  have hbody : undoBody S driver m version (w₁, now.2) = (.ok (), w₃, d') := by
    refine undoBody_ok.mpr ⟨(w₂, mid), k, ?_, hforget⟩
    rw [hdown]
    exact ⟨n, hscript⟩
  have hrest' : R.rest d' = r := hsame.trans hrest
  obtain ⟨w₄, hcommit⟩ := (hA.commit (w := w₃) hfit).mpr (hrest' ▸ hr)
  exact ⟨(w₄, d'), Store.atomically_ok.mpr ⟨w₁, w₃, hbegin, hbody, hcommit⟩, hthere', hrest'⟩

end

/-! ## Migrations in turn -/

/-- Attempts that succeed have climbed. -/
theorem climbs_of_attempts (hS : KeepsHistory S driver H) (hA : KeepsRemainder S driver H R)
    {as : List Attempt} {start now : ω × δ} (hup : ∀ a ∈ as, R.Governs S H a.migration.up)
    (hthere : H.There start.2) (hfit : R.Fit (R.rest start.2))
    (has : attempts S driver as start = some now) :
    R.Climbs (R.rest start.2) (as.map (·.migration)) (R.rest now.2) ∧ H.There now.2 := by
  induction as generalizing start with
  | nil =>
    cases has
    exact ⟨.nil, hthere⟩
  | cons a rest ih =>
    unfold attempts at has
    rw [List.foldlM_cons] at has
    obtain ⟨mid, ha, hrest⟩ := Option.bind_eq_some_iff.mp has
    obtain ⟨hact, hmid, hthere'⟩ :=
      a.climbs hS hA (hup a List.mem_cons_self) hthere hfit (Attempt.next?_eq_some.mp ha)
    obtain ⟨hclimbs, hnow⟩ :=
      ih (fun b hb => hup b (List.mem_cons_of_mem a hb)) hthere' hmid hrest
    exact ⟨.cons hact hmid hclimbs, hnow⟩

/-- Migrations with new versions that can climb are all applied. -/
theorem ending_of_climbs (hS : KeepsHistory S driver H) (hA : KeepsRemainder S driver H R)
    {w : ω} {todo : List Migration} {as : List Attempt} {now : ω × δ} {top : ρ}
    {failed : Option Attempt} {answer : Except Error (List (Int64 × String))}
    (hup : ∀ m ∈ todo, R.Governs S H m.up)
    (hleave : ∀ m ∈ todo, LeavesHistory S H m.up) (hthere : H.There d) (hfit : R.Fit (R.rest d))
    (hclimbs : R.Climbs (R.rest d) todo top)
    (hnew : (todo.map (·.version) ++ (H.rows d).map (·.version)).Nodup)
    (hend : Ending S driver (w, d) todo as failed answer now) :
    answer = .ok (todo.map fun m => (m.version, m.name)) ∧ R.rest now.2 = top := by
  have hgoverns : ∀ a ∈ as, R.Governs S H a.migration.up := fun a ha => hup _ (hend.mem_todo ha)
  have hleaves : ∀ a ∈ as, LeavesHistory S H a.migration.up :=
    fun a ha => hleave _ (hend.mem_todo ha)
  cases hend with
  | all hdone hattempts =>
    obtain ⟨hreached, -⟩ := climbs_of_attempts hS hA hgoverns hthere hfit hattempts
    rw [hdone] at hreached
    rw [← List.append_nil todo] at hclimbs
    exact ⟨rfl, (hclimbs.drop hreached).nil_eq.symm⟩
  | @stopped now w' a rest cause htodo hattempts hfailed =>
    -- The attempt that failed had a remainder on which it succeeds, and a version of its own.
    obtain ⟨hreached, hnow⟩ := climbs_of_attempts hS hA hgoverns hthere hfit hattempts
    have hrows := rows_of_attempts hS hleaves hattempts
    subst htodo
    have hmem : a.migration ∈ as.map (·.migration) ++ a.migration :: rest :=
      List.mem_append_right _ List.mem_cons_self
    cases hclimbs.drop hreached with
    | cons hact hr _ =>
      have hfresh : ∀ x ∈ H.rows now.2, x.version ≠ a.migration.version := by
        intro x hx heq
        rw [List.map_append, List.map_cons, List.append_assoc, List.cons_append, List.nodup_middle,
          List.nodup_cons] at hnew
        refine hnew.1 ?_
        rw [← heq]
        rcases List.mem_append.mp (hrows.mem_iff.mp hx) with hx | hx
        · obtain ⟨b, hb, rfl⟩ := List.mem_map.mp hx
          exact List.mem_append_left _ (List.mem_map_of_mem (List.mem_map_of_mem hb))
        · exact List.mem_append_right _ (List.mem_append_right _ (List.mem_map_of_mem hx))
      obtain ⟨now', hok⟩ := a.succeeds hA (hleave _ hmem) (hup _ hmem) hnow (hreached.fit hfit)
        hfresh hact hr
      cases hfailed.symm.trans hok

end DataAccess.Access.Migrator
