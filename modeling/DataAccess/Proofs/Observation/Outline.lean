import DataAccess.Proofs.Observation.Recording

/-!
# Outlines of recordings

Some of what a recording shows is not for everyone: the texts and the arguments of statements. The
outline of a recording is what is left without these, without the times, and without what was
reported. Recordings are the same so far (`SameSoFar`) if their outlines are, and if what took its
time took as long in one as in the other.
-/

namespace DataAccess.Observation

open Sql

/-! ### Statements that look the same -/

/-- Statements that no report under allowed settings tells apart. -/
structure Indistinct (allowed : Observability → Prop) (q q' : Statement) : Prop where
  kind : q.kind = q'.kind
  table : q.table = q'.table
  sql : ∀ settings, allowed settings → settings.logSql = true → q.sql = q'.sql

section

variable {allowed : Observability → Prop} {q q' : Statement} {settings : Observability}

theorem Indistinct.fields_eq (h : Indistinct allowed q q') (hsettings : allowed settings)
    (elapsed : Time) : Plugin.fields settings q elapsed = Plugin.fields settings q' elapsed := by
  unfold Plugin.fields
  rw [h.kind, h.table]
  by_cases hlog : settings.logSql = true
  · rw [h.sql settings hsettings hlog]
  · rw [if_neg hlog, if_neg hlog]

theorem Indistinct.report_eq (h : Indistinct allowed q q') (hsettings : allowed settings)
    (elapsed : Time) (span error : Option String) :
    Plugin.report settings q elapsed span error = Plugin.report settings q' elapsed span error := by
  unfold Plugin.report
  rw [h.fields_eq hsettings elapsed]

/-- A statement without its text and its arguments. -/
def hideText (q : Statement) : Statement := { q with sql := "", args := [] }

def hideArgs (q : Statement) : Statement := { q with args := [] }

theorem indistinct_of_hideText (h : hideText q = hideText q') :
    Indistinct (fun settings => settings.logSql = false) q q' := by
  obtain ⟨hkind, htable, -, -⟩ := Statement.mk.inj h
  -- Nothing is asked of the texts, since no allowed settings log them.
  refine ⟨hkind, htable, ?_⟩
  intro settings hoff hlog
  rw [hoff] at hlog
  cases hlog

theorem indistinct_of_hideArgs (h : hideArgs q = hideArgs q') :
    Indistinct (fun _ => True) q q' := by
  obtain ⟨hkind, htable, hsql, -⟩ := Statement.mk.inj h
  refine ⟨hkind, htable, ?_⟩
  intro _ _ _
  exact hsql

end

/-! ### Recordings that look the same -/

/-- A note without the time, and without what is hidden of statements. What is reported is left
out. -/
def Note.outline? (hide : Statement → Statement) : Note → Option Note
  | before q => some (.before (hide q))
  | clock _ => some (.clock 0)
  | after q failure => some (.after (hide q) failure)
  | settings o => some (.settings o)
  | event _ => none

deriving instance DecidableEq for Note

def Note.time? : Note → Option Time
  | clock t => some t
  | _ => none

namespace Recording

variable {ι : Type} {hide : Statement → Statement} {i : ι} {l l' : Recording ι}

/-- The outline of what some tasks did. -/
def outline (hide : Statement → Statement) (l : Recording ι) : Recording ι :=
  l.filterMap fun m => (m.2.outline? hide).map (m.1, ·)

theorem outline_append (l l' : Recording ι) :
    outline hide (l ++ l') = outline hide l ++ outline hide l' := List.filterMap_append

theorem outline_own (i : ι) (ns : List Note) :
    outline hide (ns.map (i, ·)) = (ns.filterMap (Note.outline? hide)).map (i, ·) := by
  rw [outline, List.filterMap_map, List.map_filterMap]
  rfl

/-- Outlines show the settings. -/
theorem inForce_outline (hide : Statement → Statement) (first : Observability) (l : Recording ι) :
    inForce first (outline hide l) = inForce first l := by
  induction l generalizing first with
  | nil => rfl
  | cons m rest ih =>
    obtain ⟨i, n⟩ := m
    cases n with
    | before q => exact ih first
    | clock t => exact ih first
    | after q failure => exact ih first
    | event e => exact ih first
    | settings o => exact ih o

variable [DecidableEq ι]

/-- When a task looked at the clock. -/
def readings (i : ι) (l : Recording ι) : List Time := (own i l).filterMap Note.time?

theorem readings_own (i : ι) (l : Recording ι) (ns : List Note) :
    readings i (l ++ ns.map (i, ·)) = readings i l ++ ns.filterMap Note.time? := by
  rw [readings, own_append, own_map_self, List.filterMap_append]
  rfl

theorem readings_others {j : ι} (hj : j ≠ i) (l : Recording ι) (ns : List Note) :
    readings i (l ++ ns.map (j, ·)) = readings i l := by
  rw [readings, own_append, own_others i hj, List.append_nil]
  rfl

/-- How long the statement of a task took. It is known as soon as the task has looked at the clock
twice. -/
def elapsed (i : ι) (l : Recording ι) : Option Time :=
  match readings i l with
  | t :: u :: _ => some (u - t)
  | _ => none

theorem elapsed_of_readings {t u : Time} (h : readings i l = [t, u]) :
    elapsed i l = some (u - t) := by
  rw [elapsed, h]

/-- So far, two recordings are the same but for what is hidden. -/
structure SameSoFar (hide : Statement → Statement) (l l' : Recording ι) : Prop where
  outline : outline hide l = outline hide l'
  elapsed : ∀ i, elapsed i l = elapsed i l'

instance [Fintype ι] : Decidable (SameSoFar hide l l') :=
  decidable_of_iff (Recording.outline hide l = Recording.outline hide l' ∧
    ∀ i, Recording.elapsed i l = Recording.elapsed i l') ⟨fun h => ⟨h.1, h.2⟩, fun h => ⟨h.1, h.2⟩⟩

/-- What one task adds to recordings that stay the same. -/
theorem SameSoFar.added (h : SameSoFar hide l l') (ns ns' : List Note)
    (h' : SameSoFar hide (l ++ ns.map (i, ·)) (l' ++ ns'.map (i, ·))) :
    ns.filterMap (Note.outline? hide) = ns'.filterMap (Note.outline? hide) := by
  have houtline := h'.outline
  rw [outline_append, outline_append, h.outline, List.append_cancel_left_eq, outline_own,
    outline_own] at houtline
  exact List.map_injective_iff.mpr (Prod.mk_right_injective i) houtline

end Recording

end DataAccess.Observation
