import DataAccess.Proofs.Schema.Contents
import DataAccess.Proofs.Schema.Converges

/-!
# Bringing a database up to schemas only adds

Whatever fails on the way, bringing a database up to schemas has made some of the changes that the
schemas may ask for, each at most once, and each right after the database had answered that it was
needed (`History`). All else that was issued counts tables or columns. So the contents only grow,
from each moment to the next, and from any moment to the end (`autoMigrate_only_adds`).

Defaults of columns are written into statements as they are. What is assumed of the statements in
`KeepsContents` is true for schemas whose defaults are single expressions.
-/

namespace DataAccess.Access.Migrator

open Sql Work

variable {σ ω δ : Type} {view : σ → ω × Phase δ}

/-! ## Statements -/

/-- The query that asks a question in the dialect of a driver. -/
def Question.statementOn (driver : Driver) : Question → Statement
  | table name => .raw (tableCountSql driver) [.text name]
  | column t name => .raw (columnCountSql driver) [.text t, .text name]

def Change.sqlOn (driver : Driver) : Change → String
  | create s => s.createSql driver
  | add t column => addColumnSql driver t column

def Step.statementOn (driver : Driver) : Step → Statement
  | ask q => q.statementOn driver
  | change a => .exec (a.sqlOn driver) []

/-- How the statement of a step begins. -/
def Step.words (driver : Driver) : Step → String
  | ask _ => "SELECT COUNT(*) AS n FROM "
  | change (.create s) => "CREATE TABLE IF NOT EXISTS " ++ quote driver s.name
  | change (.add t column) =>
    "ALTER TABLE " ++ quote driver t ++ " ADD COLUMN " ++ quote driver column.name

theorem toList_prefix_append (a b : String) : a.toList <+: (a ++ b).toList := by
  rw [String.toList_append]
  exact List.prefix_append _ _

theorem words_count (driver : Driver) :
    "SELECT COUNT(*) AS n FROM ".toList <+: (tableCountSql driver).toList ∧
      "SELECT COUNT(*) AS n FROM ".toList <+: (columnCountSql driver).toList := by
  have hwords : ∀ rest : String, "SELECT COUNT(*) AS n FROM ".toList <+:
      ("SELECT COUNT(*) AS n FROM " ++ rest).toList := toList_prefix_append _
  unfold tableCountSql columnCountSql
  cases driver with
  | mysql | postgresql =>
    simp only [String.append_assoc]
    exact ⟨(hwords "information_schema.tables ").trans (toList_prefix_append _ _),
      (hwords "information_schema.columns ").trans (toList_prefix_append _ _)⟩
  | sqlite | none =>
    exact ⟨hwords "sqlite_master WHERE type = 'table' AND name = ?",
      hwords "pragma_table_info(?) WHERE name = ?"⟩

theorem quote_prefix_definition (driver : Driver) (column : Column) (inlineKey : Bool) :
    (quote driver column.name).toList <+: (column.definition driver inlineKey).toList := by
  unfold Column.definition
  split
  · exact toList_prefix_append _ _
  · simp only [String.append_assoc]
    exact toList_prefix_append _ _

theorem words_prefix (driver : Driver) (step : Step) :
    (step.words driver).toList <+: (step.statementOn driver).sql.toList := by
  cases step with
  | ask q =>
    cases q with
    | table name => exact (words_count driver).1
    | column t name => exact (words_count driver).2
  | change a =>
    cases a with
    | create s =>
      show ("CREATE TABLE IF NOT EXISTS " ++ quote driver s.name).toList <+:
        (s.createSql driver).toList
      unfold Schema.createSql
      simp only [String.append_assoc]
      rw [← String.append_assoc]
      exact toList_prefix_append _ _
    | add t column =>
      show ("ALTER TABLE " ++ quote driver t ++ " ADD COLUMN " ++ quote driver column.name).toList <+:
        ("ALTER TABLE " ++ quote driver t ++ " ADD COLUMN " ++
          column.definition driver false).toList
      simp only [String.toList_append, List.append_assoc]
      simp only [List.prefix_append_right_inj]
      exact quote_prefix_definition driver column false

/-- The statements on the contents do what they say whenever they succeed. What is answered to a
question depends on nothing but the data. -/
structure KeepsContents (S : Store ω δ) (driver : Driver) (holds : Question → δ → Bool)
    (contents : δ → Contents) (schemas : List Schema) : Prop where
  ask : ∀ {q w w' d d' rs}, q ∈ questions schemas →
    S.fetch (q.statementOn driver) (w, d) = (.ok rs, w', d') →
    d' = d ∧ ∀ b, positive (.ok rs) = .ok b → b = holds q d
  change : ∀ {a w w' d d' n}, a ∈ changes schemas →
    S.execute (.exec (a.sqlOn driver) []) (w, d) = (.ok n, w', d') →
    a.Effect driver (contents d) (contents d')

/-- The statements of the migrator are among those that a store speaks for. -/
def CoversSteps (covered : Coverage) (driver : Driver) (schemas : List Schema) : Prop :=
  (∀ q ∈ questions schemas, covered.alone (q.statementOn driver)) ∧
    ∀ a ∈ changes schemas, covered.alone (.exec (a.sqlOn driver) [])

/-! ## Histories -/

/-- A step with the data before and after it. -/
structure Moment (δ : Type) where
  step : Step
  before : δ
  after : δ

/-- The change that is made at a moment. -/
def Moment.change? (m : Moment δ) : Option Change :=
  match m.step with
  | .ask _ => none
  | .change a => some a

/-- What happened on some data, up to the end or up to the first step that failed. Questions change
nothing, nor does what fails. A change was made where the answer to its question is no. -/
inductive History (driver : Driver) (holds : Question → δ → Bool) (contents : δ → Contents) :
    δ → List (Moment δ) → Except Error Unit → δ → Prop
  | finished (d : δ) : History driver holds contents d [] (.ok ()) d
  | failed (d : δ) (step : Step) (cause : Error)
      (hneeded : ∀ a, step = .change a → holds a.question d = false) :
      History driver holds contents d [⟨step, d, d⟩] (.error cause) d
  | asked {d d' : δ} {ms : List (Moment δ)} {r : Except Error Unit} (q : Question)
      (h : History driver holds contents d ms r d') :
      History driver holds contents d (⟨.ask q, d, d⟩ :: ms) r d'
  | changed {d d₁ d' : δ} {ms : List (Moment δ)} {r : Except Error Unit} (a : Change)
      (hneeded : holds a.question d = false) (heffect : a.Effect driver (contents d) (contents d₁))
      (h : History driver holds contents d₁ ms r d') :
      History driver holds contents d (⟨.change a, d, d₁⟩ :: ms) r d'

namespace History

variable {driver : Driver} {holds : Question → δ → Bool} {contents : δ → Contents}
variable {d d₁ d' : δ} {ms ms' : List (Moment δ)} {r : Except Error Unit}

theorem append (h : History driver holds contents d ms (.ok ()) d₁)
    (h' : History driver holds contents d₁ ms' r d') :
    History driver holds contents d (ms ++ ms') r d' := by
  generalize hr : (Except.ok () : Except Error Unit) = r₁ at h
  induction h with
  | finished d => exact h'
  | failed d step cause hneeded => cases hr
  | asked q _ ih => exact .asked q (ih h' hr)
  | changed a hneeded heffect _ ih => exact .changed a hneeded heffect (ih h' hr)

theorem extended (h : History driver holds contents d ms r d') :
    Contents.Extends (contents d) (contents d') := by
  induction h with
  | finished d => exact .refl _
  | failed d step cause hneeded => exact .refl _
  | asked q _ ih => exact ih
  | changed a hneeded heffect _ ih => exact heffect.extended.trans ih

/-- What was there before a moment is there at it, and what is there after it stays. -/
theorem extends_of_mem (h : History driver holds contents d ms r d') :
    ∀ m ∈ ms, Contents.Extends (contents d) (contents m.before) ∧
      Contents.Extends (contents m.before) (contents m.after) ∧
      Contents.Extends (contents m.after) (contents d') := by
  induction h with
  | finished d => exact List.forall_mem_nil _
  | failed d step cause hneeded =>
    exact List.forall_mem_singleton.mpr ⟨.refl _, .refl _, .refl _⟩
  | asked q h ih => exact List.forall_mem_cons.mpr ⟨⟨.refl _, .refl _, h.extended⟩, ih⟩
  | changed a hneeded heffect h ih =>
    refine List.forall_mem_cons.mpr ⟨⟨.refl _, heffect.extended, h.extended⟩, ?_⟩
    intro m hm
    obtain ⟨hbefore, hrest⟩ := ih m hm
    exact ⟨heffect.extended.trans hbefore, hrest⟩

end History

/-! ## Work that only adds -/

variable {e : Engine σ} {S : Store ω δ} {covered : Coverage} {driver : Driver}
variable {holds : Question → δ → Bool} {contents : δ → Contents} {schemas : List Schema}
variable {dl : Deadline}

/-- On data that satisfies `pre`, work has a history with some of the allowed changes, in order. -/
structure OnlyAdds (view : σ → ω × Phase δ) (driver : Driver) (holds : Question → δ → Bool)
    (contents : δ → Contents) (pre : δ → Prop) (allowed : List Change)
    (work : Work (σ × List Statement) (Except Error Unit)) : Prop where
  ends : ∀ {p w log d}, p.Shows (withLog view) ((w, log), .idle d) → pre d →
    ∃ r w' d' ms, Ends (withLog view) work p r
        ((w', log ++ ms.map fun m => m.step.statementOn driver), .idle d') ∧
      History driver holds contents d ms r d' ∧ (ms.filterMap Moment.change?).Sublist allowed

namespace OnlyAdds

variable {pre : δ → Prop} {allowed more : List Change}
variable {work : Work (σ × List Statement) (Except Error Unit)}

theorem nothing : OnlyAdds view driver holds contents pre [] (pure (.ok ())) := by
  refine ⟨fun {p w log d} hp _ => ?_⟩
  refine ⟨.ok (), w, d, [], ?_, .finished d, .slnil⟩
  rw [List.map_nil, List.append_nil]
  exact .pure hp

theorem mono {pre' : δ → Prop} (h : OnlyAdds view driver holds contents pre allowed work)
    (hpre : ∀ d, pre' d → pre d) (hallowed : allowed.Sublist more) :
    OnlyAdds view driver holds contents pre' more work := by
  refine ⟨fun {p w log d} hp hd => ?_⟩
  obtain ⟨r, w', d', ms, hends, hhistory, hchanges⟩ := h.ends hp (hpre d hd)
  exact ⟨r, w', d', ms, hends, hhistory, hchanges.trans hallowed⟩

/-- Make a change that is needed. -/
theorem change (h : e.Refines dl S covered view) (hS : KeepsContents S driver holds contents schemas)
    (hcov : CoversSteps covered driver schemas) {a : Change} (ha : a ∈ changes schemas) :
    OnlyAdds view driver holds contents (fun d => holds a.question d = false) [a]
      (run (e.logged.executor driver dl) (a.sqlOn driver)) := by
  refine ⟨fun {p w log d} hp hneeded => ?_⟩
  have hexec := (h.logged.execute_alone_ends driver (hcov.2 a ha) hp).map
    (Except.map fun _ => ())
  rcases hrun : S.execute (.exec (a.sqlOn driver) []) (w, d) with ⟨r, w', d'⟩
  simp only [Store.logged, hrun] at hexec
  cases r with
  | error cause =>
    refine ⟨_, w', d, [⟨.change a, d, d⟩], hexec, .failed d (.change a) _ ?_, List.Sublist.refl _⟩
    rintro _ ⟨⟩
    exact hneeded
  | ok n =>
    refine ⟨_, w', d', [⟨.change a, d, d'⟩], hexec, ?_, List.Sublist.refl _⟩
    exact .changed a hneeded (hS.change ha hrun) (.finished d')

/-- Ask, and go on as the answer says. -/
theorem ask (h : e.Refines dl S covered view) (hS : KeepsContents S driver holds contents schemas)
    (hcov : CoversSteps covered driver schemas) {q : Question} (hq : q ∈ questions schemas)
    {next : Except Error Bool → Work (σ × List Statement) (Except Error Unit)}
    (hfail : ∀ cause, next (.error cause) = pure (.error cause))
    (hnext : ∀ b, OnlyAdds view driver holds contents (fun d => holds q d = b) allowed
      (next (.ok b))) :
    OnlyAdds view driver holds contents pre allowed
      (q.run (e.logged.executor driver dl) >>= next) := by
  refine ⟨fun {p w log d} hp _ => ?_⟩
  have hfetch := h.logged.fetch_alone_ends driver (hcov.1 q hq) hp
  rcases hrun : S.fetch (q.statementOn driver) (w, d) with ⟨r, w₁, d₁⟩
  simp only [Store.logged, hrun] at hfetch
  have hends : Ends (withLog view) (q.run (e.logged.executor driver dl)) p
      (positive r)
      ((w₁, log ++ [q.statementOn driver]), .idle (whenOk r d₁ d)) := by
    cases q with
    | table name => exact (count_ends hfetch).map (Except.map fun n => decide (0 < n))
    | column t name => exact (count_ends hfetch).map (Except.map fun n => decide (0 < n))
  -- Whether the answer came or not, the data is what it was.
  have hsame : whenOk r d₁ d = d := by
    cases r with
    | error cause => rfl
    | ok rs => exact (hS.ask hq hrun).1
  rw [hsame] at hends
  obtain ⟨p₁, hrun₁, hle₁, hp₁⟩ := hends
  cases hanswer : positive r with
  | error cause =>
    rw [hanswer] at hrun₁
    refine ⟨.error cause, w₁, d, [⟨.ask q, d, d⟩], .after hrun₁ hle₁ ?_,
      .failed d (.ask q) cause ?_, List.nil_sublist _⟩
    · rw [hfail]
      exact .pure hp₁
    · intro a ha
      cases ha
  | ok b =>
    rw [hanswer] at hrun₁
    have hholds : holds q d = b := by
      cases r with
      | error cause => cases hanswer
      | ok rs => exact ((hS.ask hq hrun).2 b hanswer).symm
    obtain ⟨r', w', d', ms, hends, hhistory, hchanges⟩ := (hnext b).ends hp₁ hholds
    refine ⟨r', w', d', ⟨.ask q, d, d⟩ :: ms, .after hrun₁ hle₁ ?_, .asked q hhistory, hchanges⟩
    rw [List.map_cons, ← List.singleton_append, ← List.append_assoc]
    exact hends

/-- Go on after work that succeeds. -/
theorem andThen (h : OnlyAdds view driver holds contents pre allowed work)
    {next : Except Error Unit → Work (σ × List Statement) (Except Error Unit)}
    (hfail : ∀ cause, next (.error cause) = pure (.error cause))
    (hnext : OnlyAdds view driver holds contents (fun _ => True) more (next (.ok ()))) :
    OnlyAdds view driver holds contents pre (allowed ++ more) (work >>= next) := by
  refine ⟨fun {p w log d} hp hd => ?_⟩
  obtain ⟨r, w₁, d₁, ms, ⟨p₁, hrun₁, hle₁, hp₁⟩, hhistory, hchanges⟩ := h.ends hp hd
  cases r with
  | error cause =>
    refine ⟨.error cause, w₁, d₁, ms, .after hrun₁ hle₁ ?_, hhistory,
      hchanges.trans (List.sublist_append_left _ _)⟩
    rw [hfail]
    exact .pure hp₁
  | ok _ =>
    obtain ⟨r, w₂, d₂, ms', hends, hhistory', hchanges'⟩ := hnext.ends hp₁ trivial
    refine ⟨r, w₂, d₂, ms ++ ms', .after hrun₁ hle₁ ?_, hhistory.append hhistory', ?_⟩
    · rw [List.map_append, ← List.append_assoc]
      exact hends
    · rw [List.filterMap_append]
      exact hchanges.append hchanges'

end OnlyAdds

/-! ## The work of the migrator -/

section

variable (h : e.Refines dl S covered view) (hS : KeepsContents S driver holds contents schemas)
  (hcov : CoversSteps covered driver schemas)

include h hS hcov

theorem addMissing_onlyAdds {table : String} {columns : List Column}
    (hcolumns : ∀ column ∈ columns, column.primaryKey = false →
      .column table column.name ∈ questions schemas ∧ .add table column ∈ changes schemas) :
    OnlyAdds view driver holds contents (fun _ => True)
      ((columns.filter (!·.primaryKey)).map (.add table))
      (addMissing (e.logged.executor driver dl) table columns) := by
  induction columns with
  | nil => exact .nothing
  | cons column rest ih =>
    obtain ⟨hcolumn, hrest⟩ := List.forall_mem_cons.mp hcolumns
    by_cases hkey : column.primaryKey = true
    · rw [addMissing, if_pos hkey, List.filter_cons_of_neg (by simp [hkey])]
      exact ih hrest
    obtain ⟨hq, ha⟩ := hcolumn (Bool.eq_false_iff.mpr hkey)
    rw [addMissing, if_neg hkey, List.filter_cons_of_pos (by simp [hkey]), List.map_cons]
    apply OnlyAdds.ask h hS hcov hq
    · intro cause
      rfl
    · intro b
      cases b with
      | true => exact (ih hrest).mono (fun _ _ => trivial) (List.sublist_cons_self _ _)
      | false =>
        -- The answer was no, so the column may be added before the others are looked at.
        apply (OnlyAdds.change h hS hcov ha).andThen
        · intro cause
          rfl
        · exact ih hrest

theorem bringUp_onlyAdds {s : Schema} (hs : s ∈ schemas) :
    OnlyAdds view driver holds contents (fun _ => True) (changes [s])
      (bringUp (e.logged.executor driver dl) s) := by
  have hchanges : changes [s] =
      [.create s] ++ (s.columns.filter (!·.primaryKey)).map (.add s.name) := List.append_nil _
  rw [hchanges]
  unfold bringUp
  apply OnlyAdds.ask h hS hcov (table_mem_questions hs)
  · intro cause
    rfl
  · intro b
    cases b with
    | false =>
      apply (OnlyAdds.change h hS hcov (create_mem_changes hs)).mono
      · intro d hd
        exact hd
      · exact List.sublist_append_left _ _
    | true =>
      apply OnlyAdds.mono (addMissing_onlyAdds h hS hcov fun column hcolumn hkey =>
        ⟨column_mem_questions hs hcolumn hkey, add_mem_changes hs hcolumn hkey⟩)
      · intro _ _
        trivial
      · exact List.sublist_append_right _ _

theorem autoMigrate_onlyAdds {todo : List Schema} (htodo : ∀ s ∈ todo, s ∈ schemas) :
    OnlyAdds view driver holds contents (fun _ => True) (changes todo)
      (autoMigrate (e.logged.executor driver dl) todo) := by
  induction todo with
  | nil => exact .nothing
  | cons s rest ih =>
    obtain ⟨hs, hrest⟩ := List.forall_mem_cons.mp htodo
    have hchanges : changes (s :: rest) = changes [s] ++ changes rest := by
      rw [changes, changes, changes, ← List.flatMap_append, List.singleton_append]
    rw [hchanges]
    unfold autoMigrate
    apply (bringUp_onlyAdds h hS hcov hs).andThen
    · intro cause
      rfl
    · exact ih hrest

end

/-- **Bringing a database up to schemas only adds**, whether it comes to its end or fails on the
way. What was issued are the steps of a history: counts, and the creation of tables and the addition
of columns that the schemas ask for, at most once each and in order, each at a moment at which it
was needed. At each moment the contents extend what there was before, and they stay. -/
theorem autoMigrate_only_adds (h : e.Refines dl S covered view)
    (hS : KeepsContents S driver holds contents schemas)
    (hcov : CoversSteps covered driver schemas) {p : Pooled (σ × List Statement)}
    {c : σ × List Statement} {w : ω} {d : δ} (hp : p.connection = some c)
    (hc : view c.1 = (w, .idle d)) :
    ∃ r p' c' w' d' ms, (autoMigrate (e.logged.executor driver dl) schemas).run p = (r, p') ∧
      p'.connection = some c' ∧ view c'.1 = (w', .idle d') ∧
      issuedOn p' = issuedOn p ++ ms.map (fun m => m.step.statementOn driver) ∧
      (∀ m ∈ ms, (m.step.words driver).toList <+: (m.step.statementOn driver).sql.toList) ∧
      History driver holds contents d ms r d' ∧
      (ms.filterMap Moment.change?).Sublist (changes schemas) ∧
      (∀ m ∈ ms, Contents.Extends (contents d) (contents m.before) ∧
        Contents.Extends (contents m.before) (contents m.after) ∧
        Contents.Extends (contents m.after) (contents d')) ∧
      Contents.Extends (contents d) (contents d') := by
  obtain ⟨r, w', d', ms, ⟨p', hrun, -, hp'⟩, hhistory, hchanges⟩ :=
    (autoMigrate_onlyAdds h hS hcov fun _ hs => hs).ends ⟨c, hp, withLog_eq.mpr ⟨hc, rfl⟩⟩
      trivial
  obtain ⟨c', hconnection, hview⟩ := hp'
  refine ⟨r, p', c', w', d', ms, hrun, hconnection, (withLog_eq.mp hview).1, ?_,
    fun m _ => words_prefix driver m.step, hhistory, hchanges, hhistory.extends_of_mem,
    hhistory.extended⟩
  rw [issuedOn_of_shows ⟨c', hconnection, hview⟩, issuedOn, hp]
  rfl

/-! ### A column that cannot be added -/

namespace Contents

/-- The answer to a question where names are told apart by their spelling. -/
def answer : Question → Contents → Bool
  | .table name, T => T.any (·.name == name)
  | .column t name, T => T.any fun u => u.name == t && u.columns.any (·.1 == name)

/-- Add a column to a table. Its values are null, so it has to allow that unless there are none. -/
def gain (driver : Driver) (name : String) (column : Column) : Contents → Option Contents
  | [] => none
  | t :: rest =>
    if t.name = name then
      if column.nullable || t.rows.isEmpty then
        some ({ t with
          columns := t.columns ++ [(column.name, column.definition driver false)]
          rows := t.rows.map (· ++ [.null]) } :: rest)
      else none
    else (gain driver name column rest).map (t :: ·)

def make? (driver : Driver) (T : Contents) : Change → Option Contents
  | .create s => some (if answer (.table s.name) T then T else T ++ [.ofSchema driver s])
  | .add name column => gain driver name column T

theorem effect_gain {name : String} {column : Column} {T T' : Contents}
    (h : gain driver name column T = some T') : (Change.add name column).Effect driver T T' := by
  induction T generalizing T' with
  | nil => cases h
  | cons t rest ih =>
    rw [gain] at h
    split at h
    · split at h
      · cases h
        refine .added name column [] rest ⟨rfl, rfl, ?_⟩
        rw [List.forall₂_map_right_iff, List.forall₂_same]
        intro row _
        exact ⟨.null, rfl⟩
      · cases h
    · obtain ⟨rest', hrest, rfl⟩ := Option.map_eq_some_iff.mp h
      cases ih hrest with
      | added name column before after hgains => exact .added name column (t :: before) after hgains

theorem effect_make? {T T' : Contents} {a : Change} (h : make? driver T a = some T') :
    a.Effect driver T T' := by
  cases a with
  | create s =>
    rw [make?] at h
    split at h
    · cases h
      exact .there s T
    · cases h
      exact .created s T
  | add name column => exact effect_gain h

/-- A database with the statements that bring it up to some schemas. -/
def statements (driver : Driver) (schemas : List Schema) :
    Meaning BackendError Unit Contents where
  execute q := fun (_, T) =>
    match (changes schemas).find? fun a => .exec (a.sqlOn driver) [] == q with
    | some a =>
      match make? driver T a with
      | some T' => (.ok 0, (), T')
      | none => (.error Catalog.unknown, (), T)
    | none => (.error Catalog.unknown, (), T)
  fetch q := fun (_, T) =>
    match (questions schemas).find? (·.statementOn driver == q) with
    | some a => (.ok [countRecord (if answer a T then 1 else 0)], (), T)
    | none => (.error Catalog.unknown, (), T)
  begin _ := (.ok (), ())
  commit _ _ := (.ok (), ())
  control _ _ := (.ok (), ())

/-- The statements as they are answered. -/
def store (driver : Driver) (schemas : List Schema) : Store Unit Contents :=
  (statements driver schemas).store

theorem statementOn_injective {q q' : Question} (h : q.statementOn driver = q'.statementOn driver) :
    q = q' := by
  have hargs : (q.statementOn driver).args = (q'.statementOn driver).args :=
    congrArg Statement.args h
  cases q <;> cases q' <;> simp_all [Question.statementOn, Statement.raw]

theorem store_keepsContents (hinj : ∀ a ∈ changes schemas, ∀ b ∈ changes schemas,
    (.exec (b.sqlOn driver) [] : Statement) = .exec (a.sqlOn driver) [] → b = a) :
    KeepsContents (store driver schemas) driver answer id schemas where
  ask := by
    intro q w w' T T' rs hq hfetch
    have hsame : ∀ b ∈ questions schemas, b.statementOn driver = q.statementOn driver → b = q :=
      fun _ _ => statementOn_injective
    have hfind := Catalog.find?_statement hq hsame
    have hdone := Meaning.reported_eq_ok.mp hfetch
    simp only [statements, hfind] at hdone
    cases hdone
    refine ⟨rfl, fun b hb => ?_⟩
    rw [positive_ok] at hb
    rw [← Except.ok.inj hb]
    cases answer q T with
    | true => rfl
    | false => rfl
  change := by
    intro a w w' T T' n ha hexecute
    have hfind := Catalog.find?_statement ha (hinj a ha)
    have hdone := Meaning.reported_eq_ok.mp hexecute
    simp only [statements, hfind] at hdone
    split at hdone
    · next T₁ hmake =>
      cases hdone
      exact effect_make? hmake
    · cases hdone

end Contents

def visitors : Schema := ⟨"visitors", [Column.id "id"]⟩

/-- Notes that must not be empty. -/
def strictRemarks : Schema := ⟨"remarks", [(Column.plain "body" .text).notNull]⟩

/-- Contents with an old note, that has no text. -/
def oldRemarks : Contents := [⟨"remarks", [("id", "\"id\" INTEGER")], [[.int 1]]⟩]

def strictStatements : Meaning BackendError Unit Contents :=
  Contents.statements .sqlite [visitors, strictRemarks]

def strictStore : Store Unit Contents := strictStatements.store

def oldPool : Pooled ((Unit × Phase Contents) × List Statement) :=
  ⟨some (((), .idle oldRemarks), []), .ofPlugin ⟨.standard, false⟩, []⟩

def strictRun : Except Error Unit × Pooled ((Unit × Phase Contents) × List Statement) :=
  (autoMigrate (strictStatements.engine.logged.executor .sqlite .unbounded)
    [visitors, strictRemarks]).run oldPool

theorem strictRun_fails :
    (∀ a ∈ changes [visitors, strictRemarks], ∀ b ∈ changes [visitors, strictRemarks],
      (.exec (b.sqlOn .sqlite) [] : Statement) = .exec (a.sqlOn .sqlite) [] → b = a) ∧
    strictRun.1.toOption = none ∧ (issuedOn strictRun.2).length = 5 ∧
    strictRun.2.connection.map (·.1.2.base) =
      some (oldRemarks ++ [.ofSchema .sqlite visitors]) := by
  decide +kernel

/-- The visitors get their table. The column of the notes is asked for and cannot be added, so this is
the end, and the old note is still there. -/
theorem autoMigrate_only_adds_strictRemarks :
    (strictStatements.engine.Refines .unbounded strictStore .all id ∧
      KeepsContents strictStore .sqlite Contents.answer id [visitors, strictRemarks] ∧
      CoversSteps .all .sqlite [visitors, strictRemarks]) ∧
    ∃ cause p' ms, strictRun = (.error cause, p') ∧ ms.length = 5 ∧
      issuedOn p' = ms.map (fun m : Moment Contents => m.step.statementOn .sqlite) ∧
      History .sqlite Contents.answer id oldRemarks ms (.error cause)
        (oldRemarks ++ [.ofSchema .sqlite visitors]) := by
  obtain ⟨hinj, hfails, hissued, hafter⟩ := strictRun_fails
  have hkeeps := Contents.store_keepsContents hinj
  have hcovers : CoversSteps .all .sqlite [visitors, strictRemarks] :=
    ⟨fun _ _ => trivial, fun _ _ => trivial⟩
  refine ⟨⟨strictStatements.engine_refines .unbounded, hkeeps, hcovers⟩, ?_⟩
  obtain ⟨r, p', c', w', d', ms, hrun, hconnection, hview, hlog, -, hhistory, -⟩ :=
    autoMigrate_only_adds (strictStatements.engine_refines .unbounded) hkeeps hcovers
      (p := oldPool) rfl rfl
  have hstrict : strictRun = (r, p') := hrun
  rw [hstrict] at hfails hissued hafter
  dsimp only at hfails hissued hafter
  have hdata : d' = oldRemarks ++ [.ofSchema .sqlite visitors] := by
    have hbase : c'.1.2.base = d' := congrArg (fun v => v.2.base) hview
    rw [hconnection, Option.map_some, hbase] at hafter
    exact Option.some_inj.mp hafter
  have hlog' : issuedOn p' = ms.map fun m => m.step.statementOn .sqlite := hlog
  rw [hlog', List.length_map] at hissued
  cases r with
  | ok _ => cases hfails
  | error cause =>
    rw [hdata] at hhistory
    exact ⟨cause, p', ms, hstrict, hissued, hlog', hhistory⟩

end DataAccess.Access.Migrator
