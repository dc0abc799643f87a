import DataAccess.Proofs.Schema.Steps

/-!
# Bringing a database up to schemas converges

Once a database was brought up to schemas with success, a schema has its table just when the catalog
granted it its name, and then it has its columns, too. Doing it once more with the same schemas only
asks questions just when all schemas were granted their names (`autoMigrate_converges`).

A schema is not granted its name if there is a view with it, or a table that is spelled otherwise:
creating the table succeeds then, and does nothing.
-/

namespace DataAccess.Access.Migrator

open Sql Work

variable {σ ω δ : Type} {view : σ → ω × Phase δ}

/-- A query that only counts tables or columns. -/
def IsCount (q : Statement) : Prop :=
  q.sql = tableCountSql .sqlite ∨ q.sql = columnCountSql .sqlite

theorem isCount_ask (q : Question) : IsCount q.statement := by
  cases q with
  | table name =>
    left
    rw [Question.statement, Statement.raw]
  | column t name =>
    right
    rw [Question.statement, Statement.raw]

/-- The first letter tells counting from changing. -/
theorem head_of_isCount {q : Statement} (h : IsCount q) : q.sql.toList.head? = some 'S' := by
  rcases h with h | h
  · rw [h]
    decide
  · rw [h]
    decide

theorem not_isCount_change (a : Change) : ¬ IsCount a.statement := by
  intro h
  have hfirst : a.sql.toList.head? = some 'S' := head_of_isCount h
  cases a with
  | create s =>
    unfold Change.sql Schema.createSql at hfirst
    simp at hfirst
  | add t column =>
    unfold Change.sql addColumnSql at hfirst
    simp at hfirst

theorem isCount_iff (step : Step) : IsCount step.statement ↔ ∃ q, step = .ask q := by
  cases step with
  | ask q => exact ⟨fun _ => ⟨q, rfl⟩, fun _ => isCount_ask q⟩
  | change a => exact ⟨fun h => absurd h (not_isCount_change a), fun ⟨_, hq⟩ => nomatch hq⟩

/-! ## A second time -/

namespace Carried

variable {sure : Prop} {schemas : List Schema} {log log' : List Statement}
variable {c c' : Catalog} {r : Except Error Unit}

/-- On a settled catalog the plan only counts just when all schemas have their tables, and then it
is carried out to its end. -/
theorem isCount_iff_of_settled (h : Carried sure (c.plan schemas) log c r log' c') (hsure : sure)
    (hset : c.Settled schemas) :
    ∃ issued, log' = log ++ issued ∧
      ((∀ q ∈ issued, IsCount q) ↔ ∀ s ∈ schemas, c.hasTable s.name = true) ∧
      ((∀ s ∈ schemas, c.hasTable s.name = true) → r = .ok ()) := by
  have hasks := c.plan_only_asks_iff hset
  cases h with
  | all hlog hc =>
    refine ⟨(c.plan schemas).map Step.statement, hlog, ?_, fun _ => rfl⟩
    rw [← hasks, List.forall_mem_map]
    exact forall₂_congr fun step _ => isCount_iff step
  | upTo done failed rest hplan hlog hc hfailed =>
    -- What fails is a change, so neither is there no change nor does every schema have its table.
    obtain ⟨a, rfl⟩ := hfailed hsure
    have hmissing : ¬ ∀ s ∈ schemas, c.hasTable s.name = true := by
      rw [← hasks, hplan]
      intro hall
      obtain ⟨q, hq⟩ := hall (Step.change a) (List.mem_append_right _ List.mem_cons_self)
      cases hq
    have hissued : ¬ ∀ q ∈ (done ++ [Step.change a]).map Step.statement, IsCount q := by
      intro hall
      apply not_isCount_change a
      apply hall
      exact List.mem_map_of_mem (List.mem_append_right done List.mem_cons_self)
    exact ⟨_, hlog, iff_of_false hissued hmissing, fun hall => absurd hall hmissing⟩

end Carried

/-! ## Convergence -/

/-- The statements that were issued on a pool. -/
def issuedOn (p : Pooled (σ × List Statement)) : List Statement := p.connection.elim [] Prod.snd

theorem issuedOn_of_shows {p : Pooled (σ × List Statement)} {w : ω} {log : List Statement}
    {phase : Phase δ} (hp : p.Shows (withLog view) ((w, log), phase)) : issuedOn p = log := by
  obtain ⟨c, hc, hview⟩ := hp
  rw [issuedOn, hc]
  exact (withLog_eq.mp hview).2

variable {e : Engine σ} {S : Store ω δ} {covered : Coverage} {catalog : δ → Catalog}
variable {schemas : List Schema} {dl : Deadline}

theorem ask_answers (h : e.Refines dl S covered view) (hS : KeepsCatalog S catalog schemas)
    (hR : ReadsCatalog S schemas) (hcov : CoversSchemas covered schemas) {q : Question}
    (hq : q ∈ questions schemas) {p : Pooled (σ × List Statement)} {w : ω} {log : List Statement}
    {d : δ} (hp : p.Shows (withLog view) ((w, log), .idle d)) :
    ((q.run (e.logged.executor .sqlite dl)).run p).1 = .ok (q.holds (catalog d)) := by
  obtain ⟨r, w', ⟨p', hrun, -, -⟩, -, hanswer⟩ := ask_ends h hS hcov hq hp
  rw [hrun]
  exact hanswer hR

/-- **Bringing a database up to schemas converges** where the catalog grants the schemas their
names. After a success, a schema has its table just when it was granted its name; then it has all
columns that are not of the key; and doing it once more counts tables and columns, and issues no
other statement, just when all schemas were granted their names. -/
theorem autoMigrate_converges (h : e.Refines dl S covered view)
    (hS : KeepsCatalog S catalog schemas) (hR : ReadsCatalog S schemas)
    (hcov : CoversSchemas covered schemas)
    {p p' : Pooled (σ × List Statement)} {c : σ × List Statement} {w : ω} {d : δ}
    (hp : p.connection = some c) (hc : view c.1 = (w, .idle d))
    (hrun : (autoMigrate (e.logged.executor .sqlite dl) schemas).run p = (.ok (), p')) :
    (∀ s ∈ schemas,
      ((hasTable (e.logged.executor .sqlite dl) s.name).run p').1 =
        .ok ((catalog d).grants schemas s) ∧
      ((catalog d).grants schemas s = true → ∀ column ∈ s.columns, column.primaryKey = false →
        ((hasColumn (e.logged.executor .sqlite dl) s.name column.name).run p').1 = .ok true)) ∧
    ∃ r p'' issued, (autoMigrate (e.logged.executor .sqlite dl) schemas).run p' = (r, p'') ∧
      issuedOn p'' = issuedOn p' ++ issued ∧
      ((∀ q ∈ issued, IsCount q) ↔ ∀ s ∈ schemas, (catalog d).grants schemas s = true) ∧
      ((∀ s ∈ schemas, (catalog d).grants schemas s = true) → r = .ok ()) := by
  have hmigrate := autoMigrate_carriesOut h hS hcov fun _ (hs : _ ∈ schemas) => hs
  obtain ⟨r₁, w₁, log₁, d₁, ⟨p₁, hrun₁, -, hp₁⟩, hcarried₁⟩ :=
    hmigrate.ends ⟨c, hp, withLog_eq.mpr ⟨hc, rfl⟩⟩
  rw [hrun] at hrun₁
  obtain ⟨rfl, rfl⟩ := Prod.mk.inj hrun₁
  have hcatalog : catalog d₁ = (catalog d).migrated schemas := hcarried₁.catalog_eq
  have hset : (catalog d₁).Settled schemas := by
    rw [hcatalog]
    exact (catalog d).settled_migrated schemas
  have hgrants : ∀ s, (catalog d₁).hasTable s.name = (catalog d).grants schemas s := by
    intro s
    rw [hcatalog]
    exact (catalog d).hasTable_migrated schemas s
  refine ⟨fun s hs => ⟨?_, fun hgranted column hcolumn hkey => ?_⟩, ?_⟩
  · rw [← hgrants]
    exact ask_answers h hS hR hcov (table_mem_questions hs) hp₁
  · have hhas : (catalog d₁).hasColumn s.name column.name = true :=
      (hset s hs).2 ((hgrants s).trans hgranted) column hcolumn hkey
    rw [← hhas]
    exact ask_answers h hS hR hcov (column_mem_questions hs hcolumn hkey) hp₁
  · obtain ⟨r₂, w₂, log₂, d₂, ⟨p₂, hrun₂, -, hp₂⟩, hcarried₂⟩ := hmigrate.ends hp₁
    obtain ⟨issued, hlog, hcount, hok⟩ := hcarried₂.isCount_iff_of_settled hR hset
    simp only [hgrants] at hcount hok
    refine ⟨r₂, p₂, issued, hrun₂, ?_, hcount, hok⟩
    rw [issuedOn_of_shows hp₁, issuedOn_of_shows hp₂, hlog]

/-! ### A table that is spelled otherwise -/

namespace Catalog

/-- The error for a statement that is not known. -/
def unknown : BackendError := .database 1 "syntax error"

/-- A catalog with the statements that bring it up to some schemas. -/
def statements (schemas : List Schema) : Meaning BackendError Unit Catalog where
  execute q := fun (_, c) =>
    match (changes schemas).find? (·.statement == q) with
    | some a => (.ok 0, (), a.effect c)
    | none => (.error unknown, (), c)
  fetch q := fun (_, c) =>
    match (questions schemas).find? (·.statement == q) with
    | some a => (.ok [countRecord (if a.holds c then 1 else 0)], (), c)
    | none => (.error unknown, (), c)
  begin _ := (.ok (), ())
  commit _ _ := (.ok (), ())
  control _ _ := (.ok (), ())

/-- The statements as they are answered. -/
def store (schemas : List Schema) : Store Unit Catalog := (statements schemas).store

theorem find?_statement {ι : Type} {f : ι → Statement} {l : List ι} {a : ι} (ha : a ∈ l)
    (hinj : ∀ b ∈ l, f b = f a → b = a) : l.find? (f · == f a) = some a := by
  cases hfind : l.find? (f · == f a) with
  | none => exact absurd (beq_self_eq_true (f a)) (List.find?_eq_none.mp hfind a ha)
  | some b =>
    have hsame : (f b == f a) = true := List.find?_some (p := (f · == f a)) hfind
    rw [hinj b (List.mem_of_find?_eq_some hfind) (beq_iff_eq.mp hsame)]

theorem statement_injective {q q' : Question} (h : q.statement = q'.statement) : q = q' := by
  have hargs : q.statement.args = q'.statement.args := congrArg Statement.args h
  cases q <;> cases q' <;> simp_all [Question.statement, Statement.raw]

variable {schemas : List Schema} {q : Question} {a : Change}

theorem fetch_ask (hq : q ∈ questions schemas) (c : Catalog) :
    (store schemas).fetch q.statement ((), c) =
      (.ok [countRecord (if q.holds c then 1 else 0)], (), c) := by
  have hfind := find?_statement hq fun _ _ => statement_injective
  refine Meaning.reported_eq_ok.mpr ?_
  simp only [statements, hfind]

theorem execute_change (hinj : ∀ b ∈ changes schemas, b.statement = a.statement → b = a)
    (ha : a ∈ changes schemas) (c : Catalog) :
    (store schemas).execute a.statement ((), c) = (.ok 0, (), a.effect c) := by
  have hfind := find?_statement ha hinj
  refine Meaning.reported_eq_ok.mpr ?_
  simp only [statements, hfind]

theorem store_keepsCatalog
    (hinj : ∀ a ∈ changes schemas, ∀ b ∈ changes schemas, b.statement = a.statement → b = a) :
    KeepsCatalog (store schemas) id schemas where
  ask := by
    intro q w w' c c' rs hq hfetch
    rw [fetch_ask hq] at hfetch
    cases hfetch
    refine ⟨rfl, _, rfl, ?_⟩
    show decide (0 < if q.holds c then (1 : Int64) else 0) = q.holds c
    cases q.holds c with
    | true => rfl
    | false => rfl
  change := by
    intro a w w' c c' n ha hexecute
    rw [execute_change (hinj a ha) ha] at hexecute
    cases hexecute
    rfl

theorem store_readsCatalog (schemas : List Schema) : ReadsCatalog (store schemas) schemas where
  ask hq _ c := ⟨_, _, fetch_ask hq c⟩

theorem all_coversSchemas (schemas : List Schema) : CoversSchemas .all schemas where
  ask _ _ := trivial
  change _ _ := trivial

end Catalog

/-- The schemas of a guest book. -/
def guests : Schema := ⟨"guests", [Column.id "id", (Column.plain "name" .text).notNull]⟩

/-- The notes of the guests. -/
def remarks : Schema := ⟨"remarks", [Column.id "id", Column.plain "body" .text]⟩

/-- A catalog with a table for the notes that is spelled otherwise. -/
def capitalized : Catalog := ⟨[⟨"Remarks", true, ["id"]⟩], List.pairwise_singleton _ _⟩

/-- The executor of a catalog for the guest book. -/
def guestbook : Executor (Work ((Unit × Phase Catalog) × List Statement)) :=
  (Catalog.statements [guests, remarks]).engine.logged.executor .sqlite .unbounded

/-- A pool on the catalog. -/
def guestbookPool : Pooled ((Unit × Phase Catalog) × List Statement) :=
  ⟨some (((), .idle capitalized), []), .ofPlugin ⟨.standard, false⟩, []⟩

theorem guestbook_changes_distinct : ∀ a ∈ changes [guests, remarks],
    ∀ b ∈ changes [guests, remarks], b.statement = a.statement → b = a := by
  decide +kernel

theorem autoMigrate_guestbook :
    ((autoMigrate guestbook [guests, remarks]).run guestbookPool).1.toOption = some () := by
  decide +kernel

theorem capitalized_grants_guests : capitalized.grants [guests, remarks] guests = true := by
  decide +kernel

theorem capitalized_grants_remarks : capitalized.grants [guests, remarks] remarks = false := by
  decide +kernel

/-- The database is brought up to the guest book with success, but only the guests have their table
then, and doing it once more is not over with counting. -/
theorem autoMigrate_converges_guestbook :
    ((Catalog.statements [guests, remarks]).engine.Refines .unbounded
        (Catalog.store [guests, remarks]) .all id ∧
      KeepsCatalog (Catalog.store [guests, remarks]) id [guests, remarks] ∧
      ReadsCatalog (Catalog.store [guests, remarks]) [guests, remarks] ∧
      CoversSchemas .all [guests, remarks] ∧
      guestbookPool.connection = some (((), .idle capitalized), []) ∧
      ((autoMigrate guestbook [guests, remarks]).run guestbookPool).1.toOption = some ()) ∧
    ∃ p', (autoMigrate guestbook [guests, remarks]).run guestbookPool = (.ok (), p') ∧
      ((hasTable guestbook "guests").run p').1 = .ok true ∧
      ((hasColumn guestbook "guests" "name").run p').1 = .ok true ∧
      ((hasTable guestbook "remarks").run p').1 = .ok false ∧
      ∃ r p'' issued, (autoMigrate guestbook [guests, remarks]).run p' = (r, p'') ∧
        issuedOn p'' = issuedOn p' ++ issued ∧ ¬ ∀ q ∈ issued, IsCount q := by
  refine ⟨⟨Meaning.engine_refines _ _, Catalog.store_keepsCatalog guestbook_changes_distinct,
    Catalog.store_readsCatalog _, Catalog.all_coversSchemas _, rfl, autoMigrate_guestbook⟩,
    ((autoMigrate guestbook [guests, remarks]).run guestbookPool).2,
    eq_ok_of_toOption autoMigrate_guestbook, ?_⟩
  obtain ⟨hschemas, r, p'', issued, hrun, hissued, hcount, -⟩ :=
    autoMigrate_converges ((Catalog.statements [guests, remarks]).engine_refines .unbounded)
      (Catalog.store_keepsCatalog guestbook_changes_distinct) (Catalog.store_readsCatalog _)
      (Catalog.all_coversSchemas _) (p := guestbookPool) rfl rfl
      (eq_ok_of_toOption autoMigrate_guestbook)
  have hguests := hschemas guests List.mem_cons_self
  have hremarks := hschemas remarks (List.mem_cons_of_mem _ List.mem_cons_self)
  refine ⟨?_, ?_, ?_, r, p'', issued, hrun, hissued, fun hall => ?_⟩
  · exact hguests.1.trans (congrArg _ capitalized_grants_guests)
  · exact hguests.2 capitalized_grants_guests ((Column.plain "name" .text).notNull)
      (List.mem_cons_of_mem _ List.mem_cons_self) rfl
  · exact hremarks.1.trans (congrArg _ capitalized_grants_remarks)
  · have hgranted := hcount.mp hall remarks (List.mem_cons_of_mem _ List.mem_cons_self)
    rw [show (id capitalized : Catalog) = capitalized from rfl, capitalized_grants_remarks]
      at hgranted
    cases hgranted

end DataAccess.Access.Migrator
