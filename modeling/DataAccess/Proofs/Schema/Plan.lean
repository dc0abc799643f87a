import DataAccess.Proofs.Schema.Catalog

/-!
# What bringing a catalog up to schemas comes to

Bringing a database up to schemas asks its catalog questions and changes it. `Catalog.plan` lists
these steps in order for the case that all of them succeed, and `Catalog.migrated` is the catalog
after them. Two facts about it matter:

* `hasTable_migrated` — a schema has its table then just when the catalog grants it its name: what
  has the name first, in the catalog or in the list of schemas, is a table and is spelled the same;
* `settled_migrated` — a schema that has its table then has its columns, too.
-/

namespace DataAccess.Access.Migrator

open Sql Sqlite

/-! ## Steps -/

/-- What is asked of a catalog. -/
inductive Question where
  | table (name : String)
  | column (table name : String)
deriving DecidableEq

/-- The answer that a catalog gives. -/
def Question.holds (c : Catalog) : Question → Bool
  | table name => c.hasTable name
  | column t name => c.hasColumn t name

/-- What is changed in a catalog. -/
inductive Change where
  | create (s : Schema)
  | add (table : String) (column : Column)
deriving DecidableEq

/-- The catalog after a change. -/
def Change.effect (c : Catalog) : Change → Catalog
  | create s => c.create s
  | add t column => c.addColumn t column.name

/-- A step of bringing a catalog up to schemas. -/
inductive Step where
  | ask (q : Question)
  | change (a : Change)

/-- The catalog after a step. -/
def Step.effect (c : Catalog) : Step → Catalog
  | ask _ => c
  | change a => a.effect c

namespace Catalog

variable {c c' : Catalog} {s : Schema} {schemas : List Schema} {table n : String}

/-- The catalog after some steps. -/
def after (c : Catalog) (steps : List Step) : Catalog := steps.foldl Step.effect c

theorem after_append (c : Catalog) (steps more : List Step) :
    c.after (steps ++ more) = (c.after steps).after more :=
  List.foldl_append

theorem extends_after (c : Catalog) (steps : List Step) : Extends c (c.after steps) := by
  induction steps generalizing c with
  | nil => exact .refl c
  | cons step rest ih =>
    have hstep : Extends c (step.effect c) := by
      cases step with
      | ask q => exact .refl c
      | change a =>
        cases a with
        | create s => exact extends_create c s
        | add table column => exact extends_addColumn c table column.name
    exact hstep.trans (ih (step.effect c))

/-! ## Columns -/

/-- The steps that add the missing ones of some columns. -/
def columnSteps (c : Catalog) (table : String) : List Column → List Step
  | [] => []
  | column :: rest =>
    if column.primaryKey then c.columnSteps table rest
    else .ask (.column table column.name) ::
      if c.hasColumn table column.name then c.columnSteps table rest
      else .change (.add table column) :: (c.addColumn table column.name).columnSteps table rest

/-- Adding columns leaves what is a table and how it is spelled. -/
theorem head_after_columnSteps (c : Catalog) (table n : String) (columns : List Column) :
    ((c.after (c.columnSteps table columns)).relation? n).map Relation.head =
      (c.relation? n).map Relation.head := by
  induction columns generalizing c with
  | nil => rfl
  | cons column rest ih =>
    unfold columnSteps
    by_cases hkey : column.primaryKey = true
    · rw [if_pos hkey]
      exact ih c
    rw [if_neg hkey]
    by_cases hthere : c.hasColumn table column.name = true
    · rw [if_pos hthere]
      exact ih c
    rw [if_neg hthere]
    refine (ih (c.addColumn table column.name)).trans ?_
    rw [relation?_addColumn, Option.map_map]
    congr 1
    funext r
    exact r.gain_head table column.name

/-- The relation with a name has the columns that are not of the key. -/
def HasColumns (c : Catalog) (table : String) (columns : List Column) : Prop :=
  ∀ column ∈ columns, column.primaryKey = false → c.hasColumn table column.name = true

theorem Extends.hasColumns {columns : List Column} (h : Extends c c')
    (hcolumns : c.HasColumns table columns) : c'.HasColumns table columns :=
  fun column hcolumn hkey => h.hasColumn (hcolumns column hcolumn hkey)

theorem hasColumns_after_columnSteps (hthere : (c.relation? table).isSome)
    (columns : List Column) :
    (c.after (c.columnSteps table columns)).HasColumns table columns := by
  induction columns generalizing c with
  | nil => exact List.forall_mem_nil _
  | cons column rest ih =>
    unfold columnSteps HasColumns
    by_cases hkey : column.primaryKey = true
    · rw [if_pos hkey]
      refine List.forall_mem_cons.mpr ⟨fun hother => ?_, ih hthere⟩
      rw [hkey] at hother
      cases hother
    rw [if_neg hkey]
    by_cases hcolumn : c.hasColumn table column.name = true
    · rw [if_pos hcolumn]
      exact List.forall_mem_cons.mpr ⟨fun _ => (extends_after c _).hasColumn hcolumn, ih hthere⟩
    rw [if_neg hcolumn]
    -- The column is there once it is added, and the later columns leave it.
    have hadded := hasColumn_addColumn hthere column.name
    have hlater := extends_after (c.addColumn table column.name)
      ((c.addColumn table column.name).columnSteps table rest)
    exact List.forall_mem_cons.mpr ⟨fun _ => hlater.hasColumn hadded,
      ih ((extends_addColumn c table column.name).isSome hthere)⟩

/-- Nothing is added where all columns are there. -/
theorem columnSteps_of_hasColumns {columns : List Column} (h : c.HasColumns table columns) :
    c.columnSteps table columns =
      (columns.filter (!·.primaryKey)).map fun column => .ask (.column table column.name) := by
  induction columns with
  | nil => rfl
  | cons column rest ih =>
    obtain ⟨hcolumn, hrest⟩ := List.forall_mem_cons.mp h
    unfold columnSteps
    by_cases hkey : column.primaryKey = true
    · rw [if_pos hkey, List.filter_cons_of_neg (by simp [hkey]), ih hrest]
    · rw [if_neg hkey, if_pos (hcolumn (Bool.eq_false_iff.mpr hkey)),
        List.filter_cons_of_pos (by simp [hkey]), List.map_cons, ih hrest]

/-! ## Schemas -/

/-- The steps that bring a catalog up to a schema. -/
def schemaSteps (c : Catalog) (s : Schema) : List Step :=
  .ask (.table s.name) ::
    if c.hasTable s.name then c.columnSteps s.name s.columns else [.change (.create s)]

/-- The catalog that is brought up to a schema. -/
def broughtUp (c : Catalog) (s : Schema) : Catalog := c.after (c.schemaSteps s)

theorem broughtUp_of_hasTable (h : c.hasTable s.name = true) :
    c.broughtUp s = c.after (c.columnSteps s.name s.columns) := by
  unfold broughtUp schemaSteps
  rw [if_pos h]
  rfl

theorem broughtUp_of_not_hasTable (h : ¬ c.hasTable s.name = true) :
    c.broughtUp s = c.create s := by
  unfold broughtUp schemaSteps
  rw [if_neg h]
  rfl

/-- What a name finds first, in the catalog or in a list of schemas. -/
def holder? (c : Catalog) (schemas : List Schema) (n : String) : Option Relation :=
  (c.relations ++ schemas.map relationOf).find? (sameName ·.name n)

theorem holder?_eq (c : Catalog) (schemas : List Schema) (n : String) :
    c.holder? schemas n =
      (c.relation? n).or ((schemas.map relationOf).find? (sameName ·.name n)) :=
  List.find?_append

/-- A name finds what it found, or else the table of the schema, with more columns maybe. -/
theorem head_broughtUp (c : Catalog) (s : Schema) (n : String) :
    ((c.broughtUp s).relation? n).map Relation.head = (c.holder? [s] n).map Relation.head := by
  rw [holder?_eq, List.map_singleton]
  by_cases htable : c.hasTable s.name = true
  · rw [broughtUp_of_hasTable htable, head_after_columnSteps]
    cases hn : c.relation? n with
    | some r => rw [Option.some_or]
    | none =>
      -- The name of the schema finds its table, so the name that finds nothing is another one.
      rw [Option.none_or, List.find?_cons_of_neg, List.find?_nil]
      intro hsame
      have hthere := isSome_of_hasTable htable
      rw [show c.relation? s.name = none from (relation?_congr hsame).trans hn] at hthere
      cases hthere
  · rw [broughtUp_of_not_hasTable htable, relation?_create]

theorem isSome_broughtUp (c : Catalog) (s : Schema) :
    ((c.broughtUp s).relation? s.name).isSome := by
  by_cases htable : c.hasTable s.name = true
  · exact (extends_after c _).isSome (isSome_of_hasTable htable)
  · rw [broughtUp_of_not_hasTable htable]
    exact isSome_create c s

/-- A schema that has its table after it was brought up has its columns, too. -/
theorem hasColumns_broughtUp (h : (c.broughtUp s).hasTable s.name = true) :
    (c.broughtUp s).HasColumns s.name s.columns := by
  by_cases htable : c.hasTable s.name = true
  · rw [broughtUp_of_hasTable htable]
    exact hasColumns_after_columnSteps (isSome_of_hasTable htable) s.columns
  · rw [broughtUp_of_not_hasTable htable] at h ⊢
    cases hn : c.relation? s.name with
    | none => exact fun column hcolumn _ => hasColumn_create hn hcolumn
    | some r =>
      -- Something else has the name, and keeps it.
      rw [create_eq_self (by rw [hn]; rfl)] at h
      exact absurd h htable

/-! ## Lists of schemas -/

/-- The steps that bring a catalog up to schemas, one after the other. -/
def plan (c : Catalog) : List Schema → List Step
  | [] => []
  | s :: rest => c.schemaSteps s ++ (c.broughtUp s).plan rest

/-- The catalog that is brought up to schemas. -/
def migrated (c : Catalog) (schemas : List Schema) : Catalog := c.after (c.plan schemas)

@[simp] theorem migrated_nil (c : Catalog) : c.migrated [] = c := rfl

@[simp] theorem migrated_cons (c : Catalog) (s : Schema) (rest : List Schema) :
    c.migrated (s :: rest) = (c.broughtUp s).migrated rest :=
  after_append c _ _

theorem extends_migrated (c : Catalog) (schemas : List Schema) : Extends c (c.migrated schemas) :=
  extends_after c _

/-- In the end, a name finds what it found first. -/
theorem head_migrated (c : Catalog) (schemas : List Schema) (n : String) :
    ((c.migrated schemas).relation? n).map Relation.head =
      (c.holder? schemas n).map Relation.head := by
  induction schemas generalizing c with
  | nil => rw [migrated_nil, holder?_eq, List.map_nil, List.find?_nil, Option.or_none]
  | cons s rest ih =>
    calc ((c.migrated (s :: rest)).relation? n).map Relation.head
      _ = ((c.broughtUp s).holder? rest n).map Relation.head := by rw [migrated_cons, ih]
      _ = (((c.broughtUp s).relation? n).map Relation.head).or
            (((rest.map relationOf).find? (sameName ·.name n)).map Relation.head) := by
          rw [holder?_eq, Option.map_or]
      _ = ((c.holder? [s] n).or
            ((rest.map relationOf).find? (sameName ·.name n))).map Relation.head := by
          rw [head_broughtUp, Option.map_or]
      _ = (c.holder? (s :: rest) n).map Relation.head := by
          rw [holder?, holder?, ← List.find?_append, List.append_assoc, ← List.map_append,
            List.singleton_append]

/-- Whether a catalog grants a schema of a list its name: what the name finds first is a table, and
is spelled the same. -/
def grants (c : Catalog) (schemas : List Schema) (s : Schema) : Bool :=
  (c.holder? schemas s.name).any (·.isTableNamed s.name)

/-- After the migration there are the tables of the schemas that were granted their names. -/
theorem hasTable_migrated (c : Catalog) (schemas : List Schema) (s : Schema) :
    (c.migrated schemas).hasTable s.name = c.grants schemas s := by
  rw [hasTable_eq]
  exact Relation.any_isTableNamed (head_migrated c schemas s.name) s.name

/-- All names of the schemas are taken, and the schemas that have their tables have their
columns. -/
def Settled (c : Catalog) (schemas : List Schema) : Prop :=
  ∀ s ∈ schemas, (c.relation? s.name).isSome ∧
    (c.hasTable s.name = true → c.HasColumns s.name s.columns)

theorem settled_migrated (c : Catalog) (schemas : List Schema) :
    (c.migrated schemas).Settled schemas := by
  induction schemas generalizing c with
  | nil => exact List.forall_mem_nil _
  | cons s rest ih =>
    rw [migrated_cons]
    have hlater := extends_migrated (c.broughtUp s) rest
    have htaken := isSome_broughtUp c s
    refine List.forall_mem_cons.mpr ⟨⟨hlater.isSome htaken, fun htable => ?_⟩, ih (c.broughtUp s)⟩
    rw [hlater.hasTable_eq htaken] at htable
    exact hlater.hasColumns (hasColumns_broughtUp htable)

/-! ## A second time -/

/-- The steps on a schema whose name is taken. -/
def revisit (c : Catalog) (s : Schema) : List Step :=
  .ask (.table s.name) ::
    if c.hasTable s.name then
      (s.columns.filter (!·.primaryKey)).map fun column => .ask (.column s.name column.name)
    else [.change (.create s)]

theorem schemaSteps_of_settled (h : c.Settled schemas) (hs : s ∈ schemas) :
    c.schemaSteps s = c.revisit s := by
  unfold schemaSteps revisit
  by_cases htable : c.hasTable s.name = true
  · rw [if_pos htable, if_pos htable, columnSteps_of_hasColumns ((h s hs).2 htable)]
  · rw [if_neg htable, if_neg htable]

/-- Questions leave a catalog as it is. -/
theorem after_asks {ι : Type} (c : Catalog) (q : ι → Question) (l : List ι) :
    c.after (l.map fun i => .ask (q i)) = c := by
  induction l with
  | nil => rfl
  | cons i rest ih => exact ih

theorem broughtUp_of_settled (h : c.Settled schemas) (hs : s ∈ schemas) : c.broughtUp s = c := by
  by_cases htable : c.hasTable s.name = true
  · rw [broughtUp_of_hasTable htable, columnSteps_of_hasColumns ((h s hs).2 htable), after_asks]
  · rw [broughtUp_of_not_hasTable htable, create_eq_self (h s hs).1]

/-- A second time, each schema is visited once more, and nothing comes of it. -/
theorem plan_of_settled (h : c.Settled schemas) : c.plan schemas = schemas.flatMap c.revisit := by
  have hall : ∀ l : List Schema, (∀ s ∈ l, s ∈ schemas) → c.plan l = l.flatMap c.revisit := by
    intro l
    induction l with
    | nil => exact fun _ => rfl
    | cons s rest ih =>
      intro hl
      obtain ⟨hs, hrest⟩ := List.forall_mem_cons.mp hl
      rw [plan, broughtUp_of_settled h hs, schemaSteps_of_settled h hs, List.flatMap_cons, ih hrest]
  exact hall schemas fun _ hs => hs

/-- A second time only asks just when the schemas have their tables. -/
theorem plan_only_asks_iff (h : c.Settled schemas) :
    (∀ step ∈ c.plan schemas, ∃ q, step = .ask q) ↔ ∀ s ∈ schemas, c.hasTable s.name = true := by
  rw [plan_of_settled h]
  constructor
  · intro hasks s hs
    refine Decidable.byContradiction fun htable => ?_
    have hcreate : Step.change (.create s) ∈ c.revisit s := by
      unfold revisit
      rw [if_neg htable]
      exact List.mem_cons_of_mem _ List.mem_cons_self
    obtain ⟨q, hq⟩ := hasks _ (List.mem_flatMap.mpr ⟨s, hs, hcreate⟩)
    cases hq
  · intro htables step hstep
    obtain ⟨s, hs, hstep⟩ := List.mem_flatMap.mp hstep
    unfold revisit at hstep
    rw [if_pos (htables s hs), List.mem_cons] at hstep
    rcases hstep with rfl | hstep
    · exact ⟨_, rfl⟩
    · obtain ⟨column, -, rfl⟩ := List.mem_map.mp hstep
      exact ⟨_, rfl⟩

end Catalog

end DataAccess.Access.Migrator
