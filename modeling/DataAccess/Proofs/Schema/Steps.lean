import DataAccess.Proofs.Engine.Logged
import DataAccess.Proofs.Schema.Plan

/-!
# Carrying out a plan

The migrator asks and changes the catalog of a database by statements. `KeepsCatalog` says what
these statements mean on the data of a store. Each may fail at any time. Work carries out a plan
(`CarriesOut`) if it issues the statements of the plan in order and goes on until one of them fails.
The plan depends on nothing but the catalog at the start.

* `addMissing_carriesOut`, `bringUp_carriesOut`, `autoMigrate_carriesOut` — the work of the migrator
  carries out the plan for columns, for a schema and for a list of schemas.
-/

namespace DataAccess.Access.Migrator

open Sql Work

variable {σ ω δ : Type} {view : σ → ω × Phase δ}

/-! ## Statements -/

/-- The query that asks a question. -/
def Question.statement : Question → Statement
  | table name => .raw (tableCountSql .sqlite) [.text name]
  | column t name => .raw (columnCountSql .sqlite) [.text t, .text name]

/-- The text of the statement that makes a change. -/
def Change.sql : Change → String
  | create s => s.createSql .sqlite
  | add t column => addColumnSql .sqlite t column

/-- The statement that makes a change. -/
def Change.statement (a : Change) : Statement := .exec a.sql []

/-- The statement of a step. -/
def Step.statement : Step → Statement
  | ask q => q.statement
  | change a => a.statement

/-- The row that answers a counting query. -/
def countRecord (n : Int64) : Record := ⟨[("n", .int n)]⟩

/-- The questions that schemas raise. -/
def questions (schemas : List Schema) : List Question :=
  schemas.flatMap fun s =>
    .table s.name :: (s.columns.filter (!·.primaryKey)).map fun column => .column s.name column.name

/-- The changes that schemas may ask for. -/
def changes (schemas : List Schema) : List Change :=
  schemas.flatMap fun s => .create s :: (s.columns.filter (!·.primaryKey)).map (.add s.name)

section

variable {schemas : List Schema} {s : Schema} {column : Column}

theorem table_mem_questions (hs : s ∈ schemas) : .table s.name ∈ questions schemas :=
  List.mem_flatMap.mpr ⟨s, hs, List.mem_cons_self⟩

theorem create_mem_changes (hs : s ∈ schemas) : .create s ∈ changes schemas :=
  List.mem_flatMap.mpr ⟨s, hs, List.mem_cons_self⟩

theorem mem_nonKey (hcolumn : column ∈ s.columns) (hkey : column.primaryKey = false) :
    column ∈ s.columns.filter (!·.primaryKey) :=
  List.mem_filter.mpr ⟨hcolumn, by rw [hkey]; rfl⟩

theorem column_mem_questions (hs : s ∈ schemas) (hcolumn : column ∈ s.columns)
    (hkey : column.primaryKey = false) : .column s.name column.name ∈ questions schemas :=
  List.mem_flatMap.mpr ⟨s, hs, List.mem_cons_of_mem _
    (List.mem_map.mpr ⟨column, mem_nonKey hcolumn hkey, rfl⟩)⟩

theorem add_mem_changes (hs : s ∈ schemas) (hcolumn : column ∈ s.columns)
    (hkey : column.primaryKey = false) : .add s.name column ∈ changes schemas :=
  List.mem_flatMap.mpr ⟨s, hs, List.mem_cons_of_mem _
    (List.mem_map.mpr ⟨column, mem_nonKey hcolumn hkey, rfl⟩)⟩

end

/-! ## A store with a catalog -/

/-- The statements on the catalog do what they say whenever they succeed. -/
structure KeepsCatalog (S : Store ω δ) (catalog : δ → Catalog) (schemas : List Schema) : Prop where
  /-- A query reads the catalog, and counts something just when the answer is yes. -/
  ask : ∀ {q w w' d d' rs}, q ∈ questions schemas →
    S.fetch q.statement (w, d) = (.ok rs, w', d') →
    d' = d ∧ ∃ n, rs = [countRecord n] ∧ decide (0 < n) = q.holds (catalog d)
  change : ∀ {a w w' d d' n}, a ∈ changes schemas →
    S.execute a.statement (w, d) = (.ok n, w', d') → catalog d' = a.effect (catalog d)

/-- The catalog can always be read. -/
structure ReadsCatalog (S : Store ω δ) (schemas : List Schema) : Prop where
  ask : ∀ {q}, q ∈ questions schemas → ∀ w d, ∃ rs s, S.fetch q.statement (w, d) = (.ok rs, s)

/-- The statements of the migrator are among those that a store speaks for. -/
structure CoversSchemas (covered : Coverage) (schemas : List Schema) : Prop where
  ask : ∀ q ∈ questions schemas, covered.alone q.statement
  change : ∀ a ∈ changes schemas, covered.alone a.statement

/-! ## Single steps -/

/-- The program that asks a question. -/
def Question.run {m : Type → Type} [Monad m] (x : Executor m) : Question → m (Except Error Bool)
  | table name => hasTable x name
  | column t name => hasColumn x t name

/-- The number in the answer of a counting query. -/
def counted : Except Error (List Record) → Except Error Int64
  | .error e => .error e
  | .ok [] => .ok 0
  | .ok (row :: _) => row.get "n" Value.asInt

/-- Whether the number in the answer of a counting query is positive. -/
def positive (r : Except Error (List Record)) : Except Error Bool :=
  (counted r).map fun n => decide (0 < n)

theorem positive_ok (n : Int64) : positive (.ok [countRecord n]) = .ok (decide (0 < n)) := by
  have hread : (countRecord n).get "n" Value.asInt = .ok n := rfl
  rw [positive, counted, hread, Except.map]

theorem count_ends {x : Executor (Work σ)} {sql : String} {args : List Value} {p : Pooled σ}
    {r : Except Error (List Record)} {v : ω × Phase δ}
    (h : Ends view (x.session.fetch (.raw sql args)) p r v) :
    Ends view (count x sql args) p (counted r) v := by
  refine h.bind fun _ _ hp => ?_
  rcases r with cause | _ | ⟨row, rest⟩
  · exact .pure hp
  · exact .pure hp
  · exact .pure hp

variable {e : Engine σ} {S : Store ω δ} {covered : Coverage} {catalog : δ → Catalog}
variable {schemas : List Schema} {dl : Deadline}
variable {p : Pooled (σ × List Statement)} {w : ω} {log : List Statement} {d : δ}

/-- A question is answered as the catalog says, or fails. It changes nothing. -/
theorem ask_ends (h : e.Refines dl S covered view) (hS : KeepsCatalog S catalog schemas)
    (hcov : CoversSchemas covered schemas) {q : Question} (hq : q ∈ questions schemas)
    (hp : p.Shows (withLog view) ((w, log), .idle d)) :
    ∃ r w', Ends (withLog view) (q.run (e.logged.executor .sqlite dl)) p r
        ((w', log ++ [q.statement]), .idle d) ∧
      (∀ b, r = .ok b → b = q.holds (catalog d)) ∧
      (ReadsCatalog S schemas → r = .ok (q.holds (catalog d))) := by
  have hfetch := h.logged.fetch_alone_ends .sqlite (hcov.ask q hq) hp
  rcases hrun : S.fetch q.statement (w, d) with ⟨r, w', d'⟩
  simp only [Store.logged, hrun] at hfetch
  have hends : Ends (withLog view) (q.run (e.logged.executor .sqlite dl)) p
      (positive r)
      ((w', log ++ [q.statement]), .idle (whenOk r d' d)) := by
    cases q with
    | table name => exact (count_ends hfetch).map (Except.map fun n => decide (0 < n))
    | column t name => exact (count_ends hfetch).map (Except.map fun n => decide (0 < n))
  cases r with
  | error cause =>
    refine ⟨_, w', hends, nofun, fun hR => ?_⟩
    obtain ⟨rs, s, hok⟩ := hR.ask hq w d
    rw [hrun] at hok
    cases hok
  | ok rs =>
    obtain ⟨rfl, n, rfl, hn⟩ := hS.ask hq hrun
    have hanswer : positive (.ok [countRecord n]) = .ok (q.holds (catalog d')) := by
      rw [positive_ok, hn]
    exact ⟨_, w', hends, fun b hb => Except.ok.inj (hb.symm.trans hanswer), fun _ => hanswer⟩

/-- A change is made or fails, and then nothing changes. -/
theorem change_ends (h : e.Refines dl S covered view) (hS : KeepsCatalog S catalog schemas)
    (hcov : CoversSchemas covered schemas) {a : Change} (ha : a ∈ changes schemas)
    (hp : p.Shows (withLog view) ((w, log), .idle d)) :
    ∃ r w' d', Ends (withLog view) (run (e.logged.executor .sqlite dl) a.sql) p r
        ((w', log ++ [a.statement]), .idle d') ∧
      catalog d' = whenOk r (a.effect (catalog d)) (catalog d) := by
  have hexec := (h.logged.execute_alone_ends .sqlite (hcov.change a ha) hp).map
    (Except.map fun _ => ())
  rcases hrun : S.execute a.statement (w, d) with ⟨r, w', d'⟩
  simp only [Store.logged, hrun] at hexec
  cases r with
  | error cause => exact ⟨_, w', d, hexec, rfl⟩
  | ok n => exact ⟨_, w', d', hexec, hS.change ha hrun⟩

/-! ## Plans -/

/-- How far a plan was carried out on a catalog, with a log: to its end, or up to a step that
failed, which is a change if questions are `sure` to be answered. -/
inductive Carried (sure : Prop) (steps : List Step) (log : List Statement) (c : Catalog) :
    Except Error Unit → List Statement → Catalog → Prop
  | all {log' : List Statement} {c' : Catalog} : log' = log ++ steps.map Step.statement →
      c' = c.after steps → Carried sure steps log c (.ok ()) log' c'
  | upTo {cause : Error} {log' : List Statement} {c' : Catalog} (done : List Step) (failed : Step)
      (rest : List Step) : steps = done ++ failed :: rest →
      log' = log ++ (done ++ [failed]).map Step.statement → c' = c.after done →
      (sure → ∃ a, failed = .change a) → Carried sure steps log c (.error cause) log' c'

namespace Carried

variable {sure : Prop} {steps more : List Step} {log log₁ log₂ : List Statement}
variable {c c₁ c₂ : Catalog} {r : Except Error Unit}

theorem catalog_eq (h : Carried sure steps log c (.ok ()) log₁ c₁) : c₁ = c.after steps := by
  cases h with
  | all _ hc => exact hc

theorem append (h : Carried sure steps log c (.ok ()) log₁ c₁)
    (h' : Carried sure more log₁ c₁ r log₂ c₂) :
    Carried sure (steps ++ more) log c r log₂ c₂ := by
  cases h with
  | all hlog hc =>
    subst hlog hc
    cases h' with
    | all hlog' hc' =>
      refine .all ?_ ?_
      · rw [hlog', List.map_append, List.append_assoc]
      · rw [hc', Catalog.after_append]
    | upTo done failed rest hmore hlog' hc' hsure =>
      refine .upTo (steps ++ done) failed rest ?_ ?_ ?_ hsure
      · rw [hmore, List.append_assoc]
      · rw [hlog', List.append_assoc, List.append_assoc, ← List.map_append]
      · rw [hc', Catalog.after_append]

theorem stop {cause : Error} (h : Carried sure steps log c (.error cause) log₁ c₁) :
    Carried sure (steps ++ more) log c (.error cause) log₁ c₁ := by
  cases h with
  | upTo done failed rest hsteps hlog hc hsure =>
    refine .upTo done failed (rest ++ more) ?_ hlog hc hsure
    rw [hsteps, List.append_assoc, List.cons_append]

end Carried

/-- Work carries out the plan that belongs to the catalog it starts from. -/
structure CarriesOut (view : σ → ω × Phase δ) (catalog : δ → Catalog) (sure : Prop)
    (work : Work (σ × List Statement) (Except Error Unit)) (steps : Catalog → List Step) :
    Prop where
  ends : ∀ {p w log d}, p.Shows (withLog view) ((w, log), .idle d) →
    ∃ r w' log' d', Ends (withLog view) work p r ((w', log'), .idle d') ∧
      Carried sure (steps (catalog d)) log (catalog d) r log' (catalog d')

namespace CarriesOut

variable {sure : Prop} {work : Work (σ × List Statement) (Except Error Unit)}
variable {steps steps' : Catalog → List Step}

theorem congr (h : CarriesOut view catalog sure work steps) (heq : ∀ c, steps c = steps' c) :
    CarriesOut view catalog sure work steps' := by
  rw [← funext heq]
  exact h

theorem nothing : CarriesOut view catalog sure (pure (.ok ())) fun _ => [] where
  ends hp := ⟨.ok (), _, _, _, .pure hp, .all (List.append_nil _).symm rfl⟩

theorem change (h : e.Refines dl S covered view) (hS : KeepsCatalog S catalog schemas)
    (hcov : CoversSchemas covered schemas) {a : Change} (ha : a ∈ changes schemas) :
    CarriesOut view catalog sure (run (e.logged.executor .sqlite dl) a.sql)
      fun _ => [.change a] := by
  refine ⟨fun {p w log d} hp => ?_⟩
  obtain ⟨r, w', d', hends, hcatalog⟩ := change_ends h hS hcov ha hp
  refine ⟨r, w', _, d', hends, ?_⟩
  cases r with
  | ok _ => exact .all rfl hcatalog
  | error cause => exact .upTo [] (.change a) [] rfl rfl hcatalog fun _ => ⟨a, rfl⟩

/-- Ask, and go on as the answer says. -/
theorem ask (h : e.Refines dl S covered view) (hS : KeepsCatalog S catalog schemas)
    (hcov : CoversSchemas covered schemas) {q : Question} (hq : q ∈ questions schemas)
    {next : Except Error Bool → Work (σ × List Statement) (Except Error Unit)}
    (steps : Bool → Catalog → List Step)
    (hfail : ∀ cause, next (.error cause) = pure (.error cause))
    (hnext : ∀ b, CarriesOut view catalog (ReadsCatalog S schemas) (next (.ok b)) (steps b)) :
    CarriesOut view catalog (ReadsCatalog S schemas)
      (q.run (e.logged.executor .sqlite dl) >>= next)
      fun c => .ask q :: steps (q.holds c) c := by
  refine ⟨fun {p w log d} hp => ?_⟩
  obtain ⟨r, w₁, ⟨p₁, hrun₁, hle₁, hp₁⟩, hanswer, hsure⟩ := ask_ends h hS hcov hq hp
  cases r with
  | error cause =>
    refine ⟨.error cause, w₁, _, d, .after hrun₁ hle₁ ?_,
      .upTo [] (.ask q) (steps (q.holds (catalog d)) (catalog d)) rfl rfl rfl fun hR => ?_⟩
    · rw [hfail]
      exact .pure hp₁
    · cases hsure hR
  | ok b =>
    obtain rfl := hanswer b rfl
    obtain ⟨r, w₂, log₂, d₂, hends, hcarried⟩ := (hnext _).ends hp₁
    have hasked : Carried (ReadsCatalog S schemas) [.ask q] log (catalog d) (.ok ())
        (log ++ [q.statement]) (catalog d) := .all rfl rfl
    exact ⟨r, w₂, log₂, d₂, .after hrun₁ hle₁ hends, hasked.append hcarried⟩

/-- Go on after work that succeeds, with the plan for the catalog after it. -/
theorem andThen (h : CarriesOut view catalog sure work steps) (more : Catalog → List Step)
    {next : Except Error Unit → Work (σ × List Statement) (Except Error Unit)}
    (hfail : ∀ cause, next (.error cause) = pure (.error cause))
    (hnext : CarriesOut view catalog sure (next (.ok ())) more) :
    CarriesOut view catalog sure (work >>= next)
      fun c => steps c ++ more (c.after (steps c)) := by
  refine ⟨fun {p w log d} hp => ?_⟩
  obtain ⟨r, w₁, log₁, d₁, ⟨p₁, hrun₁, hle₁, hp₁⟩, hcarried⟩ := h.ends hp
  cases r with
  | error cause =>
    refine ⟨.error cause, w₁, log₁, d₁, .after hrun₁ hle₁ ?_, hcarried.stop⟩
    rw [hfail]
    exact .pure hp₁
  | ok _ =>
    obtain ⟨r, w₂, log₂, d₂, hends, hcarried₂⟩ := hnext.ends hp₁
    have hafter := hcarried.catalog_eq
    rw [hafter] at hcarried hcarried₂
    exact ⟨r, w₂, log₂, d₂, .after hrun₁ hle₁ hends, hcarried.append hcarried₂⟩

end CarriesOut

/-! ## The work of the migrator -/

section

variable (h : e.Refines dl S covered view) (hS : KeepsCatalog S catalog schemas)
  (hcov : CoversSchemas covered schemas)

include h hS hcov

theorem addMissing_carriesOut {table : String} {columns : List Column}
    (hcolumns : ∀ column ∈ columns, column.primaryKey = false →
      .column table column.name ∈ questions schemas ∧ .add table column ∈ changes schemas) :
    CarriesOut view catalog (ReadsCatalog S schemas)
      (addMissing (e.logged.executor .sqlite dl) table columns) (·.columnSteps table columns) := by
  induction columns with
  | nil => exact .nothing
  | cons column rest ih =>
    obtain ⟨hcolumn, hrest⟩ := List.forall_mem_cons.mp hcolumns
    by_cases hkey : column.primaryKey = true
    · have hskip : ∀ c : Catalog, c.columnSteps table rest = c.columnSteps table (column :: rest) :=
        fun c => by rw [Catalog.columnSteps, if_pos hkey]
      rw [addMissing, if_pos hkey]
      exact (ih hrest).congr hskip
    -- The column is asked for, and added if it is not there.
    obtain ⟨hq, ha⟩ := hcolumn (Bool.eq_false_iff.mpr hkey)
    have hask : ∀ c : Catalog,
        (.ask (.column table column.name) :: if c.hasColumn table column.name
          then c.columnSteps table rest
          else .change (.add table column) ::
            (c.addColumn table column.name).columnSteps table rest) =
          c.columnSteps table (column :: rest) :=
      fun c => by rw [Catalog.columnSteps, if_neg hkey]
    rw [addMissing, if_neg hkey]
    refine CarriesOut.congr ?_ hask
    apply CarriesOut.ask h hS hcov hq fun b c => if b then c.columnSteps table rest else
      .change (.add table column) :: (c.addColumn table column.name).columnSteps table rest
    · intro cause
      rfl
    · intro b
      cases b with
      | true => exact ih hrest
      | false =>
        apply (CarriesOut.change h hS hcov ha).andThen (·.columnSteps table rest)
        · intro cause
          rfl
        · exact ih hrest

omit h hS hcov in
theorem createTable_eq (s : Schema) : createTable (e.logged.executor .sqlite dl) s =
    run (e.logged.executor .sqlite dl) (Change.create s).sql := by
  rw [createTable, Change.sql]
  rfl

theorem bringUp_carriesOut {s : Schema} (hs : s ∈ schemas) :
    CarriesOut view catalog (ReadsCatalog S schemas) (bringUp (e.logged.executor .sqlite dl) s)
      (·.schemaSteps s) := by
  have hsteps : ∀ c : Catalog,
      (.ask (.table s.name) :: if c.hasTable s.name
        then c.columnSteps s.name s.columns else [.change (.create s)]) = c.schemaSteps s :=
    fun c => by rw [Catalog.schemaSteps]
  refine CarriesOut.congr ?_ hsteps
  unfold bringUp
  apply CarriesOut.ask h hS hcov (table_mem_questions hs) fun b c =>
    if b then c.columnSteps s.name s.columns else [.change (.create s)]
  · intro cause
    rfl
  · intro b
    cases b with
    | false =>
      show CarriesOut view catalog _ (createTable (e.logged.executor .sqlite dl) s) _
      rw [createTable_eq]
      exact .change h hS hcov (create_mem_changes hs)
    | true => exact addMissing_carriesOut h hS hcov fun column hcolumn hkey =>
        ⟨column_mem_questions hs hcolumn hkey, add_mem_changes hs hcolumn hkey⟩

theorem autoMigrate_carriesOut {todo : List Schema} (htodo : ∀ s ∈ todo, s ∈ schemas) :
    CarriesOut view catalog (ReadsCatalog S schemas)
      (autoMigrate (e.logged.executor .sqlite dl) todo) (·.plan todo) := by
  induction todo with
  | nil => exact .nothing
  | cons s rest ih =>
    obtain ⟨hs, hrest⟩ := List.forall_mem_cons.mp htodo
    have hsteps : ∀ c : Catalog,
        c.schemaSteps s ++ (c.after (c.schemaSteps s)).plan rest = c.plan (s :: rest) :=
      fun c => by rw [Catalog.plan, Catalog.broughtUp]
    refine CarriesOut.congr ?_ hsteps
    unfold autoMigrate
    apply (bringUp_carriesOut h hS hcov hs).andThen (·.plan rest)
    · intro cause
      rfl
    · exact ih hrest

end

end DataAccess.Access.Migrator
