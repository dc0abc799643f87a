import DataAccess.Proofs.Query.Identifiers
import DataAccess.Proofs.Query.Names
import DataAccess.Proofs.Schema.Definitions

/-!
# Names in table definitions

The statements that define tables are confined to the names that they are written with, as those on
their rows are. An expression that is the default of a column is passed on as it is, and is not
looked into.

* `Column.lexemes_rename`, `Schema.lexemes_rename` — with other names, the lexemes change in these
  names and nowhere else;
* `names_delimited` — quoted names end by themselves, and no statement is changed by its names.
-/

namespace DataAccess.Sql

open Access.Migrator

variable {d : Driver}

/-! ### Lexemes -/

namespace Lexeme

theorem map_rename_of_nameless (ρ : String → String) {ls : List Lexeme}
    (h : ls.filterMap name? = []) : ls.map (rename ρ) = ls := by
  rw [List.filterMap_eq_nil_iff] at h
  refine (List.map_congr_left fun l hl => ?_).trans (List.map_id ls)
  cases l with
  | token t => exact congrArg token (Token.rename_of_nameless (h _ hl))
  | expression s => rfl

/-- Lists with marks between them, with other names. -/
theorem intercalate_rename (ρ : String → String) (c : Char) (groups : List (List Lexeme)) :
    [mark c].intercalate (groups.map (List.map (rename ρ))) =
      ([mark c].intercalate groups).map (rename ρ) := by
  induction groups with
  | nil => rfl
  | cons g rest ih =>
    cases rest with
    | nil => simp [List.intercalate_singleton]
    | cons next rest =>
      simp only [List.map_cons] at ih ⊢
      rw [List.intercalate_cons_cons, ih, List.intercalate_cons_cons, List.map_append,
        List.map_append]
      rfl

/-- Lists with marks between them have the names of the lists. -/
theorem names_intercalate (c : Char) (groups : List (List Lexeme)) :
    ([mark c].intercalate groups).filterMap name? = groups.flatMap (·.filterMap name?) := by
  induction groups with
  | nil => rfl
  | cons g rest ih =>
    cases rest with
    | nil => simp [List.intercalate_singleton]
    | cons next rest =>
      rw [List.intercalate_cons_cons, List.filterMap_append, List.filterMap_append, ih,
        List.append_assoc]
      rfl

end Lexeme

theorem Attribute.nameless (as : List Attribute) :
    (as.flatMap Attribute.lexemes).filterMap Lexeme.name? = [] := by
  rw [List.filterMap_flatMap, List.flatMap_eq_nil_iff]
  intro a _
  cases a with
  | primaryKey | autoIncrement | notNull | unique | default e => rfl

/-! ### Columns -/

namespace Column

/-- The column with another name. -/
def rename (ρ : String → String) (c : Column) : Column := { c with name := ρ c.name }

variable (c : Column) (ρ : String → String) (inlineKey : Bool)

theorem typeLexemes_nameless (d : Driver) : (c.typeLexemes d).filterMap Lexeme.name? = [] := by
  rw [typeLexemes, List.filterMap_map]
  exact (c.type_reads d).2.2.2.2

/-- A column has one name, with which its lexemes begin. -/
theorem tail_nameless (d : Driver) : (c.lexemes inlineKey d).tail.filterMap Lexeme.name? = [] := by
  rw [lexemes, List.tail_cons]
  split
  · cases d <;> rfl
  · rw [List.filterMap_append, typeLexemes_nameless, Attribute.nameless]
    rfl

theorem names_lexemes (d : Driver) : (c.lexemes inlineKey d).filterMap Lexeme.name? = [c.name] :=
  congrArg (c.name :: ·) (c.tail_nameless inlineKey d)

theorem lexemes_rename (d : Driver) :
    (c.rename ρ).lexemes inlineKey d = (c.lexemes inlineKey d).map (Lexeme.rename ρ) := by
  have htail := Lexeme.map_rename_of_nameless ρ (c.tail_nameless inlineKey d)
  exact congrArg (Lexeme.name (ρ c.name) :: ·) htail.symm

theorem addition_confined (table : String) (d : Driver) :
    Confined (fun ρ => lexemesOf d ((c.rename ρ).additionPieces d (ρ table))) [table, c.name] := by
  refine ⟨c.additionLexemes d table, ?_, fun ρ => ?_⟩
  · exact congrArg (table :: ·) (c.names_lexemes false d)
  · refine ((c.rename ρ).addition_scans d (ρ table)).lexemesOf.trans ?_
    rw [additionLexemes, lexemes_rename]
    rfl

end Column

/-! ### Tables -/

namespace Schema

/-- The table with its name and those of its columns changed. -/
def rename (ρ : String → String) (s : Schema) : Schema :=
  { name := ρ s.name, columns := s.columns.map (·.rename ρ) }

variable (s : Schema) (ρ : String → String)

theorem keyColumns_rename : (s.rename ρ).keyColumns = s.keyColumns.map (·.rename ρ) :=
  List.filter_map

theorem isComposite_rename : (s.rename ρ).isComposite = s.isComposite := by
  rw [isComposite, keyColumns_rename, List.length_map]
  rfl

theorem keyLexemes_rename : (s.rename ρ).keyLexemes = s.keyLexemes.map (Lexeme.rename ρ) := by
  have hnames : ([.mark ','].intercalate ((s.rename ρ).keyColumns.map fun c => [.name c.name])) =
      ([.mark ','].intercalate (s.keyColumns.map fun c => [.name c.name])).map
        (Lexeme.rename ρ) := by
    rw [← Lexeme.intercalate_rename, keyColumns_rename, List.map_map, List.map_map]
    rfl
  rw [keyLexemes, hnames, keyLexemes, List.map_cons, List.map_cons, List.map_cons, List.map_append]
  rfl

theorem names_keyLexemes : s.keyLexemes.filterMap Lexeme.name? = s.keyColumns.map (·.name) := by
  have hnames : ([Lexeme.mark ','].intercalate
      (s.keyColumns.map fun c => [.name c.name])).filterMap Lexeme.name? =
        s.keyColumns.map (·.name) := by
    rw [Lexeme.names_intercalate, List.flatMap_map, List.map_eq_flatMap]
    rfl
  show ([Lexeme.mark ','].intercalate (s.keyColumns.map fun c => [.name c.name]) ++
    [Lexeme.mark ')']).filterMap Lexeme.name? = _
  rw [List.filterMap_append, hnames]
  exact List.append_nil _

theorem clauseLexemes_rename (d : Driver) :
    (s.rename ρ).clauseLexemes d = (s.clauseLexemes d).map (List.map (Lexeme.rename ρ)) := by
  have hcolumns : (s.rename ρ).columns.map (·.lexemes (!s.isComposite) d) =
      (s.columns.map (·.lexemes (!s.isComposite) d)).map (List.map (Lexeme.rename ρ)) := by
    rw [rename, List.map_map, List.map_map]
    exact List.map_congr_left fun c _ => c.lexemes_rename ρ (!s.isComposite) d
  rw [clauseLexemes, isComposite_rename, hcolumns, keyLexemes_rename, clauseLexemes,
    List.map_append]
  split <;> rfl

theorem names_clauseLexemes (d : Driver) :
    (s.clauseLexemes d).flatMap (·.filterMap Lexeme.name?) =
      s.columns.map (·.name) ++ if s.isComposite then s.keyColumns.map (·.name) else [] := by
  have hcolumns : (s.columns.map (·.lexemes (!s.isComposite) d)).flatMap
      (·.filterMap Lexeme.name?) = s.columns.map (·.name) := by
    rw [List.flatMap_map, List.map_eq_flatMap]
    exact List.flatMap_congr fun c _ => c.names_lexemes (!s.isComposite) d
  rw [clauseLexemes, List.flatMap_append, hcolumns]
  split
  · rw [List.flatMap_singleton, names_keyLexemes]
  · rfl

theorem lexemes_rename (d : Driver) :
    (s.rename ρ).lexemes d = (s.lexemes d).map (Lexeme.rename ρ) := by
  have hclauses : [.mark ','].intercalate ((s.rename ρ).clauseLexemes d) =
      ([.mark ','].intercalate (s.clauseLexemes d)).map (Lexeme.rename ρ) := by
    rw [clauseLexemes_rename, Lexeme.intercalate_rename]
  rw [lexemes, hclauses, lexemes]
  simp only [List.map_cons, List.map_append]
  rfl

/-- The names of a table: its own, those of its columns, and those of its key once more if it has
several columns. -/
theorem names_lexemes (d : Driver) :
    (s.lexemes d).filterMap Lexeme.name? = s.name :: (s.columns.map (·.name) ++
      if s.isComposite then s.keyColumns.map (·.name) else []) := by
  have hclauses : ([Lexeme.mark ','].intercalate (s.clauseLexemes d) ++
      [Lexeme.mark ')']).filterMap Lexeme.name? = s.columns.map (·.name) ++
        if s.isComposite then s.keyColumns.map (·.name) else [] := by
    rw [List.filterMap_append, Lexeme.names_intercalate, names_clauseLexemes]
    exact List.append_nil _
  exact congrArg (s.name :: ·) hclauses

theorem create_confined (d : Driver) :
    Confined (fun ρ => lexemesOf d ((s.rename ρ).pieces d))
      (s.name :: (s.columns.map (·.name) ++
        if s.isComposite then s.keyColumns.map (·.name) else [])) :=
  ⟨s.lexemes d, s.names_lexemes d, fun ρ =>
    (s.rename ρ).scans.lexemesOf.trans (s.lexemes_rename ρ d)⟩

end Schema

/-! ### Statements -/

/-- The lexemes of the statement that drops a table. -/
def dropLexemes (table : String) : List Lexeme :=
  [.word "DROP", .word "TABLE", .word "IF", .word "EXISTS", .name table]

theorem drop_reads (d : Driver) (table : String) :
    (tokensOf d (dropTableSql d table)).map .token = dropLexemes table := by
  have hdrop : Scans d false [.text "DROP TABLE IF EXISTS "]
      [.word "DROP", .word "TABLE", .word "IF", .word "EXISTS"] true :=
    .wording [.word "DROP", .word "TABLE", .word "IF", .word "EXISTS"]
      (by simp [definitionWordings])
  have hwritten : written [.text "DROP TABLE IF EXISTS ", .text (quote d table)] =
      dropTableSql d table :=
    congrArg ("DROP TABLE IF EXISTS " ++ ·) String.append_empty
  rw [← hwritten, ← lexemesOf_text rfl]
  exact (hdrop.append (.name table) (.inl rfl)).lexemesOf

theorem drop_confined (d : Driver) (table : String) :
    Confined (fun ρ => (tokensOf d (dropTableSql d (ρ table))).map .token) [table] :=
  ⟨dropLexemes table, rfl, fun ρ => drop_reads d (ρ table)⟩

/-- The statements of a query, each confined to the names in it, in the order in which they are
written. Updates and deletions are refused or not whatever the names are. -/
structure Query.NamesConfined (d : Driver) (q : Query) (values : List (String × Value)) :
    Prop where
  select : Confined (fun ρ => (tokensOf d ((q.rename ρ).select d).sql).map .token)
    (q.table :: (q.filters.map (·.1) ++ q.order.map (·.1)))
  count : Confined (fun ρ => (tokensOf d ((q.rename ρ).countRows d).sql).map .token)
    (q.table :: q.filters.map (·.1))
  insert : Confined (fun ρ =>
      (tokensOf d ((q.rename ρ).insertRow d (values.map (Prod.map ρ id))).sql).map .token)
    (q.table :: values.map (·.1))
  update : q.filters ≠ [] → values ≠ [] → ∃ sent : (String → String) → Statement,
    (∀ ρ, (q.rename ρ).updateRows d (values.map (Prod.map ρ id)) = .ok (sent ρ)) ∧
      Confined (fun ρ => (tokensOf d (sent ρ).sql).map .token)
        (q.table :: (values.map (·.1) ++ q.filters.map (·.1)))
  delete : q.filters ≠ [] → ∃ sent : (String → String) → Statement,
    (∀ ρ, (q.rename ρ).deleteRows d = .ok (sent ρ)) ∧
      Confined (fun ρ => (tokensOf d (sent ρ).sql).map .token) (q.table :: q.filters.map (·.1))

/-- **Quoted names end by themselves.** In every dialect a name is read from a text, and a rest
left, exactly if the text is the quoted name with the rest behind it, and the rest does not begin
with a quote. The tokens of a statement, and those of a script of SQLite, are then the name and those
of the rest. So what is read of a statement that queries, creates, extends or drops a table are its
names, in order, and besides them the same words, marks and parameters whatever the names are. The
default of a column is a piece of the statement that is not looked into. -/
theorem names_delimited (d : Driver) :
    (∀ cs name rest, identifier? d cs = some (name, rest) ↔
      cs = (quote d name).toList ++ rest ∧ rest.head? ≠ some (quoteChar d)) ∧
    (∀ name rest : String, rest.toList.head? ≠ some (quoteChar d) →
      tokensOf d (quote d name ++ rest) = .name name :: tokensOf d rest) ∧
    (∀ (name : String) (rest : List Char), rest.head? ≠ some (quoteChar d) →
      ∃ t : Sqlite.Token, t.kind = .name ∧ t.value = name.toList ∧
        Sqlite.Token.scan ((quote d name).toList ++ rest) = t :: Sqlite.Token.scan rest) ∧
    (∀ (q : Query) (values : List (String × Value)), q.NamesConfined d values) ∧
    (∀ s : Schema, written (s.pieces d) = s.createSql d ∧
      Confined (fun ρ => lexemesOf d ((s.rename ρ).pieces d))
        (s.name :: (s.columns.map (·.name) ++
          if s.isComposite then s.keyColumns.map (·.name) else []))) ∧
    (∀ (table : String) (c : Column),
      written (c.additionPieces d table) = addColumnSql d table c ∧
      Confined (fun ρ => lexemesOf d ((c.rename ρ).additionPieces d (ρ table))) [table, c.name]) ∧
    ∀ table : String,
      Confined (fun ρ => (tokensOf d (dropTableSql d (ρ table))).map .token) [table] :=
  ⟨fun _ _ _ => identifier?_eq_some_iff, fun name _ hrest => tokensOf_quote_append hrest name,
    fun name _ hrest => scan_quote_append hrest name,
    fun q values =>
      { select := q.select_confined d
        count := q.countRows_confined d
        insert := q.insertRow_confined values d
        update := fun hfilters hvalues => q.updateRows_confined hfilters hvalues d
        delete := fun hfilters => q.deleteRows_confined hfilters d },
    fun s => ⟨s.written_pieces d, s.create_confined d⟩,
    fun table c => ⟨c.written_additionPieces d table, c.addition_confined table d⟩,
    drop_confined d⟩

end DataAccess.Sql
