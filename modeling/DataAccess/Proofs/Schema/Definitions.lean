import DataAccess.Proofs.Schema.Additive
import DataAccess.Proofs.Schema.Declarations

/-!
# Table definitions read back

The definition of a table reads back as its columns in order, and the key after them if it has
several columns. A column that is not in the key is declared in the same words where it is added to
a table later.

* `Column.declares` — what is declared of a column of a table is what `Declares` asks for;
* `Schema.table?_lexemes` — a table reads back as the clauses for its columns and its key;
* `Schema.createSql_declares` — both, for the statement that creates it.
-/

namespace DataAccess.Sql

open Access.Migrator

/-- What the clause for a column of a table has to declare. -/
structure Declares (d : Driver) (s : Schema) (c : Column) (x : Declaration) : Prop where
  name : x.name = c.name
  /-- Nothing is declared twice. -/
  nodup : x.attributes.Nodup
  primaryKey : .primaryKey ∈ x.attributes ↔ s.keyColumns = [c]
  numbered : x.IsNumbered ↔ s.keyColumns = [c] ∧ c.autoIncrement = true ∧ c.type = .integer
  notNull : .notNull ∈ x.attributes ↔ c.nullable = false ∧ .primaryKey ∉ x.attributes
  unique : .unique ∈ x.attributes ↔ c.unique = true ∧ c.primaryKey = false ∧ ¬ x.IsNumbered
  default : ∀ e, .default e ∈ x.attributes ↔ c.default = some e ∧ ¬ x.IsNumbered
  type : ¬ x.IsNumbered → x.type = (tokensOf d (c.typeSql d)).map .token

/-! ### Columns -/

namespace Column

variable {d : Driver} {c : Column} {inlineKey : Bool}

theorem isSerial_iff : c.isSerial inlineKey = true ↔
    inlineKey = true ∧ c.primaryKey = true ∧ c.autoIncrement = true ∧ c.type = .integer := by
  simp [isSerial, and_assoc]

/-- When a column that is not serial has an attribute. -/
theorem mem_attributes {a : Attribute} : a ∈ c.attributes inlineKey ↔
    match a with
    | .primaryKey => inlineKey = true ∧ c.primaryKey = true
    | .autoIncrement => False
    | .notNull => c.nullable = false ∧ ¬ (inlineKey = true ∧ c.primaryKey = true)
    | .unique => c.unique = true ∧ c.primaryKey = false
    | .default e => c.default = some e := by
  unfold attributes nullAttributes uniqueAttributes defaultAttributes
  cases a with
  | primaryKey | autoIncrement | notNull | unique | default e =>
    cases inlineKey <;> cases c.primaryKey <;> cases c.nullable <;> cases c.unique <;> simp

theorem attributes_nodup : (c.attributes inlineKey).Nodup := by
  unfold attributes nullAttributes uniqueAttributes defaultAttributes
  cases inlineKey <;> cases c.primaryKey <;> cases c.nullable <;> cases c.unique <;>
    cases c.default <;> simp

theorem declaration_of_not_serial (h : ¬ c.isSerial inlineKey = true) :
    c.declaration inlineKey d = ⟨c.name, c.typeLexemes d, c.attributes inlineKey⟩ := if_neg h

/-- A serial column has no other attributes than that it is the key and that it is numbered. -/
theorem attributes_of_serial (h : c.isSerial inlineKey = true) :
    (c.declaration inlineKey d).attributes.Nodup ∧
      .primaryKey ∈ (c.declaration inlineKey d).attributes ∧
      ∀ a ∈ (c.declaration inlineKey d).attributes, a = .primaryKey ∨ a = .autoIncrement := by
  unfold declaration
  rw [if_pos h]
  cases d with
  | mysql | postgresql | sqlite | none => simp

theorem name_declaration : (c.declaration inlineKey d).name = c.name := by
  unfold declaration
  split
  · cases d with
    | mysql | postgresql | sqlite | none => rfl
  · rfl

/-- The database numbers just the serial columns. -/
theorem isNumbered_declaration :
    (c.declaration inlineKey d).IsNumbered ↔ c.isSerial inlineKey = true := by
  by_cases hserial : c.isSerial inlineKey = true
  · refine iff_of_true ?_ hserial
    unfold declaration Declaration.IsNumbered
    rw [if_pos hserial]
    cases d with
    | mysql | postgresql | sqlite | none => simp
  · refine iff_of_false ?_ hserial
    rw [declaration_of_not_serial hserial]
    rintro (hauto | htype)
    · exact mem_attributes.mp hauto
    · exact (c.type_reads d).2.2.2.1 htype

theorem nodup_declaration : (c.declaration inlineKey d).attributes.Nodup := by
  by_cases hserial : c.isSerial inlineKey = true
  · exact (attributes_of_serial hserial).1
  · rw [declaration_of_not_serial hserial]
    exact attributes_nodup

theorem mem_declaration_primaryKey : .primaryKey ∈ (c.declaration inlineKey d).attributes ↔
    inlineKey = true ∧ c.primaryKey = true := by
  by_cases hserial : c.isSerial inlineKey = true
  · obtain ⟨hinline, hprimary, -⟩ := isSerial_iff.mp hserial
    exact iff_of_true (attributes_of_serial hserial).2.1 ⟨hinline, hprimary⟩
  · rw [declaration_of_not_serial hserial]
    exact mem_attributes

/-- A column of a table is the key alone just when it is in the key and that is not composite. -/
theorem keyColumns_eq_singleton {s : Schema} (hc : c ∈ s.columns) :
    s.keyColumns = [c] ↔ (!s.isComposite) = true ∧ c.primaryKey = true := by
  have hmem : c ∈ s.keyColumns ↔ c.primaryKey = true := by simp [Schema.keyColumns, hc]
  unfold Schema.isComposite
  rw [Bool.not_eq_true', decide_eq_false_iff_not, Nat.not_lt]
  constructor
  · intro hkey
    rw [← hmem, hkey]
    exact ⟨Nat.le_refl 1, List.mem_singleton_self c⟩
  · rintro ⟨hlength, hprimary⟩
    obtain ⟨x, hx⟩ := List.length_eq_one_iff.mp
      (Nat.le_antisymm hlength (List.length_pos_of_mem (hmem.mpr hprimary)))
    rw [hx] at hmem ⊢
    rw [List.mem_singleton.mp (hmem.mpr hprimary)]

/-- What is declared of a column of a table is what has to be. -/
theorem declares {s : Schema} (hc : c ∈ s.columns) (d : Driver) :
    Declares d s c (c.declaration (!s.isComposite) d) := by
  have hkey := keyColumns_eq_singleton hc
  have hnumbered : (c.declaration (!s.isComposite) d).IsNumbered ↔
      s.keyColumns = [c] ∧ c.autoIncrement = true ∧ c.type = .integer := by
    rw [isNumbered_declaration, isSerial_iff, hkey, and_assoc]
  have hprimary := (mem_declaration_primaryKey (d := d) (c := c)).trans hkey.symm
  -- A serial column has fixed attributes, any other one those that its flags ask for.
  by_cases hserial : c.isSerial (!s.isComposite) = true
  · obtain ⟨-, hinside, honly⟩ := attributes_of_serial (d := d) hserial
    have hserial' := isNumbered_declaration (d := d) |>.mpr hserial
    exact
      { name := name_declaration
        nodup := nodup_declaration
        primaryKey := hprimary
        numbered := hnumbered
        notNull := iff_of_false (fun h => by simpa using honly _ h) fun h => h.2 hinside
        unique := iff_of_false (fun h => by simpa using honly _ h) fun h => h.2.2 hserial'
        default := fun e => iff_of_false (fun h => by simpa using honly _ h) fun h => h.2 hserial'
        type := fun h => absurd hserial' h }
  · have hplain : ¬ (c.declaration (!s.isComposite) d).IsNumbered :=
      fun h => hserial (isNumbered_declaration.mp h)
    rw [declaration_of_not_serial hserial] at hnumbered hprimary hplain ⊢
    exact
      { name := rfl
        nodup := attributes_nodup
        primaryKey := hprimary
        numbered := hnumbered
        notNull := mem_attributes.trans
          (and_congr_right fun _ => not_congr (mem_attributes (a := .primaryKey)).symm)
        unique := mem_attributes.trans (and_congr_right fun _ => (and_iff_left hplain).symm)
        default := fun e => mem_attributes.trans (and_iff_left hplain).symm
        type := fun _ => rfl }

/-- What is written and declared of a column that is not in the key does not depend on the key. -/
theorem definition_of_not_key (h : c.primaryKey = false) (d : Driver) (inlineKey : Bool) :
    c.definition d inlineKey = c.definition d false ∧
      c.declaration inlineKey d = c.declaration false d := by
  simp [definition, declaration, isSerial, nullSql, attributes, nullAttributes, h]

/-- The pieces of the statement that adds a column to a table. -/
def additionPieces (c : Column) (d : Driver) (table : String) : List Piece :=
  .text "ALTER TABLE " :: .text (quote d table) :: .text " ADD COLUMN " :: c.pieces false d

theorem written_additionPieces (c : Column) (d : Driver) (table : String) :
    written (c.additionPieces d table) = addColumnSql d table c := by
  simp only [additionPieces, written, written_pieces, addColumnSql, String.append_assoc]

/-- The lexemes of the statement that adds a column to a table. -/
def additionLexemes (c : Column) (d : Driver) (table : String) : List Lexeme :=
  .word "ALTER" :: .word "TABLE" :: .name table :: .word "ADD" :: .word "COLUMN" ::
    c.lexemes false d

theorem addition_scans (c : Column) (d : Driver) (table : String) :
    Scans d false (c.additionPieces d table) (c.additionLexemes d table) false := by
  have halter : Scans d false [.text "ALTER TABLE "] [.word "ALTER", .word "TABLE"] true :=
    .wording [.word "ALTER", .word "TABLE"] (by simp [definitionWordings])
  have hadd : Scans d true [.text " ADD COLUMN "] [.word "ADD", .word "COLUMN"] true :=
    .wording [.word "ADD", .word "COLUMN"] (by simp [definitionWordings])
  exact ((halter.append (.name table) (.inl rfl)).append hadd (.inr rfl)).append
    (c.scans false d) (.inl rfl)

/-- The statement that adds a column reads back as what is declared of it. -/
theorem addition?_lexemes (c : Column) (d : Driver) (table : String) :
    Clause.addition? (lexemesOf d (c.additionPieces d table)) =
      some (table, c.declaration false d) := by
  have hread : Clause.addition? (lexemesOf d (c.additionPieces d table)) =
      (Declaration.column? (c.lexemes false d)).map fun x => (table, x) :=
    congrArg Clause.addition? (c.addition_scans d table).lexemesOf
  rw [hread, column?_lexemes]
  rfl

end Column

/-! ### Tables -/

/-- Two lists that are made of the same one are related if the items made of each are. -/
theorem forall₂_map_map {α β γ : Type} {R : β → γ → Prop} {f : α → β} {g : α → γ} {xs : List α}
    (h : ∀ x ∈ xs, R (f x) (g x)) : List.Forall₂ R (xs.map f) (xs.map g) := by
  rw [List.forall₂_map_left_iff, List.forall₂_map_right_iff, List.forall₂_same]
  exact h

/-- A list of items reads as what each of them reads as. -/
theorem mapM_of_forall₂ {α β : Type} {f : α → Option β} {xs : List α} {ys : List β}
    (h : List.Forall₂ (fun x y => f x = some y) xs ys) : xs.mapM f = some ys := by
  induction h with
  | nil => rfl
  | cons hx _ ih =>
    rw [List.mapM_cons, hx, ih]
    rfl

namespace Schema

variable (s : Schema) (d : Driver)

/-- The pieces of the key of a table. -/
def keyPieces : List Piece :=
  .text "PRIMARY KEY (" ::
    ([.text ", "].intercalate (s.keyColumns.map fun c => [.text (quote d c.name)]) ++ [.text ")"])

/-- The clauses of a table in pieces. -/
def clausePieces : List (List Piece) :=
  s.columns.map (·.pieces (!s.isComposite) d) ++ if s.isComposite then [s.keyPieces d] else []

/-- The pieces of the statement that creates a table. -/
def pieces : List Piece :=
  .text "CREATE TABLE IF NOT EXISTS " :: .text (quote d s.name) :: .text " (" ::
    ([.text ", "].intercalate (s.clausePieces d) ++ [.text ")"])

theorem written_keyPieces : written (s.keyPieces d) = s.keyClause d := by
  have hnames : (s.keyColumns.map fun c => [Piece.text (quote d c.name)]).map written =
      s.keyColumns.map fun c => quote d c.name := by
    simp [written]
  rw [keyPieces, written, written_append, written_intercalate, hnames, written, written,
    String.append_empty, keyClause, String.append_assoc]

theorem map_written_clausePieces : (s.clausePieces d).map written = s.clauses d := by
  unfold clausePieces clauses
  split
  · simp [Function.comp_def, Column.written_pieces, written_keyPieces]
  · simp [Function.comp_def, Column.written_pieces]

/-- The pieces are the statement. -/
theorem written_pieces : written (s.pieces d) = s.createSql d := by
  unfold pieces createSql
  rw [written, written, written, written_append, written_intercalate, map_written_clausePieces,
    written, written]
  simp only [String.append_assoc, String.append_empty]

/-- The lexemes of the key of a table. -/
def keyLexemes : List Lexeme :=
  .word "PRIMARY" :: .word "KEY" :: .mark '(' ::
    ([.mark ','].intercalate (s.keyColumns.map fun c => [.name c.name]) ++ [.mark ')'])

/-- The lexemes of the clauses of a table. -/
def clauseLexemes : List (List Lexeme) :=
  s.columns.map (·.lexemes (!s.isComposite) d) ++ if s.isComposite then [s.keyLexemes] else []

/-- The clauses that a table is to have. -/
def readClauses : List Clause :=
  s.columns.map (fun c => .column (c.declaration (!s.isComposite) d)) ++
    if s.isComposite then [.key (s.keyColumns.map (·.name))] else []

/-- The lexemes of the statement that creates a table. -/
def lexemes : List Lexeme :=
  .word "CREATE" :: .word "TABLE" :: .word "IF" :: .word "NOT" :: .word "EXISTS" :: .name s.name ::
    .mark '(' :: ([.mark ','].intercalate (s.clauseLexemes d) ++ [.mark ')'])

variable {d}

/-- Clauses in parentheses, with commas between them. -/
theorem list_scans {parts : List (List Piece)} {groups : List (List Lexeme)}
    (h : List.Forall₂ (fun ps ls => Scans d false ps ls false) parts groups) :
    Scans d false ([.text ", "].intercalate parts ++ [.text ")"])
      ([.mark ','].intercalate groups ++ [.mark ')']) true := by
  have hcomma : Reads d true ", ".toList [.mark ','] true := .wording (by simp [wordings])
  have hclose : Reads d true ")".toList [.mark ')'] true := .wording (by simp [wordings])
  exact (Scans.intercalate hcomma h).append (.text hclose) (.inr rfl)

theorem key_scans : Scans d false (s.keyPieces d) s.keyLexemes true := by
  have hopen : Scans d false [.text "PRIMARY KEY ("] [.word "PRIMARY", .word "KEY", .mark '(']
      true := .wording [.word "PRIMARY", .word "KEY", .mark '('] (by simp [definitionWordings])
  exact hopen.append (list_scans (forall₂_map_map fun c _ => .name c.name)) (.inl rfl)

theorem scans : Scans d false (s.pieces d) (s.lexemes d) true := by
  have hcreate : Scans d false [.text "CREATE TABLE IF NOT EXISTS "]
      [.word "CREATE", .word "TABLE", .word "IF", .word "NOT", .word "EXISTS"] true :=
    .wording [.word "CREATE", .word "TABLE", .word "IF", .word "NOT", .word "EXISTS"]
      (by simp [definitionWordings])
  have hopen : Reads d true " (".toList [.mark '('] true := .wording (by simp [wordings])
  have hhead := (hcreate.append (.name s.name) (.inl rfl)).append (.text hopen) (.inr rfl)
  refine hhead.append (list_scans ?_) (.inl rfl)
  refine List.rel_append ?_ ?_
  · exact forall₂_map_map fun c _ => c.scans (!s.isComposite) d
  · split
    · exact .cons s.key_scans.weaken .nil
    · exact .nil

/-! ### Reading tables -/

theorem within?_keyLexemes : Clause.within? 0 s.keyLexemes = some 0 := by
  have hnames : ∀ names : List Column,
      Clause.within? 1 ([.mark ','].intercalate (names.map fun c => [.name c.name])) = some 1 := by
    -- One parenthesis is open, so the commas between the names do not count.
    intro names
    induction names with
    | nil => rfl
    | cons c rest ih =>
      cases rest with
      | nil => rfl
      | cons c' rest =>
        rw [List.map_cons, List.map_cons, List.intercalate_cons_cons]
        exact ih
  show Clause.within? 1 _ = some 0
  rw [Clause.within?_append, hnames]
  rfl

/-- The key is read as the names of its columns in order. -/
theorem clause?_keyLexemes (h : s.isComposite = true) :
    Clause.clause? s.keyLexemes = some (.key (s.keyColumns.map (·.name))) := by
  have hne : (s.keyColumns.map fun c => [Lexeme.name c.name]) ≠ [] := by
    intro hnil
    have hlength : 1 < s.keyColumns.length := of_decide_eq_true h
    rw [List.map_eq_nil_iff.mp hnil] at hlength
    cases hlength
  have hfree : ∀ l ∈ s.keyColumns.map fun c => [Lexeme.name c.name], Lexeme.mark ',' ∉ l := by
    intro l hl
    obtain ⟨c, -, rfl⟩ := List.mem_map.mp hl
    simp
  have hnames : ((s.keyColumns.map fun c => [Lexeme.name c.name]).mapM Clause.name?) =
      some (s.keyColumns.map (·.name)) :=
    mapM_of_forall₂ (forall₂_map_map fun _ _ => rfl)
  rw [keyLexemes, Clause.clause?_key, Clause.enclosed?_concat, Option.bind_some,
    List.splitOn_intercalate _ hfree hne, hnames]
  rfl

/-- The clauses of a table stay apart at the commas between them. -/
theorem items_clauseLexemes :
    Clause.items ([.mark ','].intercalate (s.clauseLexemes d)) = s.clauseLexemes d := by
  have hall : ∀ g ∈ s.clauseLexemes d, g ≠ [] ∧ Clause.within? 0 g = some 0 := by
    intro g hg
    rcases List.mem_append.mp hg with hg | hg
    · obtain ⟨c, -, rfl⟩ := List.mem_map.mp hg
      exact ⟨List.cons_ne_nil _ _, c.within?_lexemes (!s.isComposite) d⟩
    · split at hg
      · rw [List.mem_singleton.mp hg]
        exact ⟨List.cons_ne_nil _ _, s.within?_keyLexemes⟩
      · cases hg
  exact Clause.items_intercalate (fun g hg => (hall g hg).1) fun g hg => (hall g hg).2

/-- A table reads back as the clauses that it is to have. -/
theorem table?_lexemes : Clause.table? (s.lexemes d) = some (s.name, s.readClauses d) := by
  have hclauses : (s.clauseLexemes d).mapM Clause.clause? = some (s.readClauses d) := by
    refine mapM_of_forall₂ (List.rel_append ?_ ?_)
    · exact forall₂_map_map fun c _ => c.clause?_lexemes (!s.isComposite) d
    · split
      · exact .cons (s.clause?_keyLexemes ‹_›) .nil
      · exact .nil
  rw [lexemes, Clause.table?_create, Clause.enclosed?_concat, Option.bind_some,
    items_clauseLexemes, hclauses]
  rfl

/-! ### Keys -/

/-- One column at most is declared to be the key, and one is if the key is one column. -/
theorem count_primaryKey : ((s.columns.map (·.declaration (!s.isComposite) d)).flatMap
      (·.attributes)).count .primaryKey = if s.keyColumns.length = 1 then 1 else 0 := by
  have hcount : ∀ columns : List Column,
      ((columns.map (·.declaration (!s.isComposite) d)).flatMap (·.attributes)).count .primaryKey =
        if s.isComposite then 0 else (columns.filter (·.primaryKey)).length := by
    -- Whether the key is composite is a matter of the whole table, so it is fixed in the induction.
    intro columns
    induction columns with
    | nil => simp
    | cons c rest ih =>
      have hfirst : (c.declaration (!s.isComposite) d).attributes.count .primaryKey =
          if s.isComposite = false ∧ c.primaryKey = true then 1 else 0 := by
        rw [Column.nodup_declaration.count]
        simp only [Column.mem_declaration_primaryKey, Bool.not_eq_true']
      rw [List.map_cons, List.flatMap_cons, List.count_append, ih, hfirst]
      cases s.isComposite <;> cases hprimary : c.primaryKey <;> simp [hprimary, Nat.add_comm]
  rw [hcount]
  unfold isComposite
  show (if decide (1 < s.keyColumns.length) = true then 0 else s.keyColumns.length) = _
  by_cases hlength : 1 < s.keyColumns.length
  · rw [if_pos (decide_eq_true hlength), if_neg (Nat.ne_of_gt hlength)]
  · rw [if_neg (by simpa using hlength)]
    split
    · assumption
    · omega

/-- A column is numbered just when it is the key alone and is to be numbered. -/
theorem exists_numbered_iff :
    (∃ x ∈ s.columns.map (·.declaration (!s.isComposite) d), x.IsNumbered) ↔
      ∃ c, s.keyColumns = [c] ∧ c.autoIncrement = true ∧ c.type = .integer := by
  constructor
  · rintro ⟨x, hx, hnumbered⟩
    obtain ⟨c, hc, rfl⟩ := List.mem_map.mp hx
    exact ⟨c, (c.declares hc d).numbered.mp hnumbered⟩
  · rintro ⟨c, hkey, hauto⟩
    have hc : c ∈ s.columns := by
      have hmem : c ∈ s.keyColumns := by simp [hkey]
      exact List.mem_of_mem_filter hmem
    exact ⟨_, List.mem_map_of_mem hc, (c.declares hc d).numbered.mpr ⟨hkey, hauto⟩⟩

/-- Without defaults, reading in pieces is reading the text. -/
theorem lexemesOf_of_no_default (h : ∀ c ∈ s.columns, c.default = none) :
    lexemesOf d (s.pieces d) = (tokensOf d (s.createSql d)).map .token := by
  have hcolumn : ∀ c ∈ s.columns, (c.pieces (!s.isComposite) d).all Piece.isText = true := by
    intro c hc
    unfold Column.pieces Column.defaultPieces
    rw [h c hc]
    split
    · rfl
    · rfl
  have hkey : (s.keyPieces d).all Piece.isText = true := by
    have hnames : ([.text ", "].intercalate
        (s.keyColumns.map fun c => [.text (quote d c.name)])).all Piece.isText = true :=
      isText_intercalate (by simp [Piece.isText])
    simp only [keyPieces, List.all_cons, List.all_append, hnames]
    rfl
  have hclauses : ∀ part ∈ s.clausePieces d, part.all Piece.isText = true := by
    intro part hpart
    rcases List.mem_append.mp hpart with hpart | hpart
    · obtain ⟨c, hc, rfl⟩ := List.mem_map.mp hpart
      exact hcolumn c hc
    · split at hpart
      · rw [List.mem_singleton.mp hpart]
        exact hkey
      · cases hpart
  rw [← written_pieces, lexemesOf_text]
  simp only [pieces, List.all_cons, List.all_append, isText_intercalate hclauses]
  rfl

/-- What the statement that creates a table reads back as. -/
structure ReadsAs (s : Schema) (d : Driver) (xs : List Declaration) : Prop where
  /-- A clause for each column, and then one for the key if it has several columns. -/
  clauses : Clause.table? (lexemesOf d (s.pieces d)) = some (s.name, xs.map .column ++
    if 2 ≤ s.keyColumns.length then [.key (s.keyColumns.map (·.name))] else [])
  declares : List.Forall₂ (Declares d s) s.columns xs
  /-- One column is declared to be the key if it is the key alone, and none otherwise. -/
  key : (xs.flatMap (·.attributes)).count .primaryKey = if s.keyColumns.length = 1 then 1 else 0
  numbered : (∃ x ∈ xs, x.IsNumbered) ↔
    ∃ c, s.keyColumns = [c] ∧ c.autoIncrement = true ∧ c.type = .integer
  /-- The same is declared of a column that is not in the key where it is added to a table. -/
  added : List.Forall₂ (fun c x => c.primaryKey = false → ∀ table,
    written (c.additionPieces d table) = addColumnSql d table c ∧
    Clause.addition? (lexemesOf d (c.additionPieces d table)) = some (table, x)) s.columns xs

theorem readsAs (d : Driver) :
    s.ReadsAs d (s.columns.map (·.declaration (!s.isComposite) d)) where
  clauses := by
    rw [s.scans.lexemesOf, table?_lexemes, readClauses, List.map_map, isComposite]
    simp only [decide_eq_true_eq]
    rfl
  declares := by
    rw [List.forall₂_map_right_iff, List.forall₂_same]
    exact fun c hc => c.declares hc d
  key := s.count_primaryKey
  numbered := s.exists_numbered_iff
  added := by
    rw [List.forall₂_map_right_iff, List.forall₂_same]
    intro c _ hkey table
    rw [(Column.definition_of_not_key hkey d _).2]
    exact ⟨c.written_additionPieces d table, c.addition?_lexemes d table⟩

/-- Bringing a table up to its schema creates it or adds columns that are not in the key. -/
theorem change_of_mem_changes {a : Change} (h : a ∈ changes [s]) :
    a = .create s ∨ ∃ c ∈ s.columns, c.primaryKey = false ∧ a = .add s.name c := by
  obtain ⟨t, ht, ha⟩ := List.mem_flatMap.mp h
  obtain rfl := List.mem_singleton.mp ht
  rcases List.mem_cons.mp ha with rfl | ha
  · exact .inl rfl
  · obtain ⟨c, hc, rfl⟩ := List.mem_map.mp ha
    obtain ⟨hc, hkey⟩ := List.mem_filter.mp hc
    exact .inr ⟨c, hc, by simpa using hkey, rfl⟩

/-- **The definition of a table reads back as its columns and its key.** Its pieces, each default
being one of them, are the statement, which is read as its tokens if there are no defaults. They read
back as one clause for each column, in order, which declares of it what `Declares` asks for; and if
several columns are in the key, one more clause lists them in order. A column that is not in the key
has the same clause, word for word, where it is added to a table, and bringing a table up to the
schema adds no other columns. -/
theorem createSql_declares (d : Driver) :
    written (s.pieces d) = s.createSql d ∧
    ((∀ c ∈ s.columns, c.default = none) →
      lexemesOf d (s.pieces d) = (tokensOf d (s.createSql d)).map .token) ∧
    (∃ xs, s.ReadsAs d xs) ∧
    List.Forall₂ (fun c clause => c.primaryKey = false → ∀ table,
      addColumnSql d table c = "ALTER TABLE " ++ quote d table ++ " ADD COLUMN " ++ clause)
      s.columns ((s.clauses d).take s.columns.length) ∧
    ∀ a ∈ changes [s], a = .create s ∨
      ∃ c ∈ s.columns, c.primaryKey = false ∧ a = .add s.name c := by
  refine ⟨s.written_pieces d, s.lexemesOf_of_no_default, ⟨_, s.readsAs d⟩, ?_,
    fun a => s.change_of_mem_changes⟩
  have hclauses : (s.clauses d).take s.columns.length =
      s.columns.map fun c => c.definition d (!s.isComposite) :=
    List.take_left' (List.length_map _)
  rw [hclauses, List.forall₂_map_right_iff, List.forall₂_same]
  intro c _ hkey table
  rw [(Column.definition_of_not_key hkey d _).1]
  rfl

end Schema

end DataAccess.Sql
