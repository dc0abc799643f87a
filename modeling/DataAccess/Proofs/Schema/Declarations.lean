import DataAccess.Proofs.Query.ReadsBack
import DataAccess.Proofs.Schema.Lexemes

/-!
# Declarations read back

A reader of the clauses in a table definition, from its lexemes. A clause declares a column, with its
name, its type and its attributes, or it lists the columns of the primary key.

What a column is written as is cut into pieces (`Column.pieces`), so that its default counts as one
lexeme. They read back as its `Column.declaration` (`Column.column?_lexemes`), which says of a column
what `Declares` asks of it.
-/

namespace DataAccess.Sql

open Reading

/-! ### What is declared -/

/-- What is declared of a column besides its type. -/
inductive Attribute where
  | primaryKey
  | autoIncrement
  | notNull
  | unique
  | default (expr : String)
deriving DecidableEq

/-- A column as it is declared. -/
structure Declaration where
  name : String
  type : List Lexeme
  attributes : List Attribute
deriving DecidableEq

/-- The database numbers the column. One dialect says so with a type, the others with a word. -/
def Declaration.IsNumbered (x : Declaration) : Prop :=
  .autoIncrement ∈ x.attributes ∨ x.type = [.word "BIGSERIAL"]

/-- A clause of a table definition. -/
inductive Clause where
  | column (x : Declaration)
  | key (columns : List String)
deriving DecidableEq

/-! ### The reader -/

namespace Declaration

/-- Whether a lexeme begins an attribute. -/
def beginsAttribute : Lexeme → Bool
  | .word s => ["PRIMARY", "AUTO_INCREMENT", "AUTOINCREMENT", "NOT", "UNIQUE", "DEFAULT"].contains s
  | _ => false

/-- Attributes in turn. -/
def attributes? : List Lexeme → Option (List Attribute)
  | [] => some []
  | .word "PRIMARY" :: .word "KEY" :: ls => (attributes? ls).map (.primaryKey :: ·)
  | .word "AUTO_INCREMENT" :: ls => (attributes? ls).map (.autoIncrement :: ·)
  | .word "AUTOINCREMENT" :: ls => (attributes? ls).map (.autoIncrement :: ·)
  | .word "NOT" :: .word "NULL" :: ls => (attributes? ls).map (.notNull :: ·)
  | .word "UNIQUE" :: ls => (attributes? ls).map (.unique :: ·)
  | .word "DEFAULT" :: .expression e :: ls => (attributes? ls).map (.default e :: ·)
  | _ => none

/-- A name, a type and attributes. -/
def column? : List Lexeme → Option Declaration
  | .name n :: ls =>
    (attributes? (ls.dropWhile (!beginsAttribute ·))).map fun as =>
      ⟨n, ls.takeWhile (!beginsAttribute ·), as⟩
  | _ => none

end Declaration

namespace Clause

/-- What stands before a parenthesis that closes at the end. -/
def enclosed? (ls : List Lexeme) : Option (List Lexeme) :=
  if ls.getLast? = some (.mark ')') then some ls.dropLast else none

/-- A name alone. -/
def name? : List Lexeme → Option String
  | [.name n] => some n
  | _ => none

def clause? : List Lexeme → Option Clause
  | .word "PRIMARY" :: .word "KEY" :: .mark '(' :: ls => do
    let names ← enclosed? ls
    return .key (← (names.splitOn (.mark ',')).mapM name?)
  | ls => (Declaration.column? ls).map .column

/-- How many parentheses are open after a lexeme. -/
def depth (n : Nat) : Lexeme → Nat
  | .mark '(' => n + 1
  | .mark ')' => n - 1
  | _ => n

/-- Cut at the commas that are not in parentheses, `n` of which are open. -/
def topLevel (n : Nat) : List Lexeme → List (List Lexeme)
  | [] => [[]]
  | l :: ls =>
    if n = 0 ∧ l = .mark ',' then [] :: topLevel 0 ls
    else (topLevel (depth n l) ls).modifyHead (l :: ·)

/-- The items of a list, which may be empty. -/
def items (ls : List Lexeme) : List (List Lexeme) := if ls = [] then [] else topLevel 0 ls

/-- The name of a table that is created, and its clauses. -/
def table? : List Lexeme → Option (String × List Clause)
  | .word "CREATE" :: .word "TABLE" :: .word "IF" :: .word "NOT" :: .word "EXISTS" :: .name n ::
      .mark '(' :: ls => do
    let body ← enclosed? ls
    return (n, ← (items body).mapM clause?)
  | _ => none

/-- The name of a table to which a column is added, and the column. -/
def addition? : List Lexeme → Option (String × Declaration)
  | .word "ALTER" :: .word "TABLE" :: .name n :: .word "ADD" :: .word "COLUMN" :: ls =>
    (Declaration.column? ls).map fun x => (n, x)
  | _ => none

theorem clause?_key (ls : List Lexeme) :
    clause? (.word "PRIMARY" :: .word "KEY" :: .mark '(' :: ls) =
      (enclosed? ls).bind fun names =>
        ((names.splitOn (.mark ',')).mapM name?).bind fun columns => some (.key columns) := rfl

theorem table?_create (n : String) (ls : List Lexeme) :
    table? (.word "CREATE" :: .word "TABLE" :: .word "IF" :: .word "NOT" :: .word "EXISTS" ::
        .name n :: .mark '(' :: ls) =
      (enclosed? ls).bind fun body =>
        ((items body).mapM clause?).bind fun clauses => some (n, clauses) := rfl

/-! ### Parentheses -/

/-- How many parentheses are open after some lexemes, if they have no comma outside of
parentheses. -/
def within? (n : Nat) : List Lexeme → Option Nat
  | [] => some n
  | l :: ls => if n = 0 ∧ l = .mark ',' then none else within? (depth n l) ls

variable {n k : Nat} {ls ms : List Lexeme}

theorem within?_append : within? n (ls ++ ms) = (within? n ls).bind (within? · ms) := by
  induction ls generalizing n with
  | nil => rfl
  | cons l rest ih =>
    simp only [List.cons_append, within?]
    split
    · rfl
    · exact ih

/-- Lexemes without a comma outside of parentheses are not cut. -/
theorem topLevel_append (h : within? n ls = some k) :
    topLevel n (ls ++ ms) = (topLevel k ms).modifyHead (ls ++ ·) := by
  induction ls generalizing n with
  | nil =>
    cases h
    rw [List.nil_append]
    cases topLevel k ms with
    | nil => rfl
    | cons g rest => rfl
  | cons l rest ih =>
    unfold within? at h
    by_cases hcomma : n = 0 ∧ l = .mark ','
    · rw [if_pos hcomma] at h
      cases h
    · rw [if_neg hcomma] at h
      rw [List.cons_append, topLevel, if_neg hcomma, ih h, List.modifyHead_modifyHead]
      rfl

/-- Items with commas between them are cut into the items. -/
theorem items_intercalate {groups : List (List Lexeme)} (hgroups : ∀ g ∈ groups, g ≠ [])
    (h : ∀ g ∈ groups, within? 0 g = some 0) :
    items ([.mark ','].intercalate groups) = groups := by
  have htopLevel : ∀ {g rest}, (∀ x ∈ g :: rest, within? 0 x = some 0) →
      topLevel 0 ([.mark ','].intercalate (g :: rest)) = g :: rest := by
    intro g rest hall
    induction rest generalizing g with
    | nil =>
      have hcut : topLevel 0 (g ++ []) = (topLevel 0 []).modifyHead (g ++ ·) :=
        topLevel_append (hall g List.mem_cons_self)
      rw [List.append_nil] at hcut
      rw [List.intercalate_singleton, hcut]
      simp [topLevel]
    | cons next rest ih =>
      obtain ⟨hg, hrest⟩ := List.forall_mem_cons.mp hall
      -- No parenthesis is open at the comma after the first item, so it is cut there.
      rw [List.intercalate_cons_cons, List.append_assoc, topLevel_append hg,
        List.singleton_append, topLevel, if_pos ⟨rfl, rfl⟩, ih hrest, List.modifyHead_cons,
        List.append_nil]
  cases groups with
  | nil => rfl
  | cons g rest =>
    have hne : [.mark ','].intercalate (g :: rest) ≠ [] := by
      have hg := hgroups g List.mem_cons_self
      cases rest with
      | nil => rwa [List.intercalate_singleton]
      | cons next rest => simp [List.intercalate_cons_cons, hg]
    rw [items, if_neg hne, htopLevel h]

theorem enclosed?_concat (ls : List Lexeme) : enclosed? (ls ++ [.mark ')']) = some ls := by
  rw [enclosed?, List.getLast?_concat, if_pos rfl, List.dropLast_concat]

end Clause

/-! ### Words -/

/-- The words of the statements that define tables. -/
def definitionWordings : List Wording := [
  ⟨false, "CREATE TABLE IF NOT EXISTS ", [.word "CREATE", .word "TABLE", .word "IF", .word "NOT",
    .word "EXISTS"], true⟩,
  ⟨false, "DROP TABLE IF EXISTS ", [.word "DROP", .word "TABLE", .word "IF", .word "EXISTS"], true⟩,
  ⟨false, "ALTER TABLE ", [.word "ALTER", .word "TABLE"], true⟩,
  ⟨true, " ADD COLUMN ", [.word "ADD", .word "COLUMN"], true⟩,
  ⟨false, "PRIMARY KEY (", [.word "PRIMARY", .word "KEY", .mark '('], true⟩,
  ⟨true, " ", [], true⟩,
  ⟨true, " PRIMARY KEY", [.word "PRIMARY", .word "KEY"], false⟩,
  ⟨true, " NOT NULL", [.word "NOT", .word "NULL"], false⟩,
  ⟨true, " UNIQUE", [.word "UNIQUE"], false⟩,
  ⟨true, " DEFAULT ", [.word "DEFAULT"], true⟩]

theorem definitionWordings_read : definitionWordings.all (fun w =>
    Driver.all.all fun d => readsAlone d w.after w.text.toList w.tokens w.clean) = true := by
  decide +kernel

theorem Scans.wording {d : Driver} {after clean : Bool} {s : String} (ts : List Token)
    (h : ⟨after, s, ts, clean⟩ ∈ definitionWordings) :
    Scans d after [.text s] (ts.map .token) clean := by
  have hall := List.all_eq_true.mp definitionWordings_read _ h
  exact .text (.of_readsAlone (List.all_eq_true.mp hall d (by cases d <;> decide)))

theorem Scans.empty {d : Driver} : Scans d true [.text ""] [] false := by
  have hempty : Reads d true "".toList [] false := .nil true
  exact .text hempty

/-- The types of columns in all dialects. -/
def typeNames : List String :=
  ["BIGINT", "DOUBLE", "VARCHAR(255)", "LONGBLOB", "DOUBLE PRECISION", "BYTEA", "INTEGER", "REAL",
    "TEXT", "BOOLEAN", "BLOB"]

/-- A type reads the same wherever it stands, has no attribute in it, no comma outside of
parentheses and no name, and is not numbered. -/
theorem typeNames_read : typeNames.all (fun s => Driver.all.all fun d =>
    readsAlone d false s.toList (tokensOf d s) false &&
      (((tokensOf d s).map Lexeme.token).all (!Declaration.beginsAttribute ·) &&
        (Clause.within? 0 ((tokensOf d s).map .token) == some 0 &&
          ((tokensOf d s).map Lexeme.token != [.word "BIGSERIAL"] &&
            (tokensOf d s).filterMap Token.name? == [])))) = true := by
  decide +kernel

/-- The tokens of the type and the key of a serial column. -/
def serialTokens : Driver → List Token
  | .mysql => [.word "BIGINT", .word "AUTO_INCREMENT", .word "PRIMARY", .word "KEY"]
  | .postgresql => [.word "BIGSERIAL", .word "PRIMARY", .word "KEY"]
  | _ => [.word "INTEGER", .word "PRIMARY", .word "KEY", .word "AUTOINCREMENT"]

theorem serial_scans (d : Driver) :
    Scans d true [.text (Column.serialSql d)] ((serialTokens d).map .token) false := by
  refine .text (.of_readsAlone ?_)
  cases d with
  | mysql | postgresql | sqlite | none => decide +kernel

/-! ### Columns -/

/-- How an attribute is written, unless it is that of a serial column. -/
def Attribute.lexemes : Attribute → List Lexeme
  | .primaryKey => [.word "PRIMARY", .word "KEY"]
  | .autoIncrement => [.word "AUTOINCREMENT"]
  | .notNull => [.word "NOT", .word "NULL"]
  | .unique => [.word "UNIQUE"]
  | .default e => [.word "DEFAULT", .expression e]

/-- Attributes read back one by one. -/
theorem attributes?_flatMap (as : List Attribute) :
    Declaration.attributes? (as.flatMap Attribute.lexemes) = some as := by
  induction as with
  | nil => rfl
  | cons a rest ih =>
    cases a with
    | primaryKey | autoIncrement | notNull | unique | default e =>
      simp [Attribute.lexemes, Declaration.attributes?, ih]

theorem within?_attributes (as : List Attribute) :
    Clause.within? 0 (as.flatMap Attribute.lexemes) = some 0 := by
  induction as with
  | nil => rfl
  | cons a rest ih =>
    rw [List.flatMap_cons, Clause.within?_append]
    cases a with
    | primaryKey | autoIncrement | notNull | unique | default e => exact ih

theorem head_attributes (as : List Attribute) :
    ∀ l ∈ (as.flatMap Attribute.lexemes).head?, (!Declaration.beginsAttribute l) = false := by
  cases as with
  | nil => nofun
  | cons a rest =>
    cases a with
    | primaryKey | autoIncrement | notNull | unique | default e =>
      rintro l ⟨⟩
      rfl

namespace Column

variable {d : Driver} (c : Column) (inlineKey : Bool)

/-- The pieces of a default. -/
def defaultPieces : List Piece :=
  match c.default with
  | some e => [.text " DEFAULT ", .expression e]
  | none => []

/-- The pieces that a column is written with. -/
def pieces (d : Driver) : List Piece :=
  .text (quote d c.name) ::
    if c.isSerial inlineKey then [.text (serialSql d)]
    else .text " " :: .text (c.typeSql d) :: .text (c.nullSql inlineKey) :: .text c.uniqueSql ::
      c.defaultPieces

/-- The pieces are the definition of the column. -/
theorem written_pieces (d : Driver) : written (c.pieces inlineKey d) = c.definition d inlineKey := by
  have hdefault : written c.defaultPieces = c.defaultSql := by
    unfold defaultPieces defaultSql
    cases c.default with
    | none => rfl
    | some e => simp [written]
  unfold pieces definition
  split
  · simp [written]
  · simp only [written, hdefault, String.append_assoc]

/-- The type as it is declared. -/
def typeLexemes (d : Driver) : List Lexeme := (tokensOf d (c.typeSql d)).map .token

def nullAttributes : List Attribute :=
  if inlineKey && c.primaryKey then [.primaryKey] else if !c.nullable then [.notNull] else []

def uniqueAttributes : List Attribute := if c.unique && !c.primaryKey then [.unique] else []

def defaultAttributes : List Attribute := c.default.toList.map .default

/-- The attributes of a column that is not serial. -/
def attributes : List Attribute :=
  c.nullAttributes inlineKey ++ c.uniqueAttributes ++ c.defaultAttributes

/-- What is declared of a column. -/
def declaration (d : Driver) : Declaration :=
  if c.isSerial inlineKey then
    match d with
    | .mysql => ⟨c.name, [.word "BIGINT"], [.autoIncrement, .primaryKey]⟩
    | .postgresql => ⟨c.name, [.word "BIGSERIAL"], [.primaryKey]⟩
    | _ => ⟨c.name, [.word "INTEGER"], [.primaryKey, .autoIncrement]⟩
  else ⟨c.name, c.typeLexemes d, c.attributes inlineKey⟩

/-- The lexemes of a column. -/
def lexemes (d : Driver) : List Lexeme :=
  .name c.name ::
    if c.isSerial inlineKey then (serialTokens d).map .token
    else c.typeLexemes d ++ (c.attributes inlineKey).flatMap Attribute.lexemes

theorem typeSql_mem (d : Driver) : c.typeSql d ∈ typeNames := by
  unfold typeSql
  split
  case h_3 =>
    split
    · simp [typeNames]
    · simp [typeNames]
  all_goals simp [typeNames]

theorem type_reads (d : Driver) :
    readsAlone d false (c.typeSql d).toList (tokensOf d (c.typeSql d)) false = true ∧
      (∀ l ∈ c.typeLexemes d, (!Declaration.beginsAttribute l) = true) ∧
      Clause.within? 0 (c.typeLexemes d) = some 0 ∧ c.typeLexemes d ≠ [.word "BIGSERIAL"] ∧
      (tokensOf d (c.typeSql d)).filterMap Token.name? = [] := by
  have hall := List.all_eq_true.mp (List.all_eq_true.mp typeNames_read _ (c.typeSql_mem d)) d
    (by cases d <;> decide)
  simpa only [typeLexemes, Bool.and_eq_true, List.all_eq_true, beq_iff_eq, bne_iff_ne] using hall

theorem null_scans :
    Scans d true [.text (c.nullSql inlineKey)]
      ((c.nullAttributes inlineKey).flatMap Attribute.lexemes) false := by
  unfold nullSql nullAttributes
  split
  · exact .wording [.word "PRIMARY", .word "KEY"] (by simp [definitionWordings])
  · split
    · exact .wording [.word "NOT", .word "NULL"] (by simp [definitionWordings])
    · exact .empty

theorem unique_scans :
    Scans d true [.text c.uniqueSql] (c.uniqueAttributes.flatMap Attribute.lexemes) false := by
  unfold uniqueSql uniqueAttributes
  split
  · exact .wording [.word "UNIQUE"] (by simp [definitionWordings])
  · exact .empty

theorem default_scans :
    Scans d true c.defaultPieces (c.defaultAttributes.flatMap Attribute.lexemes) false := by
  unfold defaultPieces defaultAttributes
  cases c.default with
  | none => exact .nil true
  | some e =>
    have hword : Scans d true [.text " DEFAULT "] [.word "DEFAULT"] true :=
      .wording [.word "DEFAULT"] (by simp [definitionWordings])
    exact (hword.append (.expression e) (.inl rfl)).append (.nil true) (.inl rfl)

theorem scans (d : Driver) : Scans d false (c.pieces inlineKey d) (c.lexemes inlineKey d) false := by
  have hname : Scans d false [.text (quote d c.name)] [.name c.name] false := .name c.name
  unfold pieces lexemes
  split
  · exact hname.append (serial_scans d) (.inr rfl)
  · have hblank : Scans d true [.text " "] [] true := .wording [] (by simp [definitionWordings])
    have htype : Scans d false [.text (c.typeSql d)] (c.typeLexemes d) false :=
      .text (.of_readsAlone (c.type_reads d).1)
    have hattributes := ((c.null_scans (d := d) inlineKey).append c.unique_scans (.inr rfl)).append
      c.default_scans (.inr rfl)
    have hall := hname.append ((hblank.append htype (.inl rfl)).append hattributes (.inr rfl))
      (.inr rfl)
    simpa [attributes] using hall

/-- A column reads back as what is declared of it. -/
theorem column?_lexemes (d : Driver) :
    Declaration.column? (c.lexemes inlineKey d) = some (c.declaration inlineKey d) := by
  unfold lexemes declaration
  split
  · cases d with
    | mysql | postgresql | sqlite | none => rfl
  · -- The type ends where the first attribute begins.
    obtain ⟨htype, hattributes⟩ :=
      cut_append (c.type_reads d).2.1 (head_attributes (c.attributes inlineKey))
    rw [Declaration.column?, htype, hattributes, attributes?_flatMap]
    rfl

theorem within?_lexemes (d : Driver) : Clause.within? 0 (c.lexemes inlineKey d) = some 0 := by
  unfold lexemes
  rw [← List.singleton_append, Clause.within?_append]
  split
  · cases d with
    | mysql | postgresql | sqlite | none => rfl
  · show Clause.within? 0 _ = some 0
    rw [Clause.within?_append, (c.type_reads d).2.2.1]
    exact within?_attributes _

/-- A column is read as a clause of its own. -/
theorem clause?_lexemes (d : Driver) :
    Clause.clause? (c.lexemes inlineKey d) = some (.column (c.declaration inlineKey d)) := by
  have hclause : Clause.clause? (c.lexemes inlineKey d) =
      (Declaration.column? (c.lexemes inlineKey d)).map .column := rfl
  rw [hclause, column?_lexemes]
  rfl

end Column

end DataAccess.Sql
