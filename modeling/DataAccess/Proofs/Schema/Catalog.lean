import DataAccess.Access.Migrator
import DataAccess.Sqlite.Table

/-!
# Catalogs

The catalog of a database lists its tables and views with their columns. No two of them have the
same name up to the case of ASCII letters, and this is how statements find them. But a catalog can
also be asked for names as they are spelled: `hasTable` wants a table spelled the same way, whereas
`create` makes nothing if there is a table or a view with the name in any spelling.

Creating tables and adding columns extends a catalog (`Extends`): nothing that was there goes away
or changes its spelling.
-/

namespace DataAccess.Access.Migrator

open Sql Sqlite

/-! ## Names -/

theorem sameName_iff {a b : String} :
    sameName a b = true ↔ a.toList.map Char.toLower = b.toList.map Char.toLower :=
  beq_iff_eq

@[simp] theorem sameName_self (a : String) : sameName a a = true := sameName_iff.mpr rfl

/-- Names that are the same are the same as the same names. -/
theorem sameName_congr {a b : String} (h : sameName a b = true) (n : String) :
    sameName n a = sameName n b := by
  unfold sameName
  rw [sameName_iff.mp h]

/-! ## Catalogs -/

/-- A table or a view. -/
structure Relation where
  name : String
  isTable : Bool
  columns : List String
deriving DecidableEq

/-- What stays of a relation when columns are added. -/
def Relation.head (r : Relation) : Bool × String := (r.isTable, r.name)

/-- Whether a relation is a table that is spelled like this. -/
def Relation.isTableNamed (name : String) (r : Relation) : Bool := r.isTable && r.name == name

/-- Being a table of a name is a matter of the head. -/
theorem Relation.any_isTableNamed {a b : Option Relation} (h : a.map head = b.map head)
    (name : String) : a.any (·.isTableNamed name) = b.any (·.isTableNamed name) := by
  have hhead : ∀ o : Option Relation,
      o.any (·.isTableNamed name) = (o.map head).any fun h => h.1 && h.2 == name := by
    intro o
    cases o <;> rfl
  rw [hhead a, hhead b, h]

/-- The relation, with one more column if it is the one with a name. -/
def Relation.gain (name column : String) (r : Relation) : Relation :=
  if sameName r.name name then { r with columns := r.columns ++ [column] } else r

@[simp] theorem Relation.gain_head (name column : String) (r : Relation) :
    (r.gain name column).head = r.head := by
  unfold gain
  split <;> rfl

@[simp] theorem Relation.gain_name (name column : String) (r : Relation) :
    (r.gain name column).name = r.name :=
  congrArg Prod.snd (r.gain_head name column)

theorem Relation.columns_subset_gain (name column : String) (r : Relation) :
    r.columns ⊆ (r.gain name column).columns := by
  unfold gain
  split
  · exact List.subset_append_left _ _
  · exact List.Subset.refl _

/-- The table of a schema. -/
def relationOf (s : Schema) : Relation := ⟨s.name, true, s.columns.map (·.name)⟩

/-- Relations, of which no two have the same name. -/
structure Catalog where
  relations : List Relation
  distinct : relations.Pairwise fun a b => sameName a.name b.name = false

namespace Catalog

/-- The relation with a name. -/
def relation? (c : Catalog) (name : String) : Option Relation :=
  c.relations.find? fun r => sameName r.name name

/-- Whether there is a table whose name is spelled like this. -/
def hasTable (c : Catalog) (name : String) : Bool :=
  c.relations.any (·.isTableNamed name)

/-- Whether the relation with a name has a column that is spelled like this. -/
def hasColumn (c : Catalog) (name column : String) : Bool :=
  (c.relation? name).any (·.columns.contains column)

/-- Create the table of a schema unless there is a relation with its name. -/
def create (c : Catalog) (s : Schema) : Catalog :=
  if h : c.relation? s.name = none then
    { relations := c.relations ++ [relationOf s]
      distinct := by
        rw [List.pairwise_append]
        refine ⟨c.distinct, List.pairwise_singleton _ _, fun r hr r' hr' => ?_⟩
        rw [List.mem_singleton.mp hr']
        exact Bool.eq_false_iff.mpr (List.find?_eq_none.mp h r hr) }
  else c

/-- Add a column to the relation with a name. -/
def addColumn (c : Catalog) (name column : String) : Catalog where
  relations := c.relations.map (·.gain name column)
  distinct := by
    rw [List.pairwise_map]
    simpa only [Relation.gain_name] using c.distinct

variable {c c' c'' : Catalog} {r : Relation} {n : String}

/-! ## Looking up -/

theorem relation?_congr {m : String} (h : sameName m n = true) : c.relation? m = c.relation? n := by
  unfold relation?
  simp only [sameName_congr h]

theorem sameName_of_relation? (h : c.relation? n = some r) : sameName r.name n = true := by
  have hfound := List.find?_some (p := fun r : Relation => sameName r.name n) h
  exact hfound

/-- A relation is what its name finds. -/
theorem relation?_of_mem (h : r ∈ c.relations) : c.relation? r.name = some r := by
  obtain ⟨before, after, hsplit⟩ := List.append_of_mem h
  have hdistinct := c.distinct
  rw [hsplit, List.pairwise_append] at hdistinct
  have hbefore : before.find? (fun x => sameName x.name r.name) = none := by
    rw [List.find?_eq_none]
    intro x hx
    rw [hdistinct.2.2 x hx r List.mem_cons_self]
    nofun
  unfold relation?
  rw [hsplit, List.find?_append, hbefore, Option.none_or, List.find?_cons_of_pos (by simp)]

/-- There is a table that is spelled like this just when it is the relation with the name. -/
theorem hasTable_eq (c : Catalog) (n : String) :
    c.hasTable n = (c.relation? n).any (·.isTableNamed n) := by
  rw [Bool.eq_iff_iff]
  constructor
  · intro h
    obtain ⟨r, hr, hspelled⟩ := List.any_eq_true.mp h
    obtain rfl : r.name = n := beq_iff_eq.mp (Bool.and_eq_true_iff.mp hspelled).2
    rw [relation?_of_mem hr]
    exact hspelled
  · intro h
    obtain ⟨r, hr, hspelled⟩ := Option.any_eq_true _ _ |>.mp h
    exact List.any_eq_true.mpr ⟨r, List.mem_of_find?_eq_some hr, hspelled⟩

theorem isSome_of_hasTable (h : c.hasTable n = true) : (c.relation? n).isSome := by
  rw [hasTable_eq] at h
  cases hr : c.relation? n with
  | none =>
    rw [hr] at h
    cases h
  | some r => rfl

/-- The table of a schema has the name of the schema. -/
theorem find?_relationOf (s : Schema) :
    [relationOf s].find? (sameName ·.name s.name) = some (relationOf s) :=
  List.find?_cons_of_pos (sameName_self s.name)

/-- What a name finds after a table is created: what it found before, or else the table. -/
theorem relation?_create (c : Catalog) (s : Schema) (n : String) :
    (c.create s).relation? n = (c.relation? n).or ([relationOf s].find? (sameName ·.name n)) := by
  unfold create
  split
  next h =>
    unfold relation?
    exact List.find?_append
  next h =>
    cases hn : c.relation? n with
    | some r => rw [Option.some_or]
    | none =>
      -- The name of the schema finds something, so the name that finds nothing is another one.
      have hother : sameName (relationOf s).name n = false := by
        rw [Bool.eq_false_iff]
        intro hsame
        apply h
        rw [← hn]
        exact relation?_congr hsame
      rw [Option.none_or, List.find?_cons_of_neg (by simp [hother]), List.find?_nil]

theorem relation?_addColumn (c : Catalog) (table column n : String) :
    (c.addColumn table column).relation? n = (c.relation? n).map (·.gain table column) := by
  unfold relation? addColumn
  rw [List.find?_map]
  simp only [Function.comp_def, Relation.gain_name]

/-! ## Extensions -/

/-- Whatever a name finds in `c` it finds in `c'`, with further columns maybe. -/
structure Extends (c c' : Catalog) : Prop where
  kept : ∀ {n r}, c.relation? n = some r →
    ∃ r', c'.relation? n = some r' ∧ r'.head = r.head ∧ r.columns ⊆ r'.columns

theorem Extends.refl (c : Catalog) : Extends c c where
  kept h := ⟨_, h, rfl, List.Subset.refl _⟩

theorem Extends.trans (h : Extends c c') (h' : Extends c' c'') : Extends c c'' where
  kept := by
    intro n r hr
    obtain ⟨r', hr', hhead, hcolumns⟩ := h.kept hr
    obtain ⟨r'', hr'', hhead', hcolumns'⟩ := h'.kept hr'
    exact ⟨r'', hr'', hhead'.trans hhead, List.Subset.trans hcolumns hcolumns'⟩

theorem extends_create (c : Catalog) (s : Schema) : Extends c (c.create s) where
  kept := by
    intro n r hr
    refine ⟨r, ?_, rfl, List.Subset.refl _⟩
    rw [relation?_create, hr, Option.some_or]

theorem extends_addColumn (c : Catalog) (table column : String) :
    Extends c (c.addColumn table column) where
  kept := by
    intro n r hr
    refine ⟨r.gain table column, ?_, r.gain_head _ _, r.columns_subset_gain _ _⟩
    rw [relation?_addColumn, hr, Option.map_some]

/-- Once a name finds something, it keeps finding a table or not. -/
theorem Extends.hasTable_eq (h : Extends c c') (hn : (c.relation? n).isSome) :
    c'.hasTable n = c.hasTable n := by
  obtain ⟨r, hr⟩ := Option.isSome_iff_exists.mp hn
  obtain ⟨r', hr', hhead, -⟩ := h.kept hr
  rw [Catalog.hasTable_eq, Catalog.hasTable_eq]
  apply Relation.any_isTableNamed
  rw [hr, hr', Option.map_some, Option.map_some, hhead]

theorem Extends.isSome (h : Extends c c') (hn : (c.relation? n).isSome) :
    (c'.relation? n).isSome := by
  obtain ⟨r, hr⟩ := Option.isSome_iff_exists.mp hn
  obtain ⟨r', hr', -, -⟩ := h.kept hr
  rw [hr']
  rfl

theorem Extends.hasColumn (h : Extends c c') {column : String}
    (hcolumn : c.hasColumn n column = true) : c'.hasColumn n column = true := by
  unfold Catalog.hasColumn at hcolumn ⊢
  cases hr : c.relation? n with
  | none =>
    rw [hr] at hcolumn
    cases hcolumn
  | some r =>
    obtain ⟨r', hr', -, hcolumns⟩ := h.kept hr
    rw [hr, Option.any_some, List.contains_iff_mem] at hcolumn
    rw [hr', Option.any_some, List.contains_iff_mem]
    exact hcolumns hcolumn

/-! ## What a change brings -/

/-- A created table has the columns of its schema. -/
theorem hasColumn_create {s : Schema} (hn : c.relation? s.name = none) {column : Column}
    (hcolumn : column ∈ s.columns) : (c.create s).hasColumn s.name column.name = true := by
  have hfound : (c.create s).relation? s.name = some (relationOf s) := by
    rw [relation?_create, hn, Option.none_or, find?_relationOf]
  unfold hasColumn
  rw [hfound, Option.any_some, List.contains_iff_mem]
  exact List.mem_map_of_mem hcolumn

/-- A relation has the column that was added to it. -/
theorem hasColumn_addColumn (hn : (c.relation? n).isSome) (column : String) :
    (c.addColumn n column).hasColumn n column = true := by
  obtain ⟨r, hr⟩ := Option.isSome_iff_exists.mp hn
  unfold hasColumn
  rw [relation?_addColumn, hr, Option.map_some, Option.any_some, List.contains_iff_mem,
    Relation.gain, if_pos (sameName_of_relation? hr)]
  exact List.mem_append_right _ List.mem_cons_self

/-- After a table was to be created, its name finds something. -/
theorem isSome_create (c : Catalog) (s : Schema) : ((c.create s).relation? s.name).isSome := by
  rw [relation?_create, find?_relationOf, Option.isSome_or, Option.isSome_some, Bool.or_true]

/-- Creating what is there changes nothing. -/
theorem create_eq_self {s : Schema} (hn : (c.relation? s.name).isSome) : c.create s = c := by
  unfold create
  rw [dif_neg]
  intro hnone
  rw [hnone] at hn
  cases hn

end Catalog

end DataAccess.Access.Migrator
