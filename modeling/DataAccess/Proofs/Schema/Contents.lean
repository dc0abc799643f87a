import DataAccess.Proofs.Schema.Plan
import Mathlib.Data.List.Forall2

/-!
# Contents

The contents of a database are its tables with the definitions of their columns and with their rows.
Creating a table and adding a column extend the contents (`Contents.Extends`): all tables stay, in
their places, with their columns and rows, where tables may gain columns at their end, and each row
a value for each of these.
-/

namespace DataAccess.Access.Migrator

open Sql

/-- A table: its columns with their definitions, and its rows. -/
structure Table where
  name : String
  columns : List (String × String)
  rows : List (List Value)
deriving DecidableEq

abbrev Contents := List Table

namespace Table

variable {column : String × String} {t t' t'' : Table}

/-- The empty table of a schema. -/
def ofSchema (driver : Driver) (s : Schema) : Table :=
  ⟨s.name, s.columns.map fun c => (c.name, c.definition driver (!s.isComposite)), []⟩

/-- A column was added to a table, so there is one more value in each row. -/
structure Gains (column : String × String) (t t' : Table) : Prop where
  name : t'.name = t.name
  columns : t'.columns = t.columns ++ [column]
  rows : List.Forall₂ (fun row row' => ∃ v, row' = row ++ [v]) t.rows t'.rows

/-- A table may have gained columns, but is the same otherwise. -/
structure Grows (t t' : Table) : Prop where
  name : t'.name = t.name
  columns : t.columns <+: t'.columns
  rows : List.Forall₂ (· <+: ·) t.rows t'.rows

theorem Grows.refl (t : Table) : Grows t t :=
  ⟨rfl, List.prefix_refl _, List.forall₂_same.mpr fun row _ => List.prefix_refl row⟩

theorem Gains.grows (h : Gains column t t') : Grows t t' := by
  refine ⟨h.name, ?_, ?_⟩
  · rw [h.columns]
    exact List.prefix_append _ _
  · apply h.rows.imp
    rintro row row' ⟨v, rfl⟩
    exact List.prefix_append _ _

end Table

theorem forall₂_trans {α : Type} {R : α → α → Prop} (hR : ∀ a b c, R a b → R b c → R a c)
    {as bs cs : List α} (h : List.Forall₂ R as bs) (h' : List.Forall₂ R bs cs) :
    List.Forall₂ R as cs := by
  induction h generalizing cs with
  | nil => exact h'
  | cons hab _ ih =>
    cases h' with
    | cons hbc htail => exact .cons (hR _ _ _ hab hbc) (ih htail)

theorem Table.Grows.trans {t t' t'' : Table} (h : Grows t t') (h' : Grows t' t'') :
    Grows t t'' := by
  refine ⟨h'.name.trans h.name, h.columns.trans h'.columns, ?_⟩
  exact forall₂_trans (fun _ _ _ hab hbc => hab.trans hbc) h.rows h'.rows

namespace Contents

variable {T T' T'' : Contents} {t t' : Table}

/-- All tables are still there, in their places, and further ones may follow. -/
inductive Extends : Contents → Contents → Prop
  | new (T : Contents) : Extends [] T
  | kept {t t' : Table} {T T' : Contents} (ht : t.Grows t') (h : Extends T T') :
      Extends (t :: T) (t' :: T')

theorem Extends.trans (h : Extends T T') (h' : Extends T' T'') : Extends T T'' := by
  induction h generalizing T'' with
  | new _ => exact .new T''
  | kept ht _ ih =>
    cases h' with
    | kept ht' h' => exact .kept (ht.trans ht') (ih h')

theorem extends_append (T new : Contents) : Extends T (T ++ new) := by
  induction T with
  | nil => exact .new new
  | cons t rest ih => exact .kept (.refl t) ih

theorem Extends.refl (T : Contents) : Extends T T := by
  have h := extends_append T []
  rwa [List.append_nil] at h

theorem extends_grows (h : t.Grows t') (before after : Contents) :
    Extends (before ++ t :: after) (before ++ t' :: after) := by
  induction before with
  | nil => exact .kept h (.refl after)
  | cons u rest ih => exact .kept (.refl u) ih

end Contents

/-! ## Changes -/

/-- The question that has to be answered with no before a change is made. -/
def Change.question : Change → Question
  | create s => .table s.name
  | add t column => .column t column.name

/-- What a change does to contents when it succeeds. A table that is to be created may be there
under another spelling, or there may be a view with its name: then nothing happens. A column is
added to the one table that the database finds under the name. -/
inductive Change.Effect (driver : Driver) : Change → Contents → Contents → Prop
  | there (s : Schema) (T : Contents) : Effect driver (.create s) T T
  | created (s : Schema) (T : Contents) : Effect driver (.create s) T (T ++ [.ofSchema driver s])
  | added (name : String) (column : Column) (before after : Contents) {t t' : Table}
      (hgains : t.Gains (column.name, column.definition driver false) t') :
      Effect driver (.add name column) (before ++ t :: after) (before ++ t' :: after)

theorem Change.Effect.extended {driver : Driver} {a : Change} {T T' : Contents}
    (h : a.Effect driver T T') : Contents.Extends T T' := by
  cases h with
  | there s T => exact .refl T
  | created s T => exact Contents.extends_append T _
  | added name column before after hgains => exact Contents.extends_grows hgains.grows before after

end DataAccess.Access.Migrator
