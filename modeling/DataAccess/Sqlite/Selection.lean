import DataAccess.Sqlite.Definition

/-!
# Selecting rows

Rows of a table, of the catalogue or of nothing, filtered, ordered, cut and projected. Rows that are
equal in their order stay in the order of their row numbers.
-/

namespace DataAccess.Sqlite

open Sql

/-- A column of a result: its name, and the declared type of the column that it is. -/
structure ResultColumn where
  name : String
  declared : Option (List Char)
deriving DecidableEq

/-- Rows with their columns. -/
structure Answer where
  columns : List ResultColumn
  rows : List Row

/-! ### Sources -/

/-- Columns with types and rows, as expressions see them. -/
structure Relation where
  columns : List (String × Option (List Char))
  rows : List Row

namespace Relation

/-- One row without columns. -/
def single : Relation := ⟨[], [[]]⟩

/-- A table. -/
def ofTable (t : Table) : Relation :=
  { columns := t.columns.map fun c => (c.name, if c.type.isEmpty then none else some c.type)
    rows := t.rows.map (·.2) }

/-- The name of the catalogue. -/
def catalogueName : String := "sqlite_master"

/-- The entries of a table in the catalogue: the table itself and its keys. -/
def catalogueRows (t : Table) : List Row :=
  let keys := (t.uniqueKeys.reverse.zipIdx 1).map fun k =>
    [.text "index", .text ("sqlite_autoindex_" ++ t.name ++ "_" ++ toString k.2), .text t.name,
      .int 0, .null]
  [.text "table", .text t.name, .text t.name, .int 0, .null] :: keys

/-- The catalogue: everything that the database holds. -/
def catalogue (d : Database) : Relation :=
  { columns := [("type", some "TEXT".toList), ("name", some "TEXT".toList),
      ("tbl_name", some "TEXT".toList), ("rootpage", some "INT".toList),
      ("sql", some "TEXT".toList)]
    rows := d.tables.flatMap catalogueRows }

/-- The place of a column in the primary key, counted from one, or zero. -/
def keyPlace (t : Table) (place : Nat) : Nat :=
  match t.primaryPlaces.findIdx? (· == place) with
  | some i => i + 1
  | none => 0

/-- The columns of a table as rows. -/
def columnsOf (t : Table) : List Row :=
  t.columns.zipIdx.map fun c =>
    [.int (Int64.ofNat c.2), .text c.1.name, .text (String.ofList c.1.type),
      .int (if c.1.notNull then 1 else 0), (c.1.default.map Expr.defaultValue).getD .null,
      .int (Int64.ofNat (keyPlace t c.2))]

/-- The name of the function that answers the columns of a table. -/
def columnsFunction : String := "pragma_table_info"

/-- The columns of the table with a name, none if there is no such table. -/
def columnInfo (d : Database) (table : Value) : Relation :=
  let t := match table with
    | .text n => d.table? n
    | _ => none
  { columns := ["cid", "name", "type", "notnull", "dflt_value", "pk"].map fun n => (n, none)
    rows := (t.map columnsOf).getD [] }

/-- The rows of a source. -/
def ofSource (d : Database) (s : Scope) : Source → Except Refusal Relation
  | .nowhere => .ok single
  | .table n =>
    if sameName n catalogueName || sameName n "sqlite_schema" then .ok (catalogue d)
    else do return ofTable (← d.table n)
  | .function n args =>
    if sameName n columnsFunction then do
      let values ← args.mapM (·.eval s [] [])
      return columnInfo d (values.headD .null)
    else .error (.noSuchTable n)

/-- The scope inside a relation. -/
def scope (r : Relation) (s : Scope) : Scope :=
  { s with names := r.columns.map fun c => ⟨c.1, (c.2.map Affinity.ofType).getD .blob⟩ }

end Relation

/-! ### Parts of a selection -/

namespace Select

/-- An item: an expression with the column that it makes. -/
structure Output where
  value : Expr
  column : ResultColumn
  /-- Whether the name was given with the item. -/
  given : Bool

/-- The column that an expression makes: a name without another one given keeps its own spelling. -/
def outputOf (r : Relation) (s : Scope) (e : Expr) (name : String) (given : Bool) : Output :=
  match e with
  | .name n _ =>
    match (s.place? n).bind fun p => r.columns[p]? with
    | some c => ⟨e, ⟨if given then name else c.1, c.2⟩, given⟩
    | none => ⟨e, ⟨name, none⟩, given⟩
  | _ => ⟨e, ⟨name, none⟩, given⟩

/-- What the items of a selection make. -/
def outputs (r : Relation) (s : Scope) (items : List Item) : List Output :=
  items.flatMap fun i =>
    match i with
    | .all => r.columns.map fun c => ⟨.name c.1 false, ⟨c.1, c.2⟩, false⟩
    | .one e name given => [outputOf r s e name given]

/-- The expression that an order really is about: a number is the place of an item, a name may be
one that was given to an item. -/
def orderExpr (os : List Output) (place : Nat) (e : Expr) : Except Refusal Expr :=
  match e with
  | .literal (.int i) =>
    match if i.toInt ≤ 0 then none else os[i.toInt.toNat - 1]? with
    | some o => .ok o.value
    | none => .error (.misplacedOrder place os.length)
  | .name n q =>
    match os.find? fun o => o.given && sameName o.column.name n with
    | some o => .ok o.value
    | none => .ok (.name n q)
  | e => .ok e

/-- The order of two lists of keys, some of which descend. -/
def keyOrder (descending : List Bool) (a b : List Value) : Ordering :=
  match descending, a, b with
  | d :: ds, v :: vs, w :: ws =>
    let o := compareValues v w
    (if d then o.swap else o).then (keyOrder ds vs ws)
  | _, _, _ => .eq

/-- Rows in order; rows that are equal in it stay as they are. -/
def sorted (s : Scope) (order : List (Expr × Bool)) (rows : List Row) :
    Except Refusal (List Row) := do
  let keyed ← rows.mapM fun r => do return (← order.mapM fun o => o.1.eval s [] r, r)
  let descending := order.map (·.2)
  return (keyed.mergeSort fun a b => keyOrder descending a.1 b.1 != .gt).map (·.2)

/-- The value of a limit or an offset. -/
def bound (s : Scope) (e : Option Expr) : Except Refusal (Option Int) :=
  match e with
  | none => .ok none
  | some e => do
    match Affinity.integer.apply (← e.eval s [] []) with
    | .int i => return some i.toInt
    | _ => throw .typeMismatch

/-- Rows after an offset, up to a limit. A limit below zero is none. -/
def cut {α : Type} (limit offset : Option Int) (rows : List α) : List α :=
  let rest := rows.drop (offset.getD 0).toNat
  match limit with
  | none => rest
  | some n => if n < 0 then rest else rest.take n.toNat

/-- Run a selection. -/
def run (d : Database) (params : Scope) (q : Select) : Except Refusal Answer := do
  let r ← Relation.ofSource d params q.source
  let s := r.scope params
  let os := outputs r s q.items
  os.forM (·.value.check s)
  q.condition.forM (·.check s)
  let order ← (q.order.zipIdx 1).mapM fun o => do return (← orderExpr os o.2 o.1.1, o.1.2)
  order.forM (·.1.check s)
  let limit ← bound params q.limit
  let offset ← bound params q.offset
  let rows ← r.rows.filterM fun row => meets s q.condition row
  let columns := os.map (·.column)
  if os.any (·.value.collects) then
    let row ← os.mapM (·.value.eval s rows (rows.getLastD []))
    return ⟨columns, cut limit offset [row]⟩
  else
    let rows := cut limit offset (← sorted s order rows)
    return ⟨columns, ← rows.mapM fun row => os.mapM (·.value.eval s [] row)⟩

end Select

end DataAccess.Sqlite
