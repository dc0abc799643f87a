import DataAccess.Sqlite.Table

/-!
# Values of expressions

Expressions are evaluated in a scope: the parameters, and the names that a row gives values to.
Truth has three values; a missing value is neither true nor false.
-/

namespace DataAccess.Sqlite

open Sql

/-- A name that a row gives a value to. -/
structure Visible where
  name : String
  affinity : Affinity

/-- What expressions are evaluated in. -/
structure Scope where
  /-- All parameters, counted over all statements. -/
  parameters : List Value
  /-- The number of parameters that belong to statements before this one. -/
  offset : Nat
  names : List Visible

/-- A row in a scope. -/
abbrev Row := List Value

namespace Scope

/-- The parameters alone. -/
def ofParameters (parameters : List Value) (offset : Nat) : Scope := ⟨parameters, offset, []⟩

/-- The scope inside a table. -/
def inTable (s : Scope) (t : Table) : Scope :=
  { s with names := t.columns.map fun c => ⟨c.name, .ofType c.type⟩ }

/-- The place of a name. -/
def place? (s : Scope) (name : String) : Option Nat :=
  s.names.findIdx? fun n => sameName n.name name

end Scope

/-! ### Truth -/

/-- Whether a value counts as true; a missing value counts as neither. -/
def truth? : Value → Option Bool
  | .null => none
  | .bool b => some b
  | .int i => some (i != 0)
  | .float x => some (!Number.Binary64.same x .zero)
  | .text s =>
    match readNumber? s with
    | some (.int i) => some (i != 0)
    | some (.float x) => some (!Number.Binary64.same x .zero)
    | _ => some false
  | .bytes _ => some false

/-- A truth value as it is stored. -/
def ofTruth : Option Bool → Value
  | some b => .int (if b then 1 else 0)
  | none => .null

/-- Both of two truth values. -/
def andTruth : Option Bool → Option Bool → Option Bool
  | some false, _ | _, some false => some false
  | some true, some true => some true
  | _, _ => none

/-- One of two truth values. -/
def orTruth : Option Bool → Option Bool → Option Bool
  | some true, _ | _, some true => some true
  | some false, some false => some false
  | _, _ => none

/-! ### Operators -/

/-- Whether an order fits a comparison. -/
def Comparison.holds : Comparison → Ordering → Bool
  | equal, o => o == .eq
  | notEqual, o => o != .eq
  | less, o => o == .lt
  | lessEqual, o => o != .gt
  | greater, o => o == .gt
  | greaterEqual, o => o != .lt

/-- Two values made alike before they are compared: numbers win over texts, texts over nothing. -/
def alike (a b : Option Affinity) (v w : Value) : Value × Value :=
  let numeric (x : Option Affinity) : Bool := x.any Affinity.isNumeric
  if numeric a && !numeric b then (v, toNumber w)
  else if numeric b && !numeric a then (toNumber v, w)
  else if a == some .text && b.isNone then (v, toText w)
  else if b == some .text && a.isNone then (toText v, w)
  else (v, w)

/-- A value as a number; what is none counts as zero. -/
def asNumber : Value → Value
  | .null => .null
  | .int i => .int i
  | .float x => .float x
  | .bool b => .int (if b then 1 else 0)
  | .text s => (readNumber? s).getD (.int 0)
  | .bytes _ => .int 0

/-- The double nearest to a number. -/
def toFloat : Value → Number.Binary64
  | .int i => .ofInt i.toInt
  | .float x => x
  | _ => .zero

/-- The result of a calculation on integers. -/
def Calculation.onInts : Calculation → Int → Int → Int
  | plus, i, j => i + j
  | minus, i, j => i - j
  | times, i, j => i * j

/-- The result of a calculation on doubles. -/
def Calculation.onFloats : Calculation → Number.Binary64 → Number.Binary64 → Number.Binary64
  | plus, x, y => x + y
  | minus, x, y => x + -y
  | times, x, y => x * y

/-- A double as a value; what is not a number is missing. -/
def ofFloat (x : Number.Binary64) : Value :=
  match x with
  | .nan => .null
  | x => .float x

/-- The result of a calculation. Integers that overflow become doubles. -/
def Calculation.apply (c : Calculation) (v w : Value) : Value :=
  match asNumber v, asNumber w with
  | .null, _ | _, .null => .null
  | .int i, .int j =>
    match int64? (c.onInts i.toInt j.toInt) with
    | some k => .int k
    | none => ofFloat (c.onFloats (.ofInt i.toInt) (.ofInt j.toInt))
  | v, w => ofFloat (c.onFloats (toFloat v) (toFloat w))

/-- The opposite of a value. -/
def negateValue (v : Value) : Value :=
  match asNumber v with
  | .int i => integerValue (-i.toInt)
  | .float x => .float (-x)
  | v => v

/-- The value of an aggregate. -/
def Aggregate.collect (a : Aggregate) (vs : List Value) : Value :=
  let there := vs.filter fun v => !v.isNull
  let best (o : Ordering) : Value :=
    match there with
    | [] => .null
    | v :: rest => rest.foldl (fun b w => if compareValues w b == o then w else b) v
  match a with
  | count => .int (Int64.ofNat there.length)
  | max => best .gt
  | min => best .lt

/-! ### Expressions -/

namespace Expr

/-- The affinity of an expression: that of the column that it is. -/
def affinity (s : Scope) : Expr → Option Affinity
  | name n _ => (s.place? n).bind fun p => s.names[p]?.map (·.affinity)
  | _ => none

/-- A name that names nothing: a text if it may be one, or a truth value. -/
def unresolved (n : String) (maybeText : Bool) : Except Refusal Value :=
  if maybeText then .ok (.text n)
  else if sameName n "true" then .ok (.int 1)
  else if sameName n "false" then .ok (.int 0)
  else .error (.noSuchColumn n)

/-- The value of an expression in a row; `all` is the rows that aggregates collect from. -/
def eval (s : Scope) (all : List Row) (row : Row) : Expr → Except Refusal Value
  | literal v => .ok v
  | parameter p => .ok (s.parameters.getD (s.offset + p) .null)
  | numbered n => .ok (if n = 0 then .null else s.parameters.getD (n - 1) .null)
  | name n maybeText =>
    match s.place? n with
    | some p => .ok (row.getD p .null)
    | none => unresolved n maybeText
  | negate e => do return negateValue (← e.eval s all row)
  | not e => do return ofTruth ((truth? (← e.eval s all row)).map (!·))
  | isNull e => do return ofTruth (some (← e.eval s all row).isNull)
  | compare c l r => do
    let (v, w) := alike (l.affinity s) (r.affinity s) (← l.eval s all row) (← r.eval s all row)
    if v.isNull || w.isNull then return .null
    return ofTruth (some (c.holds (compareValues v w)))
  | same l r => do
    let (v, w) := alike (l.affinity s) (r.affinity s) (← l.eval s all row) (← r.eval s all row)
    return ofTruth (some (compareValues v w == .eq))
  | calculate c l r => do return c.apply (← l.eval s all row) (← r.eval s all row)
  | and l r => do
    return ofTruth (andTruth (truth? (← l.eval s all row)) (truth? (← r.eval s all row)))
  | or l r => do
    return ofTruth (orTruth (truth? (← l.eval s all row)) (truth? (← r.eval s all row)))
  | countRows => .ok (.int (Int64.ofNat all.length))
  | aggregate a e => do return a.collect (← all.mapM fun r => e.eval s [] r)

/-- Whether an expression collects from all rows. -/
def collects : Expr → Bool
  | countRows | aggregate _ _ => true
  | negate e | not e | isNull e => e.collects
  | compare _ l r | same l r | calculate _ l r | and l r | or l r => l.collects || r.collects
  | _ => false

/-- Check that every name of an expression names something. -/
def check (s : Scope) : Expr → Except Refusal Unit
  | name n maybeText =>
    match s.place? n with
    | some _ => .ok ()
    | none => (unresolved n maybeText).map fun _ => ()
  | negate e | not e | isNull e | aggregate _ e => e.check s
  | compare _ l r | same l r | calculate _ l r | and l r | or l r => do
    l.check s
    r.check s
  | _ => .ok ()

/-- The words for the time of a statement. -/
def clockWords : List String := ["CURRENT_TIME", "CURRENT_DATE", "CURRENT_TIMESTAMP"]

/-- Whether an expression has the same value at all times and needs no calculation. -/
def isConstant : Expr → Bool
  | literal _ => true
  | name n _ => !clockWords.any (sameName n)
  | negate e => e.isConstant
  | _ => false

/-- The value of a default. A bare word stands for its own text there. -/
def defaultValue (e : Expr) : Value :=
  match e with
  | name n _ =>
    match unresolved n false with
    | .ok v => v
    | .error _ => .text n
  | e =>
    match e.eval (.ofParameters [] 0) [] [] with
    | .ok v => v
    | .error _ => .null

end Expr

/-- Whether a row meets a condition. -/
def meets (s : Scope) (condition : Option Expr) (row : Row) : Except Refusal Bool :=
  match condition with
  | none => .ok true
  | some e => do return truth? (← e.eval s [] row) == some true

end DataAccess.Sqlite
