import DataAccess.Number.Hex
import DataAccess.Sqlite.Cell
import DataAccess.Sqlite.Syntax

/-!
# Reading statements

Statements are read from left to right, so the first token that fits nothing is the one that a
message names. `command` reads one statement and leaves what follows its semicolon.
-/

namespace DataAccess.Sqlite

open Number Sql

/-- What is left to read, and the number of parameters so far. -/
structure Reading where
  tokens : List Token
  parameters : Nat

/-- Something that reads tokens. -/
abbrev Reader (α : Type) := StateT Reading (Except Refusal) α

namespace Reader

/-! ### Tokens -/

/-- The refusal of what comes next. -/
def refusal (ts : List Token) : Refusal :=
  match ts with
  | [] => .incomplete
  | t :: _ =>
    if t.kind == .illegal then .unrecognized (String.ofList t.text)
    else .misplaced (String.ofList t.text)

/-- Refuse what comes next. -/
def refuse {α : Type} : Reader α := fun r => .error (refusal r.tokens)

/-- The next token. -/
def peek : Reader (Option Token) := do return (← get).tokens.head?

/-- Pass over a token. -/
def advance : Reader Unit := modify fun r => { r with tokens := r.tokens.drop 1 }

/-- Pass over a keyword if it is next. -/
def keyword? (k : String) : Reader Bool := do
  match ← peek with
  | some t => if t.isKeyword k then do advance; return true else return false
  | none => return false

/-- Pass over a keyword. -/
def keyword (k : String) : Reader Unit := do if !(← keyword? k) then refuse

/-- Pass over several keywords. -/
def keywords : List String → Reader Unit
  | [] => return ()
  | k :: rest => do
    keyword k
    keywords rest

/-- Pass over a mark if it is next. -/
def mark? (m : String) : Reader Bool := do
  match ← peek with
  | some t => if t.isMark m then do advance; return true else return false
  | none => return false

/-- Pass over a mark. -/
def mark (m : String) : Reader Unit := do if !(← mark? m) then refuse

/-- Read a name with its spelling. -/
def named : Reader Named := do
  match ← peek with
  | some t =>
    if t.isName then do
      advance
      return ⟨String.ofList t.value, String.ofList t.text⟩
    else refuse
  | none => refuse

/-- Read a name. -/
def name : Reader String := do return (← named).name

/-- Read one or more things with commas between them, `n` at most. -/
def separated {α : Type} (item : Reader α) : Nat → Reader (List α)
  | 0 => return []
  | n + 1 => do
    let a ← item
    if ← mark? "," then return a :: (← separated item n) else return [a]

/-- Read things with commas between them. -/
def list {α : Type} (item : Reader α) : Reader (List α) := do
  separated item ((← get).tokens.length + 1)

/-- Read things in parentheses. -/
def parenthesised {α : Type} (item : Reader α) : Reader (List α) := do
  mark "("
  let all ← list item
  mark ")"
  return all

/-! ### Expressions -/

/-- The value of a spelled number. -/
def numberValue (cs : List Char) : Value := (readUnsigned? false cs).getD .null

/-- A parameter: a number of its own, or the next place. -/
def parameter (t : Token) : Reader Expr := do
  match readNat? (t.text.drop 1) with
  | some n => return .numbered n
  | none =>
    let r ← get
    set { r with parameters := r.parameters + 1 }
    return .parameter r.parameters

/-- The aggregate with a name. -/
def aggregate? (name : List Char) : Option Aggregate :=
  match String.ofList (name.map Char.toLower) with
  | "count" => some .count
  | "max" => some .max
  | "min" => some .min
  | _ => none

/-- The comparison that a mark writes. -/
def comparison? (t : Token) : Option Comparison :=
  if t.kind != .mark then none
  else
    match String.ofList t.text with
    | "=" | "==" => some .equal
    | "<>" | "!=" => some .notEqual
    | "<" => some .less
    | "<=" => some .lessEqual
    | ">" => some .greater
    | ">=" => some .greaterEqual
    | _ => none

/-- The calculation that a mark writes. -/
def calculation? (t : Token) : Option Calculation :=
  if t.isMark "+" then some .plus
  else if t.isMark "-" then some .minus
  else if t.isMark "*" then some .times
  else none

/-- How tightly operators bind, from the loosest. -/
inductive Level where
  | or
  | and
  | not
  | equality
  | order
  | sum
  | product
  | unary
deriving DecidableEq

/-- The next tighter level. -/
def Level.next : Level → Level
  | or => and
  | and => not
  | not => equality
  | equality => order
  | order => sum
  | sum => product
  | product => unary
  | unary => unary

/-- The operator of a level that comes next, if any: what it makes of its two sides. -/
def operator? (level : Level) : Reader (Option (Expr → Expr → Expr)) := do
  match ← peek with
  | none => return none
  | some t =>
    match level with
    | .or => if ← keyword? "OR" then return some .or else return none
    | .and => if ← keyword? "AND" then return some .and else return none
    | .equality =>
      if ← keyword? "IS" then
        if ← keyword? "NOT" then return some fun l r => .not (.same l r) else return some .same
      else
        match comparison? t with
        | some c =>
          if c = .equal ∨ c = .notEqual then do advance; return some (.compare c) else return none
        | none => return none
    | .order =>
      match comparison? t with
      | some c =>
        if c = .equal ∨ c = .notEqual then return none else do advance; return some (.compare c)
      | none => return none
    | .sum =>
      match calculation? t with
      | some c => if c = .times then return none else do advance; return some (.calculate c)
      | none => return none
    | .product =>
      if t.isMark "*" then do advance; return some (.calculate .times) else return none
    | .not | .unary => return none

mutual

/-- Read an expression of a level; `n` bounds the depth. -/
def expression : Nat → Level → Reader Expr
  | 0, _ => refuse
  | n + 1, .unary => do
    if ← mark? "-" then return .negate (← expression n .unary)
    else if ← mark? "+" then expression n .unary
    else primary n
  | n + 1, .not => do
    if ← keyword? "NOT" then return .not (← expression n .not) else expression n .equality
  | n + 1, level => do
    let first ← expression n level.next
    operations n level first

/-- Read the operators of a level that follow an expression. -/
def operations : Nat → Level → Expr → Reader Expr
  | 0, _, _ => refuse
  | n + 1, level, left => do
    if level = .equality then
      if ← keyword? "ISNULL" then return (← operations n level (.isNull left))
      if ← keyword? "NOTNULL" then return (← operations n level (.not (.isNull left)))
    match ← operator? level with
    | none => return left
    | some make => operations n level (make left (← expression n level.next))

/-- Read an expression without operators. -/
def primary : Nat → Reader Expr
  | 0 => refuse
  | n + 1 => do
    match ← peek with
    | none => refuse
    | some t =>
      if t.kind == .number then do advance; return .literal (numberValue t.text)
      else if t.kind == .text then do advance; return .literal (.text (String.ofList t.value))
      else if t.kind == .blob then do
        advance
        return .literal (.bytes (hexBytes ((t.text.drop 2).dropLast)))
      else if t.kind == .parameter then do advance; parameter t
      else if t.isKeyword "NULL" then do advance; return .literal .null
      else if t.isMark "(" then do
        advance
        let e ← expression n .or
        mark ")"
        return e
      else if t.isIdentifier then do
        advance
        if ← mark? "(" then call n t
        else return .name (String.ofList t.value) (t.text.head? == some '"')
      else refuse

/-- Read the arguments of a function. -/
def call : Nat → Token → Reader Expr
  | 0, _ => refuse
  | n + 1, t => do
    match aggregate? t.value with
    | none => throw (.noSuchFunction (String.ofList t.value))
    | some a =>
      if a = .count then
        if ← mark? "*" then
          mark ")"
          return .countRows
      let e ← expression n .or
      mark ")"
      return .aggregate a e

end

/-- Read an expression. -/
def expr : Reader Expr := do expression (10 * ((← get).tokens.length + 1)) .or

/-- Read an expression with no operator around it. -/
def term : Reader Expr := do expression (10 * ((← get).tokens.length + 1)) .unary

/-- Read an expression after a keyword, if the keyword is there. -/
def exprAfter? (k : String) : Reader (Option Expr) := do
  if ← keyword? k then return some (← expr) else return none

/-! ### Columns -/

/-- Read the words of a type. -/
def typeWords : Nat → Reader (List Token)
  | 0 => return []
  | n + 1 => do
    match ← peek with
    | some t => if t.isName then do advance; return t :: (← typeWords n) else return []
    | none => return []

/-- Read the size of a type in parentheses. -/
def typeSize : Reader (List Token) := do
  let before := (← get).tokens
  if ← mark? "(" then
    let _ ← list term
    mark ")"
    return before.take (before.length - (← get).tokens.length)
  else return []

/-- Read a type, which may be missing. -/
def typeName : Reader (List Char) := do
  let words ← typeWords (← get).tokens.length
  if words.isEmpty then return []
  return Token.spelled (words ++ (← typeSize))

/-- Read when a reference is checked. -/
def deferral : Reader Bool := do
  if ← keyword? "DEFERRABLE" then
    if ← keyword? "INITIALLY" then
      if ← keyword? "DEFERRED" then return true
      keyword "IMMEDIATE"
      return false
    return false
  else return false

/-- Read a reference after its keyword. -/
def reference : Reader Reference := do
  let table ← name
  let column ← if ← mark? "(" then do
      let c ← name
      mark ")"
      pure (some c)
    else pure none
  return { table, column, deferred := ← deferral }

/-- Read the properties of a column, `n` at most. -/
def properties : Nat → ColumnDef → Reader ColumnDef
  | 0, c => return c
  | n + 1, c => do
    if ← keyword? "NOT" then
      keyword "NULL"
      properties n { c with notNull := true }
    else if ← keyword? "NULL" then properties n c
    else if ← keyword? "PRIMARY" then
      keyword "KEY"
      let _ ← keyword? "ASC"
      let autoincrement ← keyword? "AUTOINCREMENT"
      properties n { c with primaryKey := true, autoincrement }
    else if ← keyword? "UNIQUE" then properties n { c with unique := true }
    else if ← keyword? "DEFAULT" then
      properties n { c with default := some (← term) }
    else if ← keyword? "REFERENCES" then
      properties n { c with reference := some (← reference) }
    else return c

/-- Read a column. -/
def column : Reader ColumnDef := do
  let name ← name
  let type ← typeName
  properties ((← get).tokens.length)
    { name, type, notNull := false, primaryKey := false, autoincrement := false, unique := false,
      default := none, reference := none }

/-- Read the clauses of a table, `n` at most, each after a comma. -/
def clauses : Nat → Reader (List TableClause)
  | 0 => return []
  | n + 1 => do
    let clause ←
      if ← keyword? "PRIMARY" then do
        keyword "KEY"
        pure (TableClause.primaryKey (← parenthesised name))
      else do
        keyword "UNIQUE"
        pure (TableClause.unique (← parenthesised name))
    if ← mark? "," then return clause :: (← clauses n) else return [clause]

/-- Whether a clause of a table comes next. -/
def clauseNext : Reader Bool := do
  match ← peek with
  | some t => return t.isKeyword "PRIMARY" || t.isKeyword "UNIQUE"
  | none => return false

/-- Read columns and then clauses, `n` at most. -/
def columns : Nat → Reader (List ColumnDef × List TableClause)
  | 0 => return ([], [])
  | n + 1 => do
    let c ← column
    if ← mark? "," then
      if ← clauseNext then return ([c], ← clauses n)
      else
        let (cs, ls) ← columns n
        return (c :: cs, ls)
    else return ([c], [])

/-! ### Statements -/

/-- Read what creates a table. -/
def createTable : Reader Command := do
  keyword "TABLE"
  let ifMissing ← keyword? "IF"
  if ifMissing then keywords ["NOT", "EXISTS"]
  let table ← named
  mark "("
  let (cs, ls) ← columns (← get).tokens.length
  mark ")"
  return .createTable table ifMissing cs ls

/-- Read what changes a table. -/
def alterTable : Reader Command := do
  keyword "TABLE"
  let table ← name
  if ← keyword? "ADD" then
    let _ ← keyword? "COLUMN"
    return .addColumn table (← column)
  else
    keyword "DROP"
    let _ ← keyword? "COLUMN"
    return .dropColumn table (← named)

/-- Read what drops a table. -/
def dropTable : Reader Command := do
  keyword "TABLE"
  let ifPresent ← keyword? "IF"
  if ifPresent then keyword "EXISTS"
  return .dropTable (← name) ifPresent

/-- Read what inserts rows. -/
def insert : Reader Command := do
  keyword "INTO"
  let table ← name
  let columns ← match ← peek with
    | some t => if t.isMark "(" then pure (some (← parenthesised name)) else pure none
    | none => pure none
  if ← keyword? "DEFAULT" then
    keyword "VALUES"
    return .insert table columns none
  else
    keyword "VALUES"
    return .insert table columns (some (← list (parenthesised expr)))

/-- Read what changes rows. -/
def update : Reader Command := do
  let table ← name
  keyword "SET"
  let changes ← list do
    let c ← name
    mark "="
    return (c, ← expr)
  return .update table changes (← exprAfter? "WHERE")

/-- Read what deletes rows. -/
def delete : Reader Command := do
  keyword "FROM"
  let table ← name
  return .delete table (← exprAfter? "WHERE")

/-- Read an item of a selection. -/
def item : Reader Item := do
  if ← mark? "*" then return .all
  let before := (← get).tokens
  let e ← expr
  let spelling := Token.spelled (before.take (before.length - (← get).tokens.length))
  if ← keyword? "AS" then return .one e (← name) true
  match ← peek with
  | some t =>
    if t.isName then return .one e (← name) true
    else return .one e (String.ofList spelling) false
  | none => return .one e (String.ofList spelling) false

/-- Read where rows come from. -/
def source : Reader Source := do
  if ← keyword? "FROM" then
    let table ← name
    match ← peek with
    | some t =>
      if t.isMark "(" then return .function table (← parenthesised expr)
      else return .table table
    | none => return .table table
  else return .nowhere

/-- Read one term of an order, and whether it descends. -/
def orderTerm : Reader (Expr × Bool) := do
  let e ← expr
  if ← keyword? "DESC" then return (e, true)
  let _ ← keyword? "ASC"
  return (e, false)

/-- Read a limit and an offset. -/
def limits : Reader (Option Expr × Option Expr) := do
  if ← keyword? "LIMIT" then
    let first ← expr
    if ← keyword? "OFFSET" then return (some first, some (← expr))
    else if ← mark? "," then return (some (← expr), some first)
    else return (some first, none)
  else return (none, none)

/-- Read a selection. -/
def select : Reader Command := do
  let items ← list item
  let source ← source
  let condition ← exprAfter? "WHERE"
  let order ← if ← keyword? "ORDER" then do
      keyword "BY"
      list orderTerm
    else pure []
  let (limit, offset) ← limits
  return .select { items, source, condition, order, limit, offset }

/-- Pass over the word for a transaction and its name. -/
def transactionWord : Reader Unit := do
  if ← keyword? "TRANSACTION" then
    match ← peek with
    | some t => if t.isName then advance
    | none => return ()

/-- Read the start of a transaction. -/
def begin : Reader Command := do
  if !(← keyword? "DEFERRED") then
    if !(← keyword? "IMMEDIATE") then
      let _ ← keyword? "EXCLUSIVE"
  transactionWord
  return .begin

/-- Read the undoing of a transaction or of a part of it. -/
def rollback : Reader Command := do
  transactionWord
  if ← keyword? "TO" then
    let _ ← keyword? "SAVEPOINT"
    return .rollbackTo (← name)
  else return .rollback

/-- Read a setting of the connection. -/
def pragma : Reader Command := do
  let setting ← name
  if ← mark? "=" then
    match ← peek with
    | some t => do advance; return .pragma setting (some (String.ofList t.value))
    | none => refuse
  else return .pragma setting none

/-- Read a statement without its semicolon. -/
def statement : Reader Command := do
  if ← keyword? "SELECT" then select
  else if ← keyword? "INSERT" then insert
  else if ← keyword? "UPDATE" then update
  else if ← keyword? "DELETE" then delete
  else if ← keyword? "CREATE" then createTable
  else if ← keyword? "ALTER" then alterTable
  else if ← keyword? "DROP" then dropTable
  else if ← keyword? "BEGIN" then begin
  else if ← keyword? "COMMIT" then do
    transactionWord
    return .commit
  else if ← keyword? "END" then do
    transactionWord
    return .commit
  else if ← keyword? "ROLLBACK" then rollback
  else if ← keyword? "SAVEPOINT" then return .savepoint (← name)
  else if ← keyword? "RELEASE" then do
    let _ ← keyword? "SAVEPOINT"
    return .release (← name)
  else if ← keyword? "PRAGMA" then pragma
  else refuse

/-- Read the end of a statement. -/
def ending : Reader Unit := do
  match ← peek with
  | none => return ()
  | some _ => mark ";"

/-- Read a statement with its semicolon. -/
def command : Reader Command := do
  let c ← statement
  ending
  return c

end Reader

/-- Tokens from the first one on that is not a semicolon. -/
def afterSemicolons (ts : List Token) : List Token := ts.dropWhile (·.isMark ";")

/-- A statement with the number of its parameters. -/
structure Parsed where
  command : Command
  parameters : Nat

/-- Read the first statement of some tokens, and what follows it; nothing if there is none. -/
def Parsed.next? (ts : List Token) : Except Refusal (Option (Parsed × List Token)) :=
  match afterSemicolons ts with
  | [] => .ok none
  | ts =>
    match Reader.command.run { tokens := ts, parameters := 0 } with
    | .ok (command, r) => .ok (some ({ command, parameters := r.parameters }, r.tokens))
    | .error e => .error e

end DataAccess.Sqlite
