import DataAccess.Config.Settings

/-!
# Dialects

How each driver spells identifiers, parameters and row limits. A quoted identifier stands between
two quote characters with every quote inside it doubled, so it ends only where it should.
-/

namespace DataAccess.Sql

/-- The character around identifiers. -/
def quoteChar : Driver → Char
  | .mysql => '\x60'
  | _ => '"'

/-- A name with every quote character written twice. -/
def doubleQuotes (q : Char) : List Char → List Char
  | [] => []
  | c :: rest => if c = q then q :: q :: doubleQuotes q rest else c :: doubleQuotes q rest

/-- The characters of a quoted identifier. -/
def quoteChars (d : Driver) (name : List Char) : List Char :=
  quoteChar d :: (doubleQuotes (quoteChar d) name ++ [quoteChar d])

/-- A quoted identifier. -/
def quote (d : Driver) (name : String) : String := String.ofList (quoteChars d name.toList)

/-- The parameter with a number, counted from one. -/
def placeholder (d : Driver) (index : Nat) : String :=
  match d with
  | .postgresql => "$" ++ toString index
  | _ => "?"

/-- The limit that stands for "all rows" where an offset cannot be written alone. -/
def unlimited (d : Driver) : String :=
  match d with
  | .postgresql => ""
  | .mysql => " LIMIT 18446744073709551615"
  | _ => " LIMIT -1"

/-- The clause for a limit and an offset. -/
def limitOffset (d : Driver) (limit offset : Option Nat) : String :=
  match limit, offset with
  | none, none => ""
  | some l, none => " LIMIT " ++ toString l
  | some l, some o => " LIMIT " ++ toString l ++ " OFFSET " ++ toString o
  | none, some o => unlimited d ++ " OFFSET " ++ toString o

end DataAccess.Sql
