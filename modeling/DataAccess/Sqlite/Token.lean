import DataAccess.Number.Hex

/-!
# Tokens of SQL text

A script is cut into tokens: names, texts, numbers, parameters and marks. Each token keeps its
spelling and the blanks and comments before it, since messages and column names show the text as it
was written.
-/

namespace DataAccess.Sqlite

/-- The kinds of token. -/
inductive Token.Kind where
  /-- A bare word: a name or a keyword. -/
  | word
  /-- A name in quotes or brackets; in double quotes it may also be meant as a text. -/
  | name
  | text
  | blob
  | number
  | parameter
  | mark
  /-- What belongs to no token. -/
  | illegal
deriving DecidableEq

/-- A token. -/
structure Token where
  kind : Token.Kind
  /-- The spelling. -/
  text : List Char
  /-- The blanks and comments before it. -/
  lead : List Char
deriving DecidableEq

namespace Token

/-! ### Where tokens end -/

/-- The blanks of SQL. -/
def isSpace (c : Char) : Bool := c == ' ' || c == '\t' || c == '\n' || c == '\r' || c == '\x0c'

/-- A character of a bare word. -/
def isWordChar (c : Char) : Bool := c.isAlphanum || c == '_' || c == '$' || 128 ≤ c.toNat

/-- A character that starts a bare word. -/
def startsWord (c : Char) : Bool := c.isAlpha || c == '_' || 128 ≤ c.toNat

/-- The length of a run of characters of a kind. -/
def run (p : Char → Bool) (cs : List Char) : Nat := (cs.takeWhile p).length

/-- The length up to and with the closing quote, in which a doubled quote does not close; nothing if
the quote is never closed. -/
def closedQuote (q : Char) : List Char → Option Nat
  | [] => none
  | [c] => if c = q then some 1 else none
  | c :: d :: rest =>
    if c = q then
      if d = q then (closedQuote q rest).map (· + 2) else some 1
    else (closedQuote q (d :: rest)).map (· + 1)

/-- The length of a block comment after its opening, up to its end or that of the text. -/
def blockComment : List Char → Nat
  | [] => 0
  | [_] => 1
  | c :: d :: rest => if c = '*' ∧ d = '/' then 2 else blockComment (d :: rest) + 1

/-- The length of an exponent, zero if there is none. -/
def exponent : List Char → Nat
  | e :: rest =>
    if e = 'e' ∨ e = 'E' then
      match rest with
      | s :: more =>
        if (s = '+' ∨ s = '-') ∧ 0 < run Char.isDigit more then 2 + run Char.isDigit more
        else if s.isDigit then 1 + run Char.isDigit rest
        else 0
      | [] => 0
    else 0
  | [] => 0

/-- The length of the rest of a number after its first digit. -/
def numberRest (cs : List Char) : Nat :=
  let whole := run Char.isDigit cs
  let fraction := match cs.drop whole with
    | '.' :: rest => 1 + run Char.isDigit rest
    | _ => 0
  whole + fraction + exponent (cs.drop (whole + fraction))

/-- A number of so many more characters, unless a word runs on from it. -/
def numberKind (cs : List Char) (n : Nat) : Option Kind × Nat :=
  let more := run isWordChar (cs.drop n)
  if more = 0 then (some .number, n) else (some .illegal, n + more)

/-- A blob after the letter and the quote that start it. -/
def blobKind (cs : List Char) : Kind × Nat :=
  let digits := run Number.isHexDigit cs
  let junk := run (· != '\'') cs
  if cs.drop digits |>.head? |> (· == some '\'') then
    if digits % 2 = 0 then (.blob, digits + 2) else (.illegal, digits + 2)
  else (.illegal, if junk < cs.length then junk + 2 else cs.length + 1)

/-- Marks of two characters. -/
def doubleMarks : List (Char × Char) :=
  [('=', '='), ('<', '='), ('<', '>'), ('<', '<'), ('>', '='), ('>', '>'), ('!', '='), ('|', '|'),
    ('-', '>')]

/-- Marks of one character. -/
def singleMarks : List Char := "(),;.*=<>+-/%&~|".toList

/-- A mark. -/
def markKind (c : Char) (cs : List Char) : Option Kind × Nat :=
  match cs.head? with
  | some d =>
    if doubleMarks.contains (c, d) then (some .mark, 1)
    else if singleMarks.contains c then (some .mark, 0)
    else (some .illegal, 0)
  | none => if singleMarks.contains c then (some .mark, 0) else (some .illegal, 0)

/-- A quoted token after its quote. -/
def quotedKind (q : Char) (kind : Kind) (cs : List Char) : Option Kind × Nat :=
  match closedQuote q cs with
  | some n => (some kind, n)
  | none => (some .illegal, cs.length)

/-- The kind of the token that a character starts, none for blanks and comments, and the number of
characters that follow the first one in it. -/
def classify (c : Char) (cs : List Char) : Option Kind × Nat :=
  if isSpace c then (none, run isSpace cs)
  else if c = '-' ∧ cs.head? = some '-' then (none, run (· != '\n') cs)
  else if c = '/' ∧ cs.head? = some '*' ∧ 1 < cs.length then (none, blockComment (cs.drop 1) + 1)
  else if c = '\'' then quotedKind c .text cs
  else if c = '"' ∨ c = '\x60' then quotedKind c .name cs
  else if c = '[' then
    if cs.contains ']' then (some .name, run (· != ']') cs + 1) else (some .illegal, cs.length)
  else if (c = 'x' ∨ c = 'X') ∧ cs.head? = some '\'' then
    let (kind, n) := blobKind (cs.drop 1)
    (some kind, n)
  else if c.isDigit then numberKind cs (numberRest cs)
  else if c = '.' ∧ (cs.head?.any Char.isDigit) then
    let digits := run Char.isDigit cs
    numberKind cs (digits + exponent (cs.drop digits))
  else if c = '?' then (some .parameter, run Char.isDigit cs)
  else if c = '$' ∨ c = ':' ∨ c = '@' ∨ c = '#' then
    let n := run isWordChar cs
    (some (if n = 0 then .illegal else .parameter), n)
  else if startsWord c then (some .word, run isWordChar cs)
  else markKind c cs

/-- The tokens of a text, of which some blanks are gone already. -/
def scanAfter (lead : List Char) : List Char → List Token
  | [] => []
  | c :: cs =>
    let (kind, n) := classify c cs
    let text := c :: cs.take n
    match kind with
    | none => scanAfter (lead ++ text) (cs.drop n)
    | some kind => { kind, text, lead } :: scanAfter [] (cs.drop n)
termination_by cs => cs.length
decreasing_by all_goals simp only [List.length_drop, List.length_cons]; omega

/-- The tokens of a text. -/
def scan (cs : List Char) : List Token := scanAfter [] cs

/-! ### What tokens mean -/

/-- A text without one quote of every doubled pair. -/
def undouble (q : Char) : List Char → List Char
  | c :: d :: rest => if c = q ∧ d = q then c :: undouble q rest else c :: undouble q (d :: rest)
  | cs => cs

/-- The text inside the quotes or brackets of a token, and the spelling of any other token. -/
def value (t : Token) : List Char :=
  match t.text with
  | '[' :: rest => rest.dropLast
  | c :: rest =>
    if c = '\'' ∨ c = '"' ∨ c = '\x60' then undouble c rest.dropLast else t.text
  | [] => []

/-- A word in capitals, as keywords are compared. -/
def keyword (t : Token) : List Char := t.text.map Char.toUpper

/-- Whether the token is a keyword. -/
def isKeyword (t : Token) (k : String) : Bool := t.kind == .word && t.keyword == k.toList

/-- Whether the token is a mark. -/
def isMark (t : Token) (m : String) : Bool := t.kind == .mark && t.text == m.toList

/-- The text of some tokens as it was written. -/
def spelled : List Token → List Char
  | [] => []
  | t :: rest => t.text ++ rest.flatMap fun u => u.lead ++ u.text

/-- The keywords that are never names. -/
def reserved : List String :=
  ["ADD", "ALL", "ALTER", "AND", "AS", "AUTOINCREMENT", "BETWEEN", "CASE", "CHECK", "COLLATE",
    "COMMIT", "CONSTRAINT", "CREATE", "DEFAULT", "DEFERRABLE", "DELETE", "DISTINCT", "DROP", "ELSE",
    "ESCAPE", "EXISTS", "EXCEPT", "FOREIGN", "FROM", "GROUP", "HAVING", "IN", "INDEX", "INSERT",
    "INTERSECT", "INTO", "IS", "ISNULL", "JOIN", "LIMIT", "NOT", "NOTHING", "NOTNULL", "NULL", "ON",
    "OR", "ORDER", "PRIMARY", "REFERENCES", "RETURNING", "SELECT", "SET", "TABLE", "THEN", "TO",
    "TRANSACTION", "UNION", "UNIQUE", "UPDATE", "USING", "VALUES", "WHEN", "WHERE"]

/-- Whether the token can be a name in an expression. -/
def isIdentifier (t : Token) : Bool :=
  t.kind == .name || (t.kind == .word && !(reserved.map String.toList).contains t.keyword)

/-- Whether the token can name a table or a column where only a name can stand. -/
def isName (t : Token) : Bool := t.isIdentifier || t.kind == .text

end Token

end DataAccess.Sqlite
