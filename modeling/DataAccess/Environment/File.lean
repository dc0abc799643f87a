import DataAccess.Environment.Basic
import DataAccess.Text.Alphabetic
import DataAccess.Text.Blank
import DataAccess.Text.Numeric

/-!
# Environment files

An environment file assigns variables, one assignment a line: an optional `export`, a key, `=` and a
value. Values may be quoted strongly (`'`) or weakly (`"`), may escape characters with a backslash,
and may insert another variable as `$name` or `${name}`. A quoted value may go on over several
lines.

Loading a file stops at the first line that does not read; what was assigned before stays, and a
variable that is set already is never changed.
-/

namespace DataAccess.Environment.File

open Text

/-! ### Logical lines -/

/-- Where a line of the file stands. -/
inductive Quoting where
  | plain
  | blank
  | escape
  | strong
  | strongEscape
  | weak
  | weakEscape
deriving DecidableEq

/-- What a character opens outside of quotes. -/
def Quoting.opening (c : Char) : Quoting :=
  if c == '\\' then .escape else if c == '"' then .weak else if c == '\x27' then .strong else .plain

/-- The next state; none where a comment begins. -/
def Quoting.step (q : Quoting) (c : Char) : Option Quoting :=
  match q with
  | .blank => if c == '#' then none else some (opening c)
  | .escape => some .plain
  | .plain => if isBlank c && c != '\n' && c != '\r' then some .blank else some (opening c)
  | .weak => some (if c == '\\' then .weakEscape else if c == '"' then .plain else .weak)
  | .weakEscape => some .weak
  | .strong => some (if c == '\\' then .strongEscape else if c == '\x27' then .plain else .strong)
  | .strongEscape => some .strong

/-- Run over a line: the state at its end, or none if a comment begins, and the text before the
comment. -/
def scan : Quoting → List Char → Option Quoting × List Char
  | q, [] => (some q, [])
  | q, c :: rest =>
    match q.step c with
    | none => (none, [])
    | some q =>
      let r := scan q rest
      (r.1, c :: r.2)

/-- The lines of a text, each with its line feed. -/
def physicalLines : List Char → List (List Char)
  | [] => []
  | c :: rest =>
    if c == '\n' then ['\n'] :: physicalLines rest
    else match physicalLines rest with
      | [] => [[c]]
      | line :: lines => (c :: line) :: lines

/-- A line without its line end. -/
def chomp (line : List Char) : List Char :=
  match line.reverse with
  | '\n' :: '\r' :: rest => rest.reverse
  | '\n' :: rest => rest.reverse
  | _ => line

/-- Join lines until quotes are closed. The last entry is none if the file ends inside of one. -/
def logicalLines (buffer : List Char) (q : Quoting) : List (List Char) → List (Option (List Char))
  | [] => if q = .plain then [] else [none]
  | line :: lines =>
    let joined := buffer ++ line
    if (joined.dropWhile isBlank).head? = some '#' then some [] :: logicalLines [] .plain lines
    else
      match scan q line with
      | (none, text) => some (buffer ++ text) :: logicalLines [] .plain lines
      | (some .plain, _) => some (chomp joined) :: logicalLines [] .plain lines
      | (some q, _) => logicalLines joined q lines

/-! ### Values -/

/-- The kind of quotes that are open. -/
inductive Quote where
  | none
  | weak
  | strong
deriving DecidableEq

/-- What the next character of a value means. -/
inductive Mode where
  | text
  | escaped
  /-- After the end of the value: only blanks and a comment may follow. -/
  | ended
  | comment
  /-- In the name of a variable to insert. -/
  | name (rev : List Char)
  /-- In a name between braces. -/
  | braced (rev : List Char)
deriving DecidableEq

/-- A value that is being read, its text reversed. -/
structure Reading where
  quote : Quote
  mode : Mode
  rev : List Char

/-- What a name stands for: its variable, or else an earlier assignment of the file. -/
abbrev Names := String → String

/-- Insert the value of a name. -/
def Reading.insert (r : Reading) (names : Names) (nameRev : List Char) : Reading :=
  { r with rev := (names (String.ofList nameRev.reverse)).toList.reverse ++ r.rev }

/-- Append a character to the value. -/
def Reading.push (r : Reading) (c : Char) : Reading := { r with mode := .text, rev := c :: r.rev }

/-- Read one character of a value; none if it may not stand there. -/
def Reading.step (names : Names) (r : Reading) (c : Char) : Option Reading :=
  match r.mode with
  | .comment => some r
  | .ended =>
    if c == ' ' || c == '\t' then some r
    else if c == '#' then some { r with mode := .comment }
    else none
  | .escaped =>
    if c == '\\' || c == '\x27' || c == '"' || c == '$' || c == ' ' then some (r.push c)
    else if c == 'n' then some (r.push '\n')
    else none
  | .name nameRev =>
    if isAlphabetic c || isNumeric c then some { r with mode := .name (c :: nameRev) }
    else if c == '\x7b' && nameRev.isEmpty then some { r with mode := .braced [] }
    else
      let r := r.insert names nameRev
      if c == '$' then some { r with mode := .name [] } else some (r.push c)
  | .braced nameRev =>
    if isAlphabetic c || isNumeric c then some { r with mode := .braced (c :: nameRev) }
    else if c == '\x7d' then some { r.insert names nameRev with mode := .text }
    else some { r with mode := .braced (c :: nameRev) }
  | .text =>
    match r.quote with
    | .strong => if c == '\x27' then some { r with quote := .none } else some (r.push c)
    | .weak =>
      if c == '$' then some { r with mode := .name [] }
      else if c == '"' then some { r with quote := .none }
      else if c == '\\' then some { r with mode := .escaped }
      else some (r.push c)
    | .none =>
      if c == '$' then some { r with mode := .name [] }
      else if c == '\x27' then some { r with quote := .strong }
      else if c == '"' then some { r with quote := .weak }
      else if c == '\\' then some { r with mode := .escaped }
      else if c == ' ' || c == '\t' then some { r with mode := .ended }
      else some (r.push c)

/-- Close a value at the end of its line; none if quotes or braces are open. -/
def Reading.finish (names : Names) (r : Reading) : Option String :=
  if r.quote ≠ .none then none
  else
    match r.mode with
    | .braced _ => none
    | .name nameRev => some (String.ofList (r.insert names nameRev).rev.reverse)
    | _ => some (String.ofList r.rev.reverse)

/-- The value that a text writes. -/
def readValue? (names : Names) (cs : List Char) : Option String :=
  (cs.foldlM (Reading.step names) ⟨.none, .text, []⟩).bind (Reading.finish names)

/-! ### Lines -/

/-- The key at the start of a text: ASCII letters, digits, underscores and dots, not starting with a
digit or a dot. -/
def key? (cs : List Char) : Option (String × List Char) :=
  match cs with
  | c :: _ =>
    if c.isAlpha || c == '_' then
      let isKey := fun c : Char => c.isAlphanum || c == '_' || c == '.'
      some (String.ofList (cs.takeWhile isKey), cs.dropWhile isKey)
    else none
  | [] => none

/-- Drop leading blanks. -/
def skip (cs : List Char) : List Char := cs.dropWhile isBlank

/-- The key of an assignment and the text after its equals sign. The word `export` in front is
dropped, unless it is the key itself. -/
def assigned? (cs : List Char) : Option (String × List Char) :=
  match key? cs with
  | none => none
  | some (key, rest) =>
    match skip rest with
    | '=' :: value => some (key, value)
    | rest =>
      if key = "export" then
        match key? rest with
        | some (key, rest) =>
          match skip rest with
          | '=' :: value => some (key, value)
          | _ => none
        | none => none
      else none

/-- What a line assigns: nothing for a blank line or a comment; none if it does not read. -/
def line? (names : Names) (line : List Char) : Option (Option (String × String)) :=
  match skip (trimEnd line) with
  | [] => some none
  | '#' :: _ => some none
  | cs =>
    match assigned? cs with
    | none => none
    | some (key, rest) =>
      match skip rest with
      | [] => some (some (key, ""))
      | '#' :: _ => some (some (key, ""))
      | value => (readValue? names value).map fun v => some (key, v)

/-- Assign the variables of the lines in turn. `earlier` holds what the file has assigned before,
also where a variable of the environment won. -/
def loadLines (env : Environment) (earlier : Environment) :
    List (Option (List Char)) → Environment
  | [] => env
  | none :: _ => env
  | some text :: lines =>
    let names : Names := fun n => ((env n).orElse fun _ => earlier n).getD ""
    match line? names text with
    | none => env
    | some none => loadLines env earlier lines
    | some (some (key, value)) =>
      let env := if (env key).isSome then env else env.put key (some value)
      loadLines env (earlier.put key (some value)) lines

/-- Load a file into an environment. A byte order mark at its start does not count. -/
def load (env : Environment) (content : String) : Environment :=
  let cs := match content.toList with
    | '\ufeff' :: rest => rest
    | cs => cs
  loadLines env blank (logicalLines [] .plain (physicalLines cs))

end DataAccess.Environment.File
