import DataAccess.Sql.Value
import DataAccess.Text.Blank

/-!
# Statements

A statement about to run, with what is reported on it: its kind and the table it is about. The kind
of a raw statement is read off its first word, after blanks and comments.
-/

namespace DataAccess.Sql

open Text

/-- The kinds of operation. -/
inductive Operation where
  | create
  | query
  | update
  | delete
deriving DecidableEq

/-- The name of an operation. -/
def Operation.name : Operation → String
  | create => "create"
  | query => "query"
  | update => "update"
  | delete => "delete"

/-- The operation with a name, a query for any other name. -/
def Operation.ofName : String → Operation
  | "create" => create
  | "update" => update
  | "delete" => delete
  | _ => query

/-! ### The first word -/

/-- What follows the first line feed, nothing if there is none. -/
def afterLine : List Char → List Char
  | [] => []
  | c :: rest => if c = '\n' then rest else afterLine rest

/-- What follows the first end of a block comment, nothing if there is none. -/
def afterBlock : List Char → List Char
  | [] => []
  | [_] => []
  | c :: d :: rest => if c = '*' ∧ d = '/' then rest else afterBlock (d :: rest)

/-- A line comment takes away at least its own line. -/
theorem length_afterLine_le (cs : List Char) : (afterLine cs).length ≤ cs.length := by
  induction cs with
  | nil => simp [afterLine]
  | cons c rest ih =>
    unfold afterLine
    split
    · simp
    · simp only [List.length_cons]
      omega

/-- A block comment never makes a text longer. -/
theorem length_afterBlock_le (cs : List Char) : (afterBlock cs).length ≤ cs.length := by
  fun_induction afterBlock cs with
  | case1 => simp
  | case2 => simp
  | case3 => simp only [List.length_cons]; omega
  | case4 c d rest _ ih => simp only [List.length_cons] at ih ⊢; omega

/-- Drop blanks, line comments and block comments from the front of a statement. -/
def skipComments (cs : List Char) : List Char :=
  match _h : cs.dropWhile isBlank with
  | '-' :: '-' :: rest => skipComments (afterLine rest)
  | '/' :: '*' :: rest => skipComments (afterBlock rest)
  | rest => rest
termination_by cs.length
decreasing_by
  · have h1 := (List.dropWhile_suffix isBlank (l := cs)).length_le
    have h2 := length_afterLine_le rest
    rw [_h] at h1
    simp only [List.length_cons] at h1
    omega
  · have h1 := (List.dropWhile_suffix isBlank (l := cs)).length_le
    have h2 := length_afterBlock_le rest
    rw [_h] at h1
    simp only [List.length_cons] at h1
    omega

/-- The first word of a statement in capitals: its leading run of ASCII letters. -/
def leadingWord (cs : List Char) : List Char :=
  ((skipComments cs).takeWhile Char.isAlpha).map Char.toUpper

/-- The kind of a statement by its first word; a word that writes nothing is a query. -/
def Operation.infer (sql : String) : Operation :=
  let word := leadingWord sql.toList
  if word = "INSERT".toList ∨ word = "REPLACE".toList then .create
  else if word = "UPDATE".toList then .update
  else if word = "DELETE".toList then .delete
  else .query

/-! ### Statements -/

/-- A statement with its arguments. The table is empty for raw statements. -/
structure Statement where
  kind : Operation
  table : String
  sql : String
  args : List Value
deriving DecidableEq

namespace Statement

/-- A raw statement that is reported as a query. -/
def raw (sql : String) (args : List Value) : Statement := ⟨.query, "", sql, args⟩

/-- A raw statement whose kind is inferred. -/
def exec (sql : String) (args : List Value) : Statement := ⟨Operation.infer sql, "", sql, args⟩

end Statement

end DataAccess.Sql
