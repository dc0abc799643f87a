import DataAccess.Number.Layout

/-!
# JSON trees

The trees that raw configuration comes in and that records and settings are serialised to. Numbers
keep the kind they were written with: an integer within one word, or a double. The members of an
object are kept in increasing order of their keys, each key once.
-/

namespace DataAccess

open Number

/-- A JSON tree. -/
inductive Json where
  | null
  | bool (value : Bool)
  | integer (value : Int)
  | float (value : Binary64)
  | text (value : String)
  | list (items : List Json)
  | object (members : List (String × Json))
deriving BEq, Inhabited

namespace Json

/-- The members of an object. -/
abbrev Members := List (String × Json)

/-- Insert a member at the place of its key, replacing the one that was there. -/
def Members.insert (key : String) (value : Json) : Members → Members
  | [] => [(key, value)]
  | (k, v) :: rest =>
    if key < k then (key, value) :: (k, v) :: rest
    else if key = k then (key, value) :: rest
    else (k, v) :: Members.insert key value rest

/-- The members of a list in which a later value of a key replaces an earlier one. -/
def Members.ofList (ms : List (String × Json)) : Members :=
  ms.foldl (fun acc m => Members.insert m.1 m.2 acc) []

/-- The value of a key. -/
def Members.find? (ms : Members) (key : String) : Option Json := ms.lookup key

/-- The value of a key, unless it is null. -/
def Members.present? (ms : Members) (key : String) : Option Json :=
  match ms.find? key with
  | some .null => none
  | v => v

/-- The object with the members of a list. -/
def ofMembers (ms : List (String × Json)) : Json := .object (Members.ofList ms)

/-- The members of an object, none for another tree. -/
def members : Json → Members
  | .object ms => ms
  | _ => []

/-- The text of a number in a tree. -/
def numberText : Json → String
  | .integer i => String.ofList (intText i)
  | .float x => Layout.json.text x
  | _ => ""

/-- A number of a tree in double precision. -/
def number? : Json → Option Binary64
  | .integer i => some (.ofInt i)
  | .float x => some x
  | _ => none

/-- A double as a tree: a number without a place in the format is null. -/
def ofBinary64 (x : Binary64) : Json := if x.isFinite then .float x else .null

end Json

end DataAccess
