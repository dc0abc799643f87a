import DataAccess.Json.Basic
import DataAccess.Text.Utf8

/-!
# SQL values

The values that are bound to statements and read back from rows, and how they read as values of a
wanted type.
-/

namespace DataAccess.Sql

open Number Text

/-- A single SQL value. -/
inductive Value where
  | null
  | bool (value : Bool)
  | int (value : Int64)
  | float (value : Binary64)
  | text (value : String)
  | bytes (value : List UInt8)
deriving DecidableEq, Inhabited

namespace Value

/-- Whether the value is missing. -/
def isNull : Value → Bool
  | null => true
  | _ => false

/-- The kind of a value, as errors name it. -/
def kind : Value → String
  | null => "null"
  | bool _ => "bool"
  | int _ => "integer"
  | float _ => "float"
  | text _ => "text"
  | bytes _ => "bytes"

/-- The text of a value in messages. Bytes show only their number. -/
def display : Value → String
  | null => "NULL"
  | bool b => if b then "true" else "false"
  | int i => String.ofList (intText i.toInt)
  | float x => Layout.plain.text x
  | text s => "'" ++ s ++ "'"
  | bytes b => "<" ++ toString b.length ++ " bytes>"

/-- A value as a tree. A double without a place in the format is null, and bytes are a list. -/
def toJson : Value → Json
  | null => .null
  | bool b => .bool b
  | int i => .integer i.toInt
  | float x => .ofBinary64 x
  | text s => .text s
  | bytes b => .list (b.map fun x => .integer x.toNat)

/-! ### Reading a value as a type -/

/-- A value of another type than wanted. -/
structure TypeError where
  expected : String
  found : String
deriving DecidableEq

/-- The wording of a type error. -/
def TypeError.message (e : TypeError) : String := "expected " ++ e.expected ++ ", found " ++ e.found

/-- The error for a value of another kind. -/
def mismatch (expected : String) (v : Value) : TypeError := ⟨expected, v.kind⟩

/-- An integer; a truth value counts as 0 or 1. -/
def asInt : Value → Except TypeError Int64
  | int i => .ok i
  | bool b => .ok (if b then 1 else 0)
  | v => .error (mismatch "integer" v)

/-- An integer type: its name in errors and its bounds. -/
structure IntRange where
  name : String
  low : Int
  high : Int

/-- Signed 32 bits. -/
def IntRange.signed32 : IntRange := ⟨"i32", Int32.minValue.toInt, Int32.maxValue.toInt⟩

/-- Unsigned 32 bits. -/
def IntRange.unsigned32 : IntRange := ⟨"u32", 0, UInt32.size - 1⟩

/-- Unsigned 64 bits. -/
def IntRange.unsigned64 : IntRange := ⟨"u64", 0, UInt64.size - 1⟩

/-- The size of things in memory, which has 64 bits. -/
def IntRange.size : IntRange := ⟨"usize", 0, UInt64.size - 1⟩

/-- An integer within the bounds of a type. -/
def asIntIn (r : IntRange) (v : Value) : Except TypeError Int :=
  match v.asInt with
  | .error e => .error e
  | .ok i =>
    if r.low ≤ i.toInt ∧ i.toInt ≤ r.high then .ok i.toInt
    else .error ⟨r.name, "out-of-range integer"⟩

/-- A double; an integer counts as the nearest one. -/
def asFloat : Value → Except TypeError Binary64
  | float x => .ok x
  | int i => .ok (.ofInt i.toInt)
  | v => .error (mismatch "float" v)

/-- A truth value; the integers 0 and 1 stand in for one. -/
def asBool : Value → Except TypeError Bool
  | bool b => .ok b
  | int i =>
    if i = 0 then .ok false else if i = 1 then .ok true else .error (mismatch "bool" (int i))
  | v => .error (mismatch "bool" v)

/-- A text; bytes that are well-formed UTF-8 count as one. -/
def asText : Value → Except TypeError String
  | text s => .ok s
  | bytes b =>
    match decodeUtf8 b with
    | .ok cs => .ok (String.ofList cs)
    | .error _ => .error ⟨"text", "non-utf8 bytes"⟩
  | v => .error (mismatch "text" v)

/-- Bytes; a text counts as its UTF-8 form. -/
def asBytes : Value → Except TypeError (List UInt8)
  | bytes b => .ok b
  | text s => .ok (utf8 s.toList)
  | v => .error (mismatch "bytes" v)

/-- A value that may be missing. -/
def asOptional {α : Type} (read : Value → Except TypeError α) (v : Value) :
    Except TypeError (Option α) :=
  if v.isNull then .ok none else (read v).map some

end Value

end DataAccess.Sql
