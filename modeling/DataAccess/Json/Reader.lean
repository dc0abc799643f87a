import DataAccess.Json.Basic
import DataAccess.Number.Decimal
import DataAccess.Number.Hex

/-!
# Reading JSON text

`Json.read` reads one JSON value that fills a whole text. A numeral without a fraction or an
exponent that fits in one word is an integer; any other is the nearest double. A repeated key keeps
its last value.
-/

namespace DataAccess.Json

open Number

/-- The blanks of the format. -/
def isSpace (c : Char) : Bool := c == ' ' || c == '\t' || c == '\n' || c == '\r'

/-- Drop leading blanks. -/
def skipSpace (cs : List Char) : List Char := cs.dropWhile isSpace

/-- Four hexadecimal digits. -/
def hexUnit? : List Char → Option (Nat × List Char)
  | a :: b :: c :: d :: rest => do
    let a ← hexValue? a
    let b ← hexValue? b
    let c ← hexValue? c
    let d ← hexValue? d
    some (((a * 16 + b) * 16 + c) * 16 + d, rest)
  | _ => none

/-- The character of an escape whose introducing letters are read; a high surrogate takes the low
one after it. -/
def unicodeEscape? (cs : List Char) : Option (Char × List Char) :=
  match hexUnit? cs with
  | none => none
  | some (high, rest) =>
    if 0xD800 ≤ high ∧ high < 0xDC00 then
      match rest with
      | '\\' :: 'u' :: more =>
        match hexUnit? more with
        | some (low, rest) =>
          if 0xDC00 ≤ low ∧ low < 0xE000 then
            some (Char.ofNat (0x10000 + (high - 0xD800) * 0x400 + (low - 0xDC00)), rest)
          else none
        | none => none
      | _ => none
    else if 0xDC00 ≤ high ∧ high < 0xE000 then none
    else some (Char.ofNat high, rest)

/-- The character that an escape letter stands for. -/
def letterEscape? : Char → Option Char
  | '"' => some '"'
  | '\\' => some '\\'
  | '/' => some '/'
  | 'b' => some '\x08'
  | 'f' => some '\x0c'
  | 'n' => some '\n'
  | 'r' => some '\r'
  | 't' => some '\t'
  | _ => none

/-- The rest of a string, after its opening quote. The first argument bounds the steps. -/
def stringBody? : Nat → List Char → List Char → Option (String × List Char)
  | 0, _, _ => none
  | _ + 1, _, [] => none
  | fuel + 1, acc, c :: rest =>
    if c == '"' then some (String.ofList acc.reverse, rest)
    else if c == '\\' then
      match rest with
      | 'u' :: more =>
        match unicodeEscape? more with
        | some (u, rest) => stringBody? fuel (u :: acc) rest
        | none => none
      | e :: more =>
        match letterEscape? e with
        | some u => stringBody? fuel (u :: acc) more
        | none => none
      | [] => none
    else stringBody? fuel (c :: acc) rest

/-- The digits after a decimal point, none when there is no point. -/
def fractionRun : List Char → Option (List Char) × List Char
  | '.' :: rest => (some (rest.takeWhile isDigit), rest.dropWhile isDigit)
  | cs => (none, cs)

/-- The exponent after its letter, with its sign. -/
def exponentRun? : List Char → Option (Option Int × List Char)
  | c :: rest =>
    if c == 'e' || c == 'E' then
      let (negative, body) := match rest with
        | '-' :: r => (true, r)
        | '+' :: r => (false, r)
        | r => (false, r)
      match body.takeWhile isDigit with
      | [] => none
      | ds =>
        let n : Int := natOfDigits ds
        some (some (if negative then -n else n), body.dropWhile isDigit)
    else some (none, c :: rest)
  | [] => some (none, [])

/-- Whether an integer fits in one signed or unsigned word. -/
def fitsWord (i : Int) : Bool := Int64.minValue.toInt ≤ i && i < UInt64.size

/-- A number at the start of a text. -/
def numeral? (cs : List Char) : Option (Json × List Char) :=
  let (negative, body) := match cs with
    | '-' :: r => (true, r)
    | r => (false, r)
  match body.takeWhile isDigit with
  | [] => none
  | whole =>
    let (fraction, rest) := fractionRun (body.dropWhile isDigit)
    match exponentRun? rest with
    | none => none
    | some (exponent, rest) =>
      let digits := natOfDigits (whole ++ fraction.getD [])
      let value : Int := if negative then -digits else digits
      if fraction.isNone && exponent.isNone && fitsWord value then some (.integer value, rest)
      else
        let places := ((fraction.getD []).length : Int)
        some (.float (.ofDecimal ⟨negative, digits, exponent.getD 0 - places⟩), rest)

mutual

/-- A value at the start of a text. The first argument bounds the steps. -/
def value? : Nat → List Char → Option (Json × List Char)
  | 0, _ => none
  | fuel + 1, cs =>
    match skipSpace cs with
    | '"' :: rest => (stringBody? rest.length.succ [] rest).map fun r => (.text r.1, r.2)
    | '[' :: rest =>
      match skipSpace rest with
      | ']' :: rest => some (.list [], rest)
      | rest => (items? fuel rest).map fun r => (.list r.1, r.2)
    | '\x7b' :: rest =>
      match skipSpace rest with
      | '\x7d' :: rest => some (.object [], rest)
      | rest => (members? fuel rest).map fun r => (ofMembers r.1, r.2)
    | 't' :: 'r' :: 'u' :: 'e' :: rest => some (.bool true, rest)
    | 'f' :: 'a' :: 'l' :: 's' :: 'e' :: rest => some (.bool false, rest)
    | 'n' :: 'u' :: 'l' :: 'l' :: rest => some (.null, rest)
    | rest => numeral? rest

/-- The items of a list, after its opening bracket. -/
def items? : Nat → List Char → Option (List Json × List Char)
  | 0, _ => none
  | fuel + 1, cs =>
    match value? fuel cs with
    | none => none
    | some (v, rest) =>
      match skipSpace rest with
      | ',' :: rest => (items? fuel rest).map fun r => (v :: r.1, r.2)
      | ']' :: rest => some ([v], rest)
      | _ => none

/-- The members of an object, after its opening brace. -/
def members? : Nat → List Char → Option (List (String × Json) × List Char)
  | 0, _ => none
  | fuel + 1, cs =>
    match skipSpace cs with
    | '"' :: rest =>
      match stringBody? rest.length.succ [] rest with
      | none => none
      | some (key, rest) =>
        match skipSpace rest with
        | ':' :: rest =>
          match value? fuel rest with
          | none => none
          | some (v, rest) =>
            match skipSpace rest with
            | ',' :: rest => (members? fuel rest).map fun r => ((key, v) :: r.1, r.2)
            | '\x7d' :: rest => some ([(key, v)], rest)
            | _ => none
        | _ => none
    | _ => none

end

/-- The value that a text holds, if it holds exactly one. -/
def read (s : String) : Option Json :=
  let cs := s.toList
  match value? (2 * cs.length + 2) cs with
  | some (v, rest) => if (skipSpace rest).isEmpty then some v else none
  | none => none

end DataAccess.Json
