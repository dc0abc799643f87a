import DataAccess.Number.Literal
import DataAccess.Number.Shortest
import DataAccess.Sql.Value

/-!
# Stored values

How values are ordered, and how a column's affinity changes what is stored in it. Numbers come
before texts and texts before bytes; a missing value comes first and equals nothing.
-/

namespace DataAccess.Sqlite

open Number Sql

/-! ### Order -/

/-- The order of an integer and a double, as numbers. -/
def compareMixed (i : Int) (x : Binary64) : Ordering :=
  match x with
  | .infinity negative => if negative then .gt else .lt
  | .nan => .gt
  | x => compare (i * Binary64.unitsPerOne) (x.units?.getD 0)

/-- The order of two doubles. -/
def compareFloats (x y : Binary64) : Ordering :=
  if Binary64.lt x y then .lt else if Binary64.lt y x then .gt else .eq

/-- The place of a value's class in the order. -/
def classRank : Value → Nat
  | .null => 0
  | .bool _ | .int _ | .float _ => 1
  | .text _ => 2
  | .bytes _ => 3

/-- The order of bytes. -/
def compareBytes : List UInt8 → List UInt8 → Ordering
  | [], [] => .eq
  | [], _ :: _ => .lt
  | _ :: _, [] => .gt
  | a :: as, b :: bs => (compare a.toNat b.toNat).then (compareBytes as bs)

/-- The order of values. Texts are ordered by their bytes. -/
def compareValues (v w : Value) : Ordering :=
  match v, w with
  | .int i, .int j => compare i.toInt j.toInt
  | .int i, .float y => compareMixed i.toInt y
  | .float x, .int j => (compareMixed j.toInt x).swap
  | .float x, .float y => compareFloats x y
  | .text s, .text t => compareBytes (Text.utf8 s.toList) (Text.utf8 t.toList)
  | .bytes a, .bytes b => compareBytes a b
  | v, w => compare (classRank v) (classRank w)

/-! ### Numbers in texts -/

/-- An integer of 64 bits, if it is one. -/
def int64? (i : Int) : Option Int64 :=
  if Int64.minValue.toInt ≤ i ∧ i ≤ Int64.maxValue.toInt then some (Int64.ofInt i) else none

/-- An integer, or the nearest double if it has no place in 64 bits. -/
def integerValue (i : Int) : Value :=
  match int64? i with
  | some n => .int n
  | none => .float (.ofInt i)

/-- Read a number without a sign: an integer if there is neither point nor exponent. -/
def readUnsigned? (negative : Bool) (cs : List Char) : Option Value :=
  let whole := cs.takeWhile isDigit
  let rest := cs.dropWhile isDigit
  let signed (n : Nat) : Int := if negative then -(n : Int) else n
  match rest with
  | [] => if whole.isEmpty then none else some (integerValue (signed (natOfDigits whole)))
  | _ =>
    let fraction := match rest with
      | '.' :: more => more.takeWhile isDigit
      | _ => []
    let after := match rest with
      | '.' :: more => more.dropWhile isDigit
      | _ => rest
    if whole.isEmpty ∧ fraction.isEmpty then none
    else
      match readExponent? after with
      | none => none
      | some e => some (.float (.ofDecimal
          { negative, digits := natOfDigits (whole ++ fraction), exponent := e - fraction.length }))

/-- The blanks around numbers in texts. -/
def isNumberSpace (c : Char) : Bool :=
  c == ' ' || c == '\t' || c == '\n' || c == '\r' || c == '\x0b' || c == '\x0c'

/-- Read a text that is a number as a whole, with blanks around it. -/
def readNumber? (s : String) : Option Value :=
  let cs := ((s.toList.dropWhile isNumberSpace).reverse.dropWhile isNumberSpace).reverse
  match cs with
  | '-' :: rest => readUnsigned? true rest
  | '+' :: rest => readUnsigned? false rest
  | cs => readUnsigned? false cs

/-! ### Doubles as texts -/

/-- The number of significant digits of a double as a text. -/
def significantDigits : Nat := 15

/-- The significant digits of a positive number, and the place of its point. A half goes up. -/
def roundedDigits (q : Fraction) : Nat × Int :=
  let point := q.point
  let scaled := q.scale (significantDigits - point)
  let digits := (2 * scaled.num + scaled.den) / (2 * scaled.den)
  if digitCount digits ≤ significantDigits then (digits, point) else (digits / 10, point + 1)

/-- Digits without zeros at the end, except for the first one. -/
def trimZeros (ds : List Char) : List Char :=
  match (ds.reverse.dropWhile (· == '0')).reverse with
  | [] => ['0']
  | ds => ds

/-- Digits with a point after the first `n` of them, and at least one digit after it. -/
def pointed (ds : List Char) (n : Nat) : List Char :=
  let padded := ds ++ List.replicate (n + 1 - ds.length) '0'
  padded.take n ++ '.' :: padded.drop n

/-- The text of a positive number: positional from `10 ^ -4` up to `10 ^ 15`, else with an exponent
of two digits or more. -/
def magnitudeText (q : Fraction) : List Char :=
  let (digits, point) := roundedDigits q
  let ds := trimZeros (natText digits)
  let e := point - 1
  if -4 ≤ e ∧ e < significantDigits then
    if point ≤ 0 then '0' :: '.' :: (List.replicate (-point).toNat '0' ++ ds)
    else pointed ds point.toNat
  else
    let exponent := natText e.natAbs
    pointed ds 1 ++ 'e' :: (if e < 0 then '-' else '+') ::
      (List.replicate (2 - exponent.length) '0' ++ exponent)

/-- A double as a text. -/
def floatText : Binary64 → String
  | .nan => ""
  | .infinity negative => if negative then "-Inf" else "Inf"
  | .finite negative k =>
    if k.val = 0 then "0.0"
    else String.ofList ((if negative then ['-'] else []) ++
      magnitudeText ⟨magnitude k.val, Binary64.unitsPerOne⟩)

/-! ### Affinities -/

/-- What a column would like to store. -/
inductive Affinity where
  | integer
  | real
  | numeric
  | text
  | blob
deriving DecidableEq

/-- Whether a text stands somewhere in another one. -/
def standsIn (part : List Char) : List Char → Bool
  | [] => part.isEmpty
  | c :: rest => part.isPrefixOf (c :: rest) || standsIn part rest

/-- The affinity of a declared type. The first rule that fits counts. -/
def Affinity.ofType (type : List Char) : Affinity :=
  let t := type.map Char.toUpper
  let holds (part : String) : Bool := standsIn part.toList t
  if holds "INT" then integer
  else if holds "CHAR" || holds "CLOB" || holds "TEXT" then text
  else if holds "BLOB" || t.isEmpty then blob
  else if holds "REAL" || holds "FLOA" || holds "DOUB" then real
  else numeric

/-- Whether the affinity is for numbers. -/
def Affinity.isNumeric : Affinity → Bool
  | integer | real | numeric => true
  | text | blob => false

/-- A double that is an integer of 64 bits, apart from the two at the ends, as that integer. -/
def wholeFloat (x : Binary64) : Value :=
  match x.toInt? with
  | some i =>
    if Int64.minValue.toInt < i ∧ i < Int64.maxValue.toInt then .int (Int64.ofInt i) else .float x
  | none => .float x

/-- A number in place of a text that is one. -/
def toNumber : Value → Value
  | .text s =>
    match readNumber? s with
    | some (.float x) => wholeFloat x
    | some v => v
    | none => .text s
  | v => v

/-- A text in place of a number. -/
def toText : Value → Value
  | .int i => .text (String.ofList (intText i.toInt))
  | .float x => .text (floatText x)
  | v => v

/-- What a column of an affinity stores for a value. -/
def Affinity.apply : Affinity → Value → Value
  | blob, v => v
  | text, v => toText v
  | integer, v | numeric, v =>
    match toNumber v with
    | .float x => wholeFloat x
    | v => v
  | real, v =>
    match toNumber v with
    | .int i => .float (.ofInt i.toInt)
    | v => v

end DataAccess.Sqlite
