import DataAccess.Number.Decimal

/-!
# Double-precision literals

A literal fills its text: an optional sign, and then a name in any case, or digits with at most one
point and an optional exponent.
-/

namespace DataAccess.Number

/-- Read an exponent; no text is the exponent zero. -/
def readExponent? : List Char → Option Int
  | [] => some 0
  | e :: rest =>
    if e = 'e' ∨ e = 'E' then
      match rest with
      | '-' :: ds => (readNat? ds).map fun n => -(n : Int)
      | '+' :: ds => (readNat? ds).map fun n => (n : Int)
      | ds => (readNat? ds).map fun n => (n : Int)
    else none

/-- The digits after a point, if there is one, and what follows them. -/
def readFraction : List Char → List Char × List Char
  | '.' :: rest => (rest.takeWhile isDigit, rest.dropWhile isDigit)
  | rest => ([], rest)

/-- Read digits with at most one point before, among or after them, and an exponent. -/
def readDecimal? (negative : Bool) (cs : List Char) : Option Decimal :=
  let whole := cs.takeWhile isDigit
  let (fraction, after) := readFraction (cs.dropWhile isDigit)
  if whole.isEmpty && fraction.isEmpty then none
  else
    (readExponent? after).map fun e =>
      { negative, digits := natOfDigits (whole ++ fraction), exponent := e - fraction.length }

/-- Read a literal after its sign. -/
def readMagnitude? (negative : Bool) (cs : List Char) : Option Binary64 :=
  let name := cs.map Char.toLower
  if name = ['i', 'n', 'f'] ∨ name = ['i', 'n', 'f', 'i', 'n', 'i', 't', 'y'] then
    some (.infinity negative)
  else if name = ['n', 'a', 'n'] then some .nan
  else (readDecimal? negative cs).map .ofDecimal

/-- Read a literal. -/
def Binary64.ofText? : List Char → Option Binary64
  | '-' :: rest => readMagnitude? true rest
  | '+' :: rest => readMagnitude? false rest
  | cs => readMagnitude? false cs

end DataAccess.Number
