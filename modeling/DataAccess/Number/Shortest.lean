import DataAccess.Number.Decimal

/-!
# The shortest decimal that reads back

A double is written with the fewest significant digits that still denote it: that lie in the
interval of reals which round to it. Among the numerals of that many digits the nearest one is
taken; the format says which neighbour wins an exact tie.
-/

namespace DataAccess.Number

/-- Which of two equally near numerals is written. -/
inductive Tie where
  | even
  | up
deriving DecidableEq

/-- The significant digits of a positive magnitude and the place of its decimal point: the value is
`0.d₁d₂…` times `10 ^ point`. -/
structure Digits where
  digits : Nat
  point : Int

/-- A positive rational, `num / den`. -/
structure Fraction where
  num : Nat
  den : Nat

/-- `num / den` times `10 ^ e`. -/
def Fraction.scale (q : Fraction) (e : Int) : Fraction :=
  if 0 ≤ e then ⟨q.num * Nat.pow 10 e.toNat, q.den⟩ else ⟨q.num, q.den * Nat.pow 10 (-e).toNat⟩

/-- The place of the decimal point of a positive fraction: the least `p` with a value below
`10 ^ p`. -/
def Fraction.point (q : Fraction) : Int :=
  if q.den ≤ q.num then digitCount (q.num / q.den)
  else 1 - (digitCount ((q.den + q.num - 1) / q.num - 1) : Int)

/-- The reals that round to the magnitude with this ordinal, as bounds in half units, and whether
the bounds belong to them. -/
structure Interval where
  low : Nat
  high : Nat
  closed : Bool

/-- The interval of an ordinal reaches half way to its neighbours, ends included for even ones. -/
def Interval.ofOrdinal (k : Nat) : Interval :=
  { low := magnitude (k - 1) + magnitude k
    high := magnitude k + magnitude (k + 1)
    closed := k % 2 = 0 }

/-- Whether `d * 10 ^ e` ones lie in the interval. -/
def Interval.contains (i : Interval) (d : Nat) (e : Int) : Bool :=
  let q := Fraction.scale ⟨d * (2 * Binary64.unitsPerOne), 1⟩ e
  if i.closed then i.low * q.den ≤ q.num && q.num ≤ i.high * q.den
  else i.low * q.den < q.num && q.num < i.high * q.den

/-- The numeral of the grid `10 ^ e` that is nearest to `value`, of those in the interval. -/
def candidate (tie : Tie) (i : Interval) (value : Fraction) (e : Int) : Option Nat :=
  let q := value.scale (-e)
  let d := q.num / q.den
  let r := q.num % q.den
  let nearUp := q.den < 2 * r ||
    (q.den == 2 * r && (match tie with | .up => true | .even => d % 2 == 1))
  match i.contains d e, i.contains (d + 1) e with
  | true, true => some (if nearUp then d + 1 else d)
  | true, false => some d
  | false, true => some (d + 1)
  | false, false => none

/-- Try grids of `n`, `n + 1`, … significant digits; the last is taken as it comes. -/
def search (tie : Tie) (i : Interval) (value : Fraction) (point : Int) :
    Nat → Nat → Nat × Int
  | 0, n => ((value.scale (n - point)).num / (value.scale (n - point)).den, point - n)
  | tries + 1, n =>
    match candidate tie i value (point - n) with
    | some d => (d, point - n)
    | none => search tie i value point tries (n + 1)

/-- A natural without the zeros at its end. -/
def stripZeros : Nat → Nat → Nat
  | 0, n => n
  | fuel + 1, n => if n ≠ 0 ∧ n % 10 = 0 then stripZeros fuel (n / 10) else n

/-- The shortest digits of the magnitude with a positive ordinal. -/
def shortest (tie : Tie) (ordinal : Nat) : Digits :=
  let value : Fraction := ⟨magnitude ordinal, Binary64.unitsPerOne⟩
  let (d, e) := search tie (Interval.ofOrdinal ordinal) value value.point 17 1
  let count := digitCount d
  ⟨stripZeros count d, e + count⟩

end DataAccess.Number
